import GemEmulation.Ansible.Vxlan

/-!
# The subnet of a secondary network

The prefix lengths that the hosts and the Network resource derive from a
declared subnet, and whether the hosts' addresses lie in it.
-/

namespace GemEmulation.Ansible

open Foundations Net Api

/-- Every party takes the declared prefix length, and when the last octet
belongs to the host every host's address is in the subnet.  `read` is how a
host's network service reads the text after the slash. -/
structure AgreesOnSubnet (read : String → Option Nat) (net : SecondaryNetworkConfig)
    (network : IPv4Network) : Prop where
  hosts : ∀ host, configuredPrefix read net host = some network.prefixlen
  resource : prefixLength4 net = network.prefixlen
  addresses : network.prefixlen ≤ 24 →
    ∀ host, ∃ address, hostAddress net host = some address ∧ network.Contains address

def ReadsDecimal (read : String → Option Nat) : Prop :=
  ∀ prefixlen ≤ 32, read (toString prefixlen) = some prefixlen

/-- The declared subnet is written with the prefix length 24 and the gateway
lies in it. -/
structure WrittenAs24 (read : String → Option Nat) (net : SecondaryNetworkConfig)
    (network : IPv4Network) (gateway : IPv4) : Prop where
  decimal : Python.isDecimal (lastPart net.subnet '/') = true
  value : Text.natural (lastPart net.subnet '/').toList = 24
  readable : read (lastPart net.subnet '/') = some 24
  gateway : network.Contains gateway

section Accepted

variable {read : String → Option Nat} (decimal : ReadsDecimal read)
  {net : SecondaryNetworkConfig} {network : IPv4Network} {gateway : IPv4}
  (subnetParsed : IPv4Network.parse net.subnet = some network)
  (gatewayParsed : Ipaddress.parseAddress net.gateway = some gateway)

include subnetParsed in
theorem node_inside (short : network.prefixlen ≤ 24) {host : Host}
    (notRouter : host ≠ .edgeRouterHost) :
    ∃ address, hostAddress net host = some address ∧ network.Contains address := by
  obtain ⟨a, b, c, d, aSmall, bSmall, cSmall, dSmall, address, parses⟩ :=
    subnet_octets subnetParsed
  refine ⟨ofOctets a b c host.octet, ?_, ?_⟩
  · rw [(node_definition subnetParsed host notRouter fun _ => none).1,
      parses _ (parseOctet_host host)]
  · exact IPv4Network.contains_ofOctets short address aSmall bSmall cSmall dSmall
      (Ipaddress.parseOctet_some (parseOctet_host host)).2

include decimal subnetParsed gatewayParsed

theorem AgreesOnSubnet.written (agrees : AgreesOnSubnet read net network) :
    WrittenAs24 read net network gateway := by
  have length : network.prefixlen = 24 := by
    have node := (node_definition subnetParsed .node1 (by decide) read).2
    rw [agrees.hosts, show "24" = toString 24 from rfl, decimal 24 (by decide)] at node
    exact Option.some.inj node
  have router := router_definition subnetParsed gatewayParsed read
  have resource := agrees.resource
  rw [length, prefixLength4, intFilter] at resource
  split at resource
  next digits =>
    refine ⟨digits, resource, ?_, ?_⟩
    · rw [← router.2, agrees.hosts, length]
    · obtain ⟨address, assigned, inside⟩ := agrees.addresses length.le .edgeRouterHost
      rw [router.1] at assigned
      cases assigned
      exact inside
  next => cases resource

theorem WrittenAs24.agrees (written : WrittenAs24 read net network gateway) :
    AgreesOnSubnet read net network := by
  have length : network.prefixlen = 24 := by
    rw [← (lastPart_subnet subnetParsed).2 written.decimal, written.value]
  have router := router_definition subnetParsed gatewayParsed read
  refine ⟨?_, ?_, ?_⟩
  · intro host
    rw [length]
    by_cases isRouter : host = .edgeRouterHost
    · rw [isRouter, router.2, written.readable]
    · rw [(node_definition subnetParsed host isRouter read).2]
      exact decimal 24 (by decide)
  · rw [prefixLength4, intFilter, if_pos written.decimal, written.value, length]
  · intro short host
    by_cases isRouter : host = .edgeRouterHost
    · exact ⟨gateway, by rw [isRouter, router.1], written.gateway⟩
    · exact node_inside subnetParsed short isRouter

end Accepted

/-- All parties agree exactly on the subnets written with a decimal 24 whose
gateway is inside. -/
theorem agreesOnSubnet_iff {read : String → Option Nat} (decimal : ReadsDecimal read)
    {raw : SecondaryNetworkFields} {net : SecondaryNetworkConfig}
    (accepted : SecondaryNetworkConfig.validate raw = .valid net) :
    ∃ network gateway, IPv4Network.parse net.subnet = some network ∧
      Ipaddress.parseAddress net.gateway = some gateway ∧
        (AgreesOnSubnet read net network ↔ WrittenAs24 read net network gateway) := by
  have valid := SecondaryNetworkConfig.validate_valid accepted
  obtain ⟨network, subnetParsed⟩ := Option.isSome_iff_exists.mp valid.subnet_parses
  obtain ⟨gateway, gatewayParsed⟩ := Option.isSome_iff_exists.mp valid.gateway_parses
  exact ⟨network, gateway, subnetParsed, gatewayParsed,
    fun agrees => agrees.written decimal subnetParsed gatewayParsed,
    fun written => written.agrees decimal subnetParsed gatewayParsed⟩

def readDecimal (text : String) : Option Nat :=
  if Python.isDecimal text then some (Text.natural text.toList) else none

theorem readDecimal_decimal : ReadsDecimal readDecimal := by
  intro prefixlen bound
  interval_cases prefixlen <;> decide

def wideNetwork : SecondaryNetworkFields where
  name := "vlan-123"
  vlanId := 123
  subnet := "172.16.0.0/16"
  gateway := "172.16.0.1"
  vipPool := "172.16.12.200-172.16.12.250"

theorem wideNetwork_disagrees :
    ReadsDecimal readDecimal ∧
      ∃ net network, SecondaryNetworkConfig.validate wideNetwork = .valid net ∧
        IPv4Network.parse net.subnet = some network ∧ ¬ AgreesOnSubnet readDecimal net network := by
  refine ⟨readDecimal_decimal, ⟨"vlan-123", 123, "172.16.0.0/16", "172.16.0.1",
    "172.16.12.200-172.16.12.250", "10.12.0.0/22", 24⟩, ⟨ofOctets 172 16 0 0, 16, by decide⟩,
    by decide, by decide, ?_⟩
  intro agrees
  have node := agrees.hosts .node1
  exact absurd node (by decide)

theorem agreesOnSubnet_wideNetwork :
    ∃ net, SecondaryNetworkConfig.validate wideNetwork = .valid net ∧
      ∃ network gateway, IPv4Network.parse net.subnet = some network ∧
        Ipaddress.parseAddress net.gateway = some gateway ∧
          (AgreesOnSubnet readDecimal net network ↔
            WrittenAs24 readDecimal net network gateway) :=
  have accepted : SecondaryNetworkConfig.validate wideNetwork =
      .valid ⟨"vlan-123", 123, "172.16.0.0/16", "172.16.0.1",
        "172.16.12.200-172.16.12.250", "10.12.0.0/22", 24⟩ := by decide
  ⟨_, accepted, agreesOnSubnet_iff readDecimal_decimal accepted⟩

end GemEmulation.Ansible
