import GemEmulation.Api.Models.Clusters

/-!
# The VXLAN role

What the inventory script computes from a cluster's name, the interface
definitions that the role builds on each host, and the prefix length that the
template of a Network resource is given.
-/

namespace GemEmulation.Ansible

open Foundations Net Api

inductive Host where
  | gemAdminWs | edgeRouterHost | node1 | node2 | node3
  deriving DecidableEq, Repr

namespace Host

def all : List Host := [.node1, .node2, .node3, .gemAdminWs, .edgeRouterHost]

/-- The variable `host_octet`. -/
def octet : Host → Nat
  | .gemAdminWs => 100
  | .edgeRouterHost => 254
  | .node1 => 2
  | .node2 => 3
  | .node3 => 4

def isShared : Host → Bool
  | .gemAdminWs | .edgeRouterHost => true
  | _ => false

end Host

/-- A cluster's name and the checksum that `cksum` computes of it. -/
structure Cluster where
  name : String
  hash : BitVec 32

namespace Cluster

def vxlanId (cluster : Cluster) : Nat := cluster.hash.toNat % 16000000 + 100

def octet3 (cluster : Cluster) : Nat := cluster.hash.toNat % 254 + 1

/-- The variable `vxlan_ip` of a host. -/
def vxlanIp (cluster : Cluster) (host : Host) : String :=
  "10.200." ++ toString cluster.octet3 ++ "." ++ toString host.octet

/-- The name without hyphens, truncated to six characters. -/
def shortName (cluster : Cluster) : String :=
  .ofList ((cluster.name.toList.filter (· ≠ '-')).take 6)

/-- The variable `vxlan_primary_iface`. -/
def primaryIface (cluster : Cluster) : String :=
  "vx-" ++ cluster.shortName ++ "-" ++ .ofList ((toString cluster.vxlanId).toList.take 4)

end Cluster

structure Definition where
  iface : String
  vni : Nat
  ipCidr : String
  deriving DecidableEq, Repr

/-- The filter `last` on the parts of a text. -/
def lastPart (text : String) (separator : Char) : String :=
  (Text.split text separator).getLastD ""

/-- The filter `int` on a text of digits; other texts that a subnet has after
its slash are no numbers and give the default. -/
def intFilter (text : String) : Nat :=
  if Python.isDecimal text then Text.natural text.toList else 0

def vxlanIface (cluster : Cluster) (host : Host) : String :=
  if host.isShared then cluster.primaryIface else "vxlan0"

def secIf (cluster : Cluster) (host : Host) (net : SecondaryNetworkConfig) : String :=
  if host.isShared then "sec-" ++ cluster.shortName ++ "-" ++ toString net.vlanId
  else "gdcenet0." ++ toString net.vlanId

/-- The first three octets of the subnet's text and the host's own octet. -/
def octetAddress (net : SecondaryNetworkConfig) (octet : Nat) : String :=
  Text.join ((Text.split net.subnet '.').take 3) "." ++ "." ++ toString octet

def secIp (host : Host) (net : SecondaryNetworkConfig) : String :=
  if host = .edgeRouterHost then net.gateway ++ "/" ++ lastPart net.subnet '/'
  else octetAddress net host.octet ++ "/24"

/-- The definition of the network at a place of the list, counted from one. -/
def secondaryDefinition (cluster : Cluster) (host : Host) (index : Nat)
    (net : SecondaryNetworkConfig) : Definition where
  iface := secIf cluster host net
  vni := cluster.vxlanId + index
  ipCidr := secIp host net

def vxlanDefinitions (cluster : Cluster) (host : Host) (networks : List SecondaryNetworkConfig) :
    List Definition :=
  { iface := vxlanIface cluster host
    vni := cluster.vxlanId
    ipCidr := cluster.vxlanIp host ++ "/24" } ::
    networks.mapIdx fun position net => secondaryDefinition cluster host (position + 1) net

/-- `prefixLength4` of the Network resource. -/
def prefixLength4 (net : SecondaryNetworkConfig) : Nat := intFilter (lastPart net.subnet '/')

def hostAddress (net : SecondaryNetworkConfig) (host : Host) : Option IPv4 :=
  Ipaddress.parseAddress ((Text.split (secIp host net) '/').headD "")

/-- The prefix length that a host's definition configures, given how the text
after the slash is read. -/
def configuredPrefix (read : String → Option Nat) (net : SecondaryNetworkConfig) (host : Host) :
    Option Nat :=
  match Text.split (secIp host net) '/' with
  | [_, mask] => read mask
  | _ => none

theorem parseOctet_host (host : Host) :
    Ipaddress.parseOctet (toString host.octet) = some host.octet := by
  cases host <;> decide

theorem octetAddress_of_take {net : SecondaryNetworkConfig} {a b c : String}
    (parts : (Text.split net.subnet '.').take 3 = [a, b, c]) (octet : Nat) :
    octetAddress net octet = Text.join [a, b, c, toString octet] "." := by
  rw [octetAddress, parts, ← String.toList_inj]
  simp [Text.join]

theorem subnet_octets {net : SecondaryNetworkConfig} {network : IPv4Network}
    (parsed : IPv4Network.parse net.subnet = some network) :
    ∃ a b c d, a < 256 ∧ b < 256 ∧ c < 256 ∧ d < 256 ∧ network.address = ofOctets a b c d ∧
      ∀ octet, Ipaddress.parseOctet (toString octet) = some octet →
        Ipaddress.parseAddress (octetAddress net octet) = some (ofOctets a b c octet) := by
  obtain ⟨written, writtenParsed, form⟩ := IPv4Network.parse_some parsed
  obtain ⟨first, second, third, fourth, a, b, c, d, parts, one, two, three, four, address⟩ :=
    Ipaddress.parseAddress_some writtenParsed
  have noDot : ∀ {text : String} {value : Nat}, Ipaddress.parseOctet text = some value →
      '.' ∉ text.toList :=
    fun octet => Ipaddress.isDecimal_absent (Ipaddress.parseOctet_some octet).1 (by decide)
  have quad := Text.join_split written '.'
  rw [parts] at quad
  obtain ⟨rest, shape⟩ : ∃ rest, net.subnet.toList = first.toList ++ '.' :: (second.toList ++
      '.' :: (third.toList ++ '.' :: rest)) := by
    have whole := Text.join_split net.subnet '/'
    rcases form with ⟨alone, -⟩ | ⟨mask, masked, -⟩
    · rw [alone] at whole
      exact ⟨fourth.toList, by simp [← whole, ← quad, Text.join]⟩
    · rw [masked] at whole
      exact ⟨fourth.toList ++ '/' :: mask.toList, by simp [← whole, ← quad, Text.join]⟩
  have leading : (Text.split net.subnet '.').take 3 = [first, second, third] := by
    rw [Text.split, shape, List.splitOn_append_cons_self_of_not_mem (noDot one),
      List.splitOn_append_cons_self_of_not_mem (noDot two),
      List.splitOn_append_cons_self_of_not_mem (noDot three)]
    simp
  refine ⟨a, b, c, d, (Ipaddress.parseOctet_some one).2, (Ipaddress.parseOctet_some two).2,
    (Ipaddress.parseOctet_some three).2, (Ipaddress.parseOctet_some four).2, address, ?_⟩
  intro octet octetParsed
  rw [octetAddress_of_take leading]
  exact Ipaddress.parseAddress_join one two three octetParsed

section Definitions

variable {net : SecondaryNetworkConfig} {network : IPv4Network} {gateway : IPv4}
  (subnetParsed : IPv4Network.parse net.subnet = some network)
  (gatewayParsed : Ipaddress.parseAddress net.gateway = some gateway)

include subnetParsed in
theorem lastPart_subnet :
    '/' ∉ (lastPart net.subnet '/').toList ∧
      (Python.isDecimal (lastPart net.subnet '/') = true →
        Text.natural (lastPart net.subnet '/').toList = network.prefixlen) := by
  obtain ⟨written, writtenParsed, form⟩ := IPv4Network.parse_some subnetParsed
  have noSlash : ∀ {text : String} {address : IPv4},
      Ipaddress.parseAddress text = some address → '/' ∉ text.toList :=
    fun parsed => Ipaddress.parseAddress_absent parsed (by decide) (by decide)
  rcases form with ⟨alone, -⟩ | ⟨mask, masked, maskParsed⟩
  · have notDecimal : Python.isDecimal written = false := by
      rw [← Bool.not_eq_true]
      intro decimal
      simp [Ipaddress.parseAddress, Text.split_eq_singleton
        (Ipaddress.isDecimal_absent decimal (by decide : Text.decimalValue '.' = none))]
        at writtenParsed
    simp [lastPart, alone, notDecimal, noSlash writtenParsed]
  · simp only [lastPart, masked, List.getLastD_cons, List.getLastD_nil]
    rcases Ipaddress.makeNetmask_some maskParsed with ⟨decimal, value⟩ | ⟨notDecimal, address⟩
    · exact ⟨Ipaddress.isDecimal_absent decimal (by decide), fun _ => value⟩
    · obtain ⟨_, addressParsed⟩ := Option.isSome_iff_exists.mp address
      exact ⟨noSlash addressParsed, by simp [notDecimal]⟩

include subnetParsed in
theorem node_definition (host : Host) (notRouter : host ≠ .edgeRouterHost)
    (read : String → Option Nat) :
    hostAddress net host = Ipaddress.parseAddress (octetAddress net host.octet) ∧
      configuredPrefix read net host = read "24" := by
  obtain ⟨a, b, c, d, -, -, -, -, -, parses⟩ := subnet_octets subnetParsed
  have parsed := parses host.octet (parseOctet_host host)
  have parts : Text.split (secIp host net) '/' = [octetAddress net host.octet, "24"] := by
    have shape : secIp host net = octetAddress net host.octet ++ "/" ++ "24" := by
      rw [secIp, if_neg notRouter, String.append_assoc]
      rfl
    rw [shape]
    have noSlash : '/' ∉ (octetAddress net host.octet).toList :=
      Ipaddress.parseAddress_absent parsed (by decide) (by decide)
    exact Ipaddress.split_slash noSlash (by decide)
  simp [hostAddress, configuredPrefix, parts]

include subnetParsed gatewayParsed in
theorem router_definition (read : String → Option Nat) :
    hostAddress net .edgeRouterHost = some gateway ∧
      configuredPrefix read net .edgeRouterHost = read (lastPart net.subnet '/') := by
  have parts : Text.split (secIp .edgeRouterHost net) '/' =
      [net.gateway, lastPart net.subnet '/'] := by
    rw [secIp, if_pos rfl]
    have noSlash : '/' ∉ net.gateway.toList :=
      Ipaddress.parseAddress_absent gatewayParsed (by decide) (by decide)
    exact Ipaddress.split_slash noSlash (lastPart_subnet subnetParsed).1
  simp [hostAddress, configuredPrefix, parts, gatewayParsed]

end Definitions

end GemEmulation.Ansible
