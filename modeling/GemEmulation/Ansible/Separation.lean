import GemEmulation.Ansible.Vxlan

/-!
# Separate interfaces

When the definitions of a cluster's hosts keep interface names, network
identifiers and addresses apart.
-/

namespace GemEmulation.Ansible

open Foundations Net Api

/-- No two definitions of a host clash, and no two hosts share an address. -/
structure Separated (cluster : Cluster) (networks : List SecondaryNetworkConfig) : Prop where
  names : ∀ host, ((vxlanDefinitions cluster host networks).map (·.iface)).Nodup
  lengths : ∀ host, ∀ entry ∈ vxlanDefinitions cluster host networks, entry.iface.length ≤ 15
  vnis : ∀ host, ((vxlanDefinitions cluster host networks).map (·.vni)).Nodup
  small : ∀ host, ∀ entry ∈ vxlanDefinitions cluster host networks, entry.vni < 2 ^ 24
  addresses : ∀ net ∈ networks, (Host.all.map (hostAddress net)).Nodup

def nodeOctets : List Nat := [2, 3, 4, 100]

/-- The VLAN identifiers differ, and no gateway is an address that a node or
the workstation gets in its network. -/
structure Disjoint (networks : List SecondaryNetworkConfig) : Prop where
  vlanIds : (networks.map (·.vlanId)).Nodup
  gateways : ∀ net ∈ networks, ∀ octet ∈ nodeOctets,
    Ipaddress.parseAddress net.gateway ≠ Ipaddress.parseAddress (octetAddress net octet)

theorem toString_vlanId {net : SecondaryNetworkConfig} (accepted : net.Accepted) :
    toString net.vlanId = net.vlanId.toNat.repr := by
  have range := accepted.vlanId_range
  rw [Int.toString_eq_repr, Int.repr_eq_if, if_pos (by omega)]

theorem vlanId_length {net : SecondaryNetworkConfig} (accepted : net.Accepted) :
    (toString net.vlanId).length ≤ 4 := by
  have range := accepted.vlanId_range
  rw [toString_vlanId accepted, Nat.length_repr_le_iff (by decide)]
  omega

theorem shortName_length (cluster : Cluster) : cluster.shortName.length ≤ 6 := by
  rw [Cluster.shortName, String.length_ofList, List.length_take]
  exact min_le_left _ _

theorem primaryIface_length (cluster : Cluster) : cluster.primaryIface.length ≤ 15 := by
  have short := shortName_length cluster
  have digits : (List.take 4 (toString cluster.vxlanId).toList).length ≤ 4 := by
    rw [List.length_take]
    exact min_le_left _ _
  simp only [Cluster.primaryIface, String.length_append, String.length_ofList] at digits ⊢
  have fixed : "vx-".length = 3 ∧ "-".length = 1 := by decide
  omega

theorem secIf_length (cluster : Cluster) (host : Host) {net : SecondaryNetworkConfig}
    (accepted : net.Accepted) : (secIf cluster host net).length ≤ 15 := by
  have short := shortName_length cluster
  have digits := vlanId_length accepted
  have fixed : "sec-".length = 4 ∧ "-".length = 1 ∧ "gdcenet0.".length = 9 := by decide
  unfold secIf
  split
  next =>
    simp only [String.length_append]
    omega
  next =>
    simp only [String.length_append]
    omega

/-- A host's interface for a network is named by the network's VLAN identifier. -/
theorem secIf_inj (cluster : Cluster) (host : Host) {net other : SecondaryNetworkConfig}
    (accepted : net.Accepted) (otherAccepted : other.Accepted) :
    secIf cluster host net = secIf cluster host other ↔ net.vlanId = other.vlanId := by
  have range := accepted.vlanId_range
  have otherRange := otherAccepted.vlanId_range
  have texts : secIf cluster host net = secIf cluster host other ↔
      toString net.vlanId = toString other.vlanId := by
    unfold secIf
    split <;> simp
  rw [texts, toString_vlanId accepted, toString_vlanId otherAccepted, Text.repr_injective.eq_iff]
  omega

theorem secIf_ne_primary (cluster : Cluster) (host : Host) (net : SecondaryNetworkConfig) :
    secIf cluster host net ≠ vxlanIface cluster host := by
  intro equality
  have letters := congrArg String.toList equality
  unfold secIf vxlanIface at letters
  split at letters
  next => simp [Cluster.primaryIface] at letters
  next => simp at letters

theorem map_iface (cluster : Cluster) (host : Host) (networks : List SecondaryNetworkConfig) :
    (vxlanDefinitions cluster host networks).map (·.iface) =
      vxlanIface cluster host :: networks.map (secIf cluster host) := by
  simp only [vxlanDefinitions, List.map_cons]
  congr 1
  apply List.ext_getElem
  · simp
  · intro position inFirst inSecond
    simp [secondaryDefinition]

theorem map_vni (cluster : Cluster) (host : Host) (networks : List SecondaryNetworkConfig) :
    (vxlanDefinitions cluster host networks).map (·.vni) =
      (List.range (networks.length + 1)).map fun position => cluster.vxlanId + position := by
  apply List.ext_getElem
  · simp [vxlanDefinitions]
  · intro position inFirst inSecond
    cases position with
    | zero => simp [vxlanDefinitions]
    | succ position => simp [vxlanDefinitions, secondaryDefinition]

theorem mem_vxlanDefinitions {cluster : Cluster} {host : Host}
    {networks : List SecondaryNetworkConfig} {entry : Definition}
    (member : entry ∈ vxlanDefinitions cluster host networks) :
    (entry.iface = vxlanIface cluster host ∨
        ∃ net ∈ networks, entry.iface = secIf cluster host net) ∧
      ∃ position ≤ networks.length, entry.vni = cluster.vxlanId + position := by
  have iface := List.mem_map_of_mem (f := (·.iface)) member
  have vni := List.mem_map_of_mem (f := (·.vni)) member
  rw [map_iface] at iface
  rw [map_vni] at vni
  constructor
  · rcases List.mem_cons.mp iface with primary | secondary
    · exact .inl primary
    · obtain ⟨net, listed, equality⟩ := List.mem_map.mp secondary
      exact .inr ⟨net, listed, equality.symm⟩
  · obtain ⟨position, inRange, equality⟩ := List.mem_map.mp vni
    exact ⟨position, by simpa using Nat.lt_succ_iff.mp (List.mem_range.mp inRange), equality.symm⟩

section Accepted

variable {cluster : Cluster} {networks : List SecondaryNetworkConfig}
  (accepted : ∀ net ∈ networks, net.Accepted)
include accepted

theorem names_nodup (host : Host) :
    ((vxlanDefinitions cluster host networks).map (·.iface)).Nodup ↔
      (networks.map (·.vlanId)).Nodup := by
  have absent : vxlanIface cluster host ∉ networks.map (secIf cluster host) := by
    intro member
    obtain ⟨net, -, equality⟩ := List.mem_map.mp member
    exact secIf_ne_primary cluster host net equality
  rw [map_iface, List.nodup_cons]
  simp only [absent, not_false_eq_true, true_and]
  simp only [List.Nodup, List.pairwise_map]
  exact List.Pairwise.iff_of_mem fun {net other} netMember otherMember =>
    not_congr (secIf_inj cluster host (accepted net netMember) (accepted other otherMember))

theorem interface_lengths (host : Host) :
    ∀ entry ∈ vxlanDefinitions cluster host networks, entry.iface.length ≤ 15 := by
  intro entry member
  rcases (mem_vxlanDefinitions member).1 with primary | ⟨net, listed, equality⟩
  · rw [primary, vxlanIface]
    split
    next => exact primaryIface_length cluster
    next => decide
  · rw [equality]
    exact secIf_length cluster host (accepted net listed)

omit accepted in
theorem vnis_nodup (host : Host) :
    ((vxlanDefinitions cluster host networks).map (·.vni)).Nodup := by
  rw [map_vni]
  exact List.nodup_range.map fun first second equality => by simpa using equality

omit accepted in
theorem vni_lt (few : networks.length ≤ 4094) (host : Host) :
    ∀ entry ∈ vxlanDefinitions cluster host networks, entry.vni < 2 ^ 24 := by
  intro entry member
  obtain ⟨position, bound, equality⟩ := (mem_vxlanDefinitions member).2
  rw [equality, Cluster.vxlanId]
  have primary : cluster.hash.toNat % 16000000 < 16000000 := Nat.mod_lt _ (by decide)
  omega

end Accepted

theorem map_hostAddress {net : SecondaryNetworkConfig} {network : IPv4Network} {gateway : IPv4}
    (subnetParsed : IPv4Network.parse net.subnet = some network)
    (gatewayParsed : Ipaddress.parseAddress net.gateway = some gateway) :
    Host.all.map (hostAddress net) =
      nodeOctets.map (fun octet => Ipaddress.parseAddress (octetAddress net octet)) ++
        [Ipaddress.parseAddress net.gateway] := by
  have node : ∀ host, host ≠ .edgeRouterHost → hostAddress net host =
      Ipaddress.parseAddress (octetAddress net host.octet) :=
    fun host notRouter => (node_definition subnetParsed host notRouter fun _ => none).1
  have router := (router_definition subnetParsed gatewayParsed fun _ => none).1
  simp only [Host.all, nodeOctets, List.map_cons, List.map_nil, router, gatewayParsed,
    node .node1 (by decide), node .node2 (by decide), node .node3 (by decide),
    node .gemAdminWs (by decide), Host.octet]
  rfl

theorem parseOctet_node : ∀ octet ∈ nodeOctets,
    Ipaddress.parseOctet (toString octet) = some octet := by
  decide

theorem nodeAddresses_nodup {net : SecondaryNetworkConfig} {network : IPv4Network}
    (subnetParsed : IPv4Network.parse net.subnet = some network) :
    (nodeOctets.map fun octet => Ipaddress.parseAddress (octetAddress net octet)).Nodup := by
  obtain ⟨a, b, c, d, aSmall, bSmall, cSmall, dSmall, -, parses⟩ := subnet_octets subnetParsed
  refine List.Nodup.map_on ?_ (by decide)
  intro first firstMember second secondMember equality
  have firstParsed := parseOctet_node first firstMember
  have secondParsed := parseOctet_node second secondMember
  rw [parses first firstParsed, parses second secondParsed, Option.some.injEq] at equality
  have values := congrArg BitVec.toNat equality
  have firstSmall := (Ipaddress.parseOctet_some firstParsed).2
  have secondSmall := (Ipaddress.parseOctet_some secondParsed).2
  simp only [ofOctets, BitVec.toNat_ofNat] at values
  omega

theorem addresses_nodup {net : SecondaryNetworkConfig} (accepted : net.Accepted) :
    (Host.all.map (hostAddress net)).Nodup ↔
      ∀ octet ∈ nodeOctets,
        Ipaddress.parseAddress net.gateway ≠ Ipaddress.parseAddress (octetAddress net octet) := by
  obtain ⟨network, subnetParsed⟩ := Option.isSome_iff_exists.mp accepted.subnet_parses
  obtain ⟨gateway, gatewayParsed⟩ := Option.isSome_iff_exists.mp accepted.gateway_parses
  rw [map_hostAddress subnetParsed gatewayParsed, List.nodup_append_comm, List.singleton_append,
    List.nodup_cons]
  simp only [nodeAddresses_nodup subnetParsed, and_true, List.mem_map, not_exists, not_and]
  exact forall₂_congr fun octet member => not_congr eq_comm

/-- The interfaces are separate exactly when the VLAN identifiers differ and
every gateway keeps off the other hosts' addresses. -/
theorem separated_iff {settings : Settings} {manifest : Manifest} {raw : ClusterCreateFields}
    {request : ClusterCreateRequest}
    (accepted : ClusterCreateRequest.validate settings manifest raw = .valid request)
    {networks : List SecondaryNetworkConfig} (given : request.secondaryNetworks = some networks)
    (few : networks.length ≤ 4094) (cluster : Cluster) :
    Separated cluster networks ↔ Disjoint networks := by
  have valid := ClusterCreateRequest.networks_accepted accepted given
  constructor
  · intro separated
    exact ⟨(names_nodup valid .node1).mp (separated.names .node1), fun net member =>
      (addresses_nodup (valid net member)).mp (separated.addresses net member)⟩
  · intro disjoint
    exact ⟨fun host => (names_nodup valid host).mpr disjoint.vlanIds, interface_lengths valid,
      vnis_nodup, vni_lt few, fun net member =>
        (addresses_nodup (valid net member)).mpr (disjoint.gateways net member)⟩

def gemCluster : Cluster := ⟨"gem-cluster-1", 3901383111#32⟩

def sharedManifest : Manifest := ⟨["1.13.0"], ["g2-small-64gb"]⟩

def twinNetwork (name subnet gateway : String) : SecondaryNetworkFields where
  name := name
  vlanId := 123
  subnet := subnet
  gateway := gateway
  vipPool := "172.16.12.200-172.16.12.250"

def twinRequest : ClusterCreateFields where
  projectId := .absent
  zone := .absent
  region := .absent
  provisioningSaEmail := .absent
  hardwareVariant := "g2-small-64gb"
  emulateGdcVersion := "1.13.0"
  secondaryNetworks := some [twinNetwork "first" "172.16.12.0/24" "172.16.12.1",
    twinNetwork "second" "172.16.13.0/24" "172.16.13.1"]

def twinConfigs : List SecondaryNetworkConfig :=
  [⟨"first", 123, "172.16.12.0/24", "172.16.12.1", "172.16.12.200-172.16.12.250",
      "10.12.0.0/22", 24⟩,
    ⟨"second", 123, "172.16.13.0/24", "172.16.13.1", "172.16.12.200-172.16.12.250",
      "10.12.0.0/22", 24⟩]

theorem twinRequest_accepted :
    ∃ request, ClusterCreateRequest.validate iowaSettings sharedManifest twinRequest =
        .valid request ∧ request.secondaryNetworks = some twinConfigs :=
  ⟨⟨⟨none, none, none, none⟩, "gem-cluster-1", "g2-small-64gb", "1.13.0", none,
    "gem-clusters-vpc", "gem-clusters-subnet", "100GB", "10.0.0.0/17", "10.96.0.0/12", 250,
    some twinConfigs⟩, by decide +kernel, rfl⟩

theorem twinNetworks_clash :
    (∃ request, ClusterCreateRequest.validate iowaSettings sharedManifest twinRequest =
        .valid request ∧ request.secondaryNetworks = some twinConfigs) ∧
      twinConfigs.length ≤ 4094 ∧ ¬ Separated gemCluster twinConfigs := by
  refine ⟨twinRequest_accepted, by decide, ?_⟩
  intro separated
  exact absurd (separated.names .node1) (by decide)

theorem separated_twinNetworks :
    Separated gemCluster twinConfigs ↔ Disjoint twinConfigs := by
  obtain ⟨request, accepted, given⟩ := twinRequest_accepted
  exact separated_iff accepted given (by decide) gemCluster

end GemEmulation.Ansible
