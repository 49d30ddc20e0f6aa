import GemEmulation.Operator.PodMutator.Exclusion

/-!
# The allocator is first fit

On a Network with an IPv4 gateway the allocator returns the least free address
of the subnet, and it reports exhaustion exactly when no address is free.
-/

namespace GemEmulation.Operator

open Foundations Foundations.Json Kube Net

theorem prefixLength_bounds (netObj : Unstructured) :
    1 ≤ prefixLength netObj ∧ prefixLength netObj ≤ 32 := by
  unfold prefixLength
  split
  next prefixLen _ =>
    split_ifs with default
    · decide
    · omega
  next => decide

/-- The subnet of a Network whose gateway is written as a dotted quad. -/
def dottedSubnet (netObj : Unstructured) (gw : IPv4) : Subnet :=
  ⟨dottedQuad gw, gw, prefixLength netObj⟩

theorem subnetOf_dotted {netObj : Unstructured} {gw : IPv4} (netName : String)
    (gateway : gateway4Of netObj = dottedQuad gw) :
    subnetOf netName netObj = .ok (dottedSubnet netObj gw) := by
  simp [subnetOf, gateway, dottedQuad_ne_empty, dottedSubnet]

/-- The network address is not the last word, except on `255.255.255.255/32`. -/
theorem netIP_room (subnet : Subnet)
    (notLast : ¬ (subnet.gwIP = BitVec.allOnes 32 ∧ subnet.prefixLen = 32))
    (bounded : subnet.prefixLen ≤ 32) : subnet.netIP.toNat + 1 < 2 ^ 32 := by
  have bound := subnet.gwIP.isLt
  rw [Subnet.netIP, Subnet.mask, toNat_and_cidrMask]
  by_cases whole : subnet.prefixLen = 32
  · have notOnes : subnet.gwIP.toNat ≠ 2 ^ 32 - 1 := by
      intro equality
      refine notLast ⟨BitVec.eq_of_toNat_eq ?_, whole⟩
      rw [equality, BitVec.toNat_allOnes]
    rw [whole]
    simp only [Nat.sub_self, pow_zero, Nat.div_one, mul_one]
    omega
  · obtain ⟨size, equality⟩ : ∃ size, 32 - subnet.prefixLen = size + 1 :=
      ⟨31 - subnet.prefixLen, by omega⟩
    have even : 2 ∣ subnet.gwIP.toNat / 2 ^ (size + 1) * 2 ^ (size + 1) :=
      Dvd.dvd.mul_left (dvd_pow_self 2 (by omega)) _
    have smaller := Nat.div_mul_le_self subnet.gwIP.toNat (2 ^ (size + 1))
    rw [equality]
    omega

theorem above_netIP {subnet : Subnet} (room : subnet.netIP.toNat + 1 < 2 ^ 32)
    (address : IPv4) : subnet.netIP + 1 ≤ address ↔ subnet.netIP < address := by
  rw [BitVec.le_def, BitVec.lt_def, toNat_succ _ room]
  omega

def Free (cluster : Cluster) (netName : String) (netObj : Unstructured) (subnet : Subnet)
    (inUseSet : List String) (address : IPv4) : Prop :=
  subnet.netIP < address ∧ address < subnet.broadcast ∧
    ¬ Excluded cluster netName netObj subnet inUseSet address

structure FirstFree (cluster : Cluster) (netName : String) (netObj : Unstructured)
    (subnet : Subnet) (inUseSet : List String) (address : IPv4) : Prop where
  free : Free cluster netName netObj subnet inUseSet address
  least : ∀ other, Free cluster netName netObj subnet inUseSet other → address ≤ other

theorem firstFree_iff {cluster : Cluster} {netName : String} {netObj : Unstructured}
    {subnet : Subnet} {inUseSet : List String}
    (dotted : DottedQuads cluster netName netObj inUseSet)
    (gateway : subnet.gateway4 = dottedQuad subnet.gwIP)
    (room : subnet.netIP.toNat + 1 < 2 ^ 32) (address : IPv4) :
    firstFree subnet (exclusions cluster netName netObj subnet ++ inUseSet.map cleanIP) =
        some address ↔
      FirstFree cluster netName netObj subnet inUseSet address := by
  rw [firstFree_eq_some, above_netIP room]
  constructor
  · rintro ⟨⟨above, below⟩, notExcluded, earlier⟩
    refine ⟨⟨above, below, (mem_exclusions dotted gateway above below).not.mp notExcluded⟩, ?_⟩
    rintro other ⟨above', below', free⟩
    by_contra smaller
    rw [BitVec.not_le] at smaller
    exact free ((mem_exclusions dotted gateway above' below').mp
      (earlier other ((above_netIP room other).mpr above') smaller))
  · rintro ⟨⟨above, below, free⟩, least⟩
    refine ⟨⟨above, below⟩, (mem_exclusions dotted gateway above below).not.mpr free, ?_⟩
    intro other above' smaller
    rw [above_netIP room] at above'
    have below' := BitVec.lt_trans smaller below
    by_contra notExcluded
    have smallest := least other
      ⟨above', below', (mem_exclusions dotted gateway above' below').not.mp notExcluded⟩
    exact absurd smaller (BitVec.not_lt.mpr smallest)

theorem firstFree_none_iff {cluster : Cluster} {netName : String} {netObj : Unstructured}
    {subnet : Subnet} {inUseSet : List String}
    (dotted : DottedQuads cluster netName netObj inUseSet)
    (gateway : subnet.gateway4 = dottedQuad subnet.gwIP)
    (room : subnet.netIP.toNat + 1 < 2 ^ 32) :
    firstFree subnet (exclusions cluster netName netObj subnet ++ inUseSet.map cleanIP) =
        none ↔
      ¬ ∃ address, Free cluster netName netObj subnet inUseSet address := by
  simp only [firstFree_eq_none, above_netIP room, not_exists]
  constructor
  · rintro taken address ⟨above, below, free⟩
    exact free ((mem_exclusions dotted gateway above below).mp (taken address above below))
  · intro taken address above below
    by_contra notExcluded
    exact taken address
      ⟨above, below, (mem_exclusions dotted gateway above below).not.mp notExcluded⟩

/-- `allocateSecondaryIP` returns the least free address with the prefix length
and marks it as in use; it reports exhaustion exactly when there is none. -/
theorem allocateSecondaryIP_firstFit {session : Session} {netName : String}
    {netObj : Unstructured} {gw : IPv4} {inUseSet : List String}
    (stored : (session.cluster .network).get? ⟨"", netName⟩ = some netObj)
    (gateway : gateway4Of netObj = dottedQuad gw)
    (notLast : ¬ (gw = BitVec.allOnes 32 ∧ prefixLength netObj = 32))
    (dotted : DottedQuads session.cluster netName netObj inUseSet) :
    (∀ ipWithPrefix inUse,
      (allocateSecondaryIP netName inUseSet noFaults session).1 = .ok (ipWithPrefix, inUse) ↔
        ∃ address,
          FirstFree session.cluster netName netObj (dottedSubnet netObj gw) inUseSet address ∧
            ipWithPrefix = dottedQuad address ++ "/" ++ toString (prefixLength netObj) ∧
              inUse = inUseSet ++ [dottedQuad address]) ∧
    ((allocateSecondaryIP netName inUseSet noFaults session).1 =
        .error (.exhausted netName (dottedQuad (dottedSubnet netObj gw).netIP)
          (prefixLength netObj)) ↔
      ¬ ∃ address,
        Free session.cluster netName netObj (dottedSubnet netObj gw) inUseSet address) := by
  have room := netIP_room (dottedSubnet netObj gw) notLast (prefixLength_bounds netObj).2
  have result : (allocateSecondaryIP netName inUseSet noFaults session).1 =
      takeFirst netName (dottedSubnet netObj gw) inUseSet
        (exclusions session.cluster netName netObj (dottedSubnet netObj gw)) := by
    rw [allocateSecondaryIP_noFaults, stored]
    simp only [subnetOf_dotted netName gateway, Except.bind]
  rw [result]
  constructor
  · intro ipWithPrefix inUse
    simp only [takeFirst_ok, firstFree_iff dotted rfl room]
    rfl
  · rw [← firstFree_none_iff dotted rfl room, takeFirst]
    cases firstFree (dottedSubnet netObj gw)
      (exclusions session.cluster netName netObj (dottedSubnet netObj gw) ++
        inUseSet.map cleanIP) with
    | none => simp [dottedSubnet]
    | some u => simp

def smallNetwork : Unstructured where
  metadata := {
    key := ⟨"", "n"⟩
    annotations := .singleton annotationLBServiceVIPs "[\"10.0.0.10\"]" }
  body := [("spec", .map [("gateway4", .string "10.0.0.1"),
    ("l2NetworkConfig", .map [("prefixLength4", .int64 28)])])]

def smallGatewayCIDR : Unstructured where
  metadata := { key := ⟨"", "c"⟩ }
  body := [("spec", .map [("network", .string "n"), ("ip4cidr", .string "10.0.0.11/32")])]

def attachedPod : Pod where
  metadata := {
    key := ⟨"default", "p"⟩
    annotations := .singleton annotationMultusNetworks
      (marshalMultusNetworks [⟨"n", "eth1", ["10.0.0.12/28"]⟩]) }
  body := { phase := .running }

def smallCluster : Cluster :=
  (((∅ : Cluster).put .network smallNetwork).put .gkeGatewayCIDR smallGatewayCIDR).put .pod
    attachedPod

def smallSession : Session where
  cluster := smallCluster
  now := ""

theorem smallCluster_network : smallCluster .network = (∅ : Store Fields).put smallNetwork := by
  rw [smallCluster, Cluster.put_of_ne _ _ (by decide), Cluster.put_of_ne _ _ (by decide),
    Cluster.put_self]
  rfl

theorem smallCluster_gkeGatewayCIDR :
    smallCluster .gkeGatewayCIDR = (∅ : Store Fields).put smallGatewayCIDR := by
  rw [smallCluster, Cluster.put_of_ne _ _ (by decide), Cluster.put_self,
    Cluster.put_of_ne _ _ (by decide)]
  rfl

theorem smallCluster_pod : smallCluster .pod = (∅ : Store PodBody).put attachedPod := by
  rw [smallCluster, Cluster.put_self, Cluster.put_of_ne _ _ (by decide),
    Cluster.put_of_ne _ _ (by decide)]
  rfl

theorem attachedPod_claims : claimedIPs "n" attachedPod = ["10.0.0.12/28"] := by
  have multus : attachedPod.metadata.annotations.get? annotationMultusNetworks =
      some (marshalMultusNetworks [⟨"n", "eth1", ["10.0.0.12/28"]⟩]) := Dict.get?_set_self _ _ _
  have statuses : ∀ statusKey ∈ statusKeys,
      attachedPod.metadata.annotations.get? statusKey = none := by
    have apart : ∀ statusKey ∈ statusKeys, statusKey ≠ annotationMultusNetworks := by decide
    intro statusKey listed
    exact Dict.get?_set_of_ne _ _ (apart statusKey listed)
  have entries : annotationEntries decodeMultusNetworks attachedPod annotationMultusNetworks =
      [⟨"n", "eth1", ["10.0.0.12/28"]⟩] := by
    have written : marshalMultusNetworks [⟨"n", "eth1", ["10.0.0.12/28"]⟩] ≠ "" := by decide
    simp [annotationEntries, multus, written, unmarshalStrict_marshalMultusNetworks]
  have nothing : ∀ statusKey ∈ statusKeys,
      annotationEntries decodeNetworkStatuses attachedPod statusKey =
        [] := fun statusKey listed => by
    simp [annotationEntries, statuses statusKey listed]
  simp only [statusKeys, List.mem_cons, List.not_mem_nil, or_false, forall_eq_or_imp,
    forall_eq] at nothing
  simp [claimedIPs, entries, statusKeys, nothing]

theorem attachedPod_claim : cleanIP "10.0.0.12/28" = dottedQuad (ofOctets 10 0 0 12) := by rfl

theorem smallCluster_dottedQuads : DottedQuads smallCluster "n" smallNetwork [] where
  vips raw entries annotated decoded entry listed := by
    have value : smallNetwork.metadata.annotations.get? annotationLBServiceVIPs =
        some "[\"10.0.0.10\"]" := by rfl
    rw [value, Option.some.injEq] at annotated
    subst annotated
    have parsed : unmarshalStrict decodeTexts [] "[\"10.0.0.10\"]" = some ["10.0.0.10"] := by
      decide +kernel
    rw [parsed, Option.some.injEq] at decoded
    subst decoded
    have noBlock : parseCIDR (Text.trimSpace "10.0.0.10") = none := by rfl
    rw [List.mem_singleton] at listed
    subst listed
    intro ip ones isBlock
    rw [noBlock] at isBlock
    cases isBlock
  gatewayCIDRs item stored ip ones isBlock := by
    rw [smallCluster_gkeGatewayCIDR, Store.list_singleton, List.mem_singleton] at stored
    subst stored
    have parsed : parseCIDR (Text.trimSpace (specIP4CIDR smallGatewayCIDR)) =
        some (.v4 (ofOctets 10 0 0 11) 32) := by rfl
    rw [parsed] at isBlock
    cases isBlock
  pods pod stored ip claimed := by
    rw [smallCluster_pod, Store.list_singleton, List.mem_singleton] at stored
    subst stored
    rw [← mem_claimedIPs, attachedPod_claims, List.mem_singleton] at claimed
    subst claimed
    rw [attachedPod_claim]
    exact canonical_dottedQuad _
  inUse ip listed := by simp at listed

theorem smallSession_allocates :
    (allocateSecondaryIP "n" [] noFaults smallSession).1 =
      .ok ("10.0.0.13/28", ["10.0.0.13"]) := by decide +kernel

theorem allocateSecondaryIP_firstFit_small :
    ∃ address,
      FirstFree smallCluster "n" smallNetwork
          (dottedSubnet smallNetwork (ofOctets 10 0 0 1)) [] address ∧
        "10.0.0.13/28" = dottedQuad address ++ "/" ++ toString (prefixLength smallNetwork) ∧
          ["10.0.0.13"] = [] ++ [dottedQuad address] := by
  have stored : (smallSession.cluster .network).get? ⟨"", "n"⟩ = some smallNetwork := by
    rw [show smallSession.cluster = smallCluster from rfl, smallCluster_network]
    exact Store.get?_put_self _ smallNetwork
  have gateway : gateway4Of smallNetwork = dottedQuad (ofOctets 10 0 0 1) := by rfl
  exact ((allocateSecondaryIP_firstFit stored gateway (fun last => absurd last.1 (by decide))
    smallCluster_dottedQuads).1 _ _).mp smallSession_allocates

end GemEmulation.Operator
