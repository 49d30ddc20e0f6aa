import GemEmulation.Operator.PodMutator.Kept
import GemEmulation.Operator.Network.Children

/-!
# Allocated addresses and the CNI configuration

The Pod allocator and the Network controller compute a Network's subnet on their
own.  An allocated address lies in the subnet of the CNI configuration unless
the only address of the subnet is the last word, after which the allocator's
search wraps around.
-/

namespace GemEmulation.Operator

open Foundations Foundations.Json Kube Net

/-- `ipam.subnet` in the CNI configuration of a Network. -/
def ipamSubnet (owner : Unstructured) : Option String :=
  match cniIPAM owner with
  | .object members =>
      match lookupEntry "subnet" members with
      | some (.string subnet) => some subnet
      | _ => none
  | _ => none

/-- An address with a subnet's prefix length, strictly between the subnet's network
and broadcast addresses. -/
def StrictlyInside (subnet ipWithPrefix : String) : Prop :=
  ∃ (network address : IPv4) (ones : Nat),
    subnet = dottedQuad network ++ "/" ++ toString ones ∧
      ipWithPrefix = dottedQuad address ++ "/" ++ toString ones ∧
        network < address ∧ address < broadcast network (cidrMask ones 32)

/-- Every address that is allocated on a Network lies in the subnet of its CNI
configuration. -/
def AllocatesInside (netObj : Unstructured) : Prop :=
  ∀ netName (session : Session) (client : Client) inUseSet ipWithPrefix inUse,
    (session.cluster .network).get? ⟨"", netName⟩ = some netObj →
      (allocateSecondaryIP netName inUseSet client session).1 = .ok (ipWithPrefix, inUse) →
        ∃ subnet, ipamSubnet netObj = some subnet ∧ StrictlyInside subnet ipWithPrefix

/-- The addresses that the allocator computes from a subnet: the candidates and the
reserved addresses of the cluster nodes. -/
def computedAddresses (subnet : Subnet) : List IPv4 :=
  wordsBelow (subnet.netIP + 1) subnet.broadcast ++
    (hostOffsets.takeWhile fun offset => decide (subnet.netIP + offset < subnet.broadcast)).map
      (subnet.netIP + ·)

/-- No computed address leaves the subnet of a Network. -/
def ComputesInside (netObj : Unstructured) : Prop :=
  ∀ netName subnet, subnetOf netName netObj = .ok subnet →
    ∀ address ∈ computedAddresses subnet, subnet.netIP ≤ address ∧ address ≤ subnet.broadcast

/-- The subnet in the CNI configuration of a Network with an IPv4 gateway. -/
theorem ipamSubnet_eq {netObj : Unstructured} {gw : IPv4}
    (parsed : parseIP4 (gateway4Of netObj) = some gw) :
    ipamSubnet netObj =
      some (dottedQuad (gw &&& cidrMask (prefixLength netObj) 32) ++ "/" ++
        toString (prefixLength netObj)) := by
  have nonempty : gateway4Of netObj ≠ "" := by
    intro empty
    simp [empty] at parsed
  simp [ipamSubnet, cniIPAM, nonempty, parsed, lookupEntry]

theorem subnetOf_parsed {netObj : Unstructured} {gw : IPv4} (netName : String)
    (parsed : parseIP4 (gateway4Of netObj) = some gw) :
    subnetOf netName netObj = .ok ⟨gateway4Of netObj, gw, prefixLength netObj⟩ := by
  have nonempty : gateway4Of netObj ≠ "" := by
    intro empty
    simp [empty] at parsed
  simp [subnetOf, nonempty, parsed]

theorem allocatesInside_of_room {netObj : Unstructured} {gw : IPv4}
    (parsed : parseIP4 (gateway4Of netObj) = some gw)
    (notLast : ¬ (gw = BitVec.allOnes 32 ∧ prefixLength netObj = 32)) : AllocatesInside netObj := by
  intro netName session client inUseSet ipWithPrefix inUse stored allocated
  obtain ⟨other, subnet, excluded, found, isSubnet, taken, -⟩ := allocateSecondaryIP_takes allocated
  cases stored.symm.trans found
  cases (subnetOf_parsed netName parsed).symm.trans isSubnet
  obtain ⟨address, free, written, -⟩ := takeFirst_ok.mp taken
  obtain ⟨⟨above, below⟩, -⟩ := firstFree_eq_some.mp free
  have room := netIP_room ⟨gateway4Of netObj, gw, prefixLength netObj⟩ notLast
    (prefixLength_bounds netObj).2
  exact ⟨_, ipamSubnet_eq parsed, _, address, _, rfl, written,
    (above_netIP room address).mp above, below⟩

/-- What passes of an increasing list together with an element passes with all
smaller elements. -/
theorem mem_takeWhile_of_lt {words : List IPv4} (increasing : words.Pairwise (· < ·))
    {passes : IPv4 → Bool} {word smaller : IPv4} (passed : word ∈ words.takeWhile passes)
    (listed : smaller ∈ words) (below : smaller < word) : smaller ∈ words.takeWhile passes := by
  rw [← List.takeWhile_append_dropWhile (p := passes) (l := words)] at increasing listed
  rcases List.mem_append.mp listed with early | late
  · exact early
  · have order := (List.pairwise_append.mp increasing).2.2 word passed smaller late
    exact absurd (BitVec.lt_trans order below) (BitVec.lt_irrefl _)

/-- No offset of a cluster node wraps around when the first one does not. -/
theorem nodeAddress_inside {subnet : Subnet} (room : subnet.netIP.toNat + 2 < 2 ^ 32)
    {offset : IPv4} (reserved : offset ∈ hostOffsets.takeWhile fun offset =>
      decide (subnet.netIP + offset < subnet.broadcast)) :
    subnet.netIP ≤ subnet.netIP + offset ∧ subnet.netIP + offset ≤ subnet.broadcast := by
  have passed := List.mem_takeWhile_imp reserved
  rw [decide_eq_true_eq] at passed
  refine ⟨?_, BitVec.le_of_lt passed⟩
  by_contra wraps
  have range : (2 : IPv4) ≤ 9 := by decide
  have bound := subnet.netIP.isLt
  have member := (mem_wordsThrough range offset).mp ((List.takeWhile_sublist _).mem reserved)
  have first : (2 : IPv4).toNat = 2 := rfl
  have final : (9 : IPv4).toNat = 9 := rfl
  simp only [BitVec.le_def, BitVec.toNat_add, first, final] at wraps member
  -- The offset of the last word would have ended the loop before.
  have last : (BitVec.ofNat 32 (2 ^ 32 - 1 - subnet.netIP.toNat)).toNat =
      2 ^ 32 - 1 - subnet.netIP.toNat := Nat.mod_eq_of_lt (by omega)
  have listed : BitVec.ofNat 32 (2 ^ 32 - 1 - subnet.netIP.toNat) ∈ hostOffsets := by
    rw [hostOffsets, mem_wordsThrough range, BitVec.le_def, BitVec.le_def, last, first, final]
    omega
  have below : BitVec.ofNat 32 (2 ^ 32 - 1 - subnet.netIP.toNat) < offset := by
    rw [BitVec.lt_def, last]
    omega
  have ended := List.mem_takeWhile_imp
    (mem_takeWhile_of_lt (wordsThrough_pairwise range) reserved listed below)
  rw [decide_eq_true_eq, BitVec.lt_def, BitVec.toNat_add, last] at ended
  have limit := subnet.broadcast.isLt
  omega

/-- The computed addresses stay in the subnet when the subnet does not begin with
one of the last two words. -/
theorem computedAddresses_inside {subnet : Subnet} (room : subnet.netIP.toNat + 2 < 2 ^ 32)
    {address : IPv4} (computed : address ∈ computedAddresses subnet) :
    subnet.netIP ≤ address ∧ address ≤ subnet.broadcast := by
  rcases List.mem_append.mp computed with candidate | node
  · obtain ⟨above, below⟩ := (mem_wordsBelow _ _ _).mp candidate
    exact ⟨BitVec.le_of_lt ((above_netIP (by omega) address).mp above), BitVec.le_of_lt below⟩
  · obtain ⟨offset, reserved, rfl⟩ := List.mem_map.mp node
    exact nodeAddress_inside room reserved

/-- A subnet that begins with one of the last two words has no room for the offset
of the first cluster node. -/
theorem computedAddresses_outside {subnet : Subnet} (last : 2 ^ 32 ≤ subnet.netIP.toNat + 2)
    (ordered : subnet.netIP ≤ subnet.broadcast) :
    subnet.netIP + 2 ∈ computedAddresses subnet ∧ subnet.netIP + 2 < subnet.netIP := by
  have bound := subnet.netIP.isLt
  have sum : (subnet.netIP + 2).toNat = subnet.netIP.toNat + 2 - 2 ^ 32 := by
    rw [BitVec.toNat_add, show (2 : IPv4).toNat = 2 from rfl]
    omega
  rw [BitVec.le_def] at ordered
  have first : hostOffsets = 2 :: [3, 4, 5, 6, 7, 8, 9] := by decide
  have passes : subnet.netIP + 2 < subnet.broadcast := by
    rw [BitVec.lt_def, sum]
    omega
  refine ⟨List.mem_append_right _ (List.mem_map_of_mem ?_), ?_⟩
  · rw [first, List.takeWhile_cons, if_pos (decide_eq_true passes)]
    exact List.mem_cons_self
  · rw [BitVec.lt_def, sum]
    omega

theorem last_network_iff (gw : IPv4) {ones : Nat} (positive : 1 ≤ ones) :
    2 ^ 32 ≤ (gw &&& cidrMask ones 32).toNat + 2 ↔ 31 ≤ ones ∧ 2 ^ 32 ≤ gw.toNat + 2 := by
  have bound := gw.isLt
  rw [toNat_and_cidrMask]
  by_cases long : 31 ≤ ones
  · obtain last | whole : 32 - ones = 1 ∨ 32 - ones = 0 := by omega
    · rw [last]
      omega
    · rw [whole]
      omega
  · obtain ⟨size, equality⟩ : ∃ size, 32 - ones = size + 2 := ⟨30 - ones, by omega⟩
    have fours : 4 ∣ gw.toNat / 2 ^ (size + 2) * 2 ^ (size + 2) :=
      Dvd.dvd.mul_left (pow_dvd_pow 2 (by omega : 2 ≤ size + 2)) _
    have smaller := Nat.div_mul_le_self gw.toNat (2 ^ (size + 2))
    rw [equality]
    omega

def hostNetwork (gateway4 : String) (ones : Nat) : Unstructured where
  metadata := { key := ⟨"", "n"⟩ }
  body := [("spec", .map [("gateway4", .string gateway4),
    ("l2NetworkConfig", .map [("prefixLength4", .int64 ones)])])]

def hostSession (gateway4 : String) : Session where
  cluster := (∅ : Cluster).put .network (hostNetwork gateway4 32)
  now := ""

theorem hostSession_exclusions (gateway4 : String) (subnet : Subnet) :
    exclusions (hostSession gateway4).cluster "n" (hostNetwork gateway4 32) subnet =
      excludeInfrastructure subnet := by
  have noVIPs : excludeVIPs (hostNetwork gateway4 32) = [] := rfl
  have noBlocks : ((hostSession gateway4).cluster .gkeGatewayCIDR).list = [] := rfl
  have noPods : ((hostSession gateway4).cluster .pod).list = [] := rfl
  simp [exclusions, noVIPs, noBlocks, noPods]

theorem gateway4Of_hostNetwork (gateway4 : String) (ones : Nat) :
    gateway4Of (hostNetwork gateway4 ones) = gateway4 := rfl

theorem prefixLength_hostNetwork (gateway4 : String) {ones : Nat} (positive : 1 ≤ ones)
    (bounded : ones ≤ 32) : prefixLength (hostNetwork gateway4 ones) = ones := by
  have field : nestedInt64 (hostNetwork gateway4 ones).body
      ["spec", "l2NetworkConfig", "prefixLength4"] = some (ones : Int) := rfl
  simp only [prefixLength, field]
  rw [if_neg (by omega), Int.toNat_natCast]

def lastSubnet (gateway4 : String) : Subnet := ⟨gateway4, BitVec.allOnes 32, 32⟩

theorem hostNetwork_wraps {gateway4 : String}
    (last : parseIP4 gateway4 = some (BitVec.allOnes 32)) :
    (allocateSecondaryIP "n" [] noFaults (hostSession gateway4)).1 =
      .ok (dottedQuad 0 ++ "/" ++ toString 32, [dottedQuad 0]) := by
  have stored : ((hostSession gateway4).cluster .network).get? ⟨"", "n"⟩ =
      some (hostNetwork gateway4 32) := rfl
  have isSubnet : subnetOf "n" (hostNetwork gateway4 32) = .ok (lastSubnet gateway4) :=
    subnetOf_parsed "n" last
  have notGateway : dottedQuad 0 ≠ gateway4 := by
    rintro rfl
    rw [parseIP4_dottedQuad] at last
    exact absurd (Option.some.inj last) (by decide)
  -- The network address is also the broadcast address.
  have network : (lastSubnet gateway4).netIP = BitVec.allOnes 32 := by
    change BitVec.allOnes 32 &&& cidrMask 32 32 = _
    decide
  have limit : (lastSubnet gateway4).broadcast = BitVec.allOnes 32 := by
    rw [Subnet.broadcast, network]
    change broadcast (BitVec.allOnes 32) (cidrMask 32 32) = _
    decide
  have offsets : hostOffsets = [2, 3, 4, 5, 6, 7, 8, 9] := by decide
  have fresh : dottedQuad 0 ∉ excludeInfrastructure (lastSubnet gateway4) := by
    simp only [excludeInfrastructure, network, limit, List.mem_append, List.mem_cons,
      dottedQuad_inj, List.mem_map, not_or, not_exists, not_and]
    refine ⟨⟨by decide, by decide, notGateway, List.not_mem_nil⟩, fun offset listed => ?_⟩
    have member := (List.takeWhile_sublist _).mem listed
    rw [offsets] at member
    clear listed
    revert member
    simp only [List.mem_cons, List.not_mem_nil, or_false]
    rintro (rfl | rfl | rfl | rfl | rfl | rfl | rfl | rfl) <;> decide
  rw [allocateSecondaryIP_noFaults, stored]
  simp only [isSubnet, Except.bind, takeFirst_ok, hostSession_exclusions, List.map_nil,
    List.append_nil]
  refine ⟨0, firstFree_eq_some.mpr ⟨?_, fresh, fun other _ below => ?_⟩, rfl, rfl⟩
  · rw [network, limit]
    decide
  · exact absurd below BitVec.not_lt_zero

/-- The allocator stays in the subnet of the CNI configuration exactly when the
subnet is not the last address alone. -/
theorem allocatesInside_of_gateway_iff {gateway4 : String} {gw : IPv4}
    (parsed : parseIP4 gateway4 = some gw) (ones : Nat) :
    (∀ netObj, gateway4Of netObj = gateway4 → prefixLength netObj = ones →
        AllocatesInside netObj) ↔
      ¬ (gw = BitVec.allOnes 32 ∧ ones = 32) := by
  constructor
  · rintro inside ⟨rfl, rfl⟩
    have stored : ((hostSession gateway4).cluster .network).get? ⟨"", "n"⟩ =
      some (hostNetwork gateway4 32) := rfl
    obtain ⟨subnet, -, network, address, ones, -, written, above, -⟩ :=
      inside _ (gateway4Of_hostNetwork gateway4 32)
        (prefixLength_hostNetwork gateway4 (by decide) (by decide)) _ _ _ _ _ _
        stored (hostNetwork_wraps parsed)
    have same := congrArg cleanIP written
    rw [cleanIP_allocated, cleanIP_allocated, dottedQuad_inj] at same
    exact absurd (same ▸ above) BitVec.not_lt_zero
  · rintro notLast netObj rfl rfl
    exact allocatesInside_of_room parsed notLast

/-- The addresses that the allocator computes stay in the subnet exactly when the
subnet does not begin with one of the last two addresses. -/
theorem computesInside_of_gateway_iff {gateway4 : String} {gw : IPv4}
    (parsed : parseIP4 gateway4 = some gw) {ones : Nat} (positive : 1 ≤ ones)
    (bounded : ones ≤ 32) :
    (∀ netObj, gateway4Of netObj = gateway4 → prefixLength netObj = ones →
        ComputesInside netObj) ↔
      ¬ (31 ≤ ones ∧ 2 ^ 32 ≤ gw.toNat + 2) := by
  rw [← last_network_iff gw positive]
  constructor
  · intro inside last
    have isSubnet := @subnetOf_parsed (hostNetwork gateway4 ones) _ "n" parsed
    have same := prefixLength_hostNetwork gateway4 positive bounded
    rw [same] at isSubnet
    have ordered : (gw &&& cidrMask ones 32).toNat ≤
        (Net.broadcast (gw &&& cidrMask ones 32) (cidrMask ones 32)).toNat := by
      rw [toNat_broadcast]
      omega
    obtain ⟨computed, wraps⟩ := @computedAddresses_outside
      ⟨gateway4Of (hostNetwork gateway4 ones), gw, ones⟩ last ordered
    have stays := inside _ (gateway4Of_hostNetwork gateway4 ones) same "n" _ isSubnet _ computed
    exact absurd wraps (BitVec.not_lt.mpr stays.1)
  · rintro room netObj rfl rfl netName subnet isSubnet address computed
    cases (subnetOf_parsed netName parsed).symm.trans isSubnet
    have first : (⟨gateway4Of netObj, gw, prefixLength netObj⟩ : Subnet).netIP.toNat + 2 < 2 ^ 32 :=
      Nat.lt_of_not_le room
    exact computedAddresses_inside first computed

/-- What the allocator returns, and all that it computes on the way, lies in the
subnet of the CNI configuration, up to the last two addresses of all. -/
theorem subnetAgreement_iff {gateway4 : String} {gw : IPv4}
    (parsed : parseIP4 gateway4 = some gw) {ones : Nat} (positive : 1 ≤ ones)
    (bounded : ones ≤ 32) :
    ((∀ netObj, gateway4Of netObj = gateway4 → prefixLength netObj = ones →
        AllocatesInside netObj) ↔
      ¬ (gw = BitVec.allOnes 32 ∧ ones = 32)) ∧
    ((∀ netObj, gateway4Of netObj = gateway4 → prefixLength netObj = ones →
        ComputesInside netObj) ↔
      ¬ (31 ≤ ones ∧ 2 ^ 32 ≤ gw.toNat + 2)) :=
  ⟨allocatesInside_of_gateway_iff parsed ones,
    computesInside_of_gateway_iff parsed positive bounded⟩

theorem lastAddress_wraps :
    parseIP4 "255.255.255.255" = some (BitVec.allOnes 32) ∧
      ipamSubnet (hostNetwork "255.255.255.255" 32) = some "255.255.255.255/32" ∧
        (allocateSecondaryIP "n" [] noFaults (hostSession "255.255.255.255")).1 =
          .ok ("0.0.0.0/32", ["0.0.0.0"]) := by
  have parsed : parseIP4 "255.255.255.255" = some (BitVec.allOnes 32) := by rfl
  exact ⟨parsed, by rfl, (hostNetwork_wraps parsed).trans (by rfl)⟩

theorem subnetAgreement_dotted :
    ((∀ netObj, gateway4Of netObj = "10.0.0.1" → prefixLength netObj = 24 →
        AllocatesInside netObj) ↔
      ¬ (ofOctets 10 0 0 1 = BitVec.allOnes 32 ∧ 24 = 32)) ∧
    ((∀ netObj, gateway4Of netObj = "10.0.0.1" → prefixLength netObj = 24 →
        ComputesInside netObj) ↔
      ¬ (31 ≤ 24 ∧ 2 ^ 32 ≤ (ofOctets 10 0 0 1).toNat + 2)) :=
  subnetAgreement_iff (by rfl) (by decide) (by decide)

end GemEmulation.Operator
