import GemEmulation.Operator.PodMutator.Allocator

/-!
# What the excluded texts mean

`Denotes` says which addresses a range, a block or a single address stands
for, and `Excluded` which addresses of a subnet are taken.  When the addresses
are written as dotted quads, an address is excluded exactly when its text is
among those that the allocator collects.
-/

namespace GemEmulation.Operator

open Foundations Foundations.Json Kube Net

/-- The addresses that a trimmed entry stands for. -/
inductive Denotes : String → IPv4 → Prop where
  | single {text : String} {address : IPv4} :
      '-' ∉ text.toList → '/' ∉ text.toList →
      parseIP4 text = some address → Denotes text address
  | range {text first last : String} {start stop address : IPv4} :
      '-' ∉ first.toList → '-' ∉ last.toList →
      text.toList = first.toList ++ '-' :: last.toList →
      parseIP4 (Text.trimSpace first) = some start →
      parseIP4 (Text.trimSpace last) = some stop →
      start ≤ address → address ≤ stop → Denotes text address
  | block {text : String} {network address : IPv4} {ones : Nat} :
      '-' ∉ text.toList → parseCIDR text = some (.v4 network ones) →
      address &&& cidrMask ones 32 = network → Denotes text address

/-- The entry is not a block of IPv4-mapped IPv6 addresses. -/
def DottedBlock (entry : String) : Prop :=
  ∀ ip ones, parseCIDR (Text.trimSpace entry) = some (.v6 ip ones) → to4 ip = none

@[simp]
theorem parseIP4_empty : parseIP4 "" = none := by
  decide

theorem slash_of_parseCIDR {text : String} {ipNet : IPNet}
    (parsed : parseCIDR text = some ipNet) : '/' ∈ text.toList := by
  by_contra absent
  have whole : text.toList.span (fun c => decide (c ≠ '/')) = (text.toList, []) := by
    have passes : ∀ c ∈ text.toList, decide (c ≠ '/') = true := by
      rintro c membership
      rw [decide_eq_true_eq]
      rintro rfl
      exact absent membership
    rw [List.span_eq_takeWhile_dropWhile, List.takeWhile_eq_self_iff.mpr passes,
      List.dropWhile_eq_nil_iff.mpr passes]
  rw [parseCIDR, whole] at parsed
  contradiction

/-- The words from the start of a block to its last address are its members. -/
theorem mem_block {text : String} {network : IPv4} {ones : Nat}
    (parsed : parseCIDR text = some (.v4 network ones)) (address : IPv4) :
    address ∈ wordsThrough network (Net.broadcast network (cidrMask ones 32)) ↔
      address &&& cidrMask ones 32 = network := by
  have masked := (parseCIDR_v4 parsed).1
  have bounds := fun other => and_cidrMask_eq_iff network other ones
  rw [masked] at bounds
  have order := ((bounds network).mp masked).2
  rw [mem_wordsThrough order, bounds]

theorem not_denotes_empty (address : IPv4) : ¬ Denotes "" address := by
  rintro (⟨_, _, parsed⟩ | ⟨_, _, shape, _⟩ | ⟨_, parsed, _⟩)
  · simp at parsed
  · simp at shape
  · simpa using slash_of_parseCIDR parsed

theorem mem_excludeRange {entry : String} (dash : '-' ∈ (Text.trimSpace entry).toList)
    (address : IPv4) :
    dottedQuad address ∈ excludeIPRangeOrCIDR entry ↔
      Denotes (Text.trimSpace entry) address := by
  unfold excludeIPRangeOrCIDR
  generalize Text.trimSpace entry = text at dash
  have nonempty : text ≠ "" := by
    rintro rfl
    simp at dash
  have contained : Text.containsChar text '-' = true := (Text.containsChar_iff text '-').mpr dash
  simp only [nonempty, if_false, contained, if_true]
  constructor
  · intro membership
    split at membership
    next first last parts =>
      obtain ⟨absent, absent', shape⟩ := (Text.split_eq_pair_iff _ _ _ _).mp parts
      split at membership
      next start stop startParsed stopParsed =>
        split at membership
        next order =>
          obtain ⟨found, inRange, equality⟩ := List.mem_map.mp membership
          cases dottedQuad_injective equality
          obtain ⟨lower, upper⟩ := (mem_wordsThrough order _).mp inRange
          exact .range absent absent' shape startParsed stopParsed lower upper
        next => simp at membership
      next => simp at membership
    next => simp at membership
  · rintro (⟨noDash, _, _⟩ | ⟨absent, absent', shape, startParsed, stopParsed, lower, upper⟩ |
      ⟨noDash, _, _⟩)
    · exact absurd dash noDash
    · have parts := (Text.split_eq_pair_iff _ _ _ _).mpr ⟨absent, absent', shape⟩
      have order := BitVec.le_trans lower upper
      simp only [parts, startParsed, stopParsed, order, if_true]
      exact List.mem_map_of_mem ((mem_wordsThrough order _).mpr ⟨lower, upper⟩)
    · exact absurd dash noDash

theorem mem_excludeBlock {entry : String} (dotted : DottedBlock entry)
    (noDash : '-' ∉ (Text.trimSpace entry).toList)
    (slash : '/' ∈ (Text.trimSpace entry).toList) (address : IPv4) :
    dottedQuad address ∈ excludeIPRangeOrCIDR entry ↔
      Denotes (Text.trimSpace entry) address := by
  unfold excludeIPRangeOrCIDR
  unfold DottedBlock at dotted
  generalize Text.trimSpace entry = text at dotted noDash slash
  have nonempty : text ≠ "" := by
    rintro rfl
    simp at slash
  have absent : Text.containsChar text '-' = false := by
    simpa [Text.containsChar] using noDash
  have contained : Text.containsChar text '/' = true :=
    (Text.containsChar_iff text '/').mpr slash
  simp only [nonempty, if_false, absent, contained, if_true, Bool.false_eq_true]
  constructor
  · intro membership
    split at membership
    next ipNet parsed =>
      split at membership
      next start isIPv4 =>
        obtain ⟨found, inBlock, equality⟩ := List.mem_map.mp membership
        cases dottedQuad_injective equality
        cases ipNet with
        | v4 network ones =>
            cases isIPv4
            exact .block noDash parsed ((mem_block parsed address).mp inBlock)
        | v6 ip ones => simp [IPNet.to4, dotted ip ones parsed] at isIPv4
      next => simp at membership
    next => simp at membership
  · rintro (⟨_, noSlash, _⟩ | ⟨_, _, shape, _⟩ | ⟨_, parsed, inside⟩)
    · exact absurd slash noSlash
    · exact absurd (by simp [shape]) noDash
    · simp only [parsed, IPNet.to4, IPNet.maskWord]
      exact List.mem_map_of_mem ((mem_block parsed address).mpr inside)

theorem mem_excludeSingle {entry : String} (noDash : '-' ∉ (Text.trimSpace entry).toList)
    (noSlash : '/' ∉ (Text.trimSpace entry).toList) (address : IPv4) :
    dottedQuad address ∈ excludeIPRangeOrCIDR entry ↔
      Denotes (Text.trimSpace entry) address := by
  unfold excludeIPRangeOrCIDR
  generalize Text.trimSpace entry = text at noDash noSlash
  have absent : Text.containsChar text '-' = false := by
    simpa [Text.containsChar] using noDash
  have absent' : Text.containsChar text '/' = false := by
    simpa [Text.containsChar] using noSlash
  by_cases empty : text = ""
  · subst empty
    simpa using not_denotes_empty address
  · simp only [empty, if_false, absent, absent', Bool.false_eq_true]
    constructor
    · intro membership
      split at membership
      next found parsed =>
        rw [List.mem_singleton, dottedQuad_inj] at membership
        exact .single noDash noSlash (membership ▸ parsed)
      next => simp at membership
    · rintro (⟨_, _, parsed⟩ | ⟨_, _, shape, _⟩ | ⟨_, parsed, _⟩)
      · simp [parsed]
      · exact absurd (by simp [shape]) noDash
      · exact absurd (slash_of_parseCIDR parsed) noSlash

/-- The texts collected for an entry are those of the addresses it denotes. -/
theorem mem_excludeIPRangeOrCIDR {entry : String} (dotted : DottedBlock entry)
    (address : IPv4) :
    dottedQuad address ∈ excludeIPRangeOrCIDR entry ↔
      Denotes (Text.trimSpace entry) address := by
  by_cases dash : '-' ∈ (Text.trimSpace entry).toList
  · exact mem_excludeRange dash address
  · by_cases slash : '/' ∈ (Text.trimSpace entry).toList
    · exact mem_excludeBlock dotted dash slash address
    · exact mem_excludeSingle dash slash address

def Annotates {Entry : Type} (decode : Decoder (List Entry)) (pod : Pod) (key : String)
    (entry : Entry) : Prop :=
  ∃ raw entries, pod.metadata.annotations.get? key = some raw ∧
    unmarshalStrict decode [] raw = some entries ∧ entry ∈ entries

theorem unmarshalStrict_empty {Target : Type} (decode : Decoder Target) (current : Target) :
    unmarshalStrict decode current "" = none := by
  have notJson : parse "" = none := by decide
  simp [unmarshalStrict, unmarshal, notJson]

theorem mem_annotationEntries {Entry : Type} {decode : Decoder (List Entry)} {pod : Pod}
    {key : String} {entry : Entry} :
    entry ∈ annotationEntries decode pod key ↔ Annotates decode pod key entry := by
  unfold annotationEntries Annotates
  cases pod.metadata.annotations.get? key with
  | none => simp
  | some raw =>
      by_cases empty : raw = ""
      · subst empty
        simp [unmarshalStrict_empty]
      · cases decoded : unmarshalStrict decode [] raw <;> simp [empty, decoded]

inductive Claims (netName : String) (pod : Pod) (ip : String) : Prop where
  | network {entry : MultusNetworkSpec} :
      Annotates decodeMultusNetworks pod annotationMultusNetworks entry →
      entry.name = netName → ip ∈ entry.ips → Claims netName pod ip
  | status {statusKey : String} {entry : NetworkStatus} :
      statusKey ∈ statusKeys → Annotates decodeNetworkStatuses pod statusKey entry →
      (entry.name = netName ∨ ∃ front, entry.name = front ++ ("/" ++ netName)) →
      ip ∈ entry.ips → Claims netName pod ip

theorem mem_claimedIPs {netName : String} {pod : Pod} {ip : String} :
    ip ∈ claimedIPs netName pod ↔ Claims netName pod ip := by
  simp only [claimedIPs, List.mem_append, List.mem_flatMap, List.mem_filter,
    mem_annotationEntries, decide_eq_true_eq]
  constructor
  · rintro (⟨entry, ⟨annotated, named⟩, listed⟩ |
      ⟨statusKey, isKey, entry, ⟨annotated, named⟩, listed⟩)
    · exact .network annotated named listed
    · simp only [statusNames, Bool.or_eq_true, decide_eq_true_eq, Text.hasSuffix_iff] at named
      exact .status isKey annotated named listed
  · rintro (⟨annotated, named, listed⟩ | ⟨isKey, annotated, named, listed⟩)
    · exact .inl ⟨_, ⟨annotated, named⟩, listed⟩
    · refine .inr ⟨_, isKey, _, ⟨annotated, ?_⟩, listed⟩
      simpa only [statusNames, Bool.or_eq_true, decide_eq_true_eq, Text.hasSuffix_iff] using named

/-- The texts excluded for a live Pod are its claims without prefix lengths. -/
theorem mem_excludePod {netName : String} {pod : Pod} {text : String} :
    text ∈ excludePod netName pod ↔
      isLive pod = true ∧ text ≠ "" ∧ ∃ ip, Claims netName pod ip ∧ cleanIP ip = text := by
  by_cases live : isLive pod = true
  · simp only [excludePod, live, if_true, excludeIPs, List.mem_filter, List.mem_map,
      mem_claimedIPs, decide_eq_true_eq, true_and]
    exact and_comm
  · simp [excludePod, live]

inductive Excluded (cluster : Cluster) (netName : String) (netObj : Unstructured)
    (subnet : Subnet) (inUseSet : List String) (address : IPv4) : Prop where
  | gateway : address = subnet.gwIP → Excluded cluster netName netObj subnet inUseSet address
  | host {offset : Nat} : 2 ≤ offset → offset ≤ 9 →
      address.toNat = subnet.netIP.toNat + offset → address < subnet.broadcast →
      Excluded cluster netName netObj subnet inUseSet address
  | vip {raw entry : String} {entries : List String} :
      netObj.metadata.annotations.get? annotationLBServiceVIPs = some raw →
      unmarshalStrict decodeTexts [] raw = some entries → entry ∈ entries →
      Denotes (Text.trimSpace entry) address →
      Excluded cluster netName netObj subnet inUseSet address
  | gatewayCIDR {item : Unstructured} :
      item ∈ (cluster .gkeGatewayCIDR).list → specNetwork item = netName →
      Denotes (Text.trimSpace (specIP4CIDR item)) address →
      Excluded cluster netName netObj subnet inUseSet address
  | pod {pod : Pod} {ip : String} :
      pod ∈ (cluster .pod).list → isLive pod = true → Claims netName pod ip →
      parseIP4 (cleanIP ip) = some address →
      Excluded cluster netName netObj subnet inUseSet address
  | inUse {ip : String} : ip ∈ inUseSet → parseIP4 (cleanIP ip) = some address →
      Excluded cluster netName netObj subnet inUseSet address

/-- The addresses that the allocator reads are written as dotted quads. -/
structure DottedQuads (cluster : Cluster) (netName : String) (netObj : Unstructured)
    (inUseSet : List String) : Prop where
  vips : ∀ raw entries, netObj.metadata.annotations.get? annotationLBServiceVIPs = some raw →
    unmarshalStrict decodeTexts [] raw = some entries → ∀ entry ∈ entries, DottedBlock entry
  gatewayCIDRs : ∀ item ∈ (cluster .gkeGatewayCIDR).list, DottedBlock (specIP4CIDR item)
  pods : ∀ pod ∈ (cluster .pod).list, ∀ ip, Claims netName pod ip → Canonical (cleanIP ip)
  inUse : ∀ ip ∈ inUseSet, Canonical (cleanIP ip)

section Membership

variable {cluster : Cluster} {netName : String} {netObj : Unstructured} {subnet : Subnet}
  {inUseSet : List String} {address : IPv4}

/-- The host addresses are those at the reserved offsets below the broadcast
address. -/
theorem mem_hostAddresses (above : subnet.netIP < address) :
    dottedQuad address ∈ ((hostOffsets.takeWhile fun offset =>
      decide (subnet.netIP + offset < subnet.broadcast)).map fun offset =>
        dottedQuad (subnet.netIP + offset)) ↔
      ∃ offset, 2 ≤ offset ∧ offset ≤ 9 ∧ address.toNat = subnet.netIP.toNat + offset ∧
        address < subnet.broadcast := by
  have range : (2 : IPv4) ≤ 9 := by decide
  have bound := address.isLt
  simp only [List.mem_map, dottedQuad_inj]
  constructor
  · rintro ⟨offset, reached, rfl⟩
    have passed := List.mem_takeWhile_imp reached
    have member := (List.takeWhile_sublist _).mem reached
    obtain ⟨lower, upper⟩ := (mem_wordsThrough range offset).mp member
    simp only [BitVec.le_def, BitVec.lt_def, BitVec.toNat_add] at lower upper above
    refine ⟨offset.toNat, by simpa using lower, by simpa using upper, ?_, by simpa using passed⟩
    rw [BitVec.toNat_add]
    omega
  · rintro ⟨offset, lower, upper, sum, below⟩
    have word : (BitVec.ofNat 32 offset).toNat = offset := Nat.mod_eq_of_lt (by omega)
    refine ⟨.ofNat 32 offset, mem_takeWhile_increasing (wordsThrough_pairwise range) ?_ ?_, ?_⟩
    · rw [mem_wordsThrough range, BitVec.le_def, BitVec.le_def, word]
      exact ⟨lower, upper⟩
    · intro other _ notLater
      rw [BitVec.le_def, word] at notLater
      rw [decide_eq_true_eq, BitVec.lt_def, BitVec.toNat_add]
      rw [BitVec.lt_def] at below
      omega
    · apply BitVec.eq_of_toNat_eq
      rw [BitVec.toNat_add, word]
      omega

theorem mem_excludeVIPs
    (dotted : ∀ raw entries, netObj.metadata.annotations.get? annotationLBServiceVIPs = some raw →
      unmarshalStrict decodeTexts [] raw = some entries → ∀ entry ∈ entries, DottedBlock entry) :
    dottedQuad address ∈ excludeVIPs netObj ↔
      ∃ raw entries, netObj.metadata.annotations.get? annotationLBServiceVIPs = some raw ∧
        unmarshalStrict decodeTexts [] raw = some entries ∧
          ∃ entry ∈ entries, Denotes (Text.trimSpace entry) address := by
  unfold excludeVIPs
  cases found : netObj.metadata.annotations.get? annotationLBServiceVIPs with
  | none => simp
  | some raw =>
      by_cases empty : raw = ""
      · subst empty
        simp [unmarshalStrict_empty]
      · cases decoded : unmarshalStrict decodeTexts [] raw with
        | none => simp [empty, decoded]
        | some entries =>
            have membership := fun entry (listed : entry ∈ entries) =>
              mem_excludeIPRangeOrCIDR (dotted raw entries found decoded entry listed) address
            simp only [empty, if_false, decoded, Option.getD_some, List.mem_flatMap,
              Option.some.injEq, exists_and_left, exists_eq_left']
            exact exists_congr fun entry => and_congr_right fun listed => membership entry listed

theorem mem_excludeGatewayCIDR {item : Unstructured} (dotted : DottedBlock (specIP4CIDR item)) :
    dottedQuad address ∈ excludeGatewayCIDR netName item ↔
      specNetwork item = netName ∧ Denotes (Text.trimSpace (specIP4CIDR item)) address := by
  unfold excludeGatewayCIDR
  by_cases named : specNetwork item = netName
  · have membership := mem_excludeIPRangeOrCIDR dotted address
    by_cases empty : specIP4CIDR item = ""
    · simp [named, empty, not_denotes_empty]
    · simp [named, empty, membership]
  · simp [named]

/-- An address strictly inside the subnet is excluded exactly when its text is
collected. -/
theorem mem_exclusions (dotted : DottedQuads cluster netName netObj inUseSet)
    (gateway : subnet.gateway4 = dottedQuad subnet.gwIP)
    (above : subnet.netIP < address) (below : address < subnet.broadcast) :
    dottedQuad address ∈ exclusions cluster netName netObj subnet ++ inUseSet.map cleanIP ↔
      Excluded cluster netName netObj subnet inUseSet address := by
  have notNetwork : address ≠ subnet.netIP := by
    rintro rfl
    exact BitVec.lt_irrefl _ above
  have notBroadcast : address ≠ subnet.broadcast := by
    rintro rfl
    exact BitVec.lt_irrefl _ below
  simp only [exclusions, excludeInfrastructure, gateway, List.mem_append, List.mem_flatMap,
    mem_hostAddresses above, mem_excludeVIPs dotted.vips, mem_excludePod, List.mem_cons,
    List.not_mem_nil, or_false, dottedQuad_inj, notNetwork, notBroadcast, false_or]
  constructor
  · rintro (((((rfl | ⟨offset, lower, upper, sum, inside⟩) |
      ⟨raw, entries, annotated, decoded, entry, listed, denoted⟩) | ⟨item, stored, named⟩) |
        ⟨pod, stored, live, -, ip, claimed, written⟩) | listed)
    · exact .gateway rfl
    · exact .host lower upper sum inside
    · exact .vip annotated decoded listed denoted
    · rw [mem_excludeGatewayCIDR (dotted.gatewayCIDRs item stored)] at named
      exact .gatewayCIDR stored named.1 named.2
    · exact .pod stored live claimed (written ▸ parseIP4_dottedQuad address)
    · obtain ⟨ip, listed, written⟩ := List.mem_map.mp listed
      exact .inUse listed (written ▸ parseIP4_dottedQuad address)
  · rintro (rfl | ⟨lower, upper, sum, inside⟩ | ⟨annotated, decoded, listed, denoted⟩ |
      ⟨stored, named, denoted⟩ | ⟨stored, live, claimed, parsed⟩ | ⟨listed, parsed⟩)
    · exact .inl (.inl (.inl (.inl (.inl rfl))))
    · exact .inl (.inl (.inl (.inl (.inr ⟨_, lower, upper, sum, inside⟩))))
    · exact .inl (.inl (.inl (.inr ⟨_, _, annotated, decoded, _, listed, denoted⟩)))
    · refine .inl (.inl (.inr ⟨_, stored, ?_⟩))
      exact (mem_excludeGatewayCIDR (dotted.gatewayCIDRs _ stored)).mpr ⟨named, denoted⟩
    · have written := dotted.pods _ stored _ claimed _ parsed
      exact .inl (.inr ⟨_, stored, live, dottedQuad_ne_empty _, _, claimed, written⟩)
    · have written := dotted.inUse _ listed _ parsed
      exact .inr (List.mem_map.mpr ⟨_, listed, written⟩)

end Membership

end GemEmulation.Operator
