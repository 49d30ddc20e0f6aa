import GemEmulation.Net.Address

/-!
# Address blocks

`net.CIDRMask`, `net.ParseCIDR` and `net.IPNet.Contains`, and the consecutive
addresses that a counting loop over words visits.
-/

namespace GemEmulation.Net

open Text (decimalValue)

/-- `net.CIDRMask`: as many leading ones. -/
def cidrMask (ones bits : Nat) : BitVec bits := BitVec.allOnes bits <<< (bits - ones)

/-- The last address of the block of `start`. -/
def broadcast (start mask : IPv4) : IPv4 := start ||| ~~~ mask

theorem toNat_and_cidrMask (address : IPv4) (ones : Nat) :
    (address &&& cidrMask ones 32).toNat =
      address.toNat / 2 ^ (32 - ones) * 2 ^ (32 - ones) := by
  have shifted : address &&& cidrMask ones 32 = (address >>> (32 - ones)) <<< (32 - ones) := by
    ext place bound
    simp only [cidrMask, BitVec.getElem_and, BitVec.getElem_shiftLeft, BitVec.getElem_allOnes,
      BitVec.getElem_ushiftRight]
    by_cases low : place < 32 - ones
    · simp [low]
    · simp [low, BitVec.getLsbD_eq_getElem bound, show 32 - ones + (place - (32 - ones)) = place
        by omega]
  have bounded : address.toNat / 2 ^ (32 - ones) * 2 ^ (32 - ones) < 2 ^ 32 :=
    lt_of_le_of_lt (Nat.div_mul_le_self _ _) address.isLt
  rw [shifted, BitVec.toNat_shiftLeft, BitVec.toNat_ushiftRight, Nat.shiftLeft_eq,
    Nat.shiftRight_eq_div_pow, Nat.mod_eq_of_lt bounded]

theorem toNat_not_cidrMask (ones : Nat) :
    (~~~ cidrMask ones 32).toNat = 2 ^ (32 - ones) - 1 := by
  have low : ~~~ cidrMask ones 32 = (BitVec.allOnes (32 - ones)).setWidth 32 := by
    ext place bound
    by_cases below : place < 32 - ones
    · simp [cidrMask, BitVec.getElem_shiftLeft, below]
    · simp only [cidrMask, BitVec.getElem_not, BitVec.getElem_shiftLeft, BitVec.getElem_allOnes,
        BitVec.getElem_setWidth, BitVec.getLsbD_allOnes, below]
      rfl
  have bounded : 2 ^ (32 - ones) ≤ 2 ^ 32 := Nat.pow_le_pow_right (by decide) (by omega)
  have positive : 0 < 2 ^ (32 - ones) := Nat.two_pow_pos _
  rw [low, BitVec.toNat_setWidth, BitVec.toNat_allOnes, Nat.mod_eq_of_lt (by omega)]

theorem toNat_broadcast (address : IPv4) (ones : Nat) :
    (broadcast (address &&& cidrMask ones 32) (cidrMask ones 32)).toNat =
      (address &&& cidrMask ones 32).toNat + (2 ^ (32 - ones) - 1) := by
  have disjoint : address &&& cidrMask ones 32 &&& ~~~ cidrMask ones 32 = 0#32 := by
    rw [BitVec.and_assoc, BitVec.and_not_self]
    simp
  rw [broadcast, ← BitVec.add_eq_or_of_and_eq_zero _ _ disjoint,
    BitVec.toNat_add_of_and_eq_zero disjoint, toNat_not_cidrMask]

/-- An address lies in a block exactly when masking it gives the block's start. -/
theorem and_cidrMask_eq_iff (address other : IPv4) (ones : Nat) :
    other &&& cidrMask ones 32 = address &&& cidrMask ones 32 ↔
      address &&& cidrMask ones 32 ≤ other ∧
        other ≤ broadcast (address &&& cidrMask ones 32) (cidrMask ones 32) := by
  have positive : 0 < 2 ^ (32 - ones) := Nat.two_pow_pos _
  rw [BitVec.le_def, BitVec.le_def, toNat_broadcast, ← BitVec.toNat_inj, toNat_and_cidrMask,
    toNat_and_cidrMask]
  generalize 2 ^ (32 - ones) = size at positive
  have division := Nat.div_add_mod' other.toNat size
  have remainder := Nat.mod_lt other.toNat positive
  constructor
  · intro equality
    omega
  · rintro ⟨lower, upper⟩
    rw [Nat.div_eq_of_lt_le lower (by rw [Nat.add_mul]; omega)]

inductive IPNet where
  | v4 (ip : IPv4) (ones : Nat)
  | v6 (ip : IPv6) (ones : Nat)
  deriving DecidableEq

namespace IPNet

def to4 : IPNet → Option IPv4
  | v4 ip _ => some ip
  | v6 ip _ => Net.to4 ip

/-- The first four bytes of `ipNet.Mask`. -/
def maskWord : IPNet → IPv4
  | v4 _ ones => cidrMask ones 32
  | v6 _ ones => (cidrMask ones 128).extractLsb' 96 32

/-- `IPNet.Contains` for an IPv4 address. -/
def contains (net : IPNet) (address : IPv4) : Bool :=
  match net with
  | v4 ip ones => decide (ip &&& cidrMask ones 32 = address &&& cidrMask ones 32)
  | v6 ip ones =>
      -- A network in `::ffff:0:0/96` is compared under the last four mask bytes.
      match Net.to4 ip with
      | some base =>
          let mask := (cidrMask ones 128).setWidth 32
          decide (base &&& mask = address &&& mask)
      | none => false

end IPNet

def big : Nat := 0xFFFFFF

/-- `dtoi` for a text of digits only. -/
def dtoi : List Char → Nat → Option Nat
  | [], value => some value
  | c :: rest, value => do
      let digit ← decimalValue c
      if big ≤ value * 10 + digit then none else dtoi rest (value * 10 + digit)

def parseOnes (text : List Char) (bits : Nat) : Option Nat :=
  if text = [] then none
  else (dtoi text 0).filter fun ones => ones ≤ bits

/-- `net.ParseCIDR`, the network it returns. -/
def parseCIDR (text : String) : Option IPNet :=
  match text.toList.span fun c => decide (c ≠ '/') with
  | (_, []) => none
  | (front, _ :: ones) =>
      match parseAddr (.ofList front) with
      | some (.v4 address) => (parseOnes ones 32).map fun length =>
          .v4 (address &&& cidrMask length 32) length
      | some (.v6 address []) => (parseOnes ones 128).map fun length =>
          .v6 (address &&& cidrMask length 128) length
      | _ => none

def IsNumeric (c : Char) : Prop := c.isDigit = true ∨ c = '.' ∨ c = '/'

theorem IsNumeric.visible {c : Char} (numeric : IsNumeric c) : Text.isSpace c = false := by
  rcases numeric with digit | rfl | rfl
  · exact Text.isSpace_of_isDigit digit
  · decide
  · decide

theorem IsNumeric.ne_dash {c : Char} (numeric : IsNumeric c) : c ≠ '-' := by
  rintro rfl
  revert numeric
  unfold IsNumeric
  decide

theorem parseIPv4Fields_numeric {text : List Char} {fields octets : List Nat}
    {value digits : Nat} (parsed : parseIPv4Fields text fields value digits = some octets) :
    ∀ c ∈ text, IsNumeric c := by
  induction text generalizing fields value digits with
  | nil => simp
  | cons c rest inductionHypothesis =>
      rw [parseIPv4Fields] at parsed
      split at parsed
      next digit isDigit =>
        split_ifs at parsed
        exact List.forall_mem_cons.mpr
          ⟨.inl (Text.isDigit_of_decimalValue isDigit), inductionHypothesis parsed⟩
      next =>
        split_ifs at parsed with dot
        exact List.forall_mem_cons.mpr ⟨.inr (.inl dot), inductionHypothesis parsed⟩

theorem dtoi_numeric {text : List Char} {value ones : Nat} (parsed : dtoi text value = some ones) :
    ∀ c ∈ text, IsNumeric c := by
  induction text generalizing value with
  | nil => simp
  | cons c rest inductionHypothesis =>
      obtain ⟨digit, isDigit, parsed⟩ := Option.bind_eq_some_iff.mp parsed
      split at parsed
      next => contradiction
      next =>
        exact List.forall_mem_cons.mpr
          ⟨.inl (Text.isDigit_of_decimalValue isDigit), inductionHypothesis parsed⟩

theorem parseAddr_numeric {text : String} {address : IPv4}
    (parsed : parseAddr text = some (.v4 address)) : ∀ c ∈ text.toList, IsNumeric c := by
  unfold parseAddr at parsed
  split at parsed
  next =>
    split at parsed
    next fields => exact parseIPv4Fields_numeric fields
    next => contradiction
  next =>
    split at parsed
    next => contradiction
    next => simp at parsed
    next => simp at parsed
  next => contradiction

theorem parseOnes_numeric {text : List Char} {bits ones : Nat}
    (parsed : parseOnes text bits = some ones) : ∀ c ∈ text, IsNumeric c := by
  unfold parseOnes at parsed
  split at parsed
  next => contradiction
  next => exact dtoi_numeric (Option.filter_eq_some_iff.mp parsed).1

theorem parseOnes_le {text : List Char} {bits ones : Nat}
    (parsed : parseOnes text bits = some ones) :
    ones ≤ bits := by
  unfold parseOnes at parsed
  split at parsed
  next => contradiction
  next => simpa using (Option.filter_eq_some_iff.mp parsed).2

theorem parseCIDR_numeric {text : String} {network : IPv4} {ones : Nat}
    (parsed : parseCIDR text = some (.v4 network ones)) : ∀ c ∈ text.toList, IsNumeric c := by
  unfold parseCIDR at parsed
  rw [List.span_eq_takeWhile_dropWhile] at parsed
  split at parsed
  next => contradiction
  next front slash rest parts =>
    obtain ⟨rfl, back⟩ := Prod.mk.inj parts
    split at parsed
    next address isAddress =>
      obtain ⟨length, lengthParsed, -⟩ := Option.map_eq_some_iff.mp parsed
      have frontNumeric := parseAddr_numeric isAddress
      rw [String.toList_ofList] at frontNumeric
      have isSlash : slash = '/' := by
        have stopped := List.head?_dropWhile_not (fun c => decide (c ≠ '/')) text.toList
        rw [back] at stopped
        simpa using stopped
      intro c membership
      rw [← List.takeWhile_append_dropWhile (p := fun c => decide (c ≠ '/')) (l := text.toList),
        back, List.mem_append, List.mem_cons] at membership
      rcases membership with inFront | rfl | inRest
      · exact frontNumeric c inFront
      · exact .inr (.inr isSlash)
      · exact parseOnes_numeric lengthParsed c inRest
    next => simp at parsed
    next => contradiction

theorem cidrMask_idempotent (address : IPv4) (ones : Nat) :
    address &&& cidrMask ones 32 &&& cidrMask ones 32 = address &&& cidrMask ones 32 := by
  rw [BitVec.and_assoc, BitVec.and_self]

theorem parseCIDR_v4 {text : String} {network : IPv4} {ones : Nat}
    (parsed : parseCIDR text = some (.v4 network ones)) :
    network &&& cidrMask ones 32 = network ∧ ones ≤ 32 := by
  simp only [parseCIDR] at parsed
  split at parsed
  next => cases parsed
  next =>
    split at parsed
    next =>
      obtain ⟨length, measured, shape⟩ := Option.map_eq_some_iff.mp parsed
      cases shape
      exact ⟨cidrMask_idempotent _ _, parseOnes_le measured⟩
    next =>
      obtain ⟨length, -, shape⟩ := Option.map_eq_some_iff.mp parsed
      cases shape
    next => cases parsed

/-- What `net.ParseCIDR` returns for an IPv6 block, which is written without a dash. -/
theorem parseCIDR_v6 {text : String} {ip : IPv6} {ones : Nat}
    (parsed : parseCIDR text = some (.v6 ip ones)) :
    '-' ∉ text.toList ∧ ones ≤ 128 ∧ ∃ address, ip = address &&& cidrMask ones 128 := by
  unfold parseCIDR at parsed
  rw [List.span_eq_takeWhile_dropWhile] at parsed
  split at parsed
  next => contradiction
  next front slash rest parts =>
    obtain ⟨rfl, back⟩ := Prod.mk.inj parts
    split at parsed
    next => simp at parsed
    next address isAddress =>
      obtain ⟨length, lengthParsed, shape⟩ := Option.map_eq_some_iff.mp parsed
      cases shape
      refine ⟨fun dash => ?_, parseOnes_le lengthParsed, address, rfl⟩
      have frontChars := parseAddr_chars isAddress nofun
      rw [String.toList_ofList] at frontChars
      rw [← List.takeWhile_append_dropWhile (p := fun c => decide (c ≠ '/')) (l := text.toList),
        back, List.mem_append, List.mem_cons] at dash
      rcases dash with inFront | isSlash | inRest
      · exact (frontChars _ inFront).plain.1 rfl
      · have stopped := List.head?_dropWhile_not (fun c => decide (c ≠ '/')) text.toList
        rw [back, ← isSlash] at stopped
        simp at stopped
      · exact (parseOnes_numeric lengthParsed _ inRest).ne_dash rfl
    next => contradiction

/-- `allocIP[3]++` on the bytes of an address. -/
def incrementLastByte (address : IPv4) : IPv4 :=
  (address &&& 0xffffff00#32) ||| ((address + 1) &&& 0xff#32)

def wordsFrom (start : IPv4) : Nat → List IPv4
  | 0 => []
  | count + 1 => start :: wordsFrom (start + 1) count

/-- `for u := first; ; u++ { …; if u == last { break } }`. -/
def wordsThrough (first last : IPv4) : List IPv4 :=
  wordsFrom first ((last - first).toNat + 1)

/-- `for u := first; u < limit; u++ { … }`. -/
def wordsBelow (first limit : IPv4) : List IPv4 :=
  wordsFrom first (limit.toNat - first.toNat)

theorem toNat_succ (start : IPv4) (room : start.toNat + 1 < 2 ^ 32) :
    (start + 1).toNat = start.toNat + 1 := by
  rw [BitVec.toNat_add]
  exact Nat.mod_eq_of_lt room

theorem mem_wordsFrom {start : IPv4} {count : Nat} (room : start.toNat + count ≤ 2 ^ 32)
    (address : IPv4) :
    address ∈ wordsFrom start count ↔
      start.toNat ≤ address.toNat ∧ address.toNat < start.toNat + count := by
  induction count generalizing start with
  | zero =>
      simp only [wordsFrom, List.not_mem_nil, false_iff]
      omega
  | succ count inductionHypothesis =>
      rw [wordsFrom, List.mem_cons, ← BitVec.toNat_inj]
      cases count with
      | zero =>
          simp only [wordsFrom, List.not_mem_nil, or_false]
          omega
      | succ count =>
          have next := toNat_succ start (by omega)
          rw [inductionHypothesis (by omega), next]
          omega

theorem mem_wordsThrough {first last : IPv4} (order : first ≤ last) (address : IPv4) :
    address ∈ wordsThrough first last ↔ first ≤ address ∧ address ≤ last := by
  rw [BitVec.le_def] at order
  have bound := last.isLt
  have distance : (last - first).toNat = last.toNat - first.toNat :=
    BitVec.toNat_sub_of_le order
  rw [wordsThrough, distance, mem_wordsFrom (by omega), BitVec.le_def, BitVec.le_def]
  omega

theorem mem_wordsBelow (first limit address : IPv4) :
    address ∈ wordsBelow first limit ↔ first ≤ address ∧ address < limit := by
  have bound := first.isLt
  have bound' := limit.isLt
  rw [wordsBelow, mem_wordsFrom (by omega), BitVec.le_def, BitVec.lt_def]
  omega

theorem wordsFrom_pairwise {start : IPv4} {count : Nat} (room : start.toNat + count ≤ 2 ^ 32) :
    (wordsFrom start count).Pairwise (· < ·) := by
  induction count generalizing start with
  | zero => exact .nil
  | succ count inductionHypothesis =>
      cases count with
      | zero => simp [wordsFrom]
      | succ count =>
          have next := toNat_succ start (by omega)
          refine .cons ?_ (inductionHypothesis (by omega))
          intro address membership
          rw [mem_wordsFrom (by omega), next] at membership
          rw [BitVec.lt_def]
          omega

theorem wordsBelow_pairwise (first limit : IPv4) :
    (wordsBelow first limit).Pairwise (· < ·) := by
  have bound := first.isLt
  have bound' := limit.isLt
  exact wordsFrom_pairwise (by omega)

theorem wordsThrough_pairwise {first last : IPv4} (order : first ≤ last) :
    (wordsThrough first last).Pairwise (· < ·) := by
  have bound := last.isLt
  have distance : (last - first).toNat = last.toNat - first.toNat :=
    BitVec.toNat_sub_of_le order
  rw [BitVec.le_def] at order
  exact wordsFrom_pairwise (by omega)

/-- A loop over an increasing list reaches every element up to which its
condition holds. -/
theorem mem_takeWhile_increasing {words : List IPv4} (increasing : words.Pairwise (· < ·))
    {passes : IPv4 → Bool} {word : IPv4} (membership : word ∈ words)
    (passed : ∀ other ∈ words, other ≤ word → passes other = true) :
    word ∈ words.takeWhile passes := by
  induction words with
  | nil => simp at membership
  | cons head rest inductionHypothesis =>
      obtain ⟨smaller, increasing⟩ := List.pairwise_cons.mp increasing
      have below : head ≤ word := by
        rcases List.mem_cons.mp membership with rfl | inRest
        · exact BitVec.le_refl _
        · exact BitVec.le_of_lt (smaller word inRest)
      rw [List.takeWhile_cons_of_pos (passed head (by simp) below)]
      rcases List.mem_cons.mp membership with rfl | inRest
      · simp
      · exact List.mem_cons_of_mem _ (inductionHypothesis increasing inRest
          fun other inList => passed other (by simp [inList]))

theorem find?_increasing {words : List IPv4} (increasing : words.Pairwise (· < ·))
    (passes : IPv4 → Bool) (found : IPv4) :
    words.find? passes = some found ↔
      found ∈ words ∧ passes found = true ∧
        ∀ other ∈ words, other < found → passes other = false := by
  induction words with
  | nil => simp
  | cons head rest inductionHypothesis =>
      obtain ⟨smaller, increasing⟩ := List.pairwise_cons.mp increasing
      by_cases passed : passes head = true
      · rw [List.find?_cons_of_pos passed, Option.some.injEq]
        constructor
        · rintro rfl
          refine ⟨by simp, passed, fun other membership below => ?_⟩
          rcases List.mem_cons.mp membership with rfl | inRest
          · exact absurd below (BitVec.lt_irrefl _)
          · exact absurd (BitVec.lt_trans below (smaller other inRest)) (BitVec.lt_irrefl _)
        · rintro ⟨membership, -, least⟩
          rcases List.mem_cons.mp membership with rfl | inRest
          · rfl
          · rw [least head (by simp) (smaller found inRest)] at passed
            contradiction
      · rw [List.find?_cons_of_neg passed, inductionHypothesis increasing]
        constructor
        · rintro ⟨membership, passedFound, least⟩
          refine ⟨by simp [membership], passedFound, fun other inList below => ?_⟩
          rcases List.mem_cons.mp inList with rfl | inRest
          · simpa using passed
          · exact least other inRest below
        · rintro ⟨membership, passedFound, least⟩
          rcases List.mem_cons.mp membership with rfl | inRest
          · exact absurd passedFound passed
          · exact ⟨inRest, passedFound, fun other inList => least other (by simp [inList])⟩

theorem find?_wordsBelow_eq_some (passes : IPv4 → Bool) (first limit found : IPv4) :
    (wordsBelow first limit).find? passes = some found ↔
      (first ≤ found ∧ found < limit) ∧ passes found = true ∧
        ∀ other, first ≤ other → other < found → passes other = false := by
  rw [find?_increasing (wordsBelow_pairwise first limit), mem_wordsBelow]
  refine and_congr_right fun bounds => and_congr_right fun _ => ?_
  constructor
  · intro least other above below
    exact least other ((mem_wordsBelow first limit other).mpr
      ⟨above, BitVec.lt_trans below bounds.2⟩) below
  · intro least other membership
    exact least other ((mem_wordsBelow first limit other).mp membership).1

end GemEmulation.Net
