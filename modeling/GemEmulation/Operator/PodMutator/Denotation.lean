import GemEmulation.Operator.PodMutator.Exclusion

/-!
# What an entry of an address pool adds

`excludeIPRangeOrCIDR` adds the addresses that its argument denotes, but for blocks of
IPv4-mapped IPv6 addresses: of their sixteen mask bytes it reads the first four, which
are all ones, so it adds the network address only.
-/

namespace GemEmulation.Operator

open Foundations Kube Net

/-- The IPv4 addresses that a text without outer spaces stands for. -/
inductive Stands (text : String) : IPv4 → Prop where
  | range {first last : String} {start stop address : IPv4} :
      '-' ∉ first.toList → '-' ∉ last.toList →
      text.toList = first.toList ++ '-' :: last.toList →
      parseIP4 (Text.trimSpace first) = some start →
      parseIP4 (Text.trimSpace last) = some stop →
      start ≤ address → address ≤ stop → Stands text address
  | block {ipNet : IPNet} {address : IPv4} :
      parseCIDR text = some ipNet → ipNet.to4 ≠ none → ipNet.contains address = true →
      Stands text address
  | single {address : IPv4} : parseIP4 text = some address → Stands text address

/-- A block of several IPv4-mapped IPv6 addresses. -/
def WideMapped (text : String) : Prop :=
  ∃ ip ones, parseCIDR text = some (.v6 ip ones) ∧ to4 ip ≠ none ∧ ones < 128

/-- The texts that are added are those of the addresses that the text stands for. -/
def ExcludesExactly (entry : String) : Prop :=
  ∀ text, text ∈ excludeIPRangeOrCIDR entry ↔
    ∃ address, Stands (Text.trimSpace entry) address ∧ text = dottedQuad address

/-- `for u := u; ; u++ { …; if u == last { break } }`, with as many turns as there is fuel. -/
def countThrough (last : IPv4) : Nat → IPv4 → Option (List IPv4)
  | 0, _ => none
  | fuel + 1, u => if u = last then some [u] else (countThrough last fuel (u + 1)).map (u :: ·)

/-- A loop ends, also when its last word is the greatest one, and visits the words that it
counts through. -/
theorem countThrough_ends (first last : IPv4) :
    countThrough last ((last - first).toNat + 1) first = some (wordsThrough first last) := by
  rw [wordsThrough]
  generalize distance : (last - first).toNat = count
  induction count generalizing first with
  | zero =>
      have same : first = last := by
        have none : last - first = 0#32 := BitVec.eq_of_toNat_eq distance
        bv_omega
      rw [countThrough, if_pos same]
      rfl
  | succ count inductionHypothesis =>
      have apart : first ≠ last := by
        rintro rfl
        simp at distance
      have bound := (last - first).isLt
      have next : (last - (first + 1)).toNat = count := by
        bv_omega
      rw [countThrough, if_neg apart, inductionHypothesis (first + 1) next]
      rfl

/-- The mask of a block of IPv4-mapped addresses covers the words above the last one. -/
theorem mapped_long {text : String} {ip : IPv6} {ones : Nat}
    (parsed : parseCIDR text = some (.v6 ip ones)) (mapped : to4 ip ≠ none) :
    96 ≤ ones ∧ ones ≤ 128 := by
  obtain ⟨-, short, address, rfl⟩ := parseCIDR_v6 parsed
  refine ⟨?_, short⟩
  by_contra long
  have upper : (address &&& cidrMask ones 128).toNat / 2 ^ 32 = 0xffff := by
    by_contra other
    exact mapped (if_neg other)
  have bit : ((address &&& cidrMask ones 128).toNat / 2 ^ 32).testBit 0 = true := by
    rw [upper]
    decide
  rw [Nat.testBit_div_two_pow, BitVec.testBit_toNat, BitVec.getLsbD_and, cidrMask,
    BitVec.getLsbD_shiftLeft] at bit
  have below : 0 + 32 < 128 - ones := by omega
  simp [below] at bit

theorem maskWord_mapped {ip : IPv6} {ones : Nat} (long : 96 ≤ ones) :
    (IPNet.v6 ip ones).maskWord = BitVec.allOnes 32 := by
  ext place bound
  have covered : ¬ 96 + place < 128 - ones := by omega
  have inside : 96 + place < 128 := by omega
  have within : 96 + place - (128 - ones) < 128 := by omega
  simp only [IPNet.maskWord, cidrMask, BitVec.getElem_extractLsb', BitVec.getLsbD_shiftLeft,
    BitVec.getLsbD_allOnes, BitVec.getElem_allOnes]
  simp [covered, inside, within]

theorem wordsThrough_mapped {ip : IPv6} {ones : Nat} (long : 96 ≤ ones) (start : IPv4) :
    wordsThrough start (Net.broadcast start (IPNet.v6 ip ones).maskWord) = [start] := by
  rw [maskWord_mapped long, Net.broadcast, BitVec.not_allOnes, BitVec.or_zero, wordsThrough,
    BitVec.sub_self]
  rfl

theorem excludeIPRangeOrCIDR_mapped {entry : String} {ip : IPv6} {ones : Nat} {start : IPv4}
    (parsed : parseCIDR (Text.trimSpace entry) = some (.v6 ip ones))
    (mapped : to4 ip = some start) :
    excludeIPRangeOrCIDR entry = [dottedQuad start] := by
  obtain ⟨long, -⟩ := mapped_long parsed (by rw [mapped]; simp)
  have slash := slash_of_parseCIDR parsed
  have noDash := (parseCIDR_v6 parsed).1
  unfold excludeIPRangeOrCIDR
  generalize Text.trimSpace entry = text at parsed slash noDash
  have nonempty : text ≠ "" := by
    rintro rfl
    simp at slash
  have absent : Text.containsChar text '-' = false := by
    simpa [Text.containsChar] using noDash
  have contained : Text.containsChar text '/' = true := (Text.containsChar_iff text '/').mpr slash
  simp only [nonempty, if_false, absent, contained, if_true, Bool.false_eq_true, parsed, IPNet.to4,
    mapped, wordsThrough_mapped long, List.map_cons, List.map_nil]

theorem contains_mapped {ip : IPv6} {ones : Nat} {start address : IPv4}
    (mapped : to4 ip = some start) :
    (IPNet.v6 ip ones).contains address = true ↔
      start &&& (cidrMask ones 128).setWidth 32 = address &&& (cidrMask ones 128).setWidth 32 := by
  simp only [IPNet.contains, mapped, decide_eq_true_eq]

theorem stands_mapped_iff {text : String} {ip : IPv6} {ones : Nat} {start address : IPv4}
    (parsed : parseCIDR text = some (.v6 ip ones)) (mapped : to4 ip = some start) :
    Stands text address ↔
      start &&& (cidrMask ones 128).setWidth 32 = address &&& (cidrMask ones 128).setWidth 32 := by
  rw [← contains_mapped mapped]
  constructor
  · rintro (⟨_, _, shape, _⟩ | ⟨again, _, inside⟩ | written)
    · exact absurd (by simp [shape]) (parseCIDR_v6 parsed).1
    · cases parsed.symm.trans again
      exact inside
    · obtain ⟨found, accepted, -⟩ := Option.bind_eq_some_iff.mp written
      exact absurd rfl (parseIP_chars accepted _ (slash_of_parseCIDR parsed)).plain.2
  · exact .block parsed (by simp [IPNet.to4, mapped])

/-- A block of IPv4-mapped addresses is added in full exactly when it has one member. -/
theorem excludesExactly_mapped_iff {entry : String} {ip : IPv6} {ones : Nat} {start : IPv4}
    (parsed : parseCIDR (Text.trimSpace entry) = some (.v6 ip ones))
    (mapped : to4 ip = some start) :
    ExcludesExactly entry ↔ ¬ ones < 128 := by
  obtain ⟨-, short⟩ := mapped_long parsed (by rw [mapped]; simp)
  simp only [ExcludesExactly, excludeIPRangeOrCIDR_mapped parsed mapped, List.mem_singleton,
    stands_mapped_iff parsed mapped]
  constructor
  · intro exactly several
    have neighbour : start &&& (cidrMask ones 128).setWidth 32 =
        (start ^^^ 1) &&& (cidrMask ones 128).setWidth 32 := by
      ext place bound
      by_cases last : place = 0
      · subst last
        have cleared : 0 < 128 - ones := by omega
        simp [cidrMask, cleared]
      · simp [last]
    have added := (exactly (dottedQuad (start ^^^ 1))).mpr ⟨_, neighbour, rfl⟩
    have same := congrArg (·.getLsbD 0) (dottedQuad_injective added)
    simp at same
  · intro whole text
    obtain rfl : ones = 128 := by omega
    have full : (cidrMask 128 128).setWidth 32 = BitVec.allOnes 32 := by decide
    simp only [full, BitVec.and_allOnes]
    refine ⟨fun added => ⟨start, rfl, added⟩, ?_⟩
    rintro ⟨_, same, written⟩
    exact same ▸ written

theorem excludeIPRangeOrCIDR_dotted {entry text : String}
    (added : text ∈ excludeIPRangeOrCIDR entry) :
    ∃ address, text = dottedQuad address := by
  have mapped : ∀ words : List IPv4, text ∈ words.map dottedQuad → ∃ address, text =
      dottedQuad address :=
    fun words listed => (List.mem_map.mp listed).imp fun _ found => found.2.symm
  unfold excludeIPRangeOrCIDR at added
  dsimp only at added
  split at added
  next => cases added
  next =>
    split at added
    next =>
      split at added
      next =>
        split at added
        next =>
          split at added
          next => exact mapped _ added
          next => cases added
        next => cases added
      next => cases added
    next =>
      split at added
      next =>
        split at added
        next =>
          split at added
          next => exact mapped _ added
          next => cases added
        next => cases added
      next =>
        split at added
        next => exact ⟨_, List.mem_singleton.mp added⟩
        next => cases added

theorem stands_iff_denotes {entry : String} (dotted : DottedBlock entry) (address : IPv4) :
    Stands (Text.trimSpace entry) address ↔ Denotes (Text.trimSpace entry) address := by
  constructor
  · rintro (⟨absent, absent', shape, startParsed, stopParsed, lower, upper⟩ |
      ⟨parsed, isIPv4, inside⟩ | written)
    · exact .range absent absent' shape startParsed stopParsed lower upper
    · next ipNet =>
      cases ipNet with
      | v6 ip ones => exact absurd (dotted ip ones parsed) isIPv4
      | v4 network ones =>
          rw [IPNet.contains, decide_eq_true_eq, (parseCIDR_v4 parsed).1] at inside
          exact .block (fun dash => (parseCIDR_numeric parsed _ dash).ne_dash rfl) parsed
            inside.symm
    · obtain ⟨found, accepted, -⟩ := Option.bind_eq_some_iff.mp written
      have plain := fun c listed => (parseIP_chars accepted c listed).plain
      exact .single (fun dash => (plain _ dash).1 rfl) (fun slash => (plain _ slash).2 rfl) written
  · rintro (⟨_, _, written⟩ | ⟨absent, absent', shape, startParsed, stopParsed, lower, upper⟩ |
      ⟨_, parsed, inside⟩)
    · exact .single written
    · exact .range absent absent' shape startParsed stopParsed lower upper
    · refine .block parsed (by simp [IPNet.to4]) ?_
      rw [IPNet.contains, decide_eq_true_eq, (parseCIDR_v4 parsed).1, inside]

/-- The loops end, and exactly the addresses that the entry stands for are added unless it
is a block of several IPv4-mapped addresses. -/
theorem excludeIPRangeOrCIDR_exact_iff (entry : String) :
    (∀ first last, ∃ fuel, countThrough last fuel first = some (wordsThrough first last)) ∧
      (ExcludesExactly entry ↔ ¬ WideMapped (Text.trimSpace entry)) := by
  refine ⟨fun first last => ⟨_, countThrough_ends first last⟩, ?_⟩
  by_cases mapped : ∃ ip ones start,
      parseCIDR (Text.trimSpace entry) = some (.v6 ip ones) ∧ to4 ip = some start
  · obtain ⟨ip, ones, start, parsed, isIPv4⟩ := mapped
    rw [excludesExactly_mapped_iff parsed isIPv4, not_iff_not]
    refine ⟨fun several => ⟨ip, ones, parsed, by simp [isIPv4], several⟩, ?_⟩
    rintro ⟨ip', ones', again, -, several⟩
    cases parsed.symm.trans again
    exact several
  · have dotted : DottedBlock entry := by
      intro ip ones parsed
      refine Option.eq_none_iff_forall_ne_some.mpr fun start isIPv4 => mapped ?_
      exact ⟨ip, ones, start, parsed, isIPv4⟩
    refine iff_of_true (fun text => ?_) ?_
    · constructor
      · intro added
        obtain ⟨address, rfl⟩ := excludeIPRangeOrCIDR_dotted added
        exact ⟨address, (stands_iff_denotes dotted address).mpr
          ((mem_excludeIPRangeOrCIDR dotted address).mp added), rfl⟩
      · rintro ⟨address, stands, rfl⟩
        exact (mem_excludeIPRangeOrCIDR dotted address).mpr
          ((stands_iff_denotes dotted address).mp stands)
    · rintro ⟨ip, ones, parsed, isIPv4, -⟩
      exact isIPv4 (dotted ip ones parsed)

theorem mappedBlock_parsed :
    parseCIDR (Text.trimSpace "::ffff:10.0.0.0/120") =
      some (.v6 (as16 (ofOctets 10 0 0 0)) 120) := by
  decide

theorem mappedBlock_incomplete :
    excludeIPRangeOrCIDR "::ffff:10.0.0.0/120" = ["10.0.0.0"] ∧
      Stands (Text.trimSpace "::ffff:10.0.0.0/120") (ofOctets 10 0 0 7) ∧
        ¬ ExcludesExactly "::ffff:10.0.0.0/120" := by
  have mapped := to4_as16 (ofOctets 10 0 0 0)
  refine ⟨(excludeIPRangeOrCIDR_mapped mappedBlock_parsed mapped).trans (by rfl), ?_, ?_⟩
  · exact (stands_mapped_iff mappedBlock_parsed mapped).mpr (by decide)
  · rw [excludesExactly_mapped_iff mappedBlock_parsed mapped]
    decide

end GemEmulation.Operator
