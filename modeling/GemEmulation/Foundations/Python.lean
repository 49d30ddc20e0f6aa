import GemEmulation.Foundations.Text
import Mathlib.Computability.RegularExpressions

/-!
# Texts and patterns of Python

The functions of Python's `str` and `re` that the REST API uses.  Patterns are
regular expressions over characters, matched between `^` and `$`.
-/

namespace GemEmulation.Python

/-- `str.isspace` of a character. -/
def isSpace (c : Char) : Bool := Text.isSpace c || decide ('\x1c' ≤ c ∧ c ≤ '\x1f')

def strip (text : String) : String :=
  .ofList ((text.toList.dropWhile isSpace).rdropWhile isSpace)

/-- `str.isascii` and `str.isdigit`. -/
def isDecimal (text : String) : Bool :=
  !text.toList.isEmpty && text.toList.all fun c => (Text.decimalValue c).isSome

/-- `text.rsplit(separator, 1)[0]`. -/
def beforeLast (separator : Char) (text : String) : String :=
  if separator ∈ text.toList then
    .ofList (text.toList.rdropWhile fun c => decide (c ≠ separator)).dropLast
  else text

/-- `separator.join(text.split(separator)[:-1])`. -/
def joinInit (separator : Char) (text : String) : String :=
  Text.join (Text.split text separator).dropLast (.singleton separator)

theorem strip_eq_self {text : String} (clean : ∀ c ∈ text.toList, isSpace c = false) :
    strip text = text := by
  have left : text.toList.dropWhile isSpace = text.toList := by
    rw [List.dropWhile_eq_self_iff]
    intro nonempty
    simp [clean _ (List.getElem_mem nonempty)]
  have right : text.toList.rdropWhile isSpace = text.toList := by
    rw [List.rdropWhile_eq_self_iff]
    intro nonempty
    simp [clean _ (List.getLast_mem nonempty)]
  rw [strip, left, right, String.ofList_toList]

theorem strip_getLast {text : String} {c : Char}
    (last : (strip text).toList.getLast? = some c) : isSpace c = false := by
  rw [strip, String.toList_ofList] at last
  have nonempty : (text.toList.dropWhile isSpace).rdropWhile isSpace ≠ [] := by
    intro empty
    simp [empty] at last
  have visible := List.rdropWhile_last_not isSpace _ nonempty
  rw [List.getLast?_eq_some_getLast nonempty, Option.some.injEq] at last
  rw [← last]
  simpa using visible

theorem beforeLast_append {separator : Char} (first : String) {last : List Char}
    (absent : separator ∉ last) :
    beforeLast separator (first ++ .ofList (separator :: last)) = first := by
  have dropped : (first.toList ++ separator :: last).rdropWhile
      (fun c => decide (c ≠ separator)) = first.toList ++ [separator] := by
    rw [List.rdropWhile, List.reverse_append, List.reverse_cons, List.append_assoc,
      List.dropWhile_append_of_pos]
    · simp
    · intro c member
      have different : c ≠ separator := by
        rintro rfl
        exact absent (List.mem_reverse.mp member)
      simpa using different
  simp only [beforeLast, String.toList_append, String.toList_ofList, dropped]
  simp

theorem joinInit_append {separator : Char} (first : String) {last : List Char}
    (absent : separator ∉ last) :
    joinInit separator (first ++ .ofList (separator :: last)) = first := by
  simp only [joinInit, Text.split, Text.join, String.toList_append, String.toList_ofList,
    List.splitOn_append_cons_self, List.splitOn_eq_singleton absent, List.map_append,
    List.map_cons, List.map_nil, List.dropLast_concat]
  rw [← String.toList_inj, String.toList_intercalate]
  simp [List.map_map, Function.comp_def, List.intercalate_splitOn]

open RegularExpression

def oneOf (chars : String) : RegularExpression Char := (chars.toList.map char).sum

def zeroOrMore (pattern : RegularExpression Char) : RegularExpression Char := pattern.star

def oneOrMore (pattern : RegularExpression Char) : RegularExpression Char := pattern * pattern.star

def optional (pattern : RegularExpression Char) : RegularExpression Char := 1 + pattern

def exactly (text : String) : RegularExpression Char := (text.toList.map char).prod

/-- `re.match` of the pattern between `^` and `$`: the end of a text is also
before a line break that ends it. -/
def isMatch (pattern : RegularExpression Char) (text : String) : Bool :=
  pattern.rmatch text.toList ||
    (decide (text.toList.getLast? = some '\n') && pattern.rmatch text.toList.dropLast)

theorem mem_oneOf {chars : String} {text : List Char} :
    text ∈ (oneOf chars).matches' ↔ ∃ c ∈ chars.toList, text = [c] := by
  rw [oneOf]
  induction chars.toList with
  | nil => simp
  | cons first rest inductionHypothesis =>
      rw [List.map_cons, List.sum_cons, matches'_add, Language.mem_add, inductionHypothesis,
        matches'_char, List.exists_mem_cons_iff]
      exact Iff.rfl

theorem mem_zeroOrMore_oneOf {chars : String} {text : List Char} :
    text ∈ (zeroOrMore (oneOf chars)).matches' ↔ ∀ c ∈ text, c ∈ chars.toList := by
  rw [zeroOrMore, matches'_star, Language.mem_kstar]
  constructor
  · rintro ⟨parts, rfl, listed⟩ c member
    obtain ⟨part, partMember, inPart⟩ := List.mem_flatten.mp member
    obtain ⟨found, foundMember, rfl⟩ := mem_oneOf.mp (listed part partMember)
    rwa [List.mem_singleton.mp inPart]
  · intro listed
    have parts : text = (text.map fun c => [c]).flatten := by
      rw [← List.flatMap_def, List.flatMap_singleton']
    refine ⟨text.map fun c => [c], parts, ?_⟩
    intro part member
    obtain ⟨c, charMember, rfl⟩ := List.mem_map.mp member
    exact mem_oneOf.mpr ⟨c, listed c charMember, rfl⟩

theorem mem_oneOrMore_oneOf {chars : String} {text : List Char} :
    text ∈ (oneOrMore (oneOf chars)).matches' ↔ text ≠ [] ∧ ∀ c ∈ text, c ∈ chars.toList := by
  rw [oneOrMore, matches'_mul, Language.mem_mul]
  constructor
  · rintro ⟨first, firstMember, rest, restMember, rfl⟩
    obtain ⟨c, listed, rfl⟩ := mem_oneOf.mp firstMember
    refine ⟨List.cons_ne_nil _ _, fun found member => ?_⟩
    rcases List.mem_cons.mp member with rfl | later
    · exact listed
    · exact mem_zeroOrMore_oneOf.mp restMember found later
  · rintro ⟨nonempty, listed⟩
    obtain ⟨first, rest, rfl⟩ := List.exists_cons_of_ne_nil nonempty
    exact ⟨[first], mem_oneOf.mpr ⟨first, listed first List.mem_cons_self, rfl⟩, rest,
      mem_zeroOrMore_oneOf.mpr fun c member => listed c (List.mem_cons_of_mem _ member), rfl⟩

theorem mem_exactly {word : String} {text : List Char} :
    text ∈ (exactly word).matches' ↔ text = word.toList := by
  rw [exactly]
  induction word.toList generalizing text with
  | nil => simp
  | cons first rest inductionHypothesis =>
      rw [List.map_cons, List.prod_cons, matches'_mul, Language.mem_mul]
      constructor
      · rintro ⟨_, rfl, others, member, rfl⟩
        rw [inductionHypothesis.mp member]
        rfl
      · rintro rfl
        exact ⟨[first], rfl, rest, inductionHypothesis.mpr rfl, rfl⟩

theorem isMatch_iff {pattern : RegularExpression Char} {text : String}
    (unbroken : text.toList.getLast? ≠ some '\n') :
    isMatch pattern text = true ↔ text.toList ∈ pattern.matches' := by
  simp only [isMatch, unbroken, decide_false, Bool.false_and, Bool.or_false]
  exact rmatch_iff_matches' pattern text.toList

end GemEmulation.Python
