import Mathlib.Data.List.DropRight
import Mathlib.Data.List.TakeWhile

/-!
# Text functions of Go's standard library

The functions of package `strings` that the operator uses, on Lean strings
(valid Unicode texts).  Each is a list function between `String.toList` and
`String.ofList`, so that the list lemmas of the library apply.
-/

namespace GemEmulation.Text

def isSpace (c : Char) : Bool :=
  c ∈ ['\t', '\n', '\x0b', '\x0c', '\r', ' ', '\x85', '\xa0', '\u1680',
    '\u2028', '\u2029', '\u202f', '\u205f', '\u3000'] ||
  decide (0x2000 ≤ c.toNat ∧ c.toNat ≤ 0x200a)

def decimalValue (c : Char) : Option Nat :=
  if '0' ≤ c ∧ c ≤ '9' then some (c.toNat - '0'.toNat) else none

def natural (digits : List Char) : Nat :=
  digits.foldl (fun value c => value * 10 + (decimalValue c).getD 0) 0

def hexValue (c : Char) : Option Nat :=
  if '0' ≤ c ∧ c ≤ '9' then some (c.toNat - '0'.toNat)
  else if 'a' ≤ c ∧ c ≤ 'f' then some (c.toNat - 'a'.toNat + 10)
  else if 'A' ≤ c ∧ c ≤ 'F' then some (c.toNat - 'A'.toNat + 10)
  else none

def trimSpace (text : String) : String :=
  .ofList ((text.toList.dropWhile isSpace).rdropWhile isSpace)

/-- `strings.Split` at a separator of one character. -/
def split (text : String) (separator : Char) : List String :=
  (text.toList.splitOn separator).map String.ofList

/-- `strings.Contains` for a substring of one character. -/
def containsChar (text : String) (c : Char) : Bool := text.toList.contains c

def hasSuffix (text suffix : String) : Bool :=
  suffix.toList.isSuffixOf text.toList

/-- Whether `pattern` occurs in a list. -/
def occursIn (pattern : List Char) : List Char → Bool
  | [] => pattern.isEmpty
  | c :: rest => pattern.isPrefixOf (c :: rest) || occursIn pattern rest

def contains (text pattern : String) : Bool :=
  occursIn pattern.toList text.toList

def join (parts : List String) (separator : String) : String :=
  separator.intercalate parts

/-- The characters after the last `separator`, or all of them. -/
def afterLast (separator : Char) (text : String) : String :=
  .ofList (text.toList.rtakeWhile (fun c => decide (c ≠ separator)))

theorem trimSpace_eq_self {text : String}
    (clean : ∀ c ∈ text.toList, isSpace c = false) : trimSpace text = text := by
  have left : text.toList.dropWhile isSpace = text.toList := by
    rw [List.dropWhile_eq_self_iff]
    intro nonempty
    simp [clean _ (List.getElem_mem nonempty)]
  have right : text.toList.rdropWhile isSpace = text.toList := by
    rw [List.rdropWhile_eq_self_iff]
    intro nonempty
    simp [clean _ (List.getLast_mem nonempty)]
  rw [trimSpace, left, right, String.ofList_toList]

theorem isSpace_of_isDigit {c : Char} (digit : c.isDigit = true) : isSpace c = false := by
  have bound : c.toNat ≤ 57 := by
    simp only [Char.isDigit, Bool.and_eq_true, decide_eq_true_eq] at digit
    exact digit.2
  have notListed : c ∉ ['\t', '\n', '\x0b', '\x0c', '\r', ' ', '\x85', '\xa0', '\u1680',
      '\u2028', '\u2029', '\u202f', '\u205f', '\u3000'] := by
    intro listed
    simp only [List.mem_cons, List.not_mem_nil, or_false] at listed
    rcases listed with rfl | rfl | rfl | rfl | rfl | rfl | rfl | rfl | rfl | rfl | rfl | rfl |
      rfl | rfl <;> revert digit <;> decide
  simp only [isSpace, notListed, decide_false, Bool.false_or, decide_eq_false_iff_not]
  omega

theorem isDigit_of_decimalValue {c : Char} {digit : Nat} (value : decimalValue c = some digit) :
    c.isDigit = true := by
  unfold decimalValue at value
  split at value
  next range =>
    simp only [Char.isDigit, Bool.and_eq_true, decide_eq_true_eq]
    exact range
  next => contradiction

theorem repr_injective : Function.Injective Nat.repr := by
  intro first second equality
  have digits := congrArg String.toList equality
  simp only [Nat.repr_eq_ofList_toDigits, String.toList_ofList] at digits
  rw [← Nat.ofDigitChars_ten_toDigits (n := first), digits, Nat.ofDigitChars_ten_toDigits]

theorem isSome_hexValue {c : Char} {digit : Nat} (value : decimalValue c = some digit) :
    (hexValue c).isSome = true := by
  unfold decimalValue at value
  split at value
  next range => simp [hexValue, range]
  next => contradiction

@[simp]
theorem trimSpace_empty : trimSpace "" = "" := by
  simp [trimSpace]

theorem trimSpace_ne_empty {text : String} {c : Char} (listed : c ∈ text.toList)
    (visible : isSpace c = false) : trimSpace text ≠ "" := by
  intro blank
  have nothing : (text.toList.dropWhile isSpace).rdropWhile isSpace = [] := by
    simpa [trimSpace] using blank
  rw [List.rdropWhile_eq_nil_iff] at nothing
  have remains : text.toList.dropWhile isSpace ≠ [] := by
    intro empty
    rw [List.dropWhile_eq_nil_iff.mp empty c listed] at visible
    contradiction
  have space := nothing _ (List.head_mem remains)
  rw [List.head_dropWhile_not isSpace remains] at space
  contradiction

theorem split_eq_singleton {text : String} {separator : Char}
    (absent : separator ∉ text.toList) : split text separator = [text] := by
  rw [split, List.splitOn_eq_singleton absent]
  simp

theorem split_append_separator {first rest : String} {separator : Char}
    (absent : separator ∉ first.toList) :
    split (first ++ .ofList (separator :: rest.toList)) separator =
      first :: split rest separator := by
  simp only [split, String.toList_append, String.toList_ofList]
  rw [List.splitOn_append_cons_self_of_not_mem absent]
  simp

theorem join_split (text : String) (separator : Char) :
    join (split text separator) (.singleton separator) = text := by
  rw [join, ← String.toList_inj, String.toList_intercalate, split, List.map_map]
  simp [Function.comp_def, List.intercalate_splitOn]

theorem split_join {parts : List String} (nonempty : parts ≠ []) {separator : Char}
    (absent : ∀ part ∈ parts, separator ∉ part.toList) :
    split (join parts (.singleton separator)) separator = parts := by
  have absent' : ∀ letters ∈ parts.map String.toList, separator ∉ letters := by
    intro letters member
    obtain ⟨part, listed, rfl⟩ := List.mem_map.mp member
    exact absent part listed
  rw [split, join, String.toList_intercalate, String.toList_singleton,
    List.splitOn_intercalate separator absent' (by simpa using nonempty), List.map_map]
  simp [Function.comp_def]

theorem containsChar_iff (text : String) (c : Char) :
    containsChar text c = true ↔ c ∈ text.toList := by
  simp [containsChar]

theorem split_eq_pair_iff (text first last : String) (separator : Char) :
    split text separator = [first, last] ↔
      separator ∉ first.toList ∧ separator ∉ last.toList ∧
        text.toList = first.toList ++ separator :: last.toList := by
  constructor
  · intro parts
    by_cases present : separator ∈ text.toList
    · obtain ⟨front, back, equality, absent⟩ := List.eq_append_cons_of_mem present
      simp only [split, equality, List.splitOn_append_cons_self_of_not_mem absent,
        List.map_cons, List.cons.injEq] at parts
      obtain ⟨rfl, rest⟩ := parts
      by_cases again : separator ∈ back
      · obtain ⟨more, tail, rfl, absent'⟩ := List.eq_append_cons_of_mem again
        simp only [List.splitOn_append_cons_self_of_not_mem absent', List.map_cons,
          List.cons.injEq, List.map_eq_nil_iff] at rest
        exact absurd rest.2 (List.splitOn_ne_nil _ _)
      · rw [List.splitOn_eq_singleton again] at rest
        simp only [List.map_cons, List.map_nil, List.cons.injEq, and_true] at rest
        subst rest
        exact ⟨by simpa using absent, by simpa using again, by simpa using equality⟩
    · rw [split_eq_singleton present] at parts
      simp at parts
  · rintro ⟨absent, absent', equality⟩
    rw [split, equality, List.splitOn_append_cons_self_of_not_mem absent,
      List.splitOn_eq_singleton absent']
    simp

theorem hasSuffix_iff (text suffix : String) :
    hasSuffix text suffix = true ↔ ∃ front, text = front ++ suffix := by
  rw [hasSuffix, List.isSuffixOf_iff_suffix]
  constructor
  · rintro ⟨front, equality⟩
    refine ⟨.ofList front, ?_⟩
    rw [← String.toList_inj, String.toList_append, String.toList_ofList, equality]
  · rintro ⟨front, rfl⟩
    exact ⟨front.toList, by simp⟩

end GemEmulation.Text
