import GemEmulation.Foundations.Json.Syntax

/-!
# Printing JSON and reading it back

`print` writes what `json.Marshal` writes for a value without numbers: no
white space, HTML characters and line separators escaped.  Parsing the
printed text gives the value back.
-/

namespace GemEmulation.Foundations.Json

open Text (hexValue)

def hexDigit (value : Nat) : Char := Nat.digitChar value

/-- `\u` and four hexadecimal digits. -/
def escapeUnit (code : Nat) : List Char :=
  ['\\', 'u', hexDigit (code / 4096 % 16), hexDigit (code / 256 % 16),
    hexDigit (code / 16 % 16), hexDigit (code % 16)]

def shortEscape (c : Char) : Option Char :=
  if c = '"' then some '"'
  else if c = '\\' then some '\\'
  else if c = '\x08' then some 'b'
  else if c = '\x0c' then some 'f'
  else if c = '\n' then some 'n'
  else if c = '\r' then some 'r'
  else if c = '\t' then some 't'
  else none

/-- Control characters, HTML characters and JavaScript's line separators. -/
def needsUnit (c : Char) : Bool :=
  decide (c.toNat < 0x20) || c ∈ ['<', '>', '&', '\u2028', '\u2029']

def escapeChar (c : Char) : List Char :=
  match shortEscape c with
  | some letter => ['\\', letter]
  | none => if needsUnit c then escapeUnit c.toNat else [c]

def printString (text : String) : List Char :=
  '"' :: text.toList.flatMap escapeChar ++ ['"']

mutual

def print : Json → List Char
  | .null => ['n', 'u', 'l', 'l']
  | .bool true => ['t', 'r', 'u', 'e']
  | .bool false => ['f', 'a', 'l', 's', 'e']
  | .number literal => literal.toList
  | .string value => printString value
  | .array [] => ['[', ']']
  | .array (element :: rest) => '[' :: element.print ++ printElements rest
  | .object [] => ['{', '}']
  | .object ((name, value) :: rest) =>
      '{' :: printString name ++ ':' :: value.print ++ printMembers rest

def printElements : List Json → List Char
  | [] => [']']
  | element :: rest => ',' :: element.print ++ printElements rest

def printMembers : List (String × Json) → List Char
  | [] => ['}']
  | (name, value) :: rest =>
      ',' :: printString name ++ ':' :: value.print ++ printMembers rest

end

def render (value : Json) : String := .ofList value.print

def newLine (level : Nat) : List Char := '\n' :: List.replicate (2 * level) ' '

mutual

/-- The characters of a value printed by `json.MarshalIndent`. -/
def printIndented (level : Nat) : Json → List Char
  | .array (element :: rest) =>
      '[' :: newLine (level + 1) ++ element.printIndented (level + 1) ++
        printIndentedElements level rest
  | .object ((name, value) :: rest) =>
      '{' :: newLine (level + 1) ++ printString name ++ ':' :: ' ' ::
        value.printIndented (level + 1) ++ printIndentedMembers level rest
  | value => value.print

def printIndentedElements (level : Nat) : List Json → List Char
  | [] => newLine level ++ [']']
  | element :: rest =>
      ',' :: newLine (level + 1) ++ element.printIndented (level + 1) ++
        printIndentedElements level rest

def printIndentedMembers (level : Nat) : List (String × Json) → List Char
  | [] => newLine level ++ ['}']
  | (name, value) :: rest =>
      ',' :: newLine (level + 1) ++ printString name ++ ':' :: ' ' ::
        value.printIndented (level + 1) ++ printIndentedMembers level rest

end

theorem hexValue_hexDigit : ∀ value, value < 16 → hexValue (hexDigit value) = some value := by
  decide

theorem hexQuad_escape {code : Nat} (small : code < 65536) :
    hexQuad (hexDigit (code / 4096 % 16)) (hexDigit (code / 256 % 16))
      (hexDigit (code / 16 % 16)) (hexDigit (code % 16)) = some code := by
  have digits : ∀ value, hexValue (hexDigit (value % 16)) = some (value % 16) :=
    fun value => hexValue_hexDigit _ (Nat.mod_lt _ (by decide))
  simp only [hexQuad, digits, Option.bind_eq_bind, Option.bind_some, Option.some.injEq]
  omega

theorem shortEscape_some {c letter : Char} (escape : shortEscape c = some letter) :
    escapedChar letter = some c ∧ letter ≠ 'u' := by
  unfold shortEscape at escape
  split_ifs at escape <;> cases escape <;> subst_vars <;> decide

theorem shortEscape_none {c : Char} (plain : shortEscape c = none) :
    c ≠ '"' ∧ c ≠ '\\' := by
  constructor <;> rintro rfl <;> contradiction

theorem needsUnit_small {c : Char} (escaped : needsUnit c = true) :
    c.toNat < 65536 ∧ isHighSurrogate c.toNat = false ∧ isLowSurrogate c.toNat = false := by
  have small : c.toNat < 0x3000 := by
    simp only [needsUnit, Bool.or_eq_true, decide_eq_true_eq, List.mem_cons,
      List.not_mem_nil, or_false] at escaped
    rcases escaped with control | rfl | rfl | rfl | rfl | rfl
    · omega
    all_goals decide
  simp only [isHighSurrogate, isLowSurrogate, decide_eq_false_iff_not]
  omega

def printedPiece (c : Char) : Piece :=
  if shortEscape c = none ∧ needsUnit c = true then .unit c.toNat else .scalar c

theorem scanString_short {letter c : Char} (escape : escapedChar letter = some c)
    (notUnit : letter ≠ 'u') (rest : List Char) :
    scanString ('\\' :: letter :: rest) =
      (scanString rest).map fun scanned => (.scalar c :: scanned.1, scanned.2) := by
  rw [scanString.eq_def]
  split
  · contradiction
  · simp_all
  · simp_all
  next other tail _ equality =>
    obtain ⟨rfl, rfl⟩ : letter = other ∧ rest = tail := by simpa using equality
    simp only [escape, Option.bind_eq_bind, Option.bind_some]
    cases scanString rest <;> rfl
  next other tail _ _ notEscape equality =>
    obtain ⟨rfl, rfl⟩ := List.cons.inj equality
    exact (notEscape letter rest rfl rfl).elim

theorem scanString_plain {c : Char} (noQuote : c ≠ '"') (noBackslash : c ≠ '\\')
    (printable : ¬ c.toNat < 0x20) (rest : List Char) :
    scanString (c :: rest) =
      (scanString rest).map fun scanned => (.scalar c :: scanned.1, scanned.2) := by
  rw [scanString.eq_def]
  split
  · contradiction
  · simp_all
  · simp_all
  · simp_all
  next other tail _ _ _ equality =>
    obtain ⟨rfl, rfl⟩ := List.cons.inj equality
    simp only [noBackslash, printable, or_self, if_false, Option.bind_eq_bind]
    cases scanString rest <;> rfl

theorem scanString_escapeUnit {code : Nat} (small : code < 65536) (rest : List Char) :
    scanString (escapeUnit code ++ rest) =
      (scanString rest).map fun scanned => (.unit code :: scanned.1, scanned.2) := by
  simp only [escapeUnit, List.cons_append, List.nil_append, scanString, hexQuad_escape small,
    Option.bind_eq_bind, Option.bind_some]
  cases scanString rest <;> rfl

theorem scanString_escapeChar (c : Char) (rest : List Char) :
    scanString (escapeChar c ++ rest) =
      (scanString rest).map fun scanned => (printedPiece c :: scanned.1, scanned.2) := by
  unfold escapeChar printedPiece
  cases short : shortEscape c with
  | some letter =>
      obtain ⟨escape, notUnit⟩ := shortEscape_some short
      simpa using scanString_short escape notUnit rest
  | none =>
      by_cases unit : needsUnit c = true
      · simpa [unit] using scanString_escapeUnit (needsUnit_small unit).1 rest
      · obtain ⟨noQuote, noBackslash⟩ := shortEscape_none short
        have printable : ¬ c.toNat < 0x20 := by
          intro control
          simp [needsUnit, control] at unit
        simpa [unit] using scanString_plain noQuote noBackslash printable rest

theorem scanString_printed (text rest : List Char) :
    scanString (text.flatMap escapeChar ++ '"' :: rest) =
      some (text.map printedPiece, rest) := by
  induction text with
  | nil => simp [scanString]
  | cons c text inductionHypothesis =>
      simp only [List.flatMap_cons, List.append_assoc, scanString_escapeChar,
        inductionHypothesis, Option.map_some, List.map_cons]

theorem joinPieces_printed (text : List Char) :
    joinPieces (text.map printedPiece) = text := by
  induction text with
  | nil => rfl
  | cons c text inductionHypothesis =>
      by_cases unit : shortEscape c = none ∧ needsUnit c = true
      · obtain ⟨-, high, low⟩ := needsUnit_small unit.2
        have piece : printedPiece c = .unit c.toNat := if_pos unit
        have character : unitChar c.toNat = c := by
          simp [unitChar, high, low]
        rw [List.map_cons, piece]
        cases pieces : text.map printedPiece with
        | nil => simp_all [joinPieces]
        | cons next rest => cases next <;> simp_all [joinPieces]
      · have piece : printedPiece c = .scalar c := if_neg unit
        simp [piece, joinPieces, inductionHypothesis]

@[simp]
theorem parseString_printString (text : String) (rest : List Char) :
    parseString (text.toList.flatMap escapeChar ++ '"' :: rest) = some (text, rest) := by
  simp [parseString, scanString_printed, joinPieces_printed]

mutual

def numberFree : Json → Bool
  | .number _ => false
  | .array elements => numberFreeElements elements
  | .object members => numberFreeMembers members
  | _ => true

def numberFreeElements : List Json → Bool
  | [] => true
  | element :: rest => element.numberFree && numberFreeElements rest

def numberFreeMembers : List (String × Json) → Bool
  | [] => true
  | (_, value) :: rest => value.numberFree && numberFreeMembers rest

end

theorem numberFreeElements_map {Value : Type} {encode : Value → Json} {values : List Value}
    (plain : ∀ value ∈ values, (encode value).numberFree = true) :
    numberFreeElements (values.map encode) = true := by
  induction values with
  | nil => rfl
  | cons value rest inductionHypothesis =>
      simp [numberFreeElements, plain value (by simp),
        inductionHypothesis fun other membership => plain other (by simp [membership])]

theorem depthElements_map {Value : Type} {encode : Value → Json} {values : List Value}
    {bound : Nat} (shallow : ∀ value ∈ values, (encode value).depth ≤ bound) :
    depthElements (values.map encode) ≤ bound := by
  induction values with
  | nil => simp [depthElements]
  | cons value rest inductionHypothesis =>
      exact Nat.max_le.mpr ⟨shallow value (by simp),
        inductionHypothesis fun other membership => shallow other (by simp [membership])⟩

def elementsText : List Json → List Char
  | [] => [']']
  | element :: rest => element.print ++ printElements rest

def membersText : List (String × Json) → List Char
  | [] => ['}']
  | (name, value) :: rest => printString name ++ ':' :: value.print ++ printMembers rest

@[simp]
theorem print_array (elements : List Json) :
    (Json.array elements).print = '[' :: elementsText elements := by
  cases elements <;> simp [print, elementsText]

@[simp]
theorem print_object (members : List (String × Json)) :
    (Json.object members).print = '{' :: membersText members := by
  cases members <;> simp [print, membersText]

theorem printElements_cons (element : Json) (rest : List Json) :
    printElements (element :: rest) = ',' :: elementsText (element :: rest) := by
  simp [printElements, elementsText]

theorem printMembers_cons (member : String × Json) (rest : List (String × Json)) :
    printMembers (member :: rest) = ',' :: membersText (member :: rest) := by
  simp [printMembers, membersText]

theorem skipWhitespace_cons {c : Char} (visible : isWhitespace c = false)
    (rest : List Char) : skipWhitespace (c :: rest) = c :: rest := by
  simp [skipWhitespace, visible]

/-- A printed value starts with a visible character other than a bracket's end. -/
theorem print_head {value : Json} (plain : value.numberFree = true) :
    ∃ c tail, value.print = c :: tail ∧ isWhitespace c = false ∧ c ≠ ']' := by
  cases value with
  | null => exact ⟨_, _, rfl, by decide, by decide⟩
  | bool value => cases value <;> exact ⟨_, _, rfl, by decide, by decide⟩
  | number literal => simp [numberFree] at plain
  | string value => exact ⟨_, _, rfl, by decide, by decide⟩
  | array elements => exact ⟨_, _, print_array elements, by decide, by decide⟩
  | object members => exact ⟨_, _, print_object members, by decide, by decide⟩

theorem printElements_length_pos (elements : List Json) :
    0 < (printElements elements).length := by
  cases elements <;> simp [printElements]

theorem printMembers_length_pos (members : List (String × Json)) :
    0 < (printMembers members).length := by
  cases members <;> simp [printMembers]

theorem print_length_pos {value : Json} (plain : value.numberFree = true) :
    0 < value.print.length := by
  obtain ⟨c, tail, equality, -, -⟩ := print_head plain
  simp [equality]

mutual

theorem parseValue_print (value : Json) (plain : value.numberFree = true)
    (fuel : Nat) (enough : value.print.length ≤ fuel) (rest : List Char) :
    parseValue fuel (value.print ++ rest) = some (value, rest) := by
  cases fuel with
  | zero =>
      have := print_length_pos plain
      omega
  | succ fuel =>
      cases value with
      | null => simp [print, parseValue, skipWhitespace_cons
          (show isWhitespace 'n' = false by decide)]
      | bool value =>
          cases value
          · simp [print, parseValue, skipWhitespace_cons (show isWhitespace 'f' = false by decide)]
          · simp [print, parseValue, skipWhitespace_cons (show isWhitespace 't' = false by decide)]
      | number literal => simp [numberFree] at plain
      | string value =>
          simp [print, printString, parseValue,
            skipWhitespace_cons (show isWhitespace '"' = false by decide)]
      | array elements =>
          cases elements with
          | nil =>
              simp [elementsText, parseValue,
                skipWhitespace_cons (show isWhitespace '[' = false by decide),
                skipWhitespace_cons (show isWhitespace ']' = false by decide)]
          | cons element elements =>
              have parsed := parseElements_print (element :: elements)
                (by simpa [numberFree] using plain) (by simp) fuel
                (by simpa using enough) rest
              have headPlain : element.numberFree = true := by
                simp only [numberFree, numberFreeElements, Bool.and_eq_true] at plain
                exact plain.1
              obtain ⟨c, tail, head, visible, notEnd⟩ := print_head headPlain
              have start : elementsText (element :: elements) ++ rest =
                  c :: (tail ++ printElements elements ++ rest) := by
                simp [elementsText, head]
              rw [start] at parsed
              simp only [print_array, List.cons_append, start, parseValue,
                skipWhitespace_cons (show isWhitespace '[' = false by decide),
                skipWhitespace_cons visible]
              split
              · simp_all
              · simp_all
      | object members =>
          cases members with
          | nil =>
              simp [membersText, parseValue,
                skipWhitespace_cons (show isWhitespace '{' = false by decide),
                skipWhitespace_cons (show isWhitespace '}' = false by decide)]
          | cons member members =>
              have parsed := parseMembers_print (member :: members)
                (by simpa [numberFree] using plain) (by simp) fuel
                (by simpa using enough) rest
              obtain ⟨tail, start⟩ : ∃ tail,
                  membersText (member :: members) ++ rest = '"' :: tail :=
                ⟨_, by simp [membersText, printString]; rfl⟩
              rw [start] at parsed
              simp [start, parseValue, parsed,
                skipWhitespace_cons (show isWhitespace '{' = false by decide),
                skipWhitespace_cons (show isWhitespace '"' = false by decide)]
  termination_by sizeOf value

theorem parseElements_print (elements : List Json)
    (plain : numberFreeElements elements = true) (nonempty : elements ≠ [])
    (fuel : Nat) (enough : (elementsText elements).length ≤ fuel) (after : List Char) :
    parseElements fuel (elementsText elements ++ after) = some (elements, after) := by
  cases elements with
  | nil => contradiction
  | cons element rest =>
      simp only [numberFreeElements, Bool.and_eq_true] at plain
      have tailLength := printElements_length_pos rest
      simp only [elementsText, List.length_append] at enough
      cases fuel with
      | zero => omega
      | succ fuel =>
          have head := parseValue_print element plain.1 fuel (by omega)
            (printElements rest ++ after)
          simp only [elementsText, List.append_assoc, parseElements, head,
            Option.bind_eq_bind, Option.bind_some]
          cases rest with
          | nil =>
              simp [printElements, skipWhitespace_cons (show isWhitespace ']' = false by decide)]
          | cons next rest =>
              have positive := print_length_pos plain.1
              rw [printElements_cons, List.length_cons] at enough
              have parsed := parseElements_print (next :: rest) plain.2 (by simp) fuel
                (by omega) after
              simp [printElements_cons, parsed,
                skipWhitespace_cons (show isWhitespace ',' = false by decide)]
  termination_by sizeOf elements

theorem parseMembers_print (members : List (String × Json))
    (plain : numberFreeMembers members = true) (nonempty : members ≠ [])
    (fuel : Nat) (enough : (membersText members).length ≤ fuel) (after : List Char) :
    parseMembers fuel (membersText members ++ after) = some (members, after) := by
  match members, plain, nonempty, enough with
  | (name, value) :: rest, plain, _, enough =>
      simp only [numberFreeMembers, Bool.and_eq_true] at plain
      have tailLength := printMembers_length_pos rest
      simp only [membersText, printString, List.length_append, List.length_cons] at enough
      cases fuel with
      | zero => omega
      | succ fuel =>
          have head := parseValue_print value plain.1 fuel (by omega)
            (printMembers rest ++ after)
          simp only [membersText, printString, parseMembers, List.cons_append,
            List.append_assoc, List.nil_append, parseString_printString, head,
            skipWhitespace_cons (show isWhitespace '"' = false by decide),
            skipWhitespace_cons (show isWhitespace ':' = false by decide),
            Option.bind_eq_bind, Option.bind_some]
          cases rest with
          | nil =>
              simp [printMembers, skipWhitespace_cons (show isWhitespace '}' = false by decide)]
          | cons next rest =>
              rw [printMembers_cons, List.length_cons] at enough
              have parsed := parseMembers_print (next :: rest) plain.2 (by simp) fuel
                (by omega) after
              simp [printMembers_cons, parsed,
                skipWhitespace_cons (show isWhitespace ',' = false by decide)]
  termination_by sizeOf members

end

theorem parse_render {value : Json} (plain : value.numberFree = true)
    (shallow : value.depth ≤ maxNestingDepth) : parse value.render = some value := by
  have parsed := parseValue_print value plain (enoughFuel value.print.length)
    (by simp only [enoughFuel]; omega) []
  rw [List.append_nil] at parsed
  simp [parse, render, parsed, shallow, skipWhitespace]

end GemEmulation.Foundations.Json
