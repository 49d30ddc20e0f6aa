import GemEmulation.Foundations.Text
import Mathlib.Data.Char

/-!
# JSON texts

The syntax tree of JSON and a parser for the texts that Go's `encoding/json`
accepts: RFC 8259 with a nesting limit, surrogate pairs joined and lone
surrogates replaced by U+FFFD.  Object members keep their textual order and
duplicate names; numbers keep their literal.
-/

namespace GemEmulation.Foundations

open Text (hexValue)

inductive Json where
  | null
  | bool (value : Bool)
  | number (literal : String)
  | string (value : String)
  | array (elements : List Json)
  | object (members : List (String × Json))
  deriving Repr, BEq

namespace Json

def isWhitespace (c : Char) : Bool := c ∈ [' ', '\t', '\r', '\n']

def skipWhitespace (text : List Char) : List Char := text.dropWhile isWhitespace

def isDigit (c : Char) : Bool := decide ('0' ≤ c ∧ c ≤ '9')

def hexQuad (a b c d : Char) : Option Nat := do
  let first ← hexValue a
  let second ← hexValue b
  let third ← hexValue c
  let fourth ← hexValue d
  some (((first * 16 + second) * 16 + third) * 16 + fourth)

def escapedChar : Char → Option Char
  | '"' => some '"'
  | '\\' => some '\\'
  | '/' => some '/'
  | 'b' => some '\x08'
  | 'f' => some '\x0c'
  | 'n' => some '\n'
  | 'r' => some '\r'
  | 't' => some '\t'
  | _ => none

/-- A piece of a string literal: a character, or a UTF-16 unit from `\u`. -/
inductive Piece where
  | scalar (c : Char)
  | unit (code : Nat)

def scanString : List Char → Option (List Piece × List Char)
  | [] => none
  | '"' :: rest => some ([], rest)
  | '\\' :: 'u' :: a :: b :: c :: d :: rest => do
      let code ← hexQuad a b c d
      let (pieces, after) ← scanString rest
      some (.unit code :: pieces, after)
  | '\\' :: letter :: rest => do
      let c ← escapedChar letter
      let (pieces, after) ← scanString rest
      some (.scalar c :: pieces, after)
  | c :: rest =>
      if c = '\\' ∨ c.toNat < 0x20 then none
      else do
        let (pieces, after) ← scanString rest
        some (.scalar c :: pieces, after)

def isHighSurrogate (code : Nat) : Bool := decide (0xd800 ≤ code ∧ code < 0xdc00)

def isLowSurrogate (code : Nat) : Bool := decide (0xdc00 ≤ code ∧ code < 0xe000)

def unitChar (code : Nat) : Char :=
  if isHighSurrogate code || isLowSurrogate code then '\ufffd' else .ofNat code

def joinPieces : List Piece → List Char
  | [] => []
  | .scalar c :: rest => c :: joinPieces rest
  | .unit high :: .unit low :: rest =>
      if isHighSurrogate high && isLowSurrogate low then
        .ofNat (0x10000 + (high - 0xd800) * 0x400 + (low - 0xdc00)) :: joinPieces rest
      else unitChar high :: joinPieces (.unit low :: rest)
  | .unit code :: rest => unitChar code :: joinPieces rest

def parseString (text : List Char) : Option (String × List Char) := do
  let (pieces, after) ← scanString text
  some (.ofList (joinPieces pieces), after)

def scanDigits (text : List Char) : Option (List Char × List Char) :=
  match text.span isDigit with
  | ([], _) => none
  | (digits, rest) => some (digits, rest)

def scanInteger : List Char → Option (List Char × List Char)
  | '0' :: rest => some (['0'], rest)
  | text => scanDigits text

def scanFraction : List Char → Option (List Char × List Char)
  | '.' :: rest => (scanDigits rest).map fun (digits, after) => ('.' :: digits, after)
  | text => some ([], text)

def scanExponent : List Char → Option (List Char × List Char)
  | c :: rest =>
      if c = 'e' ∨ c = 'E' then
        match rest with
        | sign :: after =>
            if sign = '+' ∨ sign = '-' then
              (scanDigits after).map fun (digits, last) => (c :: sign :: digits, last)
            else (scanDigits rest).map fun (digits, last) => (c :: digits, last)
        | [] => none
      else some ([], c :: rest)
  | [] => some ([], [])

def scanNumber (text : List Char) : Option (List Char × List Char) := do
  let (sign, unsigned) := match text with
    | '-' :: rest => (['-'], rest)
    | _ => ([], text)
  let (integer, afterInteger) ← scanInteger unsigned
  let (fraction, afterFraction) ← scanFraction afterInteger
  let (exponent, after) ← scanExponent afterFraction
  some (sign ++ integer ++ fraction ++ exponent, after)

mutual

/-- Parse one value, leaving the text after it.  The fuel bounds the nesting
and the length of the value; `parse` supplies enough for the whole text. -/
def parseValue : Nat → List Char → Option (Json × List Char)
  | 0, _ => none
  | fuel + 1, text =>
      match skipWhitespace text with
      | [] => none
      | '"' :: rest => (parseString rest).map fun (value, after) => (.string value, after)
      | '[' :: rest =>
          match skipWhitespace rest with
          | ']' :: after => some (.array [], after)
          | _ => (parseElements fuel rest).map fun (elements, after) =>
              (.array elements, after)
      | '{' :: rest =>
          match skipWhitespace rest with
          | '}' :: after => some (.object [], after)
          | _ => (parseMembers fuel rest).map fun (members, after) =>
              (.object members, after)
      | 't' :: 'r' :: 'u' :: 'e' :: after => some (.bool true, after)
      | 'f' :: 'a' :: 'l' :: 's' :: 'e' :: after => some (.bool false, after)
      | 'n' :: 'u' :: 'l' :: 'l' :: after => some (.null, after)
      | start => (scanNumber start).map fun (literal, after) =>
          (.number (.ofList literal), after)

def parseElements : Nat → List Char → Option (List Json × List Char)
  | 0, _ => none
  | fuel + 1, text => do
      let (element, rest) ← parseValue fuel text
      match skipWhitespace rest with
      | ']' :: after => some ([element], after)
      | ',' :: more => do
          let (elements, after) ← parseElements fuel more
          some (element :: elements, after)
      | _ => none

def parseMembers : Nat → List Char → Option (List (String × Json) × List Char)
  | 0, _ => none
  | fuel + 1, text =>
      match skipWhitespace text with
      | '"' :: quoted => do
          let (name, rest) ← parseString quoted
          match skipWhitespace rest with
          | ':' :: afterColon => do
              let (value, rest) ← parseValue fuel afterColon
              match skipWhitespace rest with
              | '}' :: after => some ([(name, value)], after)
              | ',' :: more => do
                  let (members, after) ← parseMembers fuel more
                  some ((name, value) :: members, after)
              | _ => none
          | _ => none
      | _ => none

end

mutual

def depth : Json → Nat
  | .array elements => depthElements elements + 1
  | .object members => depthMembers members + 1
  | _ => 0

def depthElements : List Json → Nat
  | [] => 0
  | element :: rest => max element.depth (depthElements rest)

def depthMembers : List (String × Json) → Nat
  | [] => 0
  | (_, value) :: rest => max value.depth (depthMembers rest)

end

/-- `maxNestingDepth` of `encoding/json`. -/
def maxNestingDepth : Nat := 10000

/-- Fuel with which the parser reaches the end of every text of this length. -/
def enoughFuel (length : Nat) : Nat := 2 * length + 2

def parse (text : String) : Option Json :=
  match parseValue (enoughFuel text.toList.length) text.toList with
  | some (value, rest) =>
      if skipWhitespace rest = [] ∧ value.depth ≤ maxNestingDepth then some value
      else none
  | none => none

/-- The value of the last member of that name, which is the one that counts. -/
def member? (members : List (String × Json)) (name : String) : Option Json :=
  members.reverse.lookup name

theorem mem_of_skipWhitespace {text rest : List Char} {c : Char}
    (skipped : skipWhitespace text = c :: rest) : c ∈ text := by
  have member : c ∈ skipWhitespace text := by
    rw [skipped]
    exact List.mem_cons_self
  exact (List.dropWhile_sublist isWhitespace).subset member

theorem parse_array {text : String} {elements : List Json}
    (parsed : parse text = some (.array elements)) : '[' ∈ text.toList := by
  have value : ∃ rest, parseValue (enoughFuel text.toList.length) text.toList =
      some (.array elements, rest) := by
    simp only [parse] at parsed
    split at parsed
    next value rest found =>
      split at parsed
      next =>
        cases parsed
        exact ⟨rest, found⟩
      next => cases parsed
    next => cases parsed
  obtain ⟨rest, value⟩ := value
  rw [show enoughFuel text.toList.length = 2 * text.toList.length + 1 + 1 from rfl,
    parseValue] at value
  split at value
  next => cases value
  next =>
    obtain ⟨_, -, equality⟩ := Option.map_eq_some_iff.mp value
    cases equality
  next found => exact mem_of_skipWhitespace found
  next =>
    split at value
    next => cases value
    next =>
      obtain ⟨_, -, equality⟩ := Option.map_eq_some_iff.mp value
      cases equality
  next => cases value
  next => cases value
  next => cases value
  next =>
    obtain ⟨_, -, equality⟩ := Option.map_eq_some_iff.mp value
    cases equality

end Json

end GemEmulation.Foundations
