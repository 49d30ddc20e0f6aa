import GemEmulation.Foundations.Json.Decode
import GemEmulation.Kube.Value
import Mathlib.Algebra.Group.Nat.Defs

/-!
# Decoding JSON into unstructured values

`json.Unmarshal` into `any` and `map[string]any`: numbers become `float64`, and
a number too large for it is a type error.
-/

namespace GemEmulation.Kube

open Foundations Foundations.Json

/-- The least number that rounds to an infinity instead of the largest `float64`. -/
def float64Bound : Nat := 2 ^ 1024 - 2 ^ 970

/-- Whether `strconv.ParseFloat` reports a range error for a JSON number. -/
def overflowsFloat64 (literal : String) : Bool :=
  let isMark := fun c => decide (c = 'e' ∨ c = 'E')
  let text := literal.toList.dropWhile (· == '-')
  let mantissa := text.takeWhile fun c => !isMark c
  let whole := mantissa.takeWhile (· != '.')
  let fraction := (mantissa.dropWhile (· != '.')).drop 1
  let digits := Text.natural (whole ++ fraction)
  let exponent : Int :=
    match text.dropWhile fun c => !isMark c with
    | _ :: '-' :: rest => -Text.natural rest
    | _ :: '+' :: rest => Text.natural rest
    | _ :: rest => Text.natural rest
    | [] => 0
  let scale := exponent - fraction.length
  if digits = 0 then false
  else if 0 ≤ scale then decide (float64Bound ≤ digits * 10 ^ scale.toNat)
  else decide (float64Bound * 10 ^ (-scale).toNat ≤ digits)

mutual

def decodeAny : Json → Value × Bool
  | .null => (.nil, false)
  | .bool value => (.bool value, false)
  | .number literal => (.float64 literal, overflowsFloat64 literal)
  | .string value => (.string value, false)
  | .array elements =>
      let (items, bad) := decodeAnyElements elements
      (.slice items, bad)
  | .object members =>
      let (fields, bad) := decodeAnyMembers [] members
      (.map fields, bad)

def decodeAnyElements : List Json → List Value × Bool
  | [] => ([], false)
  | element :: rest =>
      let (item, bad) := decodeAny element
      let (items, worse) := decodeAnyElements rest
      (item :: items, bad || worse)

def decodeAnyMembers : Fields → List (String × Json) → Fields × Bool
  | fields, [] => (fields, false)
  | fields, (name, element) :: rest =>
      let (value, bad) := decodeAny element
      let (all, worse) := decodeAnyMembers (setEntry name value fields) rest
      (all, bad || worse)

end

def decodeMap : Decoder Fields
  | current, .object members => decodeAnyMembers current members
  | _, .null => ([], false)
  | current, _ => (current, true)

/-- A Go `[]map[string]any`. -/
def decodeMaps : Decoder (List Fields) := decodeSlice decodeMap []

end GemEmulation.Kube
