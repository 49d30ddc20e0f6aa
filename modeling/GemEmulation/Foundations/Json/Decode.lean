import GemEmulation.Foundations.Json.Syntax

/-!
# Decoding JSON into typed values

`json.Unmarshal` decodes into the value it is given: what the text does not
mention stays, `null` leaves a scalar alone, and a value of the wrong type is
skipped and reported at the end.  A decoder therefore takes the current value
and returns the new one with whether a type error occurred.
-/

namespace GemEmulation.Foundations.Json

universe u

abbrev Decoder (Target : Type u) := Target → Json → Target × Bool

variable {Target : Type u}

def decodeString : Decoder String
  | _, .string value => (value, false)
  | current, .null => (current, false)
  | current, _ => (current, true)

/-- The elements of an array, decoded into the current ones and then into zero
values. -/
def decodeElements (decode : Decoder Target) (zero : Target) :
    List Target → List Json → List Target × Bool
  | _, [] => ([], false)
  | current, element :: rest =>
      let (value, bad) := decode (current.headD zero) element
      let (values, worse) := decodeElements decode zero current.tail rest
      (value :: values, bad || worse)

def decodeSlice (decode : Decoder Target) (zero : Target) : Decoder (List Target)
  | current, .array elements => decodeElements decode zero current elements
  | _, .null => ([], false)
  | current, _ => (current, true)

/-- The members of an object, each decoded into the field of its name. -/
def decodeMembers (field : String → Option (Decoder Target)) :
    Target → List (String × Json) → Target × Bool
  | current, [] => (current, false)
  | current, (name, value) :: rest =>
      match field name with
      | none => decodeMembers field current rest
      | some decode =>
          let (next, bad) := decode current value
          let (final, worse) := decodeMembers field next rest
          (final, bad || worse)

def decodeStruct (field : String → Option (Decoder Target)) : Decoder Target
  | current, .object members => decodeMembers field current members
  | current, .null => (current, false)
  | current, _ => (current, true)

/-- The letter that a character folds to when the other side is ASCII. -/
def foldChar (c : Char) : Char :=
  if 'A' ≤ c ∧ c ≤ 'Z' then .ofNat (c.toNat + 32)
  else if c = '\u017f' then 's'
  else if c = '\u212a' then 'k'
  else c

/-- Whether an object's member names a struct field, whatever its case. -/
def namesField (name field : String) : Bool :=
  decide (name.toList.map foldChar = field.toList.map foldChar)

/-- `json.Unmarshal` into a current value: `none` when the text is not JSON. -/
def unmarshal (decode : Decoder Target) (current : Target) (text : String) :
    Option (Target × Bool) :=
  (parse text).map (decode current)

/-- What `json.Unmarshal` leaves in a variable, whether or not it fails. -/
def unmarshalInto (decode : Decoder Target) (current : Target) (text : String) : Target :=
  match unmarshal decode current text with
  | some (value, _) => value
  | none => current

/-- What `json.Unmarshal` decodes when it reports no error. -/
def unmarshalStrict (decode : Decoder Target) (current : Target) (text : String) :
    Option Target :=
  match unmarshal decode current text with
  | some (value, false) => some value
  | _ => none

theorem decodeElements_map {decode : Decoder Target} {zero : Target} {encode : Target → Json}
    {values : List Target} (roundTrip : ∀ value ∈ values, decode zero (encode value) =
      (value, false)) :
    decodeElements decode zero [] (values.map encode) = (values, false) := by
  induction values with
  | nil => rfl
  | cons value rest inductionHypothesis =>
      have head := roundTrip value (by simp)
      have tail := inductionHypothesis fun other membership =>
        roundTrip other (by simp [membership])
      simp [decodeElements, head, tail]

theorem decodeSlice_strings (values : List String) :
    decodeSlice decodeString "" [] (.array (values.map .string)) = (values, false) :=
  decodeElements_map fun _ _ => rfl

end GemEmulation.Foundations.Json
