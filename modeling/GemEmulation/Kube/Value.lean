import GemEmulation.Foundations.Dict
import GemEmulation.Foundations.Json.Syntax

/-!
# Unstructured values

The values inside an `unstructured.Unstructured` object and the accessors of
that package.  An accessor that finds a value of another type reports an error
which the operator discards, so it is `none` here, like a missing field.
-/

namespace GemEmulation.Kube

open Foundations

/-- A decoded JSON value: integers are `int64`, other numbers `float64`. -/
inductive Value where
  | nil
  | bool (value : Bool)
  | int64 (value : Int)
  | float64 (literal : String)
  | string (value : String)
  | slice (items : List Value)
  | map (fields : List (String × Value))
  deriving Repr, BEq

abbrev Fields := List (String × Value)

namespace Value

/-- The type assertion `.(string)`. -/
def asString : Value → Option String
  | string value => some value
  | _ => none

/-- The type assertion `.(int64)`. -/
def asInt64 : Value → Option Int
  | int64 value => some value
  | _ => none

/-- The type assertion `.([]any)`. -/
def asSlice : Value → Option (List Value)
  | slice items => some items
  | _ => none

/-- The type assertion `.(map[string]any)`. -/
def asMap : Value → Option Fields
  | map fields => some fields
  | _ => none

mutual

/-- `reflect.DeepEqual`: the order of a map's keys does not count. -/
def deepEqual : Value → Value → Bool
  | nil, nil => true
  | bool first, bool second => decide (first = second)
  | int64 first, int64 second => decide (first = second)
  | float64 first, float64 second => decide (first = second)
  | string first, string second => decide (first = second)
  | slice first, slice second => deepEqualItems first second
  | map first, map second => decide (first.length = second.length) && deepEqualFields first second
  | _, _ => false

def deepEqualItems : List Value → List Value → Bool
  | [], [] => true
  | first :: rest, second :: rest' => first.deepEqual second && deepEqualItems rest rest'
  | _, _ => false

def deepEqualFields : Fields → Fields → Bool
  | [], _ => true
  | (name, value) :: rest, other =>
      (match lookupEntry name other with
        | some found => value.deepEqual found
        | none => false) && deepEqualFields rest other

end

end Value

def Value.nested : Value → List String → Option Value
  | value, [] => some value
  | .map fields, name :: path =>
      (lookupEntry name fields).bind fun inner => inner.nested path
  | _, _ :: _ => none

def nestedField (fields : Fields) (path : List String) : Option Value :=
  (Value.map fields).nested path

def nestedString (fields : Fields) (path : List String) : Option String :=
  (nestedField fields path).bind Value.asString

def nestedInt64 (fields : Fields) (path : List String) : Option Int :=
  (nestedField fields path).bind Value.asInt64

def nestedSlice (fields : Fields) (path : List String) : Option (List Value) :=
  (nestedField fields path).bind Value.asSlice

def nestedMap (fields : Fields) (path : List String) : Option Fields :=
  (nestedField fields path).bind Value.asMap

def stringEntries : Fields → Option (List (String × String))
  | [] => some []
  | (name, value) :: rest => do
      let text ← value.asString
      let entries ← stringEntries rest
      some ((name, text) :: entries)

def nestedStringMap (fields : Fields) (path : List String) :
    Option (List (String × String)) :=
  (nestedMap fields path).bind stringEntries

end GemEmulation.Kube
