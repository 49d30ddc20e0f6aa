import GemEmulation.Foundations.Dict
import GemEmulation.Foundations.Text
import Mathlib.Algebra.Ring.Int.Defs
import Mathlib.Data.Rat.Defs

/-!
# Objects of Python

The objects that a JSON document is read as, what the operations of the
language return on them, and which exceptions they raise.
-/

namespace GemEmulation.Python

open Foundations

/-- A floating-point number. -/
inductive Floating where
  | nan
  | infinite (negative : Bool)
  | finite (value : Rat)
  deriving DecidableEq

/-- An object of a document. -/
inductive Datum where
  | none
  | bool (value : Bool)
  | int (value : Int)
  | float (value : Floating)
  | str (value : String)
  | list (items : List Datum)
  | dict (entries : List (String × Datum))

inductive Exception where
  | attributeError
  | indexError
  | keyError
  | overflowError
  | recursionError
  | typeError
  | valueError
  deriving DecidableEq, Repr

namespace Datum

def truth : Datum → Bool
  | none => false
  | bool value => value
  | int value => decide (value ≠ 0)
  | float value => decide (value ≠ .finite 0)
  | str value => decide (value ≠ "")
  | list items => !items.isEmpty
  | dict entries => !entries.isEmpty

def isText (text : String) : Datum → Bool
  | str value => decide (value = text)
  | _ => false

/-- `datum.get(name, default)`: only dictionaries have this method. -/
def get (datum : Datum) (name : String) (default : Datum) : Except Exception Datum :=
  match datum with
  | dict entries => .ok ((lookupEntry name entries).getD default)
  | _ => .error .attributeError

/-- What a `for` loop goes through. -/
def iterate : Datum → Except Exception (List Datum)
  | list items => .ok items
  | dict entries => .ok (entries.map fun entry => str entry.1)
  | str value => .ok (value.toList.map fun c => str (.singleton c))
  | none | bool _ | int _ | float _ => .error .typeError

def contains (text : String) : Datum → Except Exception Bool
  | list items => .ok (items.any (isText text))
  | dict entries => .ok (lookupEntry text entries).isSome
  | str value => .ok (Text.contains value text)
  | none | bool _ | int _ | float _ => .error .typeError

def first : Datum → Except Exception Datum
  | list (item :: _) => .ok item
  | list [] => .error .indexError
  | dict _ => .error .keyError
  | str value =>
      match value.toList with
      | c :: _ => .ok (str (.singleton c))
      | [] => .error .indexError
  | none | bool _ | int _ | float _ => .error .typeError

def slice (count : Nat) : Datum → Except Exception Datum
  | list items => .ok (list (items.take count))
  | dict _ => .error .keyError
  | str value => .ok (str (.ofList (value.toList.take count)))
  | none | bool _ | int _ | float _ => .error .typeError

def asInt : Datum → Option Int
  | bool value => some (if value then 1 else 0)
  | int value => some value
  | _ => Option.none

/-- Whether `sum` adds the object. -/
def isNumber : Datum → Bool
  | bool _ | int _ | float _ => true
  | _ => false

def orElse (datum other : Datum) : Datum := if datum.truth then datum else other

/-- `datum or other`, where the second operand is only evaluated if needed. -/
def orEval (datum : Datum) (other : Except Exception Datum) : Except Exception Datum :=
  if datum.truth then pure datum else other

def IsDict (datum : Datum) : Prop := ∃ entries, datum = dict entries

/-- Whether a `for` loop can go through the object. -/
def IsIterable : Datum → Prop
  | list _ | dict _ | str _ => True
  | none | bool _ | int _ | float _ => False

/-- The objects that a `for` loop goes through. -/
def elements : Datum → List Datum
  | list items => items
  | dict entries => entries.map fun entry => str entry.1
  | str value => value.toList.map fun c => str (.singleton c)
  | none | bool _ | int _ | float _ => []

def holds (text : String) : Datum → Bool
  | list items => items.any (isText text)
  | dict entries => (lookupEntry text entries).isSome
  | str value => Text.contains value text
  | none | bool _ | int _ | float _ => false

def field (datum : Datum) (name : String) (default : Datum) : Datum :=
  match datum with
  | dict entries => (lookupEntry name entries).getD default
  | _ => default

end Datum

/-- What the standard library computes on texts and on floating-point numbers. -/
structure Builtins where
  /-- `json.loads`. -/
  loads : String → Except Exception Datum
  /-- The text of an object that is no text, in a formatted string. -/
  format : Datum → String
  /-- `int` of a text, if the text is an integer. -/
  intOfText : String → Option Int
  /-- `sum` of numbers that are not all integers. -/
  sumFloats : List Datum → Except Exception Datum
  /-- The text of the network of an IPv6 interface, if the text is one. -/
  ipv6Network : String → Option String

namespace Builtins

variable (builtins : Builtins)

def formatted : Datum → String
  | .str value => value
  | .int value => toString value
  | datum => builtins.format datum

/-- `int(datum)`: a floating-point number is truncated. -/
def int : Datum → Except Exception Int
  | .bool value => .ok (if value then 1 else 0)
  | .int value => .ok value
  | .float (.finite value) => .ok (value.num.tdiv value.den)
  | .float (.infinite _) => .error .overflowError
  | .float .nan => .error .valueError
  | .str value =>
      match builtins.intOfText value with
      | some number => .ok number
      | none => .error .valueError
  | .none | .list _ | .dict _ => .error .typeError

/-- `sum(data)`: the first object that is no number ends the addition. -/
def sum (data : List Datum) : Except Exception Datum := do
  let numbers := data.takeWhile Datum.isNumber
  let total ←
    match numbers.mapM Datum.asInt with
    | some values => pure (.int values.sum)
    | none => builtins.sumFloats numbers
  if numbers.length < data.length then throw .typeError else pure total

end Builtins

section Outcomes

variable {First Result : Type} {outcome : Except Exception First}
  {next : First → Except Exception Result}

/-- The computation raises an exception that is not among the caught ones. -/
def Escapes (caught : Exception → Bool) (outcome : Except Exception Result) : Prop :=
  ∃ raised, outcome = .error raised ∧ caught raised = false

variable {caught : Exception → Bool}

@[simp] theorem not_escapes_ok (result : Result) :
    ¬ Escapes caught (.ok result : Except Exception Result) := by
  rintro ⟨raised, isError, -⟩
  cases isError

@[simp] theorem not_escapes_pure (result : Result) :
    ¬ Escapes caught (pure result : Except Exception Result) := not_escapes_ok result

@[simp] theorem escapes_error (raised : Exception) :
    Escapes caught (.error raised : Except Exception Result) ↔ caught raised = false := by
  simp [Escapes]

theorem escapes_bind : Escapes caught (outcome >>= next) ↔
    Escapes caught outcome ∨ ∃ value, outcome = .ok value ∧ Escapes caught (next value) := by
  cases outcome with
  | error raised =>
      have raises : (Except.error raised >>= next : Except Exception Result) = .error raised := rfl
      simp [raises]
  | ok value =>
      have continues : (Except.ok value >>= next : Except Exception Result) = next value := rfl
      simp [continues]

theorem bind_ok_iff {result : Result} : (outcome >>= next) = .ok result ↔
    ∃ value, outcome = .ok value ∧ next value = .ok result := by
  cases outcome with
  | error raised =>
      have raises : (Except.error raised >>= next : Except Exception Result) = .error raised := rfl
      simp [raises]
  | ok value =>
      have continues : (Except.ok value >>= next : Except Exception Result) = next value := rfl
      simp [continues]

def Returns (outcome : Except Exception Result) : Prop := ∃ result, outcome = .ok result

@[simp] theorem returns_ok (result : Result) :
    Returns (.ok result : Except Exception Result) := ⟨result, rfl⟩

@[simp] theorem returns_pure (result : Result) :
    Returns (pure result : Except Exception Result) := ⟨result, rfl⟩

@[simp] theorem not_returns_error (raised : Exception) :
    ¬ Returns (.error raised : Except Exception Result) := by
  rintro ⟨result, isOk⟩
  cases isOk

theorem returns_bind : Returns (outcome >>= next) ↔
    ∃ value, outcome = .ok value ∧ Returns (next value) := by
  simp only [Returns, bind_ok_iff]
  constructor
  · rintro ⟨result, value, first, rest⟩
    exact ⟨value, first, result, rest⟩
  · rintro ⟨value, first, result, rest⟩
    exact ⟨result, value, first, rest⟩

theorem escapes_bind_pure (result : First → Result) :
    Escapes caught (outcome >>= fun value => pure (result value)) ↔ Escapes caught outcome := by
  rw [escapes_bind]
  simp

theorem returns_bind_pure (result : First → Result) :
    Returns (outcome >>= fun value => pure (result value)) ↔ Returns outcome := by
  rw [returns_bind]
  exact exists_congr fun value => and_iff_left (returns_pure _)

theorem escapes_mapM {items : List First} :
    Escapes caught (items.mapM next) ↔ ∃ front item back, items = front ++ item :: back ∧
      (∀ before ∈ front, Returns (next before)) ∧ Escapes caught (next item) := by
  induction items with
  | nil => simp
  | cons head rest inductionHypothesis =>
      rw [List.mapM_cons, escapes_bind]
      constructor
      · rintro (escapes | ⟨result, isOk, escapes⟩)
        · exact ⟨[], head, rest, rfl, by simp, escapes⟩
        · rcases escapes_bind.mp escapes with late | ⟨_, _, never⟩
          · obtain ⟨front, item, back, rfl, before, escapes⟩ := inductionHypothesis.mp late
            refine ⟨head :: front, item, back, rfl, ?_, escapes⟩
            rw [List.forall_mem_cons]
            exact ⟨⟨result, isOk⟩, before⟩
          · exact absurd never (not_escapes_pure _)
      · rintro ⟨front, item, back, split, before, escapes⟩
        cases front with
        | nil =>
            cases split
            exact .inl escapes
        | cons first front =>
            cases split
            rw [List.forall_mem_cons] at before
            obtain ⟨⟨result, isOk⟩, before⟩ := before
            exact .inr ⟨result, isOk, escapes_bind.mpr
              (.inl (inductionHypothesis.mpr ⟨front, item, back, rfl, before, escapes⟩))⟩

theorem returns_mapM {items : List First} :
    Returns (items.mapM next) ↔ ∀ item ∈ items, Returns (next item) := by
  induction items with
  | nil => simp
  | cons head rest inductionHypothesis =>
      rw [List.mapM_cons, returns_bind, List.forall_mem_cons, ← inductionHypothesis]
      constructor
      · rintro ⟨result, isOk, returns⟩
        obtain ⟨results, restOk, -⟩ := returns_bind.mp returns
        exact ⟨⟨result, isOk⟩, results, restOk⟩
      · rintro ⟨⟨result, isOk⟩, results, restOk⟩
        exact ⟨result, isOk, returns_bind.mpr ⟨results, restOk, returns_pure _⟩⟩

end Outcomes

def search (test : Datum → Except Exception Bool) : List Datum → Except Exception (Option Datum)
  | [] => pure none
  | item :: rest => do
      if ← test item then pure (some item) else search test rest

namespace Datum

variable {datum default : Datum} {name : String} {caught : Exception → Bool}

theorem get_of_isDict (isDict : datum.IsDict) :
    datum.get name default = pure (datum.field name default) := by
  obtain ⟨entries, rfl⟩ := isDict
  rfl

theorem get_of_not_isDict (other : ¬ datum.IsDict) :
    datum.get name default = .error .attributeError := by
  cases datum with
  | dict entries => exact absurd ⟨entries, rfl⟩ other
  | _ => rfl

theorem get_ok_iff {value : Datum} :
    datum.get name default = .ok value ↔ datum.IsDict ∧ value = datum.field name default := by
  cases datum with
  | dict entries => simp [get, field, IsDict, eq_comm]
  | _ => simp [get, IsDict]

theorem iterate_ok_iff {items : List Datum} :
    datum.iterate = .ok items ↔ datum.IsIterable ∧ items = datum.elements := by
  cases datum <;> simp [iterate, IsIterable, elements, eq_comm]

theorem orEval_pure (first other : Datum) :
    first.orEval (pure other) = pure (first.orElse other) := by
  rw [orEval, orElse]
  split <;> rfl

variable {Result : Type} {next : Datum → Except Exception Result}

theorem escapes_get_bind (uncaught : caught .attributeError = false) :
    Escapes caught (datum.get name default >>= next) ↔
      ¬ datum.IsDict ∨ Escapes caught (next (datum.field name default)) := by
  by_cases isDict : datum.IsDict
  · rw [get_of_isDict isDict]
    exact (or_iff_right (not_not_intro isDict)).symm
  · rw [get_of_not_isDict isDict]
    exact iff_of_true ⟨_, rfl, uncaught⟩ (.inl isDict)

theorem returns_get_bind : Returns (datum.get name default >>= next) ↔
    datum.IsDict ∧ Returns (next (datum.field name default)) := by
  by_cases isDict : datum.IsDict
  · rw [get_of_isDict isDict]
    exact (and_iff_right isDict).symm
  · rw [get_of_not_isDict isDict]
    exact iff_of_false (not_returns_error _) fun both => isDict both.1

theorem escapes_iterate_bind {next : List Datum → Except Exception Result}
    (isCaught : caught .typeError = true) :
    Escapes caught (datum.iterate >>= next) ↔
      datum.IsIterable ∧ Escapes caught (next datum.elements) := by
  cases datum <;> simp [escapes_bind, iterate, IsIterable, elements, isCaught]

theorem returns_iterate_bind {next : List Datum → Except Exception Result} :
    Returns (datum.iterate >>= next) ↔ datum.IsIterable ∧ Returns (next datum.elements) := by
  cases datum <;> simp [returns_bind, iterate, IsIterable, elements]

theorem contains_of_isIterable (isIterable : datum.IsIterable) (text : String) :
    datum.contains text = pure (datum.holds text) := by
  cases datum with
  | none | bool _ | int _ | float _ => exact isIterable.elim
  | _ => rfl

theorem contains_of_not_isIterable (other : ¬ datum.IsIterable) (text : String) :
    datum.contains text = .error .typeError := by
  cases datum with
  | none | bool _ | int _ | float _ => rfl
  | _ => exact absurd trivial other

end Datum

end GemEmulation.Python
