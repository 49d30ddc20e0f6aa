import GemEmulation.Foundations.Json.RoundTrip
import Mathlib.Data.List.Dedup
import Mathlib.Data.Rat.Defs
import Mathlib.Algebra.Order.Field.Rat
import Mathlib.Algebra.Field.Rat

/-!
# Rego queries

The part of the Rego language that admission policies use.  A query yields the
values of its solutions, and nothing when it is undefined; a complete function
whose rules yield different values is a conflict, which ends the evaluation.
-/

namespace GemEmulation.Foundations

namespace Json

def numberValue (literal : String) : Rat :=
  let text := literal.toList
  let (negative, unsigned) := match text with
    | '-' :: rest => (true, rest)
    | _ => (false, text)
  let (mantissa, exponent) := unsigned.span fun c => c ≠ 'e' && c ≠ 'E'
  let (integer, fraction) := mantissa.span (· ≠ '.')
  let digits := integer ++ fraction.tail
  let scale : Int := match exponent.tail with
    | '-' :: rest => -(Text.natural rest : Int)
    | '+' :: rest => Text.natural rest
    | rest => Text.natural rest
  let size : Rat := (Text.natural digits : Rat) * (10 : Rat) ^ (scale - fraction.tail.length)
  if negative then -size else size

mutual

/-- Equality of documents: numbers by value, objects whatever the order of
their members. -/
def same : Json → Json → Bool
  | .null, .null => true
  | .bool first, .bool second => decide (first = second)
  | .number first, .number second => decide (numberValue first = numberValue second)
  | .string first, .string second => decide (first = second)
  | .array first, .array second => sameElements first second
  | .object first, .object second =>
      sameMembers first second && second.all fun entry => (member? first entry.1).isSome
  | _, _ => false

def sameElements : List Json → List Json → Bool
  | [], [] => true
  | first :: rest, second :: rest' => first.same second && sameElements rest rest'
  | _, _ => false

def sameMembers : List (String × Json) → List (String × Json) → Bool
  | [], _ => true
  | (name, value) :: rest, other =>
      ((member? rest name).isSome || match member? other name with
        | some found => value.same found
        | none => false) && sameMembers rest other

end

/-- The reference `document[name]` for a text. -/
def field (name : String) : Json → Option Json
  | .object members => member? members name
  | _ => none

/-- The reference `document.a.b`. -/
def path (names : List String) (document : Json) : Option Json :=
  names.foldlM (fun inner name => inner.field name) document

/-- The values that `document[_]` ranges over. -/
def each : Json → List Json
  | .array items => items
  | .object members => (members.map Prod.fst).dedup.filterMap (member? members)
  | _ => []

@[simp]
theorem same_bool (value : Json) (flag : Bool) :
    value.same (.bool flag) = true ↔ value = .bool flag := by
  cases value <;> simp [same]

@[simp]
theorem same_string (value : Json) (text : String) :
    value.same (.string text) = true ↔ value = .string text := by
  cases value <;> simp [same]

theorem member?_cons (entry : String × Json) (rest : List (String × Json)) (name : String) :
    member? (entry :: rest) name =
      (member? rest name).or (if name = entry.1 then some entry.2 else none) := by
  simp only [member?, List.reverse_cons, List.lookup_append]
  congr 1
  obtain ⟨key, value⟩ := entry
  by_cases equality : name = key
  · simp [equality]
  · simp [List.lookup_cons, equality, beq_eq_false_iff_ne.mpr equality]

theorem member?_mem {members : List (String × Json)} {name : String} {value : Json}
    (found : member? members name = some value) : (name, value) ∈ members := by
  rw [member?, List.lookup_eq_some_iff] at found
  obtain ⟨front, back, equality, -⟩ := found
  rw [← List.mem_reverse, equality]
  simp

theorem sameElements_mem {first second : List Json}
    (equal : sameElements first second = true) :
    (∀ value ∈ first, ∃ other ∈ second, value.same other = true) ∧
      ∀ other ∈ second, ∃ value ∈ first, value.same other = true := by
  induction first generalizing second with
  | nil =>
      cases second with
      | nil => simp
      | cons other rest => simp [sameElements] at equal
  | cons value rest inductionHypothesis =>
      cases second with
      | nil => simp [sameElements] at equal
      | cons other others =>
          simp only [sameElements, Bool.and_eq_true] at equal
          obtain ⟨forward, backward⟩ := inductionHypothesis equal.2
          constructor
          · intro item listed
            rcases List.mem_cons.mp listed with rfl | later
            · exact ⟨other, List.mem_cons_self, equal.1⟩
            · obtain ⟨found, member, matched⟩ := forward item later
              exact ⟨found, List.mem_cons_of_mem _ member, matched⟩
          · intro item listed
            rcases List.mem_cons.mp listed with rfl | later
            · exact ⟨value, List.mem_cons_self, equal.1⟩
            · obtain ⟨found, member, matched⟩ := backward item later
              exact ⟨found, List.mem_cons_of_mem _ member, matched⟩

theorem sameMembers_member? {first second : List (String × Json)}
    (equal : sameMembers first second = true) {name : String} {value : Json}
    (found : member? first name = some value) :
    ∃ other, member? second name = some other ∧ value.same other = true := by
  induction first with
  | nil => simp [member?] at found
  | cons entry rest inductionHypothesis =>
      obtain ⟨key, current⟩ := entry
      simp only [sameMembers, Bool.and_eq_true, Bool.or_eq_true] at equal
      rw [member?_cons] at found
      cases later : member? rest name with
      | some last =>
          rw [later, Option.some_or] at found
          exact inductionHypothesis equal.2 (later.trans found)
      | none =>
          rw [later, Option.none_or] at found
          split at found
          next named =>
            cases found
            cases named
            rcases equal.1 with shadowed | matched
            · simp [later] at shadowed
            · split at matched
              next other otherFound => exact ⟨other, otherFound, matched⟩
              next => contradiction
          next => contradiction

theorem same_field {first second : Json} (equal : first.same second = true) (name : String) :
    Option.Rel (fun value other => value.same other = true)
      (first.field name) (second.field name) := by
  cases first <;> cases second <;> try simp [same] at equal
  all_goals try exact .none
  next members others =>
    simp only [field]
    cases found : member? members name with
    | some value =>
        obtain ⟨other, otherFound, matched⟩ := sameMembers_member? equal.1 found
        rw [otherFound]
        exact .some matched
    | none =>
        cases otherFound : member? others name with
        | none => exact .none
        | some other =>
            have present := equal.2 name other (member?_mem otherFound)
            simp [found] at present

theorem related_left {relation : Json → Json → Prop} {first second : Option Json}
    (related : Option.Rel relation first second) {value : Json} (present : first = some value) :
    ∃ other, second = some other ∧ relation value other := by
  cases present
  cases related with
  | some matched => exact ⟨_, rfl, matched⟩

theorem related_right {relation : Json → Json → Prop} {first second : Option Json}
    (related : Option.Rel relation first second) {other : Json} (present : second = some other) :
    ∃ value, first = some value ∧ relation value other := by
  cases present
  cases related with
  | some matched => exact ⟨_, rfl, matched⟩

theorem same_path {first second : Json} (equal : first.same second = true)
    (names : List String) :
    Option.Rel (fun value other => value.same other = true)
      (first.path names) (second.path names) := by
  induction names generalizing first second with
  | nil => exact .some equal
  | cons name rest inductionHypothesis =>
      have fields := same_field equal name
      simp only [path, List.foldlM_cons, Option.bind_eq_bind] at inductionHypothesis ⊢
      generalize first.field name = inner at fields ⊢
      generalize second.field name = inner' at fields ⊢
      cases fields with
      | none => exact .none
      | some matched => exact inductionHypothesis matched

theorem mem_each_object {members : List (String × Json)} {value : Json} :
    value ∈ (Json.object members).each ↔ ∃ name, member? members name = some value := by
  simp only [each, List.mem_filterMap, List.mem_dedup]
  constructor
  · rintro ⟨name, -, found⟩
    exact ⟨name, found⟩
  · rintro ⟨name, found⟩
    exact ⟨name, List.mem_map_of_mem (member?_mem found), found⟩

theorem each_same {first second : Json} (equal : first.same second = true) :
    (∀ value ∈ first.each, ∃ other ∈ second.each, value.same other = true) ∧
      ∀ other ∈ second.each, ∃ value ∈ first.each, value.same other = true := by
  cases first <;> cases second <;> try simp [same] at equal
  case array.array items others => exact sameElements_mem equal
  case object.object members others =>
    have whole : (Json.object members).same (.object others) = true := by
      simpa [same] using equal
    have fields := same_field whole
    constructor
    · intro value listed
      obtain ⟨name, found⟩ := mem_each_object.mp listed
      obtain ⟨other, otherFound, matched⟩ := related_left (fields name) found
      exact ⟨other, mem_each_object.mpr ⟨name, otherFound⟩, matched⟩
    · intro other listed
      obtain ⟨name, found⟩ := mem_each_object.mp listed
      obtain ⟨value, valueFound, matched⟩ := related_right (fields name) found
      exact ⟨value, mem_each_object.mpr ⟨name, valueFound⟩, matched⟩
  all_goals simp [each]

theorem same_each {first second : Json} (equal : first.same second = true)
    {property : Json → Prop}
    (respected : ∀ value other, value.same other = true → (property value ↔ property other)) :
    (∃ value ∈ first.each, property value) ↔ ∃ value ∈ second.each, property value := by
  constructor
  · rintro ⟨value, listed, holds⟩
    obtain ⟨other, member, matched⟩ := (each_same equal).1 value listed
    exact ⟨other, member, (respected value other matched).mp holds⟩
  · rintro ⟨other, listed, holds⟩
    obtain ⟨value, member, matched⟩ := (each_same equal).2 other listed
    exact ⟨value, member, (respected value other matched).mpr holds⟩

end Json

inductive EvalError where
  | conflict
  deriving DecidableEq, Repr

/-- A query: the values of its solutions, none when it is undefined. -/
inductive Query (Value : Type) where
  | ok (values : List Value)
  | error (problem : EvalError)

namespace Query

variable {Value Result : Type}

def undefined : Query Value := .ok []

def union : List (Query Value) → Query Value
  | [] => undefined
  | query :: rest =>
      match query with
      | .error problem => .error problem
      | .ok values =>
          match union rest with
          | .error problem => .error problem
          | .ok others => .ok (values ++ others)

def andThen (query : Query Value) (rest : Value → Query Result) : Query Result :=
  match query with
  | .error problem => .error problem
  | .ok values => union (values.map rest)

instance : Monad Query where
  pure value := .ok [value]
  bind := andThen

def holds (condition : Bool) : Query Unit := if condition then pure () else undefined

def ref (found : Option Json) : Query Json := .ok found.toList

/-- The reference `document[_]`. -/
def elements (document : Json) : Query Json := .ok document.each

def fails (query : Query Value) : Query Unit :=
  match query with
  | .error problem => .error problem
  | .ok [] => pure ()
  | .ok _ => undefined

def agree : List Json → Bool
  | [] => true
  | first :: rest => rest.all first.same

def complete (bodies : List (Query Json)) : Query Json :=
  match union bodies with
  | .error problem => .error problem
  | .ok outputs => if agree outputs then .ok (outputs.take 1) else .error .conflict

/-- `startswith`, undefined on values that are not texts. -/
def startswith : Json → Json → Query Unit
  | .string text, .string start => holds (start.toList.isPrefixOf text.toList)
  | _, _ => undefined

def count : Json → Query Nat
  | .string text => pure text.length
  | .array items => pure items.length
  | .object members => pure (members.map Prod.fst).dedup.length
  | _ => undefined

/-- `document >= bound` for a number: values of different types are ordered by
their types, null and Booleans below numbers and the others above. -/
def atLeast (bound : Rat) : Json → Bool
  | .null | .bool _ => false
  | .number literal => decide (bound ≤ Json.numberValue literal)
  | _ => true

/-- The verb `%v` of `sprintf`. -/
def formatValue : Json → String
  | .string text => text
  | document => document.render

/-- The evaluation ends without a conflict. -/
def Settled (query : Query Value) : Prop := ∃ values, query = .ok values

/-- The evaluation ends and the value is among its solutions. -/
def Yields (query : Query Value) (value : Value) : Prop :=
  ∃ values, query = .ok values ∧ value ∈ values

@[simp]
theorem settled_ok (values : List Value) : Settled (.ok values : Query Value) :=
  ⟨values, rfl⟩

@[simp]
theorem yields_ok (values : List Value) (value : Value) :
    Yields (.ok values : Query Value) value ↔ value ∈ values :=
  ⟨fun ⟨_, equality, member⟩ => by cases equality; exact member, fun member => ⟨_, rfl, member⟩⟩

theorem Yields.settled {query : Query Value} {value : Value} (yields : Yields query value) :
    Settled query :=
  yields.imp fun _ found => found.1

@[simp]
theorem settled_error (problem : EvalError) : ¬ Settled (.error problem : Query Value) := by
  rintro ⟨values, equality⟩
  cases equality

@[simp]
theorem yields_error (problem : EvalError) (value : Value) :
    ¬ Yields (.error problem : Query Value) value :=
  fun yields => settled_error problem yields.settled

theorem settled_union (queries : List (Query Value)) :
    Settled (union queries) ↔ ∀ query ∈ queries, Settled query := by
  induction queries with
  | nil => simp [union, undefined]
  | cons query rest inductionHypothesis =>
      rw [List.forall_mem_cons, ← inductionHypothesis]
      cases query with
      | error problem => simp [union]
      | ok values => cases others : union rest <;> simp [union, others]

theorem yields_union (queries : List (Query Value)) (value : Value) :
    Yields (union queries) value ↔
      Settled (union queries) ∧ ∃ query ∈ queries, Yields query value := by
  induction queries with
  | nil => simp [union, undefined]
  | cons query rest inductionHypothesis =>
      rw [List.exists_mem_cons_iff]
      cases query with
      | error problem => simp [union]
      | ok values =>
          cases others : union rest with
          | error problem => simp [union, others]
          | ok found =>
              rw [others] at inductionHypothesis
              simp only [yields_ok, settled_ok, true_and] at inductionHypothesis
              simp [union, others, ← inductionHypothesis]

theorem settled_andThen (query : Query Value) (rest : Value → Query Result) :
    Settled (query >>= rest) ↔ Settled query ∧ ∀ value, Yields query value →
      Settled (rest value) := by
  change Settled (andThen query rest) ↔ _
  cases query with
  | error problem => simp [andThen]
  | ok values => simp [andThen, settled_union]

theorem yields_andThen (query : Query Value) (rest : Value → Query Result) (result : Result) :
    Yields (query >>= rest) result ↔
      Settled (query >>= rest) ∧ ∃ value, Yields query value ∧ Yields (rest value) result := by
  change Yields (andThen query rest) result ↔ Settled (andThen query rest) ∧ _
  cases query with
  | error problem => simp [andThen]
  | ok values => simp [andThen, yields_union]

@[simp]
theorem settled_pure (value : Value) : Settled (pure value : Query Value) := ⟨_, rfl⟩

@[simp]
theorem yields_pure (value other : Value) :
    Yields (pure value : Query Value) other ↔ other = value :=
  (yields_ok [value] other).trans List.mem_singleton

@[simp]
theorem settled_holds (condition : Bool) : Settled (holds condition) := by
  cases condition
  · exact ⟨_, rfl⟩
  · exact ⟨_, rfl⟩

@[simp]
theorem yields_holds (condition : Bool) (done : Unit) :
    Yields (holds condition) done ↔ condition = true := by
  cases condition
  · simp [holds, undefined]
  · simp [holds]

@[simp]
theorem settled_ref (found : Option Json) : Settled (ref found) := ⟨_, rfl⟩

@[simp]
theorem yields_ref (found : Option Json) (document : Json) :
    Yields (ref found) document ↔ found = some document := by
  simp [ref]

@[simp]
theorem settled_elements (document : Json) : Settled (elements document) := ⟨_, rfl⟩

@[simp]
theorem yields_elements (document value : Json) :
    Yields (elements document) value ↔ value ∈ document.each := by
  simp [elements]

@[simp]
theorem settled_startswith (text start : Json) : Settled (startswith text start) := by
  unfold startswith
  split
  next => exact settled_holds _
  next => exact ⟨_, rfl⟩

@[simp]
theorem settled_count (document : Json) : Settled (count document) := by
  cases document <;> exact ⟨_, rfl⟩

@[simp]
theorem settled_fails (query : Query Value) : Settled (fails query) ↔ Settled query := by
  cases query with
  | error problem => simp [fails]
  | ok values => cases values <;> simp [fails, undefined]

@[simp]
theorem yields_fails (query : Query Value) (done : Unit) :
    Yields (fails query) done ↔ Settled query ∧ ∀ value, ¬ Yields query value := by
  cases query with
  | error problem => simp [fails]
  | ok values =>
      cases values with
      | nil => simp [fails]
      | cons first rest =>
          simp only [fails, undefined, yields_ok, settled_ok, true_and, List.not_mem_nil, false_iff,
            not_forall, not_not]
          exact ⟨first, List.mem_cons_self⟩

theorem exists_yields_complete (bodies : List (Query Json)) :
    (∃ value, Yields (complete bodies) value) ↔
      Settled (complete bodies) ∧ ∃ body ∈ bodies, ∃ value, Yields body value := by
  have bodyYields : (∃ body ∈ bodies, ∃ value, Yields body value) ↔
      ∃ value, ∃ body ∈ bodies, Yields body value := by
    constructor
    · rintro ⟨body, listed, value, yields⟩
      exact ⟨value, body, listed, yields⟩
    · rintro ⟨value, body, listed, yields⟩
      exact ⟨body, listed, value, yields⟩
  rw [bodyYields]
  cases evaluated : union bodies with
  | error problem => simp [complete, evaluated]
  | ok outputs =>
      have defined : ∀ value, value ∈ outputs ↔ ∃ body ∈ bodies, Yields body value := by
        intro value
        have found := yields_union bodies value
        rwa [evaluated, yields_ok, and_iff_right (settled_ok outputs)] at found
      simp only [← defined, complete, evaluated]
      by_cases agreeing : agree outputs = true
      · simp only [agreeing, if_true, yields_ok, settled_ok, true_and]
        cases outputs <;> simp
      · simp [agreeing]

theorem settled_complete {bodies : List (Query Json)} {output : Json}
    (settled : ∀ body ∈ bodies, Settled body)
    (constant : ∀ body ∈ bodies, ∀ value, Yields body value → value = output)
    (reflexive : output.same output = true) : Settled (complete bodies) := by
  obtain ⟨outputs, evaluated⟩ := (settled_union bodies).mpr settled
  have allEqual : ∀ value ∈ outputs, value = output := by
    intro value member
    have yields : Yields (union bodies) value := ⟨outputs, evaluated, member⟩
    obtain ⟨body, listed, found⟩ := ((yields_union bodies value).mp yields).2
    exact constant body listed value found
  have agreeing : agree outputs = true := by
    cases outputs with
    | nil => rfl
    | cons first rest =>
        rw [agree, List.all_eq_true]
        intro other member
        rw [allEqual first List.mem_cons_self, allEqual other (List.mem_cons_of_mem _ member)]
        exact reflexive
  refine ⟨outputs.take 1, ?_⟩
  simp only [complete, evaluated, agreeing]
  rfl

/-- Bodies without a conflict of their own make one when their outputs differ. -/
theorem complete_of_union {bodies : List (Query Json)} {outputs : List Json}
    (evaluated : union bodies = .ok outputs) :
    complete bodies = if agree outputs then .ok (outputs.take 1) else .error .conflict := by
  simp [complete, evaluated]

end Query

end GemEmulation.Foundations
