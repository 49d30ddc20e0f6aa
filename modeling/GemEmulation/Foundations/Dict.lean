import Mathlib.Data.List.Nodup
import Mathlib.Data.List.Perm.Basic

/-!
# Finite maps that remember the order of their keys

A `Dict` lists its entries in insertion order and overwriting a key keeps the
key's place, as Python's dictionaries do.  Keys are distinct by construction,
so listing the entries and looking keys up always agree.
-/

namespace GemEmulation.Foundations

universe u v

variable {Key : Type u} {Value : Type v} [DecidableEq Key]

/-- The value of the first entry of `key`. -/
def lookupEntry (key : Key) : List (Key × Value) → Option Value
  | [] => none
  | (other, value) :: rest => if key = other then some value else lookupEntry key rest

/-- Overwrite the entry of `key`, or append one. -/
def setEntry (key : Key) (value : Value) : List (Key × Value) → List (Key × Value)
  | [] => [(key, value)]
  | (other, old) :: rest =>
      if other = key then (key, value) :: rest
      else (other, old) :: setEntry key value rest

theorem mem_setEntry_keys (key other : Key) (value : Value)
    (entries : List (Key × Value)) :
    other ∈ (setEntry key value entries).map Prod.fst ↔
      other = key ∨ other ∈ entries.map Prod.fst := by
  induction entries with
  | nil => simp [setEntry]
  | cons entry rest inductionHypothesis =>
      obtain ⟨head, old⟩ := entry
      by_cases equality : head = key
      · subst equality
        simp [setEntry]
      · simp only [setEntry, equality, if_false, List.map_cons, List.mem_cons,
          inductionHypothesis]
        tauto

theorem setEntry_nodup (key : Key) (value : Value) {entries : List (Key × Value)}
    (nodup : (entries.map Prod.fst).Nodup) :
    ((setEntry key value entries).map Prod.fst).Nodup := by
  induction entries with
  | nil => simp [setEntry]
  | cons entry rest inductionHypothesis =>
      obtain ⟨head, old⟩ := entry
      simp only [List.map_cons, List.nodup_cons] at nodup
      by_cases equality : head = key
      · subst equality
        simpa [setEntry] using nodup
      · simp only [setEntry, equality, if_false, List.map_cons, List.nodup_cons,
          mem_setEntry_keys, not_or, not_false_eq_true, true_and]
        exact ⟨nodup.1, inductionHypothesis nodup.2⟩

theorem lookupEntry_setEntry (key other : Key) (value : Value)
    (entries : List (Key × Value)) :
    lookupEntry other (setEntry key value entries) =
      if other = key then some value else lookupEntry other entries := by
  induction entries with
  | nil => simp [setEntry, lookupEntry]
  | cons entry rest inductionHypothesis =>
      obtain ⟨head, old⟩ := entry
      by_cases equality : head = key
      · subst equality
        by_cases same : other = head <;> simp [setEntry, lookupEntry, same]
      · by_cases same : other = head
        · subst same
          simp [setEntry, lookupEntry, equality]
        · simp [setEntry, lookupEntry, equality, same, inductionHypothesis]

theorem lookupEntry_filter_ne (key other : Key) (entries : List (Key × Value)) :
    lookupEntry other (entries.filter fun entry => decide (entry.1 ≠ key)) =
      if other = key then none else lookupEntry other entries := by
  induction entries with
  | nil => simp [lookupEntry]
  | cons entry rest inductionHypothesis =>
      obtain ⟨head, value⟩ := entry
      by_cases removed : head = key
      · subst removed
        by_cases same : other = head <;>
          simp_all [lookupEntry]
      · by_cases same : other = head
        · subst same
          simp [lookupEntry, removed]
        · simp_all [lookupEntry]

theorem mem_iff_lookupEntry {entries : List (Key × Value)}
    (nodup : (entries.map Prod.fst).Nodup) (key : Key) (value : Value) :
    (key, value) ∈ entries ↔ lookupEntry key entries = some value := by
  induction entries with
  | nil => simp [lookupEntry]
  | cons entry rest inductionHypothesis =>
      obtain ⟨head, old⟩ := entry
      simp only [List.map_cons, List.nodup_cons] at nodup
      by_cases same : key = head
      · subst same
        have absent : (key, value) ∉ rest := fun membership =>
          nodup.1 (List.mem_map_of_mem (f := Prod.fst) membership)
        simp [lookupEntry, absent, eq_comm]
      · simp [lookupEntry, same, inductionHypothesis nodup.2]

/-- A finite map with distinct keys. -/
structure Dict (Key : Type u) (Value : Type v) [DecidableEq Key] where
  entries : List (Key × Value)
  nodup : (entries.map Prod.fst).Nodup

namespace Dict

instance : EmptyCollection (Dict Key Value) := ⟨⟨[], by simp⟩⟩

instance : Inhabited (Dict Key Value) := ⟨∅⟩

instance [DecidableEq Value] : DecidableEq (Dict Key Value) := fun first second =>
  decidable_of_iff (first.entries = second.entries) <| by
    cases first
    cases second
    simp

@[ext]
theorem ext {first second : Dict Key Value}
    (equality : first.entries = second.entries) : first = second := by
  cases first
  cases second
  simpa using equality

def get? (dict : Dict Key Value) (key : Key) : Option Value :=
  lookupEntry key dict.entries

def set (dict : Dict Key Value) (key : Key) (value : Value) : Dict Key Value :=
  ⟨setEntry key value dict.entries, setEntry_nodup key value dict.nodup⟩

def erase (dict : Dict Key Value) (key : Key) : Dict Key Value :=
  ⟨dict.entries.filter fun entry => decide (entry.1 ≠ key),
    (List.filter_sublist.map Prod.fst).nodup dict.nodup⟩

def values (dict : Dict Key Value) : List Value := dict.entries.map Prod.snd

def singleton (key : Key) (value : Value) : Dict Key Value :=
  (∅ : Dict Key Value).set key value

def sameMap [DecidableEq Value] (first second : Dict Key Value) : Bool :=
  decide (first.entries.Perm second.entries)

@[simp]
theorem get?_empty (key : Key) : (∅ : Dict Key Value).get? key = none := rfl

@[simp]
theorem get?_set (dict : Dict Key Value) (key other : Key) (value : Value) :
    (dict.set key value).get? other =
      if other = key then some value else dict.get? other :=
  lookupEntry_setEntry key other value dict.entries

theorem get?_set_self (dict : Dict Key Value) (key : Key) (value : Value) :
    (dict.set key value).get? key = some value := by simp

theorem get?_set_of_ne (dict : Dict Key Value) {key other : Key} (value : Value)
    (different : other ≠ key) :
    (dict.set key value).get? other = dict.get? other := by simp [different]

@[simp]
theorem get?_erase (dict : Dict Key Value) (key other : Key) :
    (dict.erase key).get? other =
      if other = key then none else dict.get? other :=
  lookupEntry_filter_ne key other dict.entries

theorem mem_entries_iff (dict : Dict Key Value) (key : Key) (value : Value) :
    (key, value) ∈ dict.entries ↔ dict.get? key = some value :=
  mem_iff_lookupEntry dict.nodup key value

theorem get?_of_sameMap [DecidableEq Value] {first second : Dict Key Value}
    (same : first.sameMap second = true) : first.get? = second.get? := by
  have permuted : first.entries.Perm second.entries := of_decide_eq_true same
  funext key
  ext value
  rw [← mem_entries_iff, ← mem_entries_iff, permuted.mem_iff]

theorem mem_values_iff (dict : Dict Key Value) (value : Value) :
    value ∈ dict.values ↔ ∃ key, dict.get? key = some value := by
  simp only [values, List.mem_map, Prod.exists, mem_entries_iff]
  exact ⟨fun ⟨key, found, found', equality⟩ => ⟨key, equality ▸ found'⟩,
    fun ⟨key, found⟩ => ⟨key, value, found, rfl⟩⟩

end Dict

end GemEmulation.Foundations
