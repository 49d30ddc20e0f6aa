import GemEmulation.Kube.Value
import Mathlib.Data.List.Perm.Subperm

/-!
# Deep equality

Values whose maps have distinct keys, as all maps of Go do, and what deep
equality says of their fields.
-/

namespace GemEmulation.Kube

open Foundations

theorem mem_of_lookupEntry {fields : Fields} {name : String} {value : Value}
    (found : lookupEntry name fields = some value) : (name, value) ∈ fields := by
  induction fields with
  | nil => cases found
  | cons field rest inductionHypothesis =>
      obtain ⟨key, first⟩ := field
      rw [lookupEntry] at found
      split at found
      next same =>
        cases found
        rw [same]
        exact List.mem_cons_self
      next => exact List.mem_cons_of_mem _ (inductionHypothesis found)

namespace Value

mutual

/-- No map inside a value has a key twice. -/
def Proper : Value → Prop
  | slice items => ProperItems items
  | map fields => (fields.map Prod.fst).Nodup ∧ ProperFields fields
  | _ => True

def ProperItems : List Value → Prop
  | [] => True
  | item :: rest => item.Proper ∧ ProperItems rest

def ProperFields : Fields → Prop
  | [] => True
  | (_, value) :: rest => value.Proper ∧ ProperFields rest

end

theorem properItems_iff (items : List Value) :
    ProperItems items ↔ ∀ item ∈ items, item.Proper := by
  induction items with
  | nil => simp [ProperItems]
  | cons item rest inductionHypothesis => simp [ProperItems, inductionHypothesis]

theorem properFields_iff (fields : Fields) :
    ProperFields fields ↔ ∀ field ∈ fields, field.2.Proper := by
  induction fields with
  | nil => simp [ProperFields]
  | cons field rest inductionHypothesis =>
      obtain ⟨name, value⟩ := field
      simp [ProperFields, inductionHypothesis]

theorem deepEqualFields_iff (first second : Fields) :
    deepEqualFields first second = true ↔ ∀ field ∈ first, ∃ found,
      lookupEntry field.1 second = some found ∧ field.2.deepEqual found = true := by
  induction first with
  | nil => simp [deepEqualFields]
  | cons field rest inductionHypothesis =>
      obtain ⟨name, value⟩ := field
      rw [deepEqualFields, Bool.and_eq_true, inductionHypothesis, List.forall_mem_cons]
      apply and_congr_left
      intro _
      cases lookupEntry name second <;> simp

theorem deepEqualItems_iff (first second : List Value) :
    deepEqualItems first second = true ↔
      List.Forall₂ (fun value other => value.deepEqual other = true) first second := by
  induction first generalizing second with
  | nil => cases second <;> simp [deepEqualItems]
  | cons value rest inductionHypothesis =>
      cases second with
      | nil => simp [deepEqualItems]
      | cons other others => simp [deepEqualItems, inductionHypothesis]

mutual

theorem deepEqual_refl : (value : Value) → value.Proper → value.deepEqual value = true
  | nil, _ => rfl
  | bool _, _ | int64 _, _ | float64 _, _ | string _, _ => by simp [deepEqual]
  | slice items, proper => deepEqualItems_refl items proper
  | map fields, proper => by
      rw [Proper] at proper
      simp only [deepEqual, decide_true, Bool.true_and, deepEqualFields_iff]
      intro field listed
      refine ⟨field.2, ?_, deepEqualFields_refl fields proper.2 field listed⟩
      exact (mem_iff_lookupEntry proper.1 field.1 field.2).mp listed

theorem deepEqualItems_refl :
    (items : List Value) → ProperItems items → deepEqualItems items items = true
  | [], _ => rfl
  | item :: rest, proper => by
      rw [ProperItems] at proper
      rw [deepEqualItems, deepEqual_refl item proper.1, deepEqualItems_refl rest proper.2]
      rfl

theorem deepEqualFields_refl : (fields : Fields) → ProperFields fields →
    ∀ field ∈ fields, field.2.deepEqual field.2 = true
  | [], _ => fun _ listed => absurd listed List.not_mem_nil
  | (_, value) :: rest, proper => by
      rw [ProperFields] at proper
      rw [List.forall_mem_cons]
      exact ⟨deepEqual_refl value proper.1, deepEqualFields_refl rest proper.2⟩

end

theorem deepEqual_lookup {first second : Fields} (firstKeys : (first.map Prod.fst).Nodup)
    (equal : (map first).deepEqual (map second) = true) {name : String} {value : Value}
    (found : lookupEntry name second = some value) :
    ∃ other, lookupEntry name first = some other ∧ other.deepEqual value = true := by
  simp only [deepEqual, Bool.and_eq_true, decide_eq_true_eq, deepEqualFields_iff] at equal
  obtain ⟨lengths, fields⟩ := equal
  have within : first.map Prod.fst ⊆ second.map Prod.fst := by
    intro key listed
    obtain ⟨field, member, rfl⟩ := List.mem_map.mp listed
    obtain ⟨value, present, -⟩ := fields field member
    exact List.mem_map.mpr ⟨(field.1, value), mem_of_lookupEntry present, rfl⟩
  have keys : (first.map Prod.fst).Perm (second.map Prod.fst) :=
    (List.subperm_of_subset firstKeys within).perm_of_length_le (by simp [lengths])
  have listed : name ∈ first.map Prod.fst := by
    rw [keys.mem_iff]
    exact List.mem_map.mpr ⟨(name, value), mem_of_lookupEntry found, rfl⟩
  obtain ⟨⟨_, other⟩, member, rfl⟩ := List.mem_map.mp listed
  obtain ⟨value', present, same⟩ := fields _ member
  rw [found] at present
  cases present
  exact ⟨other, (mem_iff_lookupEntry firstKeys _ _).mp member, same⟩

end Value

end GemEmulation.Kube
