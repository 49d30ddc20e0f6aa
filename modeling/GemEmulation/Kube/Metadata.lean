import GemEmulation.Kube.Apply

/-!
# Properties of stored metadata

A property of the metadata of the object under a key survives the calls of a
program when every write of that object respects it.
-/

namespace GemEmulation.Kube

open Foundations

/-- The metadata of the object stored under a key have a property. -/
def StoredWith (property : ObjectMeta → Prop) (kind : Kind) (key : ObjectKey)
    (cluster : Cluster) : Prop :=
  ∀ stored, (cluster kind).get? key = some stored → property stored.metadata

abbrev KeepsStored (property : ObjectMeta → Prop) (kind : Kind) (key : ObjectKey) :
    Session → Session → Prop :=
  Program.Keeps fun session => StoredWith property kind key session.cluster

def refreshed (sent stored : ObjectMeta) : ObjectMeta :=
  { sent with uid := stored.uid, deletionTimestamp := stored.deletionTimestamp }

section StoredWith

variable {property : ObjectMeta → Prop} {kind other : Kind} {key key' : ObjectKey}

theorem keepsStored_of_makes {allowed : Call → Prop} {Result : Type} {program : Api Result}
    (makes : program.Guarantees (Makes allowed))
    (untouched : ∀ call, allowed call → call.target ≠ some (kind, key)) :
    program.Guarantees (KeepsStored property kind key) := by
  intro faults session held
  rw [StoredWith, (makes faults session).unchanged untouched]
  exact held

theorem storedWith_put {cluster : Cluster} {object : Object other.Body}
    (whole : StoredWith property kind key cluster)
    (held : other = kind → object.key = key → property object.metadata) :
    StoredWith property kind key (cluster.put other object) := by
  intro stored found
  by_cases same : (other, object.key) = (kind, key)
  · obtain ⟨rfl, rfl⟩ := Prod.mk.inj same
    rw [Cluster.put_self, Store.get?_put_self] at found
    cases found
    exact held rfl rfl
  · rw [cluster.get?_put_of_ne object same] at found
    exact whole stored found

theorem storedWith_remove {cluster : Cluster} {removed : ObjectKey}
    (whole : StoredWith property kind key cluster) :
    StoredWith property kind key (cluster.remove other removed) := by
  intro stored found
  by_cases same : (other, removed) = (kind, key)
  · obtain ⟨rfl, rfl⟩ := Prod.mk.inj same
    simp at found
  · rw [cluster.get?_remove_of_ne same] at found
    exact whole stored found

theorem request_keepsStored {Result : Type} {call : Call}
    {effect : Session → Except ApiError (Result × Cluster)}
    (kept : ∀ session result cluster, effect session = .ok (result, cluster) →
      StoredWith property kind key session.cluster → StoredWith property kind key cluster) :
    (request call effect).Guarantees (KeepsStored property kind key) := by
  intro faults session held
  simp only [request]
  split
  · exact held
  · next result cluster outcome =>
      split at outcome
      · contradiction
      · exact kept session result cluster outcome held

theorem create_keepsStored {object : Object other.Body}
    (held : other = kind → object.key = key → property object.metadata) :
    (create other object).Guarantees (KeepsStored property kind key) := by
  apply request_keepsStored
  intro session result cluster outcome whole
  split at outcome <;> cases outcome
  exact storedWith_put whole held

theorem update_keepsStored {object : Object other.Body}
    (held : other = kind → object.key = key → ∀ stored, property stored →
      property (refreshed object.metadata stored)) :
    (update other object).Guarantees (KeepsStored property kind key) := by
  apply request_keepsStored
  intro session result cluster outcome whole
  split at outcome <;> cases outcome
  next stored found =>
    unfold settle
    split
    · exact storedWith_remove whole
    · apply storedWith_put whole
      rintro rfl rfl
      exact held rfl rfl _ (whole stored found)

theorem updateStatus_keepsStored {status : CustomKind} {object : Unstructured} :
    (updateStatus status object).Guarantees (KeepsStored property kind key) := by
  apply request_keepsStored
  intro session result cluster outcome whole
  split at outcome
  · contradiction
  next stored found =>
    split at outcome <;> cases outcome
    apply storedWith_put whole
    rintro rfl rfl
    exact whole stored (Store.key_of_get? found ▸ found)

theorem delete_keepsStored (notPod : other ≠ .pod)
    (held : other = kind → key' = key → ∀ stored now, property stored →
      stored.finalizers ≠ [] →
        property { stored with deletionTimestamp := stored.deletionTimestamp.getD now }) :
    (delete other key').Guarantees (KeepsStored property kind key) := by
  apply request_keepsStored
  intro session result cluster outcome whole
  split at outcome
  · contradiction
  next stored found =>
    split at outcome
    next finalizers =>
      cases outcome
      have filed := Store.key_of_get? found
      apply storedWith_put whole
      rintro rfl rfl
      exact held rfl filed.symm _ _ (whole stored (filed ▸ found)) (finalizers.resolve_left notPod)
    next =>
      cases outcome
      exact storedWith_remove whole

theorem applyObject_keepsStored {same : Object other.Body → Object other.Body → Bool}
    {object : Object other.Body}
    (created : other = kind → object.key = key → property object.metadata)
    (held : other = kind → object.key = key → ∀ stored, property stored →
      property (refreshed object.metadata stored)) :
    (applyObject other same object).Guarantees (KeepsStored property kind key) := by
  refine applyObject_guarantees (keepsStored_of_makes (get_makes rfl) ?_)
    (create_keepsStored created) (update_keepsStored held)
  rintro call rfl
  simp [Call.target]

end StoredWith

def Loose (metadata : ObjectMeta) : Prop :=
  metadata.finalizers = [] ∧ metadata.deletionTimestamp = none

end GemEmulation.Kube
