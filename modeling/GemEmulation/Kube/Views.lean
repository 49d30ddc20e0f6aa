import GemEmulation.Kube.Api

/-!
# Views of a store

What is computed from the list of a store depends on what each stored object
contributes, and on nothing else that is stored.
-/

namespace GemEmulation.Kube

open Foundations

namespace Store

variable {Body View Item : Type} {first second : Store Body}

theorem nodup_keys (store : Store Body) : (store.list.map Object.key).Nodup := by
  apply store.nodup_list.map_on
  intro object listed other listed' same
  have stored := mem_list.mp listed
  rw [same, mem_list.mp listed'] at stored
  exact (Option.some.inj stored).symm

def keyed (view : Object Body → Option View) (object : Object Body) : Option (ObjectKey × View) :=
  (view object).map (object.key, ·)

theorem mem_filterMap_keyed {store : Store Body} {view : Object Body → Option View}
    {entry : ObjectKey × View} :
    entry ∈ store.list.filterMap (keyed view) ↔
      (store.get? entry.1).bind view = some entry.2 := by
  rw [List.mem_filterMap, Option.bind_eq_some_iff]
  constructor
  · rintro ⟨object, listed, added⟩
    obtain ⟨item, viewed, rfl⟩ := Option.map_eq_some_iff.mp added
    exact ⟨object, mem_list.mp listed, viewed⟩
  · rintro ⟨object, found, viewed⟩
    have key := key_of_get? found
    refine ⟨object, mem_list.mpr (by rwa [key]), ?_⟩
    rw [keyed, viewed, key, Option.map_some]

theorem keys_sublist (store : Store Body) (view : Object Body → Option View) :
    ((store.list.filterMap (keyed view)).map Prod.fst).Sublist (store.list.map Object.key) := by
  induction store.list with
  | nil => exact .slnil
  | cons object rest inductionHypothesis =>
      cases viewed : view object with
      | none =>
          have skipped : keyed view object = none := by rw [keyed, viewed, Option.map_none]
          rw [List.filterMap_cons_none skipped, List.map_cons]
          exact inductionHypothesis.cons _
      | some item =>
          have kept : keyed view object = some (object.key, item) := by
            rw [keyed, viewed, Option.map_some]
          rw [List.filterMap_cons_some kept, List.map_cons, List.map_cons]
          exact inductionHypothesis.cons_cons _

theorem list_filterMap_congr {view : Object Body → Option View}
    (same : ∀ key, (first.get? key).bind view = (second.get? key).bind view) :
    first.list.filterMap view = second.list.filterMap view := by
  have distinct (store : Store Body) : (store.list.filterMap (keyed view)).Nodup :=
    ((store.nodup_keys).sublist (store.keys_sublist view)).of_map
  have sorted (store : Store Body) : (store.list.filterMap (keyed view)).Pairwise
      fun entry other => entry.1.precedes other.1 := by
    have objects : store.list.Pairwise listedBefore := List.pairwise_insertionSort _ _
    have keys : (store.list.map Object.key).Pairwise ObjectKey.precedes :=
      List.pairwise_map.mpr objects
    exact List.pairwise_map.mp (keys.sublist (store.keys_sublist view))
  have permuted : (first.list.filterMap (keyed view)).Perm
      (second.list.filterMap (keyed view)) := by
    apply (List.perm_ext_iff_of_nodup (distinct first) (distinct second)).mpr
    intro entry
    rw [mem_filterMap_keyed, mem_filterMap_keyed, same]
  have antisymmetric : ∀ entry other, entry ∈ first.list.filterMap (keyed view) →
      other ∈ second.list.filterMap (keyed view) → entry.1.precedes other.1 →
        other.1.precedes entry.1 → entry = other := by
    intro entry other listed listed' forward backward
    have key : entry.1 = other.1 := ObjectKey.precedes_antisymm forward backward
    have viewed := mem_filterMap_keyed.mp listed
    rw [same, key, mem_filterMap_keyed.mp listed'] at viewed
    exact Prod.ext key (Option.some.inj viewed).symm
  have equal := permuted.eq_of_pairwise antisymmetric (sorted first) (sorted second)
  have unkeyed (store : Store Body) :
      (store.list.filterMap (keyed view)).map Prod.snd = store.list.filterMap view := by
    rw [List.map_filterMap]
    congr 1
    funext object
    rw [keyed, Option.map_map]
    exact Option.map_id'
  rw [← unkeyed, ← unkeyed, equal]

end Store

section Listed

variable {Body Item : Type} {first second : Store Body} {ns : Option String}
  {labels : List (String × String)} {gather : Object Body → List Item}

def contribution (ns : Option String) (labels : List (String × String))
    (gather : Object Body → List Item) (object : Object Body) : List Item :=
  if selects ns labels object then gather object else []

theorem listed_flatMap_congr
    (same : ∀ key, ((first.get? key).map (contribution ns labels gather)).getD [] =
      ((second.get? key).map (contribution ns labels gather)).getD []) :
    (listed first ns labels).flatMap gather = (listed second ns labels).flatMap gather := by
  -- Objects that add nothing are not viewed.
  let view (object : Object Body) : Option (List Item) :=
    match contribution ns labels gather object with
    | [] => none
    | item :: rest => some (item :: rest)
  have viewed (store : Store Body) (key : ObjectKey) : (store.get? key).bind view =
      match ((store.get? key).map (contribution ns labels gather)).getD [] with
      | [] => none
      | item :: rest => some (item :: rest) := by
    cases store.get? key <;> rfl
  have gathered (store : Store Body) :
      (listed store ns labels).flatMap gather = (store.list.filterMap view).flatten := by
    rw [listed]
    induction store.list with
    | nil => rfl
    | cons object rest inductionHypothesis =>
        have added : (if selects ns labels object then gather object else []) =
            (view object).getD [] := by
          simp only [view]
          rw [← contribution]
          cases contribution ns labels gather object <;> rfl
        have head : ((object :: rest).filterMap view).flatten =
            (view object).getD [] ++ (rest.filterMap view).flatten := by
          cases adds : view object <;> simp [adds]
        rw [head, ← inductionHypothesis, ← added, List.filter_cons]
        split <;> rfl
  rw [gathered, gathered]
  refine congrArg List.flatten (Store.list_filterMap_congr fun key => ?_)
  rw [viewed, viewed, same]

end Listed

end GemEmulation.Kube
