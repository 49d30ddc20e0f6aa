import GemEmulation.Kube.Api

/-!
# What calls change

A program's calls bound its effects: an object changes only when a call that
writes it is made.  Calls that the environment lets through have the effect
that their kind and the stored object determine.
-/

namespace GemEmulation.Kube

open Foundations

def Call.target : Call → Option (Kind × ObjectKey)
  | get _ _ | list _ _ _ => none
  | create kind key | update kind key | updateStatus kind key | delete kind key =>
      some (kind, key)

def Call.Spares (kind : Kind) (call : Call) : Prop := ∀ key, call.target ≠ some (kind, key)

/-- The calls made between two sessions are of the allowed forms, and nothing
changes but their targets. -/
def Makes (allowed : Call → Prop) (before after : Session) : Prop :=
  ∃ made, after.calls = before.calls ++ made ∧ (∀ entry ∈ made, allowed entry.1) ∧
    ∀ kind key, (∀ entry ∈ made, entry.1.target ≠ some (kind, key)) →
      (after.cluster kind).get? key = (before.cluster kind).get? key

section Makes

variable {allowed : Call → Prop} {before after : Session}

instance : Std.Refl (Makes allowed) :=
  ⟨fun session => ⟨[], by simp, by simp, fun _ _ _ => rfl⟩⟩

instance : IsTrans Session (Makes allowed) where
  trans first second third := by
    rintro ⟨made, grown, forms, same⟩ ⟨made', grown', forms', same'⟩
    refine ⟨made ++ made', by rw [grown', grown, List.append_assoc], ?_, ?_⟩
    · intro entry membership
      rcases List.mem_append.mp membership with early | late
      · exact forms entry early
      · exact forms' entry late
    · intro kind key untouched
      rw [same' kind key fun entry late => untouched entry (List.mem_append_right _ late),
        same kind key fun entry early => untouched entry (List.mem_append_left _ early)]

theorem Makes.weaken {weaker : Call → Prop} (makes : Makes allowed before after)
    (implication : ∀ call, allowed call → weaker call) : Makes weaker before after := by
  obtain ⟨made, grown, forms, same⟩ := makes
  exact ⟨made, grown, fun entry membership => implication _ (forms entry membership), same⟩

theorem Makes.unchanged (makes : Makes allowed before after) {kind : Kind} {key : ObjectKey}
    (untouched : ∀ call, allowed call → call.target ≠ some (kind, key)) :
    (after.cluster kind).get? key = (before.cluster kind).get? key := by
  obtain ⟨made, -, forms, same⟩ := makes
  exact same kind key fun entry membership => untouched entry.1 (forms entry membership)

theorem Makes.listed_unchanged (makes : Makes allowed before after) {kind : Kind}
    (untouched : ∀ call, allowed call → ∀ key, call.target ≠ some (kind, key))
    (ns : Option String) (labels : List (String × String)) :
    listed (after.cluster kind) ns labels = listed (before.cluster kind) ns labels := by
  rw [listed, listed, Store.list_congr fun key => makes.unchanged fun call permitted =>
    untouched call permitted key]

theorem Makes.mem_calls (makes : Makes allowed before after) {entry : Call × Option ApiError}
    (present : entry ∈ before.calls) : entry ∈ after.calls := by
  obtain ⟨made, grown, -⟩ := makes
  rw [grown]
  exact List.mem_append_left made present

theorem Makes.mem_calls_iff (makes : Makes allowed before after) {entry : Call × Option ApiError}
    (other : ¬ allowed entry.1) : entry ∈ after.calls ↔ entry ∈ before.calls := by
  refine ⟨fun present => ?_, makes.mem_calls⟩
  obtain ⟨made, grown, forms, -⟩ := makes
  rw [grown, List.mem_append] at present
  exact present.resolve_right fun late => other (forms entry late)

theorem Makes.times_eq (makes : Makes allowed before after) {call : Call} (other : ¬ allowed call) :
    after.times call = before.times call := by
  obtain ⟨made, grown, forms, -⟩ := makes
  have never : call ∉ made.map Prod.fst := by
    intro present
    obtain ⟨entry, membership, rfl⟩ := List.mem_map.mp present
    exact other (forms entry membership)
  rw [Session.times, Session.times, grown, List.map_append, List.count_append,
    List.count_eq_zero_of_not_mem never, Nat.add_zero]

end Makes

theorem Cluster.get?_put_of_ne (cluster : Cluster) {kind other : Kind}
    (object : Object kind.Body) {key : ObjectKey} (different : (kind, object.key) ≠ (other, key)) :
    (cluster.put kind object other).get? key = (cluster other).get? key := by
  by_cases same : other = kind
  · subst same
    have differentKey : key ≠ object.key := fun equality => different (by rw [equality])
    rw [put_self, Store.get?_put, if_neg differentKey]
  · rw [put_of_ne _ _ same]

theorem Cluster.get?_remove_of_ne (cluster : Cluster) {kind other : Kind} {removed key : ObjectKey}
    (different : (kind, removed) ≠ (other, key)) :
    (cluster.remove kind removed other).get? key = (cluster other).get? key := by
  by_cases same : other = kind
  · subst same
    have differentKey : key ≠ removed := fun equality => different (by rw [equality])
    rw [remove_self, Store.get?_remove, if_neg differentKey]
  · rw [remove_of_ne _ _ same]

theorem settle_of_ne (cluster : Cluster) {kind other : Kind} (object : Object kind.Body)
    {key : ObjectKey} (different : (kind, object.key) ≠ (other, key)) :
    (settle cluster kind object other).get? key = (cluster other).get? key := by
  unfold settle
  split
  · exact cluster.get?_remove_of_ne different
  · exact cluster.get?_put_of_ne object different

theorem get?_settle {cluster : Cluster} {kind : Kind} {object stored : Object kind.Body}
    (found : (settle cluster kind object kind).get? object.key = some stored) :
    stored = object := by
  unfold settle at found
  split at found
  next => simp at found
  next =>
    rw [Cluster.put_self, Store.get?_put_self] at found
    exact (Option.some.inj found).symm

variable {Result : Type} {allowed : Call → Prop}

theorem request_makes {call : Call} {effect : Session → Except ApiError (Result × Cluster)}
    (permitted : allowed call)
    (within : ∀ session result cluster, effect session = .ok (result, cluster) →
      ∀ kind key, call.target ≠ some (kind, key) →
        (cluster kind).get? key = (session.cluster kind).get? key) :
    (request call effect).Guarantees (Makes allowed) := by
  intro client session
  simp only [request]
  split
  · next error _ =>
      refine ⟨[(call, some error)], rfl, ?_, fun _ _ _ => rfl⟩
      rintro entry membership
      rw [List.mem_singleton.mp membership]
      exact permitted
  · next result cluster outcome =>
      refine ⟨[(call, none)], rfl, ?_, ?_⟩
      · rintro entry membership
        rw [List.mem_singleton.mp membership]
        exact permitted
      · intro kind key untouched
        split at outcome
        · contradiction
        · exact within session result cluster outcome kind key
            (untouched (call, none) (List.mem_singleton_self _))

theorem get_makes {kind : Kind} {key : ObjectKey} (permitted : allowed (.get kind key)) :
    (get kind key).Guarantees (Makes allowed) := by
  apply request_makes permitted
  intro session result cluster outcome other key' _
  split at outcome <;> cases outcome
  rfl

theorem list_makes {kind : Kind} {ns : Option String} {labels : List (String × String)}
    (permitted : allowed (.list kind ns labels)) :
    (list kind ns labels).Guarantees (Makes allowed) := fun client session =>
  request_makes permitted (fun session result cluster outcome other key' _ => by
    cases outcome
    rfl) client session

theorem create_makes (kind : Kind) {object : Object kind.Body}
    (permitted : allowed (.create kind object.key)) :
    (create kind object).Guarantees (Makes allowed) := by
  apply request_makes permitted
  intro session result cluster outcome other key untouched
  split at outcome <;> cases outcome
  exact session.cluster.get?_put_of_ne object fun same => untouched (congrArg some same)

theorem update_makes (kind : Kind) {object : Object kind.Body}
    (permitted : allowed (.update kind object.key)) :
    (update kind object).Guarantees (Makes allowed) := by
  apply request_makes permitted
  intro session result cluster outcome other key untouched
  split at outcome <;> cases outcome
  exact settle_of_ne session.cluster _ fun same => untouched (congrArg some same)

theorem updateStatus_makes (kind : CustomKind) {object : Unstructured}
    (permitted : allowed (.updateStatus (.custom kind) object.key)) :
    (updateStatus kind object).Guarantees (Makes allowed) := by
  apply request_makes permitted
  intro session result cluster outcome other key untouched
  split at outcome
  · contradiction
  · next stored found =>
      split at outcome <;> cases outcome
      have filed := Store.key_of_get? found
      exact session.cluster.get?_put_of_ne _ fun same => untouched (by
        rw [← same, ← filed]
        rfl)

theorem delete_makes {kind : Kind} {key : ObjectKey} (permitted : allowed (.delete kind key)) :
    (delete kind key).Guarantees (Makes allowed) := by
  apply request_makes permitted
  intro session result cluster outcome other key' untouched
  split at outcome
  · contradiction
  · next stored found =>
      have filed := Store.key_of_get? found
      split at outcome <;> cases outcome
      · exact session.cluster.get?_put_of_ne _ fun same => untouched (by
          rw [← same, ← filed]
          rfl)
      · exact session.cluster.get?_remove_of_ne fun same => untouched (congrArg some same)

theorem now_makes : now.Guarantees (Makes allowed) := fun _ session => Std.Refl.refl session

theorem recordEvent_makes (event : RecordedEvent) :
    (recordEvent event).Guarantees (Makes allowed) :=
  fun _ _ => ⟨[], (List.append_nil _).symm, by simp, fun _ _ _ => rfl⟩

def errorOf : Except ApiError Result → Option ApiError
  | .ok _ => none
  | .error error => some error

theorem request_calls (call : Call) (effect : Session → Except ApiError (Result × Cluster))
    (client : Client) (session : Session) :
    (request call effect client session).2.calls =
      session.calls ++ [(call, errorOf (request call effect client session).1)] := by
  simp only [request]
  split <;> rfl

theorem request_times (call other : Call)
    (effect : Session → Except ApiError (Result × Cluster)) (client : Client) (session : Session) :
    (request call effect client session).2.times other =
      session.times other + [call].count other := by
  rw [Session.times, request_calls, List.map_append, List.count_append]
  rfl

theorem request_failed {call : Call} {effect : Session → Except ApiError (Result × Cluster)}
    {client : Client} {session : Session} {error : ApiError}
    (failed : (request call effect client session).1 = .error error) :
    (request call effect client session).2.cluster = session.cluster := by
  simp only [request] at failed ⊢
  split at failed
  next =>
    cases failed
    simp only
  next => cases failed

section Outcomes

variable {kind : Kind} {key : ObjectKey} {object stored : Object kind.Body} {client : Client}
  {faults : Faults} {rank : Rank} {session : Session}

theorem get_times (other : Call) :
    (get kind key client session).2.times other =
      session.times other + [Call.get kind key].count other := request_times _ _ _ _ _

theorem list_times {ns : Option String} {labels : List (String × String)} (other : Call) :
    (list kind ns labels client session).2.times other =
      session.times other + [Call.list kind ns labels].count other := request_times _ _ _ _ _

theorem get_refused {error : ApiError}
    (refused : faults (session.times (.get kind key)) (.get kind key) = some error) :
    (get kind key ⟨faults, rank⟩ session).1 = .error error := by
  simp only [get, request, refused]

theorem list_refused {ns : Option String} {labels : List (String × String)} {error : ApiError}
    (refused : faults (session.times (.list kind ns labels)) (.list kind ns labels) = some error) :
    (list kind ns labels ⟨faults, rank⟩ session).1 = .error error := by
  simp only [list, request, refused]

theorem list_granted {ns : Option String} {labels : List (String × String)}
    (granted : faults (session.times (.list kind ns labels)) (.list kind ns labels) = none) :
    (list kind ns labels faults session).1 = .ok (listed (session.cluster kind) ns labels) := by
  simp only [list, request, granted, arranged_unranked]

theorem get_granted (granted : faults (session.times (.get kind key)) (.get kind key) = none) :
    (get kind key ⟨faults, rank⟩ session).1 =
      match (session.cluster kind).get? key with
      | some object => .ok object
      | none => .error .notFound := by
  simp only [get, request, granted]
  cases (session.cluster kind).get? key <;> rfl

theorem create_granted
    (granted : faults (session.times (.create kind object.key)) (.create kind object.key) = none)
    (absent : (session.cluster kind).get? object.key = none) :
    create kind object ⟨faults, rank⟩ session =
      (.ok (), { session.logged (.create kind object.key) none with
        cluster := session.cluster.put kind object }) := by
  simp only [create, request, granted, absent]
  rfl

theorem update_granted
    (granted : faults (session.times (.update kind object.key)) (.update kind object.key) = none)
    (found : (session.cluster kind).get? object.key = some stored) :
    update kind object ⟨faults, rank⟩ session =
      (.ok (updated kind stored object), { session.logged (.update kind object.key) none with
        cluster := settle session.cluster kind (updated kind stored object) }) := by
  simp only [update, request, granted, found]
  rfl

theorem update_ok {result : Object kind.Body}
    (succeeded : (update kind object client session).1 = .ok result) :
    ∃ stored, (session.cluster kind).get? object.key = some stored ∧
      result = updated kind stored object := by
  simp only [update, request] at succeeded
  split at succeeded
  · contradiction
  next result' cluster outcome =>
    split at outcome
    · contradiction
    · split at outcome
      · contradiction
      next stored found =>
        cases outcome
        cases succeeded
        exact ⟨stored, found, rfl⟩

theorem update_stores {result : Object kind.Body}
    (succeeded : (update kind object client session).1 = .ok result) :
    ∃ stored, (session.cluster kind).get? object.key = some stored ∧
      (update kind object client session).2.cluster =
        settle session.cluster kind (updated kind stored object) := by
  obtain ⟨stored, found, -⟩ := update_ok succeeded
  obtain ⟨faults, rank⟩ := client
  refine ⟨stored, found, ?_⟩
  cases failing : faults (session.times (.update kind object.key)) (.update kind object.key) with
  | none => rw [update_granted failing found]
  | some error => simp [update, request, failing] at succeeded

theorem create_stores (succeeded : (create kind object client session).1 = .ok ()) :
    (create kind object client session).2.cluster = session.cluster.put kind object := by
  obtain ⟨faults, rank⟩ := client
  cases failing : faults (session.times (.create kind object.key)) (.create kind object.key) with
  | none =>
      cases found : (session.cluster kind).get? object.key with
      | none => rw [create_granted failing found]
      | some stored => simp [create, request, failing, found] at succeeded
  | some error => simp [create, request, failing] at succeeded

theorem create_absent (succeeded : (create kind object client session).1 = .ok ()) :
    (session.cluster kind).get? object.key = none := by
  obtain ⟨faults, rank⟩ := client
  cases failing : faults (session.times (.create kind object.key)) (.create kind object.key) with
  | none =>
      cases found : (session.cluster kind).get? object.key with
      | none => rfl
      | some stored => simp [create, request, failing, found] at succeeded
  | some error => simp [create, request, failing] at succeeded

theorem delete_granted
    (granted : faults (session.times (.delete kind key)) (.delete kind key) = none)
    (found : (session.cluster kind).get? key = some stored)
    (free : kind ≠ .pod ∧ stored.metadata.finalizers = []) :
    delete kind key ⟨faults, rank⟩ session =
      (.ok (), { session.logged (.delete kind key) none with
        cluster := session.cluster.remove kind key }) := by
  simp only [delete, request, granted, found, free.1, free.2]
  rfl

def afterDelete {Body : Type} (now : String) (stored : Object Body) : Option (Object Body) :=
  if stored.metadata.finalizers = [] then none else some (marked stored now)

theorem delete_absent
    (granted : faults (session.times (.delete kind key)) (.delete kind key) = none)
    (absent : (session.cluster kind).get? key = none) :
    delete kind key ⟨faults, rank⟩ session =
      (.error .notFound, session.logged (.delete kind key) (some .notFound)) := by
  simp only [delete, request, granted, absent]
  rfl

theorem delete_noFaults (notPod : kind ≠ .pod) :
    ((delete kind key ⟨noFaults, rank⟩ session).2.cluster kind).get? key =
      ((session.cluster kind).get? key).bind (afterDelete session.now) := by
  cases found : (session.cluster kind).get? key with
  | none =>
      rw [delete_absent rfl found]
      exact found
  | some stored =>
      have filed : stored.key = key := Store.key_of_get? found
      rw [Option.bind_some, afterDelete]
      by_cases free : stored.metadata.finalizers = []
      · rw [delete_granted rfl found ⟨notPod, free⟩, if_pos free]
        have removed : (session.cluster.remove kind key kind).get? key = none := by simp
        exact removed
      · rw [if_neg free]
        simp only [delete, request, noFaults, found, notPod, free, not_false_eq_true, or_true,
          ne_eq, if_true]
        rw [Cluster.put_self, ← filed]
        exact Store.get?_put_self _ (marked stored session.now)

end Outcomes

end GemEmulation.Kube
