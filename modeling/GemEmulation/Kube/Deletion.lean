import GemEmulation.Kube.Effects

/-!
# Deleting many objects

Deleting objects one after the other, whatever the outcomes.  All are gone and
no call has failed exactly when the environment lets all calls through and no
object has finalizers.
-/

namespace GemEmulation.Kube

open Foundations

/-- No failure looks like a missing object. -/
def HonestFaults (faults : Faults) : Prop := ∀ count call, faults count call ≠ some .notFound

def deleteAll (targets : List (Kind × ObjectKey)) : Api Unit :=
  targets.foldlM (fun _ target => do
    let _ ← delete target.1 target.2
    pure ()) ()

def Removable (faults : Faults) (cluster : Cluster) (target : Kind × ObjectKey) : Prop :=
  faults 0 (.delete target.1 target.2) = none ∧
    ∀ stored, (cluster target.1).get? target.2 = some stored → stored.metadata.finalizers = []

/-- The object does not exist, and no Delete of it has failed but for that. -/
def CleanlyGone (session : Session) (target : Kind × ObjectKey) : Prop :=
  (session.cluster target.1).get? target.2 = none ∧
    ∀ error, (.delete target.1 target.2, some error) ∈ session.calls → error = .notFound

def DeletesOf (targets : List (Kind × ObjectKey)) (call : Call) : Prop :=
  ∃ target ∈ targets, call = .delete target.1 target.2

theorem deleteAll_makes (targets : List (Kind × ObjectKey)) :
    (deleteAll targets).Guarantees (Makes (DeletesOf targets)) :=
  .foldlM _ (fun target listed _ => .bind (delete_makes ⟨target, listed, rfl⟩) fun _ => .pure _) _

theorem deleteAll_cons (target : Kind × ObjectKey) (targets : List (Kind × ObjectKey))
    (faults : Faults) (session : Session) :
    deleteAll (target :: targets) faults session =
      deleteAll targets faults (delete target.1 target.2 faults session).2 := rfl

theorem not_mem_calls_of_times {session : Session} {call : Call} (never : session.times call = 0)
    (error : Option ApiError) : (call, error) ∉ session.calls := fun logged =>
  List.count_eq_zero.mp never (List.mem_map_of_mem logged)

theorem cleanlyGone_of_makes {allowed : Call → Prop} {before after : Session}
    {target : Kind × ObjectKey} (makes : Makes allowed before after)
    (other : ∀ call, allowed call → call.target ≠ some target) :
    CleanlyGone after target ↔ CleanlyGone before target := by
  have logged : ∀ error, (Call.delete target.1 target.2, some error) ∈ after.calls ↔
      (.delete target.1 target.2, some error) ∈ before.calls :=
    fun error => makes.mem_calls_iff fun permitted => other _ permitted rfl
  rw [CleanlyGone, CleanlyGone, makes.unchanged other]
  simp only [logged]

/-- The first Delete of an object leaves it cleanly gone exactly when it is
removable. -/
theorem delete_cleanlyGone {faults : Faults} (honest : HonestFaults faults) {session : Session}
    {target : Kind × ObjectKey} (notPod : target.1 ≠ .pod)
    (never : session.times (.delete target.1 target.2) = 0) :
    CleanlyGone (delete target.1 target.2 faults session).2 target ↔
      Removable faults session.cluster target := by
  have unlogged := not_mem_calls_of_times never
  cases failing : faults 0 (.delete target.1 target.2) with
  | some error =>
      refine iff_of_false (fun gone => ?_) fun removable => by
        simp [Removable, failing] at removable
      have logged : (Call.delete target.1 target.2, some error) ∈
          (delete target.1 target.2 faults session).2.calls := by
        simp [delete, request, never, failing]
      exact honest 0 _ (gone.2 error logged ▸ failing)
  | none =>
      have granted : faults (session.times (.delete target.1 target.2))
          (.delete target.1 target.2) = none := never.symm ▸ failing
      cases found : (session.cluster target.1).get? target.2 with
      | none =>
          rw [delete_absent granted found]
          refine iff_of_true ⟨found, fun error logged => ?_⟩ ⟨failing, fun stored present => ?_⟩
          · simp only [Session.logged, List.mem_append, List.mem_singleton, Prod.mk.injEq,
              Option.some.injEq, true_and] at logged
            exact logged.resolve_left (unlogged _)
          · rw [found] at present
            cases present
      | some stored =>
          by_cases free : stored.metadata.finalizers = []
          · rw [delete_granted granted found ⟨notPod, free⟩]
            refine iff_of_true ⟨?_, fun error logged => ?_⟩ ⟨failing, fun other present => ?_⟩
            · simp
            · simp only [Session.logged, List.mem_append, List.mem_singleton, Prod.mk.injEq,
                reduceCtorEq, and_false, or_false] at logged
              exact absurd logged (unlogged _)
            · rw [found] at present
              cases present
              exact free
          · refine iff_of_false (fun gone => ?_) fun removable => free (removable.2 stored found)
            have kept : (delete target.1 target.2 faults session).2.cluster =
                session.cluster.put target.1 (marked stored session.now) := by
              simp [delete, request, granted, found, free]
            have filed := Store.key_of_get? found
            have present : ((session.cluster.put target.1 (marked stored session.now))
                target.1).get? target.2 = some (marked stored session.now) := by
              rw [Cluster.put_self, ← filed]
              exact Store.get?_put_self _ (marked stored session.now)
            rw [CleanlyGone, kept, present] at gone
            cases gone.1

/-- Deleted objects are all cleanly gone exactly when all are removable. -/
theorem deleteAll_cleanlyGone {faults : Faults} (honest : HonestFaults faults)
    {targets : List (Kind × ObjectKey)} (distinct : targets.Nodup)
    (notPod : ∀ target ∈ targets, target.1 ≠ .pod) {session : Session}
    (never : ∀ target ∈ targets, session.times (.delete target.1 target.2) = 0) :
    (∀ target ∈ targets, CleanlyGone (deleteAll targets faults session).2 target) ↔
      ∀ target ∈ targets, Removable faults session.cluster target := by
  induction targets generalizing session with
  | nil => simp
  | cons target targets inductionHypothesis =>
      obtain ⟨fresh, distinct⟩ := List.nodup_cons.mp distinct
      simp only [List.forall_mem_cons] at notPod never ⊢
      rw [deleteAll_cons]
      have first := delete_cleanlyGone honest notPod.1 never.1
      have makes : Makes (Eq (.delete target.1 target.2)) session
          (delete target.1 target.2 faults session).2 := delete_makes rfl faults session
      set middle := (delete target.1 target.2 faults session).2
      have later : CleanlyGone (deleteAll targets faults middle).2 target ↔
          CleanlyGone middle target := cleanlyGone_of_makes
            (deleteAll_makes targets faults middle) (by
        rintro call ⟨other, listed, rfl⟩ same
        cases same
        exact fresh listed)
      have apart : ∀ other ∈ targets, ∀ call, call = Call.delete target.1 target.2 →
          call.target ≠ some other := by
        rintro other listed call rfl same
        cases same
        exact fresh listed
      have neverThen : ∀ other ∈ targets, middle.times (.delete other.1 other.2) = 0 :=
        fun other listed => (makes.times_eq fun same => apart other listed _ same.symm rfl).trans
          (never.2 other listed)
      have rest := inductionHypothesis distinct notPod.2 neverThen
      have unchanged : ∀ other ∈ targets,
          (Removable faults middle.cluster other ↔ Removable faults session.cluster other) := by
        intro other listed
        have same : (middle.cluster other.1).get? other.2 =
            (session.cluster other.1).get? other.2 :=
          makes.unchanged fun call equality => apart other listed call equality.symm
        rw [Removable, Removable, same]
      rw [later, first, rest]
      exact and_congr_right fun _ => forall₂_congr unchanged

/-- The finalizer of an object was there before and no longer holds it back. -/
def ReleasesFinalizer (kind : Kind) (key : ObjectKey) (finalizer : String)
    (before after : Cluster) : Prop :=
  (∃ object, (before kind).get? key = some object ∧ containsFinalizer object finalizer = true) ∧
    ∀ object, (after kind).get? key = some object → containsFinalizer object finalizer = false

theorem not_releasesFinalizer {kind : Kind} {key : ObjectKey} {finalizer : String}
    {before after : Cluster} (same : (after kind).get? key = (before kind).get? key) :
    ¬ ReleasesFinalizer kind key finalizer before after := by
  rintro ⟨⟨object, found, held⟩, released⟩
  rw [released object (same.trans found)] at held
  cases held

theorem update_releasesFinalizer {kind : Kind} {object : Object kind.Body} {finalizer : String}
    {faults : Faults} {before : Cluster} {session : Session}
    (found : (before kind).get? object.key = some object)
    (held : containsFinalizer object finalizer = true)
    (same : (session.cluster kind).get? object.key = (before kind).get? object.key) :
    ReleasesFinalizer kind object.key finalizer before
        (update kind (removeFinalizer object finalizer) faults session).2.cluster ↔
      faults (session.times (.update kind object.key)) (.update kind object.key) = none := by
  have key : (removeFinalizer object finalizer).key = object.key := rfl
  have present := same.trans found
  cases granted : faults (session.times (.update kind object.key)) (.update kind object.key) with
  | some error =>
      refine iff_of_false (not_releasesFinalizer ?_) nofun
      have refused : (update kind (removeFinalizer object finalizer) faults session).2.cluster =
          session.cluster := by
        simp [update, request, key, granted]
      rw [refused, same]
  | none =>
      refine iff_of_true ⟨⟨object, found, held⟩, ?_⟩ rfl
      rw [update_granted (key ▸ granted) (key ▸ present)]
      intro after stored
      simp only [settle] at stored
      split at stored
      · rw [show (updated kind object (removeFinalizer object finalizer)).key = object.key from rfl,
          Cluster.remove_self, Store.get?_remove, if_pos rfl] at stored
        cases stored
      · rw [Cluster.put_self, Store.get?_put] at stored
        cases (if_pos rfl).symm.trans stored
        simp [containsFinalizer, updated, removeFinalizer]

end GemEmulation.Kube
