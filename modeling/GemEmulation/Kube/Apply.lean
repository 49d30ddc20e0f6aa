import GemEmulation.Kube.Effects

/-!
# Creating or updating an object

The operator applies a child object by reading it, creating it when it is
missing, and updating it when it differs.  Conflicts are retried.
-/

namespace GemEmulation.Kube

open Foundations

def attemptApply (kind : Kind) (same : Object kind.Body → Object kind.Body → Bool)
    (object : Object kind.Body) : Api (Except ApiError Unit) := do
  match ← get kind object.key with
  | .error error =>
      match ignoreNotFound error with
      | none => create kind object
      | some error => pure (.error error)
  | .ok existing =>
      if same existing object then pure (.ok ())
      else
        match ← update kind object with
        | .ok _ => pure (.ok ())
        | .error error => pure (.error error)

def applyObject (kind : Kind) (same : Object kind.Body → Object kind.Body → Bool)
    (object : Object kind.Body) : Api (Except ApiError Unit) :=
  retryOnConflict (attemptApply kind same object) defaultRetries

def AppliesTo (kind : Kind) (key : ObjectKey) (call : Call) : Prop :=
  call = .get kind key ∨ call = .create kind key ∨ call = .update kind key

section Guarantees

variable {kind : Kind} {same : Object kind.Body → Object kind.Body → Bool}
  {object : Object kind.Body} {relation : Session → Session → Prop} [Std.Refl relation]
  [IsTrans Session relation]

theorem attemptApply_guarantees (reading : (get kind object.key).Guarantees relation)
    (creating : (create kind object).Guarantees relation)
    (updating : (update kind object).Guarantees relation) :
    (attemptApply kind same object).Guarantees relation := by
  refine .bind reading fun outcome => ?_
  cases outcome with
  | error error =>
      dsimp only
      split
      · exact creating
      · exact .pure _
  | ok existing =>
      dsimp only
      split
      · exact .pure _
      · refine .bind updating fun outcome => ?_
        split <;> exact .pure _

theorem applyObject_guarantees (reading : (get kind object.key).Guarantees relation)
    (creating : (create kind object).Guarantees relation)
    (updating : (update kind object).Guarantees relation) :
    (applyObject kind same object).Guarantees relation := by
  have attempt : (attemptApply kind same object).Guarantees relation :=
    attemptApply_guarantees reading creating updating
  unfold applyObject
  generalize defaultRetries = retries
  induction retries with
  | zero => exact attempt
  | succ retries inductionHypothesis =>
      refine .bind attempt fun outcome => ?_
      split
      · exact inductionHypothesis
      · exact .pure _

theorem applyObject_makes :
    (applyObject kind same object).Guarantees (Makes (AppliesTo kind object.key)) :=
  applyObject_guarantees (get_makes (.inl rfl)) (create_makes kind (.inr (.inl rfl)))
    (update_makes kind (.inr (.inr rfl)))

end Guarantees

/-- Only reads fail, and no failure looks like a missing object. -/
def ReadFaults (faults : Faults) : Prop :=
  ∀ count call error, faults count call = some error → call.isRead = true ∧ error ≠ .notFound

theorem readFaults_noFaults : ReadFaults noFaults := fun _ _ _ fault => by cases fault

theorem ReadFaults.writes {faults : Faults} (reads : ReadFaults faults) {count : Nat}
    {call : Call} (write : call.isRead = false) : faults count call = none := by
  cases fault : faults count call with
  | none => rfl
  | some error => simp [(reads count call error fault).1] at write

/-- A call gets through at once or after conflicts, when it was made so often and
may be retried so often. -/
def LetsThrough (faults : Faults) (call : Call) : (made retries : Nat) → Prop
  | made, 0 => faults made call = none
  | made, retries + 1 =>
      match faults made call with
      | none => True
      | some .conflict => LetsThrough faults call (made + 1) retries
      | some _ => False

theorem letsThrough_noFaults (call : Call) (made retries : Nat) :
    LetsThrough noFaults call made retries := by
  cases retries with
  | zero => exact rfl
  | succ retries => exact trivial

def content {Body : Type} (object : Object Body) : (String → Option String) × Body :=
  (object.metadata.labels.get?, object.body)

def Undeleted {Body : Type} (object : Object Body) : Prop :=
  object.metadata.deletionTimestamp = none

def StoredAs (kind : Kind) (object : Object kind.Body) (cluster : Cluster) : Prop :=
  ∃ result, (cluster kind).get? object.key = some result ∧ content result = content object ∧
    Undeleted result

theorem StoredAs.content_eq {kind : Kind} {object : Object kind.Body} {cluster : Cluster}
    (stored : StoredAs kind object cluster) :
    ((cluster kind).get? object.key).map content = some (content object) := by
  obtain ⟨result, found, same, -⟩ := stored
  rw [found, Option.map_some, same]

section Applied

variable {kind : Kind} {same : Object kind.Body → Object kind.Body → Bool}
  {object : Object kind.Body} {faults : Faults} {rank : Rank}
  {session : Session}

theorem attemptApply_failed {error : ApiError} (reads : ReadFaults faults)
    (failed : faults (session.times (.get kind object.key)) (.get kind object.key) = some error) :
    attemptApply kind same object ⟨faults, rank⟩ session =
      (.error error, session.logged (.get kind object.key) (some error)) := by
  have kept : ignoreNotFound error = some error := by
    have other : error ≠ .notFound := (reads _ _ _ failed).2
    cases error <;> first | rfl | exact absurd rfl other
  simp only [attemptApply, Program.bind_apply, get, request, failed, kept]
  rfl

theorem attemptApply_stored (reads : ReadFaults faults)
    (replaced : ∀ stored sent, updatedBody kind stored sent = sent)
    (sound : ∀ existing, same existing object = true → content existing = content object)
    (fresh : Undeleted object)
    (live : ∀ stored, (session.cluster kind).get? object.key = some stored → Undeleted stored)
    (granted : faults (session.times (.get kind object.key)) (.get kind object.key) = none) :
    (attemptApply kind same object ⟨faults, rank⟩ session).1 = .ok () ∧
      StoredAs kind object (attemptApply kind same object ⟨faults, rank⟩ session).2.cluster := by
  have cluster := get_cluster kind object.key ⟨faults, rank⟩ session
  simp only [attemptApply, Program.bind_apply, get_granted granted]
  set read := (get kind object.key ⟨faults, rank⟩ session).2
  cases found : (session.cluster kind).get? object.key with
  | none =>
      have absent : (read.cluster kind).get? object.key = none := cluster ▸ found
      simp only [ignoreNotFound, create_granted (reads.writes rfl) absent]
      exact ⟨trivial, object, by simp, rfl, fresh⟩
  | some existing =>
      have undeleted : existing.metadata.deletionTimestamp = none := live existing found
      have present : (read.cluster kind).get? object.key = some existing := cluster ▸ found
      dsimp only
      split
      next unchanged => exact ⟨rfl, existing, present, sound existing unchanged, undeleted⟩
      next =>
        have settled : settle read.cluster kind (updated kind existing object) =
            read.cluster.put kind (updated kind existing object) := by
          simp [settle, updated, undeleted]
        have stored : ((read.cluster.put kind (updated kind existing object)) kind).get?
            object.key = some (updated kind existing object) := by
          rw [Cluster.put_self]
          exact Store.get?_put_self _ (updated kind existing object)
        simp only [Program.bind_apply, update_granted (reads.writes rfl) present,
          Program.pure_apply, settled]
        exact ⟨trivial, _, stored, Prod.ext rfl (replaced _ _), undeleted⟩

/-- An object that no one is deleting is applied once its read gets through. -/
theorem applyObject_stored (reads : ReadFaults faults)
    (replaced : ∀ stored sent, updatedBody kind stored sent = sent)
    (sound : ∀ existing, same existing object = true → content existing = content object)
    (fresh : Undeleted object)
    (live : ∀ stored, (session.cluster kind).get? object.key = some stored → Undeleted stored)
    (through : LetsThrough faults (.get kind object.key) (session.times (.get kind object.key))
      defaultRetries) :
    StoredAs kind object (applyObject kind same object ⟨faults, rank⟩ session).2.cluster := by
  unfold applyObject
  generalize defaultRetries = retries at through ⊢
  induction retries generalizing session with
  | zero => exact (attemptApply_stored reads replaced sound fresh live through).2
  | succ retries inductionHypothesis =>
      simp only [retryOnConflict, Program.bind_apply]
      unfold LetsThrough at through
      split at through
      next granted =>
        obtain ⟨succeeded, stored⟩ := attemptApply_stored reads replaced sound fresh live granted
        rw [succeeded]
        exact stored
      next failed =>
        rw [attemptApply_failed reads failed]
        exact inductionHypothesis live (by rwa [Session.times_logged])
      next => contradiction

theorem applyObject_failed (reads : ReadFaults faults)
    (stuck : ¬ LetsThrough faults (.get kind object.key) (session.times (.get kind object.key))
      defaultRetries) :
    (applyObject kind same object ⟨faults, rank⟩ session).2.cluster = session.cluster := by
  unfold applyObject
  generalize defaultRetries = retries at stuck ⊢
  induction retries generalizing session with
  | zero =>
      obtain ⟨error, failed⟩ := Option.ne_none_iff_exists'.mp stuck
      simp only [retryOnConflict, attemptApply_failed reads failed, Session.logged_cluster]
  | succ retries inductionHypothesis =>
      simp only [retryOnConflict, Program.bind_apply]
      unfold LetsThrough at stuck
      split at stuck
      next => exact absurd trivial stuck
      next failed =>
        rw [attemptApply_failed reads failed]
        exact (inductionHypothesis (by rwa [Session.times_logged])).trans rfl
      next error other failed =>
        rw [attemptApply_failed reads failed]
        cases error with
        | conflict => exact absurd rfl other
        | notFound | alreadyExists | other message => rfl

end Applied

section Outcome

variable {kind : Kind} {same : Object kind.Body → Object kind.Body → Bool}
  {object : Object kind.Body} {client : Client} {session : Session}

/-- What an apply leaves in the place of the existing object.  An update sends no
finalizers but those of the object, so it may complete a deletion. -/
def applied (kind : Kind) (same : Object kind.Body → Object kind.Body → Bool)
    (object : Object kind.Body) : Option (Object kind.Body) → Option (Object kind.Body)
  | none => some object
  | some existing =>
      if same existing object then some existing
      else if existing.metadata.deletionTimestamp.isSome ∧ object.metadata.finalizers = [] then none
      else some (updated kind existing object)

theorem applied_unchanged {existing : Object kind.Body}
    (unchanged : same existing object = true) :
    applied kind same object (some existing) = some existing := if_pos unchanged

/-- An apply that fails changes nothing, and one that succeeds leaves what it should. -/
def LeavesApplied (kind : Kind) (same : Object kind.Body → Object kind.Body → Bool)
    (object : Object kind.Body) (before : Session) (outcome : Except ApiError Unit)
    (after : Session) : Prop :=
  match outcome with
  | .ok () => (after.cluster kind).get? object.key =
      applied kind same object ((before.cluster kind).get? object.key)
  | .error _ => after.cluster = before.cluster

theorem settle_updated (cluster : Cluster) (existing : Object kind.Body) :
    (settle cluster kind (updated kind existing object) kind).get? object.key =
      if existing.metadata.deletionTimestamp.isSome ∧ object.metadata.finalizers = [] then none
      else some (updated kind existing object) := by
  by_cases gone : existing.metadata.deletionTimestamp.isSome ∧ object.metadata.finalizers = []
  · have removed : settle cluster kind (updated kind existing object) =
        cluster.remove kind object.key := if_pos gone
    rw [if_pos gone, removed, Cluster.remove_self, Store.get?_remove, if_pos rfl]
  · have putting : settle cluster kind (updated kind existing object) =
        cluster.put kind (updated kind existing object) := if_neg gone
    rw [if_neg gone, putting, Cluster.put_self]
    exact Store.get?_put_self _ (updated kind existing object)

theorem attemptApply_leaves :
    LeavesApplied kind same object session (attemptApply kind same object client session).1
      (attemptApply kind same object client session).2 := by
  have cluster := get_cluster kind object.key client session
  simp only [attemptApply, Program.bind_apply]
  set read := (get kind object.key client session).2
  cases outcome : (get kind object.key client session).1 with
  | error error =>
      dsimp only
      cases ignoreNotFound error with
      | some error => exact cluster
      | none =>
          dsimp only
          cases creating : (create kind object client read).1 with
          | error error => exact (request_failed creating).trans cluster
          | ok _ =>
              have absent := create_absent creating
              rw [cluster] at absent
              simp only [LeavesApplied, absent, applied]
              rw [create_stores creating, Cluster.put_self]
              exact Store.get?_put_self _ object
  | ok existing =>
      have found := get_ok outcome
      dsimp only
      split
      next unchanged =>
        simp only [LeavesApplied, Program.pure_apply, found, applied, if_pos unchanged]
        exact cluster ▸ found
      next changed =>
        simp only [Program.bind_apply]
        cases updating : (update kind object client read).1 with
        | error error => exact (request_failed updating).trans cluster
        | ok result =>
            obtain ⟨stored, present, settled⟩ := update_stores updating
            rw [cluster, found] at present
            cases present
            simp only [LeavesApplied, Program.pure_apply, found, applied, if_neg changed, settled]
            exact settle_updated _ existing

theorem applyObject_leaves :
    LeavesApplied kind same object session (applyObject kind same object client session).1
      (applyObject kind same object client session).2 := by
  unfold applyObject
  generalize defaultRetries = retries
  induction retries generalizing session with
  | zero => exact attemptApply_leaves
  | succ retries inductionHypothesis =>
      have attempted : LeavesApplied kind same object session
          (attemptApply kind same object client session).1 _ := attemptApply_leaves
      simp only [retryOnConflict, Program.bind_apply]
      generalize attemptApply kind same object client session = first at attempted
      obtain ⟨outcome, after⟩ := first
      cases outcome with
      | ok _ => exact attempted
      | error error =>
          have unchanged : after.cluster = session.cluster := attempted
          cases error with
          | conflict =>
              have again : LeavesApplied kind same object after _ _ := inductionHypothesis
              dsimp only
              generalize retryOnConflict _ retries client after = rest at again
              obtain ⟨outcome', final⟩ := rest
              cases outcome' with
              | ok _ => exact (again : _ = _).trans (by rw [unchanged])
              | error error => exact again.trans unchanged
          | notFound | alreadyExists | other message => exact attempted

theorem attemptApply_noFaults {rank : Rank} :
    (attemptApply kind same object ⟨noFaults, rank⟩ session).1 = .ok () := by
  have cluster := get_cluster kind object.key ⟨noFaults, rank⟩ session
  simp only [attemptApply, Program.bind_apply, get_noFaults]
  cases found : (session.cluster kind).get? object.key with
  | none =>
      rw [← cluster] at found
      simp only [ignoreNotFound]
      rw [create_granted rfl found]
  | some existing =>
      rw [← cluster] at found
      dsimp only
      split
      · rfl
      · simp only [Program.bind_apply]
        rw [update_granted rfl found]
        rfl

theorem applyObject_noFaults {rank : Rank} :
    ((applyObject kind same object ⟨noFaults, rank⟩ session).2.cluster kind).get? object.key =
      applied kind same object ((session.cluster kind).get? object.key) := by
  have succeeded : (applyObject kind same object ⟨noFaults, rank⟩ session).1 = .ok () := by
    simp only [applyObject, defaultRetries, retryOnConflict, Program.bind_apply,
      attemptApply_noFaults]
    rfl
  have leaves : LeavesApplied kind same object session
      (applyObject kind same object ⟨noFaults, rank⟩ session).1 _ := applyObject_leaves
  rwa [succeeded] at leaves

theorem applied_content {existing : Option (Object kind.Body)} {result : Object kind.Body}
    (replaced : ∀ stored sent, updatedBody kind stored sent = sent)
    (sound : ∀ existing, same existing object = true → content existing = content object)
    (left : applied kind same object existing = some result) : content result = content object := by
  cases existing with
  | none =>
      cases left
      rfl
  | some existing =>
      simp only [applied] at left
      split at left
      next unchanged =>
        cases left
        exact sound _ unchanged
      next =>
        split at left
        next => cases left
        next =>
          cases left
          exact Prod.ext rfl (replaced _ _)

theorem applied_none {existing : Option (Object kind.Body)}
    (left : applied kind same object existing = none) :
    ∃ stored, existing = some stored ∧ stored.metadata.deletionTimestamp.isSome ∧
      same stored object = false := by
  cases existing with
  | none => cases left
  | some existing =>
      simp only [applied] at left
      split at left
      next => cases left
      next changed =>
        split at left
        next gone => exact ⟨existing, rfl, gone.1, Bool.eq_false_iff.mpr changed⟩
        next => cases left

/-- An apply that fails changes nothing, and after one that succeeds the stored
object is the same. -/
def AppliedOrFailed (kind : Kind) (same : Object kind.Body → Object kind.Body → Bool)
    (object : Object kind.Body) (before : Session) (outcome : Except ApiError Unit)
    (after : Session) : Prop :=
  match outcome with
  | .ok () => ∃ result, (after.cluster kind).get? object.key = some result ∧
      same result object = true
  | .error _ => after.cluster = before.cluster

theorem applied_same {existing : Option (Object kind.Body)} (itself : same object object = true)
    (renewed : ∀ existing, same (updated kind existing object) object = true)
    (live : ∀ stored, existing = some stored → same stored object = true ∨ Undeleted stored) :
    ∃ result, applied kind same object existing = some result ∧ same result object = true := by
  cases existing with
  | none => exact ⟨object, rfl, itself⟩
  | some existing =>
      by_cases unchanged : same existing object = true
      · exact ⟨existing, applied_unchanged unchanged, unchanged⟩
      · have undeleted : existing.metadata.deletionTimestamp = none :=
          (live existing rfl).resolve_left unchanged
        exact ⟨updated kind existing object, by simp [applied, unchanged, undeleted],
          renewed existing⟩

theorem applyObject_outcome (itself : same object object = true)
    (renewed : ∀ existing, same (updated kind existing object) object = true)
    (live : ∀ stored, (session.cluster kind).get? object.key = some stored →
      same stored object = true ∨ Undeleted stored) :
    AppliedOrFailed kind same object session (applyObject kind same object client session).1
      (applyObject kind same object client session).2 := by
  have leaves : LeavesApplied kind same object session
      (applyObject kind same object client session).1 _ := applyObject_leaves
  generalize applyObject kind same object client session = run at leaves
  obtain ⟨outcome, after⟩ := run
  cases outcome with
  | error error => exact leaves
  | ok _ =>
      obtain ⟨result, left, unchanged⟩ := applied_same itself renewed live
      exact ⟨result, leaves.trans left, unchanged⟩

end Outcome

end GemEmulation.Kube
