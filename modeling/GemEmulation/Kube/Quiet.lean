import GemEmulation.Kube.Apply

/-!
# Programs that only read

A program is quiet on a cluster when it makes no call that writes.  Its result
need not be determined, since objects may be listed in any order.
-/

namespace GemEmulation.Kube

open Foundations

def Reads (call : Call) : Prop := call.isRead = true

/-- Run on the cluster, the program makes reads only, and its result is as described. -/
def Quiet {Result : Type} (client : Client) (cluster : Cluster) (program : Api Result)
    (post : Result → Prop) : Prop :=
  ∀ session, session.cluster = cluster →
    post (program client session).1 ∧ (program client session).2.cluster = cluster ∧
      Makes Reads session (program client session).2

namespace Quiet

variable {Result Next Item : Type} {client : Client} {rank : Rank} {cluster : Cluster}
  {program : Api Result} {next : Result → Api Next} {post weaker : Result → Prop}
  {final : Next → Prop} {kind : Kind}

theorem pure {result : Result} (holds : post result) :
    Quiet client cluster (pure result : Api Result) post :=
  fun session same => ⟨holds, same, Std.Refl.refl session⟩

theorem bind (first : Quiet client cluster program post)
    (rest : ∀ result, post result → Quiet client cluster (next result) final) :
    Quiet client cluster (program >>= next) final := by
  intro session same
  obtain ⟨holds, kept, reads⟩ := first session same
  obtain ⟨holds', kept', reads'⟩ := rest _ holds _ kept
  exact ⟨holds', kept', IsTrans.trans _ _ _ reads reads'⟩

theorem weaken (quiet : Quiet client cluster program post)
    (implication : ∀ result, post result → weaker result) :
    Quiet client cluster program weaker := fun session same =>
  ⟨implication _ (quiet session same).1, (quiet session same).2⟩

theorem foldlM {step : Result → Item → Api Result} {result : Result} {items : List Item}
    (each : ∀ item ∈ items, Quiet client cluster (step result item) (· = result)) :
    Quiet client cluster (items.foldlM step result) (· = result) := by
  induction items with
  | nil => exact .pure rfl
  | cons item rest inductionHypothesis =>
      rw [List.foldlM_cons]
      apply (each item List.mem_cons_self).bind
      rintro _ rfl
      exact inductionHypothesis fun other listed => each other (List.mem_cons_of_mem _ listed)

theorem get (key : ObjectKey) : Quiet ⟨noFaults, rank⟩ cluster (get kind key) (· =
    match (cluster kind).get? key with
    | some object => .ok object
    | none => .error .notFound) := by
  rintro session rfl
  exact ⟨get_noFaults kind key session, get_cluster kind key _ session,
    get_makes (show Reads _ from rfl) _ session⟩

theorem list (ns : Option String) (labels : List (String × String)) :
    Quiet ⟨noFaults, rank⟩ cluster (list kind ns labels) fun outcome =>
      ∃ objects, outcome = .ok objects ∧ objects.Perm (listed (cluster kind) ns labels) := by
  rintro session rfl
  exact ⟨⟨_, list_ranked kind ns labels session, arranged_perm _ _⟩,
    list_cluster kind ns labels _ session, list_makes (show Reads _ from rfl) _ session⟩

theorem recordEvent (event : RecordedEvent) :
    Quiet client cluster (recordEvent event) fun _ => True := by
  rintro session rfl
  exact ⟨trivial, rfl, recordEvent_makes event client session⟩

theorem applyObject {same : Object kind.Body → Object kind.Body → Bool}
    {object stored : Object kind.Body} (found : (cluster kind).get? object.key = some stored)
    (unchanged : same stored object = true) :
    Quiet ⟨noFaults, rank⟩ cluster (applyObject kind same object) (· = .ok ()) := by
  have attempt : Quiet ⟨noFaults, rank⟩ cluster (attemptApply kind same object) (· = .ok ()) := by
    apply (get object.key).bind
    rintro _ rfl
    rw [found]
    simp only [unchanged, if_true]
    exact .pure rfl
  unfold Kube.applyObject
  generalize defaultRetries = retries
  cases retries with
  | zero => exact attempt
  | succ retries =>
      apply attempt.bind
      rintro _ rfl
      exact .pure rfl

end Quiet

end GemEmulation.Kube
