import GemEmulation.Foundations.Runs
import GemEmulation.Operator.Gateway.Frame
import GemEmulation.Operator.Network.Frame

/-!
# The operator in a cluster

Runs of the two controllers among the changes that everyone else makes to the
cluster.  The state also tells which Services carry a MetalLB pool that someone
other than the operator has written.
-/

namespace GemEmulation.Operator

open Foundations Kube

def poolOf (cluster : Cluster) (key : ObjectKey) : Option String :=
  ((cluster .service).get? key).bind fun svc =>
    svc.metadata.annotations.get? annotationAddressPool

structure OperatorState where
  cluster : Cluster
  foreignPool : ObjectKey → Bool

namespace OperatorState

def initial (cluster : Cluster) : OperatorState := ⟨cluster, fun _ => false⟩

def advance (state : OperatorState) (byOperator : Bool) (cluster : Cluster) : OperatorState where
  cluster
  foreignPool key :=
    if poolOf cluster key = poolOf state.cluster key then state.foreignPool key
    else !byOperator && (poolOf cluster key).isSome

end OperatorState

/-- What happens to a cluster: others store or remove objects, and the controllers
reconcile with any failing calls. -/
inductive OperatorEvent where
  | edit (kind : Kind) (object : Object kind.Body)
  | discard (kind : Kind) (key : ObjectKey)
  | reconcileGateway (key : ObjectKey) (now : String) (faults : Faults)
  | reconcileNetwork (texts : LibraryTexts) (name now : String) (faults : Faults)

def operatorStep (state : OperatorState) : OperatorEvent → Option OperatorState
  | .edit kind object => some (state.advance false (state.cluster.put kind object))
  | .discard kind key => some (state.advance false (state.cluster.remove kind key))
  | .reconcileGateway key now faults => some (state.advance true
      (reconcileGateway key faults { cluster := state.cluster, now }).2.cluster)
  | .reconcileNetwork texts name now faults => some (state.advance true
      (reconcileNetwork texts name faults { cluster := state.cluster, now }).2.cluster)

/-- Others leave the dynamic objects under a key removable. -/
def LeavesLoose (key : ObjectKey) (_ : OperatorState) : OperatorEvent → Prop
  | .edit .service object => object.key = key → Loose object.metadata
  | .edit .endpointSlice object => object.key = sliceKey key → Loose object.metadata
  | _ => True

def Fresh (key : ObjectKey) (cluster : Cluster) : Prop :=
  (cluster .service).get? key = none ∧ (cluster .endpointSlice).get? (sliceKey key) = none

theorem looseObjects_of_fresh {key : ObjectKey} {cluster : Cluster} (fresh : Fresh key cluster) :
    LooseObjects key cluster :=
  ⟨fun _ found => by simp [fresh.1] at found, fun _ found => by simp [fresh.2] at found⟩

def OperatorState.LooseUnder (key : ObjectKey) (state : OperatorState) : Prop :=
  LooseObjects key state.cluster

theorem operatorStep_looseObjects {key : ObjectKey} {state next : OperatorState}
    {event : OperatorEvent} (loose : state.LooseUnder key)
    (leaves : LeavesLoose key state event) (stepped : operatorStep state event = some next) :
    next.LooseUnder key := by
  cases event with
  | edit kind object =>
      cases stepped
      refine ⟨storedWith_put loose.1 ?_, storedWith_put loose.2 ?_⟩
      · rintro rfl same
        exact leaves same
      · rintro rfl same
        exact leaves same
  | discard kind removed =>
      cases stepped
      exact ⟨storedWith_remove loose.1, storedWith_remove loose.2⟩
  | reconcileGateway reconciled now faults =>
      cases stepped
      exact ⟨respected_loose.reconcileGateway (by decide) reconciled faults _ loose.1,
        respected_loose.reconcileGateway (by decide) reconciled faults _ loose.2⟩
  | reconcileNetwork texts name now faults =>
      cases stepped
      constructor
      · refine reconcileNetwork_service (fun netObj _ svc found _ _ stored before => ?_) loose.1
        exact ⟨(loose.1 svc found).1, before.2⟩
      · exact keepsStored_of_makes (reconcileNetwork_sparesSlices texts name)
          (fun _ spares => spares _) faults _ loose.2

/-- The dynamic objects are loose in every run in which others leave them so. -/
theorem looseObjects_of_run {key : ObjectKey} {start state : OperatorState}
    {events : List OperatorEvent} (fresh : Fresh key start.cluster)
    (run : Run operatorStep (LeavesLoose key) start events state) :
    state.LooseUnder key := by
  have base : start.LooseUnder key := looseObjects_of_fresh fresh
  exact run.invariant base operatorStep_looseObjects

end GemEmulation.Operator
