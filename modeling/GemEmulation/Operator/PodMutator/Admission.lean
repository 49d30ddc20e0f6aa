import GemEmulation.Foundations.Runs
import GemEmulation.Operator.PodMutator.Mutator

/-!
# Concurrent admissions

Pods are admitted by any number of requests at a time.  A request plans its
mutation, takes one turn of the merge loop after another, each reading the
cluster as it is at that moment, and then the API server stores the Pod.
Between these steps other requests advance, Pods live and die, and Networks
and GKEGatewayCIDRs are edited.
-/

namespace GemEmulation.Operator

open Foundations Kube

/-- A request between the start of its mutation and the storing of its Pod. -/
structure Admission where
  pod : Pod
  primaryIfaces : List GKEInterfaceSpec
  remaining : List MultusNetworkSpec
  merge : MergeState
  /-- The addresses allocated so far, each with its Network. -/
  grants : List (String × String)

namespace Admission

def start (pod : Pod) (plan : MutationPlan) : Admission where
  pod := pod
  primaryIfaces := plan.primaryIfaces
  remaining := plan.secondaryNetworks
  merge := plan.start
  grants := []

/-- An admission after a turn of the loop for `sec`. -/
def merged (admission : Admission) (sec : MultusNetworkSpec) (rest : List MultusNetworkSpec)
    (merge : MergeState) : Admission :=
  { admission with
    remaining := rest
    merge
    grants := admission.grants ++
      (merge.inUseSet.drop admission.merge.inUseSet.length).map fun address =>
        (sec.name, address) }

def mutated (admission : Admission) : Pod :=
  mutatedPod admission.pod admission.primaryIfaces admission.merge.existingMultus

end Admission

/-- The cluster, the pending requests and, for every stored Pod, the addresses
that the webhook allocated to it. -/
structure Admissions where
  cluster : Cluster
  pending : Dict Nat Admission
  holders : Dict ObjectKey (List (String × String))

namespace Admissions

def initial (cluster : Cluster) : Admissions := ⟨cluster, ∅, ∅⟩

def session (state : Admissions) : Session where
  cluster := state.cluster
  now := ""

def held (state : Admissions) (key : ObjectKey) : List (String × String) :=
  (state.holders.get? key).getD []

end Admissions

inductive AdmissionEvent where
  | arrive (id : Nat) (pod : Pod)
  | advance (id : Nat) (faults : Faults)
  | store (id : Nat)
  | abort (id : Nat)
  | storeUnmutated (pod : Pod)
  | setPhase (key : ObjectKey) (phase : PodPhase)
  | reportStatus (key : ObjectKey) (statusKey text : String)
  | terminate (key : ObjectKey) (time : String)
  | removePod (key : ObjectKey)
  | edit (kind : Kind) (object : Object kind.Body)
  | discard (kind : Kind) (key : ObjectKey)

def createdPod (pod : Pod) : Pod where
  metadata := { pod.metadata with deletionTimestamp := none }
  body := { phase := .pending }

def hasStopped (pod : Pod) : Bool :=
  decide (pod.body.phase = .succeeded ∨ pod.body.phase = .failed)

def annotatedPod (pod : Pod) (key text : String) : Pod :=
  { pod with metadata := { pod.metadata with
      annotations := pod.metadata.annotations.set key text } }

def changePod (state : Admissions) (key : ObjectKey) (change : Pod → Option Pod) :
    Option Admissions := do
  let pod ← (state.cluster .pod).get? key
  let next ← change pod
  if next.key = key then some { state with cluster := state.cluster.put .pod next } else none

def admissionStep (state : Admissions) : AdmissionEvent → Option Admissions
  | .arrive id pod =>
      match state.pending.get? id, planMutation pod with
      | none, some plan =>
          some { state with pending := state.pending.set id (.start pod plan) }
      | _, _ => none
  | .advance id faults =>
      match state.pending.get? id with
      | none => none
      | some admission =>
          match admission.remaining with
          | [] => none
          | sec :: rest =>
              match (mergeSecondary true sec admission.merge faults state.session).1 with
              | .error _ => some { state with pending := state.pending.erase id }
              | .ok merge =>
                  some { state with
                    pending := state.pending.set id (admission.merged sec rest merge) }
  | .store id =>
      match state.pending.get? id with
      | none => none
      | some admission =>
          if admission.remaining = [] ∧
              ((state.cluster .pod).get? admission.pod.key).isNone = true then
            some {
              cluster := state.cluster.put .pod (createdPod admission.mutated)
              pending := state.pending.erase id
              holders := state.holders.set admission.pod.key admission.grants }
          else none
  | .abort id => some { state with pending := state.pending.erase id }
  | .storeUnmutated pod =>
      if (planMutation pod).isNone = true ∧ ((state.cluster .pod).get? pod.key).isNone = true then
        some { state with
          cluster := state.cluster.put .pod (createdPod pod)
          holders := state.holders.erase pod.key }
      else none
  -- Succeeded and Failed are final phases.
  | .setPhase key phase => changePod state key fun pod =>
      if hasStopped pod then none
      else some { pod with body := { pod.body with phase } }
  | .reportStatus key statusKey text => changePod state key fun pod =>
      if statusKey ∈ statusKeys then some (annotatedPod pod statusKey text) else none
  | .terminate key time => changePod state key fun pod => some (marked pod time)
  | .removePod key =>
      some { state with
        cluster := state.cluster.remove .pod key
        holders := state.holders.erase key }
  | .edit kind object =>
      if kind = .pod then none else some { state with cluster := state.cluster.put kind object }
  | .discard kind key =>
      if kind = .pod then none else some { state with cluster := state.cluster.remove kind key }

/-- No two live Pods hold the same allocated address of a Network. -/
def NoDuplicates (state : Admissions) : Prop :=
  ∀ first ∈ (state.cluster .pod).list, ∀ second ∈ (state.cluster .pod).list,
    first.key ≠ second.key → isLive first = true → isLive second = true →
      ∀ grant ∈ state.held first.key, grant ∉ state.held second.key

/-- Admissions are serialised for each Network: when a Pod is stored, no other
pending request has been allocated an address of one of its Networks. -/
def Serialised (state : Admissions) : AdmissionEvent → Prop
  | .store id => ∀ admission, state.pending.get? id = some admission →
      ∀ other waiting, other ≠ id → state.pending.get? other = some waiting →
        ∀ grant ∈ admission.grants, ∀ grant' ∈ waiting.grants, grant.1 ≠ grant'.1
  | _ => True

end GemEmulation.Operator
