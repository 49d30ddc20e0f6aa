import GemEmulation.Operator.PodMutator.Attachments

/-!
# Mutating a Pod in place

The mutation as the webhook sees it: the Pod is changed annotation by annotation,
and the handler looks at the Pod when the mutation has returned.
-/

namespace GemEmulation.Operator

open Foundations Foundations.Json Kube

structure MutationOutcome where
  mutated : Bool
  failure : Option MutationError
  deriving DecidableEq, Repr

/-- `pod.Annotations[key] = value`. -/
def setAnnotation (pod : Pod) (key value : String) : Pod :=
  { pod with metadata := { pod.metadata with
      annotations := pod.metadata.annotations.set key value } }

/-- `MutatePodInterfacesWithContext`, with the Pod that it leaves. -/
def mutateInPlace (hasClient : Bool) (pod : Pod) : Api (MutationOutcome × Pod) := do
  match planMutation pod with
  | none => pure (⟨false, none⟩, pod)
  | some plan =>
      match ← mergeSecondaries hasClient plan.secondaryNetworks plan.start with
      | .error failure => pure (⟨false, some failure⟩, pod)
      | .ok merged =>
          let pod := setAnnotation pod annotationMultusNetworks
            (marshalMultusNetworks merged.existingMultus)
          let pod := setAnnotation pod annotationGKEInterfaces
            (marshalGKEInterfaces (sanitizedInterfaces plan.primaryIfaces))
          let pod := match pod.metadata.annotations.get? annotationGKEDefaultInterface with
            | some _ => pod
            | none => setAnnotation pod annotationGKEDefaultInterface "eth0"
          pure (⟨true, none⟩, pod)

/-- The outcome and the Pod, by the mutation that returns the Pod it makes. -/
def outcomeOf (pod : Pod) : Except MutationError (Bool × Pod) → MutationOutcome × Pod
  | .ok (mutated, result) => (⟨mutated, none⟩, result)
  | .error failure => (⟨false, some failure⟩, pod)

/-- The mutation in place does what the mutation that returns a Pod does. -/
theorem mutateInPlace_eq (hasClient : Bool) (pod : Pod) (client : Client) (session : Session) :
    mutateInPlace hasClient pod client session =
      (outcomeOf pod (mutatePodInterfacesWithContext hasClient pod client session).1,
        (mutatePodInterfacesWithContext hasClient pod client session).2) := by
  unfold mutateInPlace mutatePodInterfacesWithContext
  cases planMutation pod with
  | none => rfl
  | some plan =>
      simp only [Program.bind_apply]
      generalize mergeSecondaries hasClient plan.secondaryNetworks plan.start client session =
        outcome
      obtain ⟨failure | merged, after⟩ := outcome
      · rfl
      · simp only [Program.pure_apply, outcomeOf, mutatedPod, mutatedAnnotations, setAnnotation]
        generalize Dict.get? _ annotationGKEDefaultInterface = given
        cases given <;> rfl

theorem mutatePodInterfacesWithContext_unmutated {hasClient : Bool} {pod result : Pod}
    {client : Client} {session : Session}
    (unmutated : (mutatePodInterfacesWithContext hasClient pod client session).1 =
      .ok (false, result)) : result = pod := by
  cases planned : planMutation pod with
  | none =>
      simp only [mutatePodInterfacesWithContext, planned, Program.pure_apply] at unmutated
      cases unmutated
      rfl
  | some plan =>
      simp only [mutatePodInterfacesWithContext, planned, Program.bind_apply] at unmutated
      generalize mergeSecondaries hasClient plan.secondaryNetworks plan.start client session =
        outcome at unmutated
      obtain ⟨failure | merged, after⟩ := outcome <;> cases unmutated

def mutatedKeys : List String :=
  [annotationMultusNetworks, annotationGKEInterfaces, annotationGKEDefaultInterface]

/-- Nothing but these annotations differs, and a default interface is kept. -/
structure OnlyMutatedKeys (before after : Pod) : Prop where
  rest : ∃ annotations, after = { before with metadata := { before.metadata with annotations } }
  others : ∀ key ∉ mutatedKeys,
    after.metadata.annotations.get? key = before.metadata.annotations.get? key
  kept : ∀ interface, before.metadata.annotations.get? annotationGKEDefaultInterface =
    some interface →
    after.metadata.annotations.get? annotationGKEDefaultInterface = some interface

theorem mutatedAnnotations_interfaces (annotations : Dict String String)
    (primaryIfaces : List GKEInterfaceSpec) (multus : List MultusNetworkSpec) :
    (mutatedAnnotations annotations primaryIfaces multus).get? annotationGKEInterfaces =
      some (marshalGKEInterfaces (sanitizedInterfaces primaryIfaces)) := by
  have notDefault : annotationGKEInterfaces ≠ annotationGKEDefaultInterface := by decide
  unfold mutatedAnnotations
  dsimp only
  split <;> simp [notDefault]

theorem onlyMutatedKeys_mutatedPod (pod : Pod) (primaryIfaces : List GKEInterfaceSpec)
    (multus : List MultusNetworkSpec) :
    OnlyMutatedKeys pod (mutatedPod pod primaryIfaces multus) where
  rest := ⟨_, rfl⟩
  others key other := by
    simp only [mutatedKeys, List.mem_cons, List.not_mem_nil, or_false, not_or] at other
    obtain ⟨notMultus, notInterfaces, notDefault⟩ := other
    simp only [mutatedPod, mutatedAnnotations]
    split <;> simp [Dict.get?_set, notMultus, notInterfaces, notDefault]
  kept interface given := by
    have notMultus : annotationGKEDefaultInterface ≠ annotationMultusNetworks := by decide
    have notInterfaces : annotationGKEDefaultInterface ≠ annotationGKEInterfaces := by decide
    simp [mutatedPod, mutatedAnnotations, Dict.get?_set, notMultus, notInterfaces, given]

theorem gkeInterfacesOf_mutatedPod (pod : Pod) (primaryIfaces : List GKEInterfaceSpec)
    (multus : List MultusNetworkSpec) :
    gkeInterfacesOf (mutatedPod pod primaryIfaces multus) =
      some (sanitizedInterfaces primaryIfaces) := by
  rw [gkeInterfacesOf, mutatedPod, mutatedAnnotations_interfaces]
  exact unmarshalStrict_marshalGKEInterfaces _

theorem sanitizedInterfaces_primary {primaryIfaces : List GKEInterfaceSpec}
    (primary : ∀ iface ∈ primaryIfaces, isPrimaryInterface iface = true) :
    ∀ iface ∈ sanitizedInterfaces primaryIfaces, isPrimaryInterface iface = true := by
  intro iface listed
  unfold sanitizedInterfaces at listed
  split at listed
  next =>
    rw [List.mem_singleton.mp listed]
    decide
  next => exact primary iface listed

theorem planMutation_primary {pod : Pod} {ifaces : List GKEInterfaceSpec}
    (decoded : gkeInterfacesOf pod = some ifaces)
    (primary : ∀ iface ∈ ifaces, isPrimaryInterface iface = true) : planMutation pod = none := by
  cases planned : planMutation pod with
  | none => rfl
  | some plan =>
      obtain ⟨others, same, secondaries, nonempty, -⟩ := planMutation_some planned
      cases decoded.symm.trans same
      refine absurd ?_ nonempty
      rw [secondaries, List.map_eq_nil_iff, List.filter_eq_nil_iff]
      intro iface listed
      simp [primary iface listed]

/-- `MutatePodInterfacesWithContext` leaves the Pod alone unless it returns true; then
it has changed the three annotations only, Cilium sees the primary interfaces, every
requested network is attached, and mutating again does nothing. -/
theorem mutateInPlace_result (hasClient : Bool) (pod : Pod) (client : Client) (session : Session) :
    let (outcome, after) := (mutateInPlace hasClient pod client session).1
    (outcome.failure ≠ none ∨ outcome.mutated = false → after = pod) ∧
      (outcome.mutated = true →
        OnlyMutatedKeys pod after ∧
        gkeInterfacesOf after = some (sanitizedInterfaces
          (((gkeInterfacesOf pod).getD []).filter isPrimaryInterface)) ∧
        (∀ sec ∈ requestedNetworks pod, ∃ entry ∈ existingMultusOf after, Provides sec entry) ∧
        ∀ again other later, (mutateInPlace again after other later).1 =
          (⟨false, none⟩, after)) := by
  rw [mutateInPlace_eq]
  generalize mutation : (mutatePodInterfacesWithContext hasClient pod client session).1 = result
  rcases result with failure | ⟨mutated, after⟩
  · exact ⟨fun _ => rfl, nofun⟩
  · cases mutated with
    | false =>
        obtain rfl := mutatePodInterfacesWithContext_unmutated mutation
        exact ⟨fun _ => rfl, nofun⟩
    | true =>
        refine ⟨fun unmutated => by simp at unmutated, fun _ => ?_⟩
        obtain ⟨plan, merged, planned, loop, rfl⟩ := mutatePodInterfacesWithContext_ok mutation
        obtain ⟨ifaces, decoded, -, -, primaries, start⟩ := planMutation_some planned
        have primary : ∀ iface ∈ plan.primaryIfaces, isPrimaryInterface iface = true :=
          fun iface listed => (List.mem_filter.mp (primaries ▸ listed)).2
        have read := gkeInterfacesOf_mutatedPod pod plan.primaryIfaces merged.existingMultus
        refine ⟨onlyMutatedKeys_mutatedPod _ _ _, ?_, ?_, ?_⟩
        · rw [decoded, Option.getD_some, ← primaries]
          exact read
        · rw [requestedNetworks_of_plan planned, existingMultusOf_mutatedPod]
          exact (mergeSecondaries_merged loop).provided
        · intro again other later
          have nothing := planMutation_primary read (sanitizedInterfaces_primary primary)
          simp only [mutateInPlace, nothing]
          rfl

end GemEmulation.Operator
