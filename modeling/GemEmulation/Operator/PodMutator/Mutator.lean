import GemEmulation.Operator.PodMutator.Allocator

/-!
# Mutating a Pod

`MutatePodInterfacesWithContext` in three parts: the plan read off the Pod's
annotations, the loop that merges one secondary network after another into the
Multus entries, and the annotations written at the end.
-/

namespace GemEmulation.Operator

open Foundations Foundations.Json Kube Net

structure MutationError where
  netName : String
  error : AllocationError
  deriving DecidableEq, Repr

def MutationError.message (text : ApiError → String) (failure : MutationError) : String :=
  "failed to allocate IP for secondary network " ++ failure.netName ++ ": " ++
    failure.error.message text

structure MergeState where
  existingMultus : List MultusNetworkSpec
  inUseSet : List String
  deriving DecidableEq, Repr

structure MutationPlan where
  primaryIfaces : List GKEInterfaceSpec
  secondaryNetworks : List MultusNetworkSpec
  start : MergeState
  deriving DecidableEq, Repr

def isPrimaryInterface (iface : GKEInterfaceSpec) : Bool :=
  Text.trimSpace iface.network ∈ ["", "pod-network", "default"]

def secondaryNetwork (iface : GKEInterfaceSpec) : MultusNetworkSpec where
  name := Text.trimSpace iface.network
  interface := Text.trimSpace iface.interfaceName

/-- The entries of the Pod's own Multus annotation; what cannot be decoded is
left out. -/
def existingMultusOf (pod : Pod) : List MultusNetworkSpec :=
  match pod.metadata.annotations.get? annotationMultusNetworks with
  | some rawMultus =>
      if Text.trimSpace rawMultus = "" then []
      else unmarshalInto decodeMultusNetworks [] rawMultus
  | none => []

/-- The first part of the mutation; `none` when there is nothing to mutate. -/
def planMutation (pod : Pod) : Option MutationPlan := do
  let rawGKEInterfaces ← pod.metadata.annotations.get? annotationGKEInterfaces
  if Text.trimSpace rawGKEInterfaces = "" then none
  else
    let gkeIfaces ← unmarshalStrict decodeGKEInterfaces [] rawGKEInterfaces
    let secondaryNetworks :=
      (gkeIfaces.filter fun iface => !isPrimaryInterface iface).map secondaryNetwork
    if secondaryNetworks = [] then none
    else
      let existingMultus := existingMultusOf pod
      some {
        primaryIfaces := gkeIfaces.filter isPrimaryInterface
        secondaryNetworks
        start := ⟨existingMultus, excludeIPs (existingMultus.flatMap MultusNetworkSpec.ips)⟩ }

/-- Whether an existing entry is the attachment that a secondary network asks
for. -/
def matchesSecondary (sec existing : MultusNetworkSpec) : Bool :=
  decide (existing.name = sec.name ∧
    (existing.interface = sec.interface ∨ sec.interface = "" ∨ existing.interface = ""))

def adoptInterface (sec existing : MultusNetworkSpec) : MultusNetworkSpec :=
  if existing.interface = "" ∧ sec.interface ≠ "" then
    { existing with interface := sec.interface }
  else existing

def assignIPs (hasClient : Bool) (netName : String) (entry : MultusNetworkSpec)
    (inUseSet : List String) :
    Api (Except MutationError (MultusNetworkSpec × List String)) := do
  if entry.ips = [] ∧ hasClient = true then
    match ← allocateSecondaryIP netName inUseSet with
    | .error error => pure (.error ⟨netName, error⟩)
    | .ok (ipWithPrefix, inUseSet) =>
        pure (.ok ({ entry with ips := [ipWithPrefix] }, inUseSet))
  else pure (.ok (entry, inUseSet))

def mergeSecondary (hasClient : Bool) (sec : MultusNetworkSpec) (state : MergeState) :
    Api (Except MutationError MergeState) := do
  match state.existingMultus.findIdx? (matchesSecondary sec) with
  | some foundIdx =>
      let existing := adoptInterface sec (state.existingMultus.getD foundIdx {})
      match ← assignIPs hasClient sec.name existing state.inUseSet with
      | .error failure => pure (.error failure)
      | .ok (entry, inUseSet) =>
          pure (.ok ⟨state.existingMultus.set foundIdx entry, inUseSet⟩)
  | none =>
      match ← assignIPs hasClient sec.name sec state.inUseSet with
      | .error failure => pure (.error failure)
      | .ok (entry, inUseSet) => pure (.ok ⟨state.existingMultus ++ [entry], inUseSet⟩)

def mergeSecondaries (hasClient : Bool) : List MultusNetworkSpec → MergeState →
    Api (Except MutationError MergeState)
  | [], state => pure (.ok state)
  | sec :: rest, state => do
      match ← mergeSecondary hasClient sec state with
      | .error failure => pure (.error failure)
      | .ok next => mergeSecondaries hasClient rest next

def sanitizedInterfaces (primaryIfaces : List GKEInterfaceSpec) : List GKEInterfaceSpec :=
  if primaryIfaces = [] then [⟨"eth0", "pod-network"⟩] else primaryIfaces

def mutatedAnnotations (annotations : Dict String String)
    (primaryIfaces : List GKEInterfaceSpec) (multus : List MultusNetworkSpec) :
    Dict String String :=
  let annotations := annotations.set annotationMultusNetworks (marshalMultusNetworks multus)
  let annotations := annotations.set annotationGKEInterfaces
    (marshalGKEInterfaces (sanitizedInterfaces primaryIfaces))
  match annotations.get? annotationGKEDefaultInterface with
  | some _ => annotations
  | none => annotations.set annotationGKEDefaultInterface "eth0"

def mutatedPod (pod : Pod) (primaryIfaces : List GKEInterfaceSpec)
    (multus : List MultusNetworkSpec) : Pod :=
  { pod with metadata := { pod.metadata with
      annotations := mutatedAnnotations pod.metadata.annotations primaryIfaces multus } }

theorem mutatedAnnotations_multus (annotations : Dict String String)
    (primaryIfaces : List GKEInterfaceSpec) (multus : List MultusNetworkSpec) :
    (mutatedAnnotations annotations primaryIfaces multus).get? annotationMultusNetworks =
      some (marshalMultusNetworks multus) := by
  have notInterfaces : annotationMultusNetworks ≠ annotationGKEInterfaces := by decide
  have notDefault : annotationMultusNetworks ≠ annotationGKEDefaultInterface := by decide
  unfold mutatedAnnotations
  dsimp only
  split <;> simp [notInterfaces, notDefault]

/-- `MutatePodInterfacesWithContext`: whether the Pod was mutated, and the Pod. -/
def mutatePodInterfacesWithContext (hasClient : Bool) (pod : Pod) :
    Api (Except MutationError (Bool × Pod)) := do
  match planMutation pod with
  | none => pure (.ok (false, pod))
  | some plan =>
      match ← mergeSecondaries hasClient plan.secondaryNetworks plan.start with
      | .error failure => pure (.error failure)
      | .ok merged => pure (.ok (true, mutatedPod pod plan.primaryIfaces merged.existingMultus))

/-- `MutatePodInterfaces`: a mutation without a client makes no calls and
cannot fail. -/
def mutatePodInterfaces (pod : Pod) : Api (Bool × Pod) := do
  match ← mutatePodInterfacesWithContext false pod with
  | .ok outcome => pure outcome
  | .error _ => pure (false, pod)

def requestedNetworks (pod : Pod) : List MultusNetworkSpec :=
  ((planMutation pod).map (·.secondaryNetworks)).getD []

def gkeInterfacesOf (pod : Pod) : Option (List GKEInterfaceSpec) :=
  (pod.metadata.annotations.get? annotationGKEInterfaces).bind
    (unmarshalStrict decodeGKEInterfaces [])

theorem planMutation_some {pod : Pod} {plan : MutationPlan}
    (planned : planMutation pod = some plan) :
    ∃ ifaces, gkeInterfacesOf pod = some ifaces ∧
      plan.secondaryNetworks =
        (ifaces.filter fun iface => !isPrimaryInterface iface).map secondaryNetwork ∧
      plan.secondaryNetworks ≠ [] ∧
      plan.primaryIfaces = ifaces.filter isPrimaryInterface ∧
      plan.start = ⟨existingMultusOf pod,
        excludeIPs ((existingMultusOf pod).flatMap MultusNetworkSpec.ips)⟩ := by
  simp only [planMutation, Option.bind_eq_bind, Option.bind_eq_some_iff] at planned
  obtain ⟨raw, found, planned⟩ := planned
  split at planned
  next => cases planned
  next =>
    obtain ⟨ifaces, decoded, planned⟩ := Option.bind_eq_some_iff.mp planned
    split at planned
    next => cases planned
    next nonempty =>
      cases planned
      refine ⟨ifaces, ?_, rfl, nonempty, rfl, rfl⟩
      rw [gkeInterfacesOf, found]
      exact decoded

theorem planMutation_start {pod : Pod} {plan : MutationPlan}
    (planned : planMutation pod = some plan) :
    plan.start.existingMultus = existingMultusOf pod := by
  obtain ⟨-, -, -, -, -, start⟩ := planMutation_some planned
  rw [start]

theorem planMutation_ips {pod : Pod} {plan : MutationPlan} (planned : planMutation pod = some plan)
    {sec : MultusNetworkSpec} (requested : sec ∈ plan.secondaryNetworks) : sec.ips = [] := by
  obtain ⟨ifaces, -, secondaries, -⟩ := planMutation_some planned
  rw [secondaries] at requested
  obtain ⟨iface, -, rfl⟩ := List.mem_map.mp requested
  rfl

theorem requestedNetworks_of_plan {pod : Pod} {plan : MutationPlan}
    (planned : planMutation pod = some plan) :
    requestedNetworks pod = plan.secondaryNetworks := by
  rw [requestedNetworks, planned]
  rfl

theorem mutatePodInterfacesWithContext_ok {hasClient : Bool} {pod mutated : Pod} {client : Client}
    {session : Session}
    (mutates : (mutatePodInterfacesWithContext hasClient pod client session).1 =
      .ok (true, mutated)) :
    ∃ plan merged, planMutation pod = some plan ∧
      (mergeSecondaries hasClient plan.secondaryNetworks plan.start client session).1 = .ok merged ∧
        mutated = mutatedPod pod plan.primaryIfaces merged.existingMultus := by
  cases planned : planMutation pod with
  | none =>
      simp only [mutatePodInterfacesWithContext, planned, Program.pure_apply] at mutates
      cases mutates
  | some plan =>
      simp only [mutatePodInterfacesWithContext, planned, Program.bind_apply] at mutates
      generalize loop : mergeSecondaries hasClient plan.secondaryNetworks plan.start client
        session = outcome at mutates
      obtain ⟨failure | merged, after⟩ := outcome
      · contradiction
      · cases mutates
        exact ⟨plan, merged, rfl, congrArg Prod.fst loop, rfl⟩

theorem mutatedPod_multus (pod : Pod) (primaryIfaces : List GKEInterfaceSpec)
    (multus : List MultusNetworkSpec) :
    (mutatedPod pod primaryIfaces multus).metadata.annotations.get? annotationMultusNetworks =
      some (marshalMultusNetworks multus) := mutatedAnnotations_multus _ _ _

theorem existingMultusOf_mutatedPod (pod : Pod) (primaryIfaces : List GKEInterfaceSpec)
    (multus : List MultusNetworkSpec) :
    existingMultusOf (mutatedPod pod primaryIfaces multus) = multus := by
  have visible : Text.trimSpace (marshalMultusNetworks multus) ≠ "" :=
    Text.trimSpace_ne_empty (parse_array (parse_marshalMultusNetworks multus)) (by decide)
  simp [existingMultusOf, mutatedPod_multus, visible, unmarshalInto,
    unmarshal_marshalMultusNetworks]

def interfacesPod (ifaces : List GKEInterfaceSpec) (existing : List MultusNetworkSpec) : Pod where
  metadata := {
    key := ⟨"default", "test-pod"⟩
    annotations := (Dict.singleton annotationMultusNetworks (marshalMultusNetworks existing)).set
      annotationGKEInterfaces (marshalGKEInterfaces ifaces) }
  body := {}

theorem existingMultusOf_interfacesPod (ifaces : List GKEInterfaceSpec)
    (existing : List MultusNetworkSpec) :
    existingMultusOf (interfacesPod ifaces existing) = existing := by
  have notInterfaces : annotationMultusNetworks ≠ annotationGKEInterfaces := by decide
  have found : (interfacesPod ifaces existing).metadata.annotations.get? annotationMultusNetworks =
      some (marshalMultusNetworks existing) := by
    simp [interfacesPod, notInterfaces, Dict.singleton]
  have visible : Text.trimSpace (marshalMultusNetworks existing) ≠ "" :=
    Text.trimSpace_ne_empty (parse_array (parse_marshalMultusNetworks existing)) (by decide)
  simp [existingMultusOf, found, visible, unmarshalInto, unmarshal_marshalMultusNetworks]

theorem planMutation_interfacesPod {ifaces : List GKEInterfaceSpec}
    {secondaries : List MultusNetworkSpec}
    (secondary : (ifaces.filter fun iface => !isPrimaryInterface iface).map secondaryNetwork =
      secondaries) (nonempty : secondaries ≠ []) (existing : List MultusNetworkSpec) :
    planMutation (interfacesPod ifaces existing) =
      some ⟨ifaces.filter isPrimaryInterface, secondaries,
        ⟨existing, excludeIPs (existing.flatMap MultusNetworkSpec.ips)⟩⟩ := by
  have found : (interfacesPod ifaces existing).metadata.annotations.get? annotationGKEInterfaces =
      some (marshalGKEInterfaces ifaces) := Dict.get?_set_self _ _ _
  have visible : Text.trimSpace (marshalGKEInterfaces ifaces) ≠ "" :=
    Text.trimSpace_ne_empty (parse_array (parse_marshalGKEInterfaces ifaces)) (by decide)
  simp only [planMutation, found, Option.bind_eq_bind, Option.bind_some, visible, if_false,
    unmarshalStrict_marshalGKEInterfaces, secondary, nonempty, existingMultusOf_interfacesPod]

theorem mutatePodInterfacesWithContext_of_merge {hasClient : Bool} {pod : Pod} {plan : MutationPlan}
    {merged : MergeState} {client : Client} {session : Session}
    (planned : planMutation pod = some plan)
    (merges : (mergeSecondaries hasClient plan.secondaryNetworks plan.start client session).1 =
      .ok merged) :
    (mutatePodInterfacesWithContext hasClient pod client session).1 =
      .ok (true, mutatedPod pod plan.primaryIfaces merged.existingMultus) := by
  simp only [mutatePodInterfacesWithContext, planned, Program.bind_apply]
  generalize mergeSecondaries hasClient plan.secondaryNetworks plan.start client session = outcome
    at merges ⊢
  obtain ⟨result, after⟩ := outcome
  dsimp only at merges
  subst merges
  rfl

structure FreshAddress (cluster : Cluster) (netName : String) (entry : MultusNetworkSpec)
    (address : String) : Prop where
  named : entry.name = netName
  listed : ∃ ip ∈ entry.ips, cleanIP ip = address
  nonempty : address ≠ ""
  unclaimed : ∀ pod ∈ (cluster .pod).list, address ∉ excludePod netName pod

/-- An entry stays as it is, or had no addresses and gets an allocated one. -/
theorem assignIPs_cases {hasClient : Bool} {netName : String} {entry result : MultusNetworkSpec}
    {inUseSet inUse : List String} {client : Client} {session : Session}
    (assigned : (assignIPs hasClient netName entry inUseSet client session).1 =
      .ok (result, inUse)) :
    (¬ (entry.ips = [] ∧ hasClient = true) ∧ result = entry ∧ inUse = inUseSet) ∨
      (entry.ips = [] ∧ ∃ ipWithPrefix,
        (allocateSecondaryIP netName inUseSet client session).1 = .ok (ipWithPrefix, inUse) ∧
          result = { entry with ips := [ipWithPrefix] }) := by
  unfold assignIPs at assigned
  by_cases missing : entry.ips = [] ∧ hasClient = true
  · rw [if_pos missing] at assigned
    simp only [Program.bind_apply] at assigned
    generalize allocation : allocateSecondaryIP netName inUseSet client session = outcome
      at assigned
    obtain ⟨error | ⟨ipWithPrefix, inUse'⟩, after⟩ := outcome
    · contradiction
    · cases assigned
      exact .inr ⟨missing.1, ipWithPrefix, rfl, rfl⟩
  · rw [if_neg missing] at assigned
    cases assigned
    exact .inl ⟨missing, rfl, rfl⟩

theorem assignIPs_ok {hasClient : Bool} {netName : String} {entry result : MultusNetworkSpec}
    {inUseSet inUse : List String} {client : Client} {session : Session}
    (named : entry.name = netName)
    (assigned : (assignIPs hasClient netName entry inUseSet client session).1 =
      .ok (result, inUse)) :
    (result = entry ∧ inUse = inUseSet) ∨
      (entry.ips = [] ∧ ∃ address, inUse = inUseSet ++ [address] ∧
        FreshAddress session.cluster netName result address) := by
  rcases assignIPs_cases assigned with ⟨-, same, unused⟩ | ⟨missing, ipWithPrefix, allocated, rfl⟩
  · exact .inl ⟨same, unused⟩
  · obtain ⟨u, prefixLen, written, kept, -, unclaimed⟩ := allocateSecondaryIP_ok allocated
    refine .inr ⟨missing, dottedQuad u, kept, named, ⟨ipWithPrefix, by simp, ?_⟩,
      dottedQuad_ne_empty u, unclaimed⟩
    rw [written, cleanIP_allocated]

theorem mem_set_or_eq {Element : Type} {elements : List Element} {element other : Element}
    (place : Nat) (inRange : place < elements.length) (membership : element ∈ elements) :
    element = elements[place] ∨ element ∈ elements.set place other := by
  obtain ⟨index, bound, rfl⟩ := List.getElem_of_mem membership
  by_cases same : place = index
  · subst same
    exact .inl rfl
  · refine .inr (List.mem_iff_getElem.mpr ⟨index, by simpa using bound, ?_⟩)
    exact List.getElem_set_ne same _

theorem adoptInterface_name (sec existing : MultusNetworkSpec) :
    (adoptInterface sec existing).name = existing.name := by
  unfold adoptInterface
  split <;> rfl

theorem adoptInterface_ips (sec existing : MultusNetworkSpec) :
    (adoptInterface sec existing).ips = existing.ips := by
  unfold adoptInterface
  split <;> rfl

/-- A turn of the loop loses no addresses, and adds at most one fresh one. -/
theorem mergeSecondary_ok {hasClient : Bool} {sec : MultusNetworkSpec}
    {state merged : MergeState} {client : Client} {session : Session}
    (succeeded : (mergeSecondary hasClient sec state client session).1 = .ok merged) :
    (∀ entry ∈ state.existingMultus, entry.ips ≠ [] →
      ∃ kept ∈ merged.existingMultus, kept.name = entry.name ∧ kept.ips = entry.ips) ∧
    (merged.inUseSet = state.inUseSet ∨
      ∃ address, merged.inUseSet = state.inUseSet ++ [address] ∧
        ∃ entry ∈ merged.existingMultus, FreshAddress session.cluster sec.name entry address) := by
  cases found : state.existingMultus.findIdx? (matchesSecondary sec) with
  | some foundIdx =>
      obtain ⟨inRange, matching, -⟩ := List.findIdx?_eq_some_iff_getElem.mp found
      have existing : state.existingMultus.getD foundIdx {} = state.existingMultus[foundIdx] := by
        simp [inRange]
      simp only [mergeSecondary, found, existing, Program.bind_apply] at succeeded
      generalize assignment : assignIPs hasClient sec.name
        (adoptInterface sec state.existingMultus[foundIdx]) state.inUseSet client session =
          outcome at succeeded
      obtain ⟨failure | ⟨entry, inUse⟩, after⟩ := outcome
      · contradiction
      · cases succeeded
        have named : (adoptInterface sec state.existingMultus[foundIdx]).name = sec.name := by
          simp only [matchesSecondary, decide_eq_true_eq] at matching
          rw [adoptInterface_name, matching.1]
        have inside : entry ∈ state.existingMultus.set foundIdx entry := List.mem_set inRange _
        rcases assignIPs_ok named (congrArg Prod.fst assignment) with
          ⟨rfl, rfl⟩ | ⟨missing, address, kept, fresh⟩
        · refine ⟨fun other membership _ => ?_, .inl rfl⟩
          rcases mem_set_or_eq foundIdx inRange membership with rfl | remains
          · exact ⟨_, inside, adoptInterface_name _ _, adoptInterface_ips _ _⟩
          · exact ⟨other, remains, rfl, rfl⟩
        · refine ⟨fun other membership hasIPs => ?_, .inr ⟨address, kept, entry, inside, fresh⟩⟩
          rcases mem_set_or_eq foundIdx inRange membership with rfl | remains
          · rw [adoptInterface_ips] at missing
            exact absurd missing hasIPs
          · exact ⟨other, remains, rfl, rfl⟩
  | none =>
      simp only [mergeSecondary, found, Program.bind_apply] at succeeded
      generalize assignment : assignIPs hasClient sec.name sec state.inUseSet client session =
        outcome at succeeded
      obtain ⟨failure | ⟨entry, inUse⟩, after⟩ := outcome
      · contradiction
      · cases succeeded
        refine ⟨fun kept membership _ => ⟨kept, by simp [membership], rfl, rfl⟩, ?_⟩
        rcases assignIPs_ok rfl (congrArg Prod.fst assignment) with
          ⟨rfl, rfl⟩ | ⟨-, address, kept, fresh⟩
        · exact .inl rfl
        · exact .inr ⟨address, kept, entry, by simp, fresh⟩

end GemEmulation.Operator
