import Mathlib
import GemEmulation.Operator.Gateway.Traffic

/-!
# Exactly the desired backends

What the loops over the routes gather is described without them: by the routes, the
selectors, the Pods and their network status.
-/

namespace GemEmulation.Operator

open Foundations Foundations.Json Kube

/-- The route names the Gateway, and its namespace if it gives one. -/
def NamesGateway (route gw : Unstructured) : Prop :=
  ∃ refs, nestedSlice route.body ["spec", "parentRefs"] = some refs ∧
    ∃ refMap, Value.map refMap ∈ refs ∧ (textField refMap "name").getD "" = gw.key.name ∧
      ∀ ns, textField refMap "namespace" = some ns → ns = "" ∨ ns = gw.key.ns

/-- A route of the Gateway's namespace that names the Gateway has the backend reference. -/
def Refers (cluster : Cluster) (gw : Unstructured) (ref : BackendRef) : Prop :=
  ∃ route, (cluster .gkeL4Route).get? route.key = some route ∧ route.key.ns = gw.key.ns ∧
    NamesGateway route gw ∧ ref ∈ backendRefs route

/-- The selector in a namespace matches the Pod: the selector has labels, and the Pod
has them all. -/
def Matches (cluster : Cluster) (ns epSelectorName : String) (pod : Pod) : Prop :=
  ∃ epSel matchLabels, (cluster .gkeEndpointSelector).get? ⟨ns, epSelectorName⟩ = some epSel ∧
    nestedStringMap epSel.body ["spec", "selector", "matchLabels"] = some matchLabels ∧
      matchLabels ≠ [] ∧ (cluster .pod).get? pod.key = some pod ∧ pod.key.ns = ns ∧
        ∀ label ∈ matchLabels, pod.metadata.labels.get? label.1 = some label.2

/-- A network-status entry of the Network whose first address is the given one. -/
def HasAddress (targetNetwork : String) (item : Fields) (address : String) : Prop :=
  Text.afterLast '/' ((textField item "name").getD "") = targetNetwork ∧
    (∃ ips, lookupEntry "ips" item = some (.slice (.string address :: ips))) ∧ address ≠ ""

/-- A running and ready Pod whose network status decodes as a list of objects and has an
entry of the Network with the address. -/
def Reports (targetNetwork : String) (pod : Pod) (address : String) : Prop :=
  pod.body.phase = .running ∧ isPodReady pod = true ∧
    ∃ statusList, unmarshalStrict decodeMaps [] (annotationOf pod annotationNetworkStatus) =
      some statusList ∧ ∃ item ∈ statusList, HasAddress targetNetwork item address

/-- The address is that of a backend of the Gateway on the Network. -/
def BackendAt (cluster : Cluster) (gw : Unstructured) (targetNetwork address : String) : Prop :=
  ∃ ref, Refers cluster gw ref ∧ ∃ pod, Matches cluster gw.key.ns ref.epSelectorName pod ∧
    Reports targetNetwork pod address

/-- The Service and the slice offer exactly the backends of the Gateway. -/
structure OffersExactly (cluster : Cluster) (gw : Unstructured) (targetNetwork : String)
    (svc : Service) (slice : EndpointSlice) : Prop where
  single : ∀ endpoint ∈ slice.body.endpoints, ∃ address, endpoint = ⟨[address], some true⟩
  distinct : (slice.body.endpoints.flatMap Endpoint.addresses).Nodup
  serves : ∀ address, address ∈ slice.body.endpoints.flatMap Endpoint.addresses ↔
    BackendAt cluster gw targetNetwork address
  matching : slice.body.ports = svc.body.ports.map fun p =>
    ⟨some p.name, some p.port, some p.protocol⟩
  ports : (svc.body.ports.map ServicePort.port).Nodup
  names : (svc.body.ports.map ServicePort.name).Nodup
  referred : ∀ port, port ∈ svc.body.ports.map ServicePort.port ↔
    ∃ ref, Refers cluster gw ref ∧ ref.epPort = port

theorem asMap_eq_some {value : Value} {fields : Fields} :
    value.asMap = some fields ↔ value = .map fields := by
  cases value <;> simp [Value.asMap]

theorem routeReferencesGateway_iff {route gw : Unstructured} :
    routeReferencesGateway route gw = true ↔ NamesGateway route gw := by
  have named : ∀ refMap, decide ((textField refMap "name").getD "" = gw.key.name ∧
      ((textField refMap "namespace").getD "" = "" ∨
        (textField refMap "namespace").getD "" = gw.key.ns)) = true ↔
      (textField refMap "name").getD "" = gw.key.name ∧
        ∀ ns, textField refMap "namespace" = some ns → ns = "" ∨ ns = gw.key.ns := by
    intro refMap
    cases namespaced : textField refMap "namespace" <;> simp
  unfold routeReferencesGateway NamesGateway
  cases nestedSlice route.body ["spec", "parentRefs"] with
  | none => simp
  | some refs =>
      simp only [Option.getD_some, List.any_eq_true, Option.some.injEq, exists_eq_left']
      constructor
      · rintro ⟨ref, listed, references⟩
        cases fields : ref.asMap with
        | none => simp [fields] at references
        | some refMap =>
            obtain rfl := asMap_eq_some.mp fields
            exact ⟨refMap, listed, (named refMap).mp references⟩
      · rintro ⟨refMap, listed, names⟩
        exact ⟨.map refMap, listed, (named refMap).mpr names⟩

theorem mem_refsOf {cluster : Cluster} {gw : Unstructured} {ref : BackendRef} :
    ref ∈ refsOf cluster gw ↔ Refers cluster gw ref := by
  simp only [refsOf, boundRefs, List.mem_flatMap, List.mem_filter, mem_listed, selects,
    routeReferencesGateway_iff, Refers, List.all_nil, Bool.and_true, decide_eq_true_eq, and_assoc]

theorem selectorLabels_eq_some {epSel : Unstructured} {matchLabels : List (String × String)} :
    selectorLabels epSel = some matchLabels ↔
      nestedStringMap epSel.body ["spec", "selector", "matchLabels"] = some matchLabels ∧
        matchLabels ≠ [] := by
  simp [selectorLabels, Option.filter_eq_some_iff]

theorem entryAddress_iff {targetNetwork address : String} {item : Fields} :
    entryAddress targetNetwork item = some address ↔ HasAddress targetNetwork item address := by
  unfold entryAddress HasAddress networkStatusNameMatches
  by_cases named : Text.afterLast '/' ((textField item "name").getD "") = targetNetwork
  · simp only [named, decide_true, if_true, true_and]
    cases found : lookupEntry "ips" item with
    | none => simp
    | some value =>
        cases value with
        | slice ips =>
            cases ips with
            | nil => simp [Value.asSlice]
            | cons ip ips =>
                cases ip <;> simp [Value.asSlice, Value.asString, Option.filter_eq_some_iff]
        | _ => simp [Value.asSlice]
  · simp [named]

theorem mem_secondaryAddresses {targetNetwork address : String} {pod : Pod} :
    address ∈ secondaryAddresses targetNetwork pod ↔ Reports targetNetwork pod address := by
  unfold secondaryAddresses Reports
  split
  next idle =>
    apply iff_of_false (by simp)
    rintro ⟨running, ready, -⟩
    simp [running, ready] at idle
  next serving =>
    simp only [not_or, not_not, Bool.not_eq_false] at serving
    simp only [serving, true_and]
    by_cases empty : annotationOf pod annotationNetworkStatus = ""
    · have undecoded : unmarshalStrict decodeMaps [] "" = none := rfl
      simp [empty, undecoded]
    · simp only [empty, if_false]
      cases decoded : unmarshalStrict decodeMaps []
          (annotationOf pod annotationNetworkStatus) with
      | none => simp
      | some statusList =>
          simp only [List.mem_filterMap, entryAddress_iff, Option.some.injEq, exists_eq_left']

theorem mem_selectorAddresses {cluster : Cluster}
    {ns epSelectorName targetNetwork address : String} :
    address ∈ selectorAddresses cluster ns epSelectorName targetNetwork ↔
      ∃ pod, Matches cluster ns epSelectorName pod ∧ Reports targetNetwork pod address := by
  unfold selectorAddresses Matches
  cases found : (cluster .gkeEndpointSelector).get? ⟨ns, epSelectorName⟩ with
  | none => simp
  | some epSel =>
      simp only [Option.bind_some, Option.some.injEq, ← and_assoc, ← selectorLabels_eq_some]
      cases labels : selectorLabels epSel with
      | none => simp [labels]
      | some matchLabels =>
          simp [labels, List.mem_flatMap, mem_listed, selects, mem_secondaryAddresses, and_assoc]

theorem GathersFrom.nodup_addresses {rank : Rank} {cluster : Cluster} {ns targetNetwork : String}
    {refs : List BackendRef} {backends : Backends}
    (gathers : GathersFrom rank cluster ns targetNetwork refs backends) :
    backends.backendAddresses.Nodup := by
  induction gathers with
  | nil => exact List.nodup_nil
  | snoc _ _ inductionHypothesis =>
      exact List.nodup_append'.mpr ⟨inductionHypothesis, nodup_unseen,
        fun address listed again => (mem_unseen.mp again).2 listed⟩

theorem GathersFrom.nodup_ports {rank : Rank} {cluster : Cluster} {ns targetNetwork : String}
    {refs : List BackendRef} {backends : Backends}
    (gathers : GathersFrom rank cluster ns targetNetwork refs backends) :
    backends.ports.Nodup := by
  induction gathers with
  | nil => exact List.nodup_nil
  | snoc _ _ inductionHypothesis =>
      unfold withPods
      dsimp only
      split
      next => exact inductionHypothesis
      next fresh => exact List.nodup_append'.mpr ⟨inductionHypothesis, List.nodup_singleton _,
        fun port listed again => fresh (List.mem_singleton.mp again ▸ listed)⟩

theorem portName_injective {ports : List Int} (several : ports.length ≠ 1) :
    Function.Injective (portName ports) := by
  intro first second same
  have numbers : "service-" ++ toString first = "service-" ++ toString second := by
    simpa only [portName, several, if_false] using same
  exact Int.repr_injective (String.append_right_inj _ |>.mp numbers)

theorem nodup_portNames {ports : List Int} (distinct : ports.Nodup) :
    (ports.map (portName ports)).Nodup := by
  by_cases single : ports.length = 1
  · obtain ⟨p, rfl⟩ := List.length_eq_one_iff.mp single
    exact List.nodup_singleton _
  · exact distinct.map (portName_injective single)

theorem offersExactly_gathered {rank : Rank} {cluster : Cluster} {gw : Unstructured}
    {targetNetwork : String} {backends : Backends}
    (gathers : GathersBackends rank cluster gw targetNetwork backends) (gwIP : String) :
    OffersExactly cluster gw targetNetwork (gatewayService gw.key gwIP backends.ports)
      (gatewaySlice gw.key backends.ports backends.backendAddresses) := by
  obtain ⟨routes, lists, gathers⟩ := gathers
  have addresses : (gatewaySlice gw.key backends.ports
      backends.backendAddresses).body.endpoints.flatMap
      Endpoint.addresses = backends.backendAddresses := by
    simp [gatewaySlice, List.flatMap_map]
  have ports : (gatewayService gw.key gwIP backends.ports).body.ports.map ServicePort.port =
      backends.ports := by
    simp [gatewayService, servicePort, Function.comp_def]
  have names : (gatewayService gw.key gwIP backends.ports).body.ports.map ServicePort.name =
      backends.ports.map (portName backends.ports) := by
    simp [gatewayService, servicePort, Function.comp_def]
  refine ⟨?_, ?_, ?_, ?_, ?_, ?_, ?_⟩
  · simp [gatewaySlice]
  · rw [addresses]
    exact gathers.nodup_addresses
  · intro address
    rw [addresses, gathers.mem_addresses]
    simp only [lists.boundRefs_perm.mem_iff, mem_refsOf, mem_selectorAddresses, BackendAt]
  · simp [gatewaySlice, gatewayService, endpointPort, servicePort]
  · rw [ports]
    exact gathers.nodup_ports
  · rw [names]
    exact nodup_portNames gathers.nodup_ports
  · intro port
    rw [ports, gathers.mem_ports]
    simp only [lists.boundRefs_perm.mem_iff, mem_refsOf]

/-- What is stored after a write has the content that was written; nothing is stored only
where the write has completed a deletion. -/
def Written {Body : Type} (object : Object Body) (before after : Option (Object Body)) : Prop :=
  (∀ stored, after = some stored → content stored = content object) ∧
    (after = none → ∃ existing, before = some existing ∧
      existing.metadata.deletionTimestamp.isSome = true)

/-- What is still stored was there before, is being deleted, and is held by finalizers. -/
def RemovedUnlessHeld {Body : Type} (before after : Option (Object Body)) : Prop :=
  ∀ stored, after = some stored → before ≠ none ∧
    stored.metadata.deletionTimestamp.isSome = true ∧ stored.metadata.finalizers ≠ []

theorem written_applied (kind : Kind) {same : Object kind.Body → Object kind.Body → Bool}
    {object : Object kind.Body} (before : Option (Object kind.Body))
    (replaced : ∀ stored sent, updatedBody kind stored sent = sent)
    (sound : ∀ existing, same existing object = true → content existing = content object) :
    Written object before (applied kind same object before) := by
  refine ⟨fun stored => applied_content replaced sound, fun missing => ?_⟩
  obtain ⟨existing, found, deleting, -⟩ := applied_none missing
  exact ⟨existing, found, deleting⟩

theorem removedUnlessHeld_afterDelete {Body : Type} (before : Option (Object Body)) (now : String) :
    RemovedUnlessHeld before (before.bind (afterDelete now)) := by
  intro stored found
  obtain ⟨existing, present, held⟩ := Option.bind_eq_some_iff.mp found
  unfold afterDelete at held
  split at held
  next => cases held
  next finalizers =>
    cases held
    exact ⟨by simp [present], rfl, finalizers⟩

section Reconcile

variable (rank : Rank) (gw : Unstructured)

theorem writeServiceAndEndpointSlice_written (gwIP : String) (ports : List Int)
    (backendAddresses : List String) (session : Session) :
    let after := (writeServiceAndEndpointSlice gw gwIP ports backendAddresses ⟨noFaults, rank⟩
      session).2.cluster
    Written (gatewayService gw.key gwIP ports) ((session.cluster .service).get? gw.key)
        ((after .service).get? gw.key) ∧
      Written (gatewaySlice gw.key ports backendAddresses)
        ((session.cluster .endpointSlice).get? (sliceKey gw.key))
        ((after .endpointSlice).get? (sliceKey gw.key)) := by
  set svc := gatewayService gw.key gwIP ports
  set slice := gatewaySlice gw.key ports backendAddresses
  set middle := (applyService svc ⟨noFaults, rank⟩ session).2
  set after := (applyEndpointSlice slice ⟨noFaults, rank⟩ middle).2
  have first : Makes (AppliesTo .service gw.key) session middle :=
    applyService_makes svc ⟨noFaults, rank⟩ session
  have second : Makes (AppliesTo .endpointSlice (sliceKey gw.key)) middle after :=
    applyEndpointSlice_makes slice ⟨noFaults, rank⟩ middle
  have service : (after.cluster .service).get? gw.key =
      applied .service upToDate svc ((session.cluster .service).get? gw.key) :=
    (second.unchanged fun call applies => by
      rcases applies with rfl | rfl | rfl <;> simp [Call.target]).trans applyObject_noFaults
  have endpointSlice : (after.cluster .endpointSlice).get? (sliceKey gw.key) =
      applied .endpointSlice upToDate slice
        ((session.cluster .endpointSlice).get? (sliceKey gw.key)) := by
    rw [← first.unchanged fun call applies => by
      rcases applies with rfl | rfl | rfl <;> simp [Call.target]]
    exact applyObject_noFaults
  refine ⟨?_, ?_⟩
  · exact service ▸ written_applied .service _ (fun _ _ => rfl) fun _ => upToDate_sound
  · exact endpointSlice ▸ written_applied .endpointSlice _ (fun _ _ => rfl) fun _ => upToDate_sound

theorem cleanupDynamicResources_removed (session : Session) :
    let after := (cleanupDynamicResources gw ⟨noFaults, rank⟩ session).2.cluster
    RemovedUnlessHeld ((session.cluster .service).get? gw.key) ((after .service).get? gw.key) ∧
      RemovedUnlessHeld ((session.cluster .endpointSlice).get? (sliceKey gw.key))
        ((after .endpointSlice).get? (sliceKey gw.key)) := by
  set middle := (delete .service gw.key ⟨noFaults, rank⟩ session).2
  set after := (delete .endpointSlice (sliceKey gw.key) ⟨noFaults, rank⟩ middle).2
  have first : Makes (Eq (.delete .service gw.key)) session middle :=
    delete_makes rfl ⟨noFaults, rank⟩ session
  have second : Makes (Eq (.delete .endpointSlice (sliceKey gw.key))) middle after :=
    delete_makes rfl ⟨noFaults, rank⟩ middle
  have service : (after.cluster .service).get? gw.key =
      ((session.cluster .service).get? gw.key).bind (afterDelete session.now) :=
    (second.unchanged fun call same => by simp [← same, Call.target]).trans
      (delete_noFaults (by decide))
  have endpointSlice : (after.cluster .endpointSlice).get? (sliceKey gw.key) =
      ((session.cluster .endpointSlice).get? (sliceKey gw.key)).bind (afterDelete middle.now) := by
    rw [← first.unchanged fun call same => by simp [← same, Call.target]]
    exact delete_noFaults (by decide)
  exact ⟨service ▸ removedUnlessHeld_afterDelete _ session.now,
    endpointSlice ▸ removedUnlessHeld_afterDelete _ middle.now⟩

/-- What the loops over the routes do to the objects of the Gateway. -/
structure ReconcilesExactly (gw : Unstructured) (targetNetwork : String) (before after : Cluster)
    (backendCount : Nat) : Prop where
  written : (∃ ref, Refers before gw ref) → ∃ svc slice,
    OffersExactly before gw targetNetwork svc slice ∧ backendCount = slice.body.endpoints.length ∧
      Written svc ((before .service).get? gw.key) ((after .service).get? gw.key) ∧
      Written slice ((before .endpointSlice).get? (sliceKey gw.key))
        ((after .endpointSlice).get? (sliceKey gw.key))
  removed : (¬ ∃ ref, Refers before gw ref) → backendCount = 0 ∧
    RemovedUnlessHeld ((before .service).get? gw.key) ((after .service).get? gw.key) ∧
    RemovedUnlessHeld ((before .endpointSlice).get? (sliceKey gw.key))
      ((after .endpointSlice).get? (sliceKey gw.key))

/-- With successful reads and writes the loops over the routes write exactly the backends
of the Gateway, and without backend references they delete its objects. -/
theorem reconcileRoutesAndEndpoints_exact (rank : Rank) (gw : Unstructured)
    (gwIP targetNetwork : String) (session : Session) :
    ReconcilesExactly gw targetNetwork session.cluster
      (reconcileRoutesAndEndpoints gw gwIP targetNetwork ⟨noFaults, rank⟩ session).2.cluster
      (reconcileRoutesAndEndpoints gw gwIP targetNetwork ⟨noFaults, rank⟩ session).1 := by
  have cluster := list_cluster .gkeL4Route (some gw.key.ns) [] ⟨noFaults, rank⟩ session
  simp only [reconcileRoutesAndEndpoints, Program.bind_apply, list_ranked]
  set listing := (list .gkeL4Route (some gw.key.ns) [] ⟨noFaults, rank⟩ session).2
  set routes := arranged (rank (session.times (.list .gkeL4Route (some gw.key.ns) []))
    (.list .gkeL4Route (some gw.key.ns) [])) (listed (session.cluster .gkeL4Route)
      (some gw.key.ns) [])
  obtain ⟨gathers, makes⟩ := addRoutes_gathers rank gw targetNetwork listing routes listing rfl
  generalize routes.foldlM (addRoute gw targetNetwork) {} ⟨noFaults, rank⟩ listing = outcome
    at gathers makes ⊢
  obtain ⟨backends, gathered⟩ := outcome
  have whole : GathersBackends rank session.cluster gw targetNetwork backends :=
    ⟨routes, ⟨_, rfl⟩, cluster ▸ gathers⟩
  have refers : backends.haveBackendRefs = true ↔ ∃ ref, Refers session.cluster gw ref := by
    simp only [whole.haveBackendRefs, ← mem_refsOf]
    refine ⟨List.exists_mem_of_ne_nil _, ?_⟩
    rintro ⟨_, listed⟩
    exact List.ne_nil_of_mem listed
  have aside : Makes Aside listing gathered := makes.weaken gatheringCall_aside
  have service := (dynamic_unchanged aside gw.key).1
  have endpointSlice := (dynamic_unchanged aside (sliceKey gw.key)).2
  rw [cluster] at service endpointSlice
  refine ⟨fun referred => ?_, fun unreferred => ?_⟩
  · have written := writeServiceAndEndpointSlice_written rank gw gwIP backends.ports
      backends.backendAddresses gathered
    rw [service, endpointSlice] at written
    rw [if_pos (refers.mpr referred)]
    refine ⟨_, _, offersExactly_gathered whole gwIP, ?_, written⟩
    simp only [gatewaySlice, List.length_map]
    rfl
  · have removed := cleanupDynamicResources_removed rank gw gathered
    rw [service, endpointSlice] at removed
    have empty : backends.backendAddresses = [] := List.eq_nil_iff_forall_not_mem.mpr
      fun address listed => by
        obtain ⟨ref, refers, -⟩ := ((offersExactly_gathered whole gwIP).serves address).mp (by
          simpa [gatewaySlice, List.flatMap_map] using listed)
        exact unreferred ⟨ref, refers⟩
    rw [if_neg fun referred => unreferred (refers.mp referred)]
    exact ⟨congrArg List.length empty, removed⟩

end Reconcile

/-- A Service under the Gateway's name that has a finalizer, and no route. -/
def heldCluster : Cluster :=
  Cluster.put ∅ .service { gatewayService twoAppGateway.key "10.0.0.5" [80] with
    metadata := { key := twoAppGateway.key, finalizers := ["example.com/hold"] } }

theorem heldService_remains : (¬ ∃ ref, Refers heldCluster twoAppGateway ref) ∧
    ((reconcileRoutesAndEndpoints twoAppGateway "10.0.0.5" "n" noFaults
      { cluster := heldCluster, now := "" }).2.cluster .service).get? twoAppGateway.key ≠ none := by
  refine ⟨?_, ?_⟩
  · rintro ⟨ref, route, stored, -⟩
    cases stored
  · have remains : (((reconcileRoutesAndEndpoints twoAppGateway "10.0.0.5" "n" noFaults
        { cluster := heldCluster, now := "" }).2.cluster .service).get?
          twoAppGateway.key).isSome = true := by decide +kernel
    exact Option.isSome_iff_ne_none.mp remains

end GemEmulation.Operator
