import GemEmulation.Operator.Gateway.Desired

/-!
# Reconciling to the desired state

An error-free Reconcile of a Gateway either leaves the dynamic objects alone or
brings them to the desired state; which of the two depends on the Gateway and
the GKEGatewayCIDRs only.
-/

namespace GemEmulation.Operator

open Foundations Kube Net

/-- The objects that the dynamic objects are computed from are the same. -/
structure SameSources (cluster other : Cluster) : Prop where
  cidrs : ∀ key, (cluster .gkeGatewayCIDR).get? key = (other .gkeGatewayCIDR).get? key
  routes : ∀ key, (cluster .gkeL4Route).get? key = (other .gkeL4Route).get? key
  selectors : ∀ key,
    (cluster .gkeEndpointSelector).get? key = (other .gkeEndpointSelector).get? key
  pods : ∀ key, (cluster .pod).get? key = (other .pod).get? key

theorem staticAddress_congr {gw other : Unstructured}
    (spec : lookupEntry "spec" gw.body = lookupEntry "spec" other.body) :
    staticAddress gw = staticAddress other := by
  have addresses : nestedSlice gw.body ["spec", "addresses"] =
      nestedSlice other.body ["spec", "addresses"] := by
    simp only [nestedSlice, nestedField, Value.nested, spec]
  rw [staticAddress, staticAddress, addresses]

theorem gatewayVIP_congr {cluster other : Cluster} {gw gw' : Unstructured}
    (sources : SameSources cluster other)
    (spec : lookupEntry "spec" gw.body = lookupEntry "spec" gw'.body) (networkName : String) :
    gatewayVIP cluster gw networkName = gatewayVIP other gw' networkName := by
  rw [gatewayVIP, gatewayVIP, staticAddress_congr spec, Store.list_congr sources.cidrs]

theorem boundRefs_congr {gw gw' : Unstructured} (key : gw.key = gw'.key) :
    boundRefs gw = boundRefs gw' := by
  funext routes
  simp only [boundRefs, routeReferencesGateway, key]

theorem gathered_congr {cluster other : Cluster} {gw gw' : Unstructured}
    (sources : SameSources cluster other) (key : gw.key = gw'.key) (targetNetwork : String) :
    gathered cluster gw targetNetwork = gathered other gw' targetNetwork := by
  rw [gathered, gathered, boundRefs_congr key, key, gatherRef_congr sources.selectors sources.pods,
    listed, listed, Store.list_congr sources.routes]

/-- The dynamic objects depend on the sources, and on the key and the spec of the
Gateway. -/
theorem desiredObjects_congr {cluster other : Cluster} {gw gw' : Unstructured}
    (sources : SameSources cluster other) (key : gw.key = gw'.key)
    (spec : lookupEntry "spec" gw.body = lookupEntry "spec" gw'.body) (targetNetwork : String) :
    desiredObjects cluster gw targetNetwork = desiredObjects other gw' targetNetwork := by
  rw [desiredObjects, desiredObjects, gatewayVIP_congr sources spec,
    gathered_congr sources key, key]

theorem sameSources_of_makes {allowed : Call → Prop} {before after : Session}
    (makes : Makes allowed before after)
    (untouched : ∀ call, allowed call → ∀ kind key, call.target = some (kind, key) →
      kind = .gateway) : SameSources after.cluster before.cluster where
  cidrs key := makes.unchanged fun call permitted target => by
    cases untouched call permitted _ _ target
  routes key := makes.unchanged fun call permitted target => by
    cases untouched call permitted _ _ target
  selectors key := makes.unchanged fun call permitted target => by
    cases untouched call permitted _ _ target
  pods key := makes.unchanged fun call permitted target => by
    cases untouched call permitted _ _ target

theorem applyService_makes (svc : Service) :
    (applyService svc).Guarantees (Makes (AppliesTo .service svc.key)) := applyObject_makes

theorem applyEndpointSlice_makes (slice : EndpointSlice) :
    (applyEndpointSlice slice).Guarantees (Makes (AppliesTo .endpointSlice slice.key)) :=
  applyObject_makes

section Ranked

variable (rank : Rank)

theorem writeServiceAndEndpointSlice_shows (gw : Unstructured) (gwIP : String) (ports : List Int)
    (backendAddresses : List String) :
    Program.Triple (⟨noFaults, rank⟩ : Client) (fun session => LooseObjects gw.key session.cluster)
      (writeServiceAndEndpointSlice gw gwIP ports backendAddresses)
      fun _ session => Shows gw.key (some (gatewayService gw.key gwIP ports,
        gatewaySlice gw.key ports backendAddresses)) session.cluster := by
  intro session loose
  have service := applyService_makes (gatewayService gw.key gwIP ports) ⟨noFaults, rank⟩ session
  have first := (applyService_stored (gatewayService gw.key gwIP ports) readFaults_noFaults rfl
    (fun svc found => (loose.1 svc found).2)
    (letsThrough_noFaults _ _ _) : StoredAs _ _ (applyService _ ⟨noFaults, rank⟩ session).2.cluster)
  set middle := (applyService (gatewayService gw.key gwIP ports) ⟨noFaults, rank⟩ session).2
  have slice := applyEndpointSlice_makes (gatewaySlice gw.key ports backendAddresses)
    ⟨noFaults, rank⟩ middle
  have sliceSame : (middle.cluster .endpointSlice).get? (sliceKey gw.key) =
      (session.cluster .endpointSlice).get? (sliceKey gw.key) :=
    service.unchanged fun call applies => by
      rcases applies with rfl | rfl | rfl <;> simp [Call.target]
  have second := (applyEndpointSlice_stored (gatewaySlice gw.key ports backendAddresses)
    readFaults_noFaults rfl
    (fun stored (found : (middle.cluster .endpointSlice).get? (sliceKey gw.key) = some stored) =>
      (loose.2 stored (sliceSame ▸ found)).2)
    (letsThrough_noFaults _ _ _) : StoredAs _ _
      (applyEndpointSlice _ ⟨noFaults, rank⟩ middle).2.cluster)
  set final := (applyEndpointSlice (gatewaySlice gw.key ports backendAddresses)
    ⟨noFaults, rank⟩ middle).2
  have serviceSame : (final.cluster .service).get? gw.key = (middle.cluster .service).get? gw.key :=
    slice.unchanged fun call applies => by
      rcases applies with rfl | rfl | rfl <;> simp [Call.target]
  exact ⟨serviceSame ▸ first.content_eq, second.content_eq⟩

theorem delete_loose {kind : Kind} {key : ObjectKey} {session : Session} (notPod : kind ≠ .pod)
    (loose : StoredWith Loose kind key session.cluster) :
    ((delete kind key ⟨noFaults, rank⟩ session).2.cluster kind).get? key = none := by
  cases found : (session.cluster kind).get? key with
  | none =>
      rw [delete_absent rfl found]
      exact found
  | some stored =>
      rw [delete_granted rfl found ⟨notPod, (loose stored found).1⟩]
      have removed : (session.cluster.remove kind key kind).get? key = none := by simp
      exact removed

theorem cleanupDynamicResources_shows (gw : Unstructured) :
    Program.Triple (⟨noFaults, rank⟩ : Client) (fun session => LooseObjects gw.key session.cluster)
      (cleanupDynamicResources gw) fun _ session => Shows gw.key none session.cluster := by
  intro session loose
  have service : Makes (Eq (.delete .service gw.key)) session
      (delete .service gw.key ⟨noFaults, rank⟩ session).2 :=
    delete_makes rfl ⟨noFaults, rank⟩ session
  have first := delete_loose rank (by decide) loose.1
  set middle := (delete .service gw.key ⟨noFaults, rank⟩ session).2
  have slice : Makes (Eq (.delete .endpointSlice (sliceKey gw.key))) middle
      (delete .endpointSlice (sliceKey gw.key) ⟨noFaults, rank⟩ middle).2 :=
    delete_makes rfl ⟨noFaults, rank⟩ middle
  have sliceSame : (middle.cluster .endpointSlice).get? (sliceKey gw.key) =
      (session.cluster .endpointSlice).get? (sliceKey gw.key) :=
    service.unchanged fun call equality => by simp [← equality, Call.target]
  have sliceLoose : StoredWith Loose .endpointSlice (sliceKey gw.key) middle.cluster :=
    fun stored found => loose.2 stored (sliceSame ▸ found)
  have second := delete_loose rank (by decide) sliceLoose
  set final := (delete .endpointSlice (sliceKey gw.key) ⟨noFaults, rank⟩ middle).2
  have serviceSame : (final.cluster .service).get? gw.key = (middle.cluster .service).get? gw.key :=
    slice.unchanged fun call equality => by simp [← equality, Call.target]
  have gone : (final.cluster .service).get? gw.key = none := serviceSame.trans first
  exact ⟨congrArg (Option.map content) gone, congrArg (Option.map content) second⟩

/-- The dynamic objects show what was gathered from some order of the lists. -/
def ShowsGathered (rank : Rank) (cluster : Cluster) (gw : Unstructured)
    (gwIP targetNetwork : String) (session : Session) : Prop :=
  ∃ backends, GathersBackends rank cluster gw targetNetwork backends ∧
    Shows gw.key (objectsFor gw.key gwIP backends) session.cluster

theorem reconcileRoutesAndEndpoints_shows (gw : Unstructured) (gwIP targetNetwork : String)
    (start : Session) (loose : LooseObjects gw.key start.cluster) :
    Program.Triple (⟨noFaults, rank⟩ : Client) (· = start)
      (reconcileRoutesAndEndpoints gw gwIP targetNetwork)
      fun _ => ShowsGathered rank start.cluster gw gwIP targetNetwork := by
  rintro session rfl
  simp only [reconcileRoutesAndEndpoints, Program.bind_apply, list_ranked]
  have cluster := list_cluster .gkeL4Route (some gw.key.ns) [] ⟨noFaults, rank⟩ session
  set listed' := (list .gkeL4Route (some gw.key.ns) [] ⟨noFaults, rank⟩ session).2
  set routes := arranged (rank (session.times (.list .gkeL4Route (some gw.key.ns) []))
    (.list .gkeL4Route (some gw.key.ns) [])) (listed (session.cluster .gkeL4Route)
      (some gw.key.ns) [])
  obtain ⟨gathers, makes⟩ := addRoutes_gathers rank gw targetNetwork listed' routes listed' rfl
  have looseThen := loose_of_aside (makes.weaken gatheringCall_aside) (cluster ▸ loose)
  rw [cluster] at gathers
  generalize routes.foldlM (addRoute gw targetNetwork) {} ⟨noFaults, rank⟩ listed' = outcome
    at gathers looseThen ⊢
  obtain ⟨backends, gathered⟩ := outcome
  refine ⟨backends, ⟨routes, ⟨_, rfl⟩, gathers⟩, ?_⟩
  rw [objectsFor]
  dsimp only at looseThen ⊢
  split
  · exact writeServiceAndEndpointSlice_shows rank gw gwIP _ _ _ looseThen
  · exact cleanupDynamicResources_shows rank gw _ looseThen

theorem programGateway_shows (gw : Unstructured) (gwIP targetNetwork : String)
    (start : Session) (loose : LooseObjects gw.key start.cluster) :
    Program.Triple (⟨noFaults, rank⟩ : Client) (· = start) (programGateway gw gwIP targetNetwork)
      fun _ => ShowsGathered rank start.cluster gw gwIP targetNetwork := by
  refine .bind (reconcileRoutesAndEndpoints_shows rank gw gwIP targetNetwork start loose)
    fun backendCount => ?_
  rintro session ⟨backends, gathers, shown⟩
  have permitted : Aside (.updateStatus .gateway gw.key) ∧ Aside (.update .gateway gw.key) :=
    ⟨aside_updateStatus _ (by decide), aside_update _ (by decide)⟩
  have rest : Program.Guarantees (Makes Aside) (do
      let _ ← updateUnstructuredStatusIfChanged .gateway gw (some (gatewayAddresses gwIP))
        (gatewayConditions backendCount)
      reconcileCoreDNS) :=
    .bind (updateUnstructuredStatusIfChanged_makes permitted) fun _ =>
      reconcileCoreDNS_makes.weaken fun _ _ makes => makes.weaken coreDNSCall_aside
  exact ⟨backends, gathers, shows_of_aside (rest ⟨noFaults, rank⟩ session) shown⟩

end Ranked

/-- Whether a Reconcile manages the dynamic objects of a Gateway: it has a Network
and a VIP, or it is being deleted and still has its finalizer. -/
def Managed (cluster : Cluster) (gw : Unstructured) : Prop :=
  if gw.metadata.deletionTimestamp.isSome then
    containsFinalizer gw gatewayFinalizer = true
  else
    let targetNetwork := annotationOf gw annotationNetwork
    targetNetwork ≠ "" ∧ gatewayVIP cluster gw targetNetwork ≠ ""

def managedObjects (cluster : Cluster) (gw : Unstructured) : Option (Service × EndpointSlice) :=
  if gw.metadata.deletionTimestamp.isSome then none
  else desiredObjects cluster gw (annotationOf gw annotationNetwork)

/-- The VIP of a Gateway, as it is drawn from some order of the GKEGatewayCIDRs. -/
def ListsVIP (rank : Rank) (cluster : Cluster) (gw : Unstructured) (networkName vip : String) :
    Prop :=
  ∃ count, vip = (staticAddress gw).getD
    ((((arranged (rank count (.list .gkeGatewayCIDR none []))
      (cluster .gkeGatewayCIDR).list).findSome?
      (offeredVIP networkName)).map dottedQuad).getD "")

theorem ListsVIP.unranked {cluster : Cluster} {gw : Unstructured} {networkName vip : String}
    (lists : ListsVIP (fun _ _ _ => 0) cluster gw networkName vip) :
    vip = gatewayVIP cluster gw networkName := by
  obtain ⟨_, rfl⟩ := lists
  rw [arranged_unranked, gatewayVIP]

theorem determineGatewayIP_lists (rank : Rank) (gw : Unstructured) {networkName : String}
    (nonempty : networkName ≠ "") (session : Session) :
    ListsVIP rank session.cluster gw networkName
      (determineGatewayIP gw networkName ⟨noFaults, rank⟩ session).1 := by
  unfold determineGatewayIP ListsVIP
  cases staticAddress gw with
  | some value => exact ⟨0, rfl⟩
  | none =>
      simp only [nonempty, if_false, Program.bind_apply, list_ranked, listed_all,
        Program.pure_apply, Option.getD_none]
      exact ⟨_, rfl⟩

theorem lookupEntry_withStatus (fields : Fields) (status : Option Value) {name : String}
    (other : name ≠ "status") :
    lookupEntry name (withStatus fields status) = lookupEntry name fields := by
  cases status with
  | none => rw [withStatus, lookupEntry_filter_ne, if_neg other]
  | some value => rw [withStatus, lookupEntry_setEntry, if_neg other]

theorem ensureFinalizer_gateway {gw : Unstructured} {faults : Faults} {rank : Rank}
    {session : Session} (reads : ReadFaults faults)
    (found : (session.cluster .gateway).get? gw.key = some gw) :
    ∃ gw', (ensureFinalizer .gateway gatewayFinalizer gw ⟨faults, rank⟩ session).1 = .ok gw' ∧
      gw'.key = gw.key ∧ gw'.metadata.annotations = gw.metadata.annotations ∧
        lookupEntry "spec" gw'.body = lookupEntry "spec" gw.body := by
  unfold ensureFinalizer
  split
  · exact ⟨gw, rfl, rfl, rfl, rfl⟩
  next absent =>
    have key := addFinalizer_key gw gatewayFinalizer
    rw [update_granted (reads.writes rfl) (key ▸ found)]
    refine ⟨_, rfl, key, ?_, ?_⟩
    · simp [updated, addFinalizer, absent]
    · have body : (addFinalizer gw gatewayFinalizer).body = gw.body := by
        simp [addFinalizer, absent]
      simp only [updated, updatedBody, CustomKind.hasStatus, if_true, body]
      exact lookupEntry_withStatus _ _ (by decide)

theorem ListsVIP.congr {rank : Rank} {cluster other : Cluster} {gw gw' : Unstructured}
    {networkName vip : String} (lists : ListsVIP rank cluster gw networkName vip)
    (sources : SameSources cluster other)
    (spec : lookupEntry "spec" gw.body = lookupEntry "spec" gw'.body) :
    ListsVIP rank other gw' networkName vip := by
  rwa [ListsVIP, ← staticAddress_congr spec, ← Store.list_congr sources.cidrs]

theorem GathersBackends.congr {rank : Rank} {cluster other : Cluster} {gw gw' : Unstructured}
    {targetNetwork : String} {backends : Backends}
    (gathers : GathersBackends rank cluster gw targetNetwork backends)
    (sources : SameSources cluster other) (key : gw.key = gw'.key) :
    GathersBackends rank other gw' targetNetwork backends := by
  obtain ⟨routes, ⟨count, rfl⟩, gathers⟩ := gathers
  rw [key, boundRefs_congr key, listed, Store.list_congr sources.routes, ← listed] at gathers
  exact ⟨_, ⟨count, rfl⟩, gathers.congr sources.selectors sources.pods⟩

section Reconcile

variable (rank : Rank)

/-- A Gateway with a VIP shows the backends that were gathered for it. -/
def ShowsProgrammed (cluster : Cluster) (gw : Unstructured) (targetNetwork : String)
    (session : Session) : Prop :=
  ∃ vip, ListsVIP rank cluster gw targetNetwork vip ∧
    (vip ≠ "" → ShowsGathered rank cluster gw vip targetNetwork session)

theorem reconcilePresent_shows (gw : Unstructured) (start : Session)
    (loose : LooseObjects gw.key start.cluster)
    (network : annotationOf gw annotationNetwork ≠ "") :
    Program.Triple (⟨noFaults, rank⟩ : Client) (· = start) (reconcilePresent gw) fun _ =>
      ShowsProgrammed rank start.cluster gw (annotationOf gw annotationNetwork) := by
  rintro session rfl
  have makes := determineGatewayIP_makes gw (annotationOf gw annotationNetwork)
    ⟨noFaults, rank⟩ session
  have lists := determineGatewayIP_lists rank gw network session
  have sources := sameSources_of_makes makes (by
    rintro call rfl kind key target
    cases target)
  have looseThen := loose_of_aside (makes.weaken (by
    rintro call rfl
    exact aside_of_read rfl)) loose
  simp only [reconcilePresent, network, if_false, Program.bind_apply]
  generalize determineGatewayIP gw (annotationOf gw annotationNetwork) ⟨noFaults, rank⟩ session =
    outcome at lists sources looseThen ⊢
  obtain ⟨vip, middle⟩ := outcome
  dsimp only at lists sources looseThen ⊢
  refine ⟨vip, lists, fun nonempty => ?_⟩
  obtain ⟨backends, gathers, shown⟩ := programGateway_shows rank gw vip
    (annotationOf gw annotationNetwork) middle looseThen middle rfl
  rw [if_neg nonempty]
  exact ⟨backends, gathers.congr sources rfl, shown⟩

/-- A Reconcile removes the dynamic objects of a Gateway that is being deleted. -/
theorem reconcileGateway_removes {key : ObjectKey} {gw : Unstructured} {session : Session}
    (found : (session.cluster .gateway).get? key = some gw)
    (deleted : gw.metadata.deletionTimestamp.isSome = true)
    (finalizer : containsFinalizer gw gatewayFinalizer = true)
    (loose : LooseObjects key session.cluster) :
    Shows key none (reconcileGateway key ⟨noFaults, rank⟩ session).2.cluster := by
  obtain rfl := Store.key_of_get? found
  have cluster := get_cluster .gateway gw.key ⟨noFaults, rank⟩ session
  simp only [reconcileGateway, Program.bind_apply, get_noFaults, found, deleted, if_true,
    reconcileDeleted, finalizer]
  set read := (get .gateway gw.key ⟨noFaults, rank⟩ session).2
  rw [← cluster] at loose
  have shown := cleanupDynamicResources_shows rank gw read loose
  have rest : Program.Guarantees (Makes Aside)
      (update .gateway (removeFinalizer gw gatewayFinalizer)) :=
    update_makes .gateway (aside_update _ (by decide))
  set cleaned := (cleanupDynamicResources gw ⟨noFaults, rank⟩ read).2
  have final := shows_of_aside (rest ⟨noFaults, rank⟩ cleaned) shown
  cases (update .gateway (removeFinalizer gw gatewayFinalizer) ⟨noFaults, rank⟩ cleaned).1 <;>
    exact final

theorem reconcileGateway_programs {key : ObjectKey} {gw : Unstructured} {session : Session}
    (found : (session.cluster .gateway).get? key = some gw)
    (present : gw.metadata.deletionTimestamp.isSome = false)
    (network : annotationOf gw annotationNetwork ≠ "")
    (loose : LooseObjects key session.cluster) :
    ShowsProgrammed rank session.cluster gw (annotationOf gw annotationNetwork)
      (reconcileGateway key ⟨noFaults, rank⟩ session).2 := by
  obtain rfl := Store.key_of_get? found
  have cluster := get_cluster .gateway gw.key ⟨noFaults, rank⟩ session
  simp only [reconcileGateway, Program.bind_apply, get_noFaults, found, present,
    Bool.false_eq_true, if_false]
  set read := (get .gateway gw.key ⟨noFaults, rank⟩ session).2
  rw [← cluster] at loose
  have foundThen : (read.cluster .gateway).get? gw.key = some gw := cluster ▸ found
  obtain ⟨gw', ensured, sameKey, annotations, spec⟩ :=
    @ensureFinalizer_gateway gw noFaults rank read readFaults_noFaults foundThen
  have makes : Makes (Eq (.update .gateway gw.key)) read
      (ensureFinalizer .gateway gatewayFinalizer gw ⟨noFaults, rank⟩ read).2 :=
    ensureFinalizer_makes rfl ⟨noFaults, rank⟩ read
  have sources := sameSources_of_makes makes (by
    rintro call rfl kind key target
    cases target
    rfl)
  have looseThen := loose_of_aside (makes.weaken (by
    rintro call rfl
    exact aside_update _ (by decide))) loose
  rw [ensured]
  simp only [Program.bind_apply, Program.pure_apply]
  set middle := (ensureFinalizer .gateway gatewayFinalizer gw ⟨noFaults, rank⟩ read).2
  have sameNetwork : annotationOf gw' annotationNetwork = annotationOf gw annotationNetwork := by
    rw [annotationOf, annotationOf, annotations]
  rw [cluster] at sources
  obtain ⟨vip, lists, programs⟩ := reconcilePresent_shows rank gw' middle (sameKey ▸ looseThen)
    (by rwa [sameNetwork]) middle rfl
  rw [sameNetwork] at lists programs
  refine ⟨vip, lists.congr sources spec, fun nonempty => ?_⟩
  obtain ⟨backends, gathers, shown⟩ := programs nonempty
  rw [sameKey] at shown
  exact ⟨backends, gathers.congr sources sameKey, shown⟩

end Reconcile

/-- A Reconcile brings the dynamic objects of a managed Gateway to the desired
state. -/
theorem reconcileGateway_shows {key : ObjectKey} {gw : Unstructured} {session : Session}
    (found : (session.cluster .gateway).get? key = some gw)
    (managed : Managed session.cluster gw) (loose : LooseObjects key session.cluster) :
    Shows key (managedObjects session.cluster gw)
      (reconcileGateway key noFaults session).2.cluster := by
  unfold Managed at managed
  unfold managedObjects
  split at managed
  next deleted =>
    rw [if_pos deleted]
    exact reconcileGateway_removes _ found deleted managed loose
  next present =>
    obtain ⟨network, vip⟩ := managed
    obtain ⟨offered, lists, programs⟩ := reconcileGateway_programs (fun _ _ _ => 0) found
      (by simpa using present) network loose
    obtain rfl := lists.unranked
    obtain ⟨backends, gathers, shown⟩ := programs vip
    rw [gathers.unranked, Store.key_of_get? found] at shown
    rw [if_neg present, desiredObjects, Store.key_of_get? found]
    exact shown

end GemEmulation.Operator
