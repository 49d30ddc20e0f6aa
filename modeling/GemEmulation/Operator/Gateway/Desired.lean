import GemEmulation.Kube.Metadata
import GemEmulation.Operator.Gateway.Reconcile

/-!
# The desired state of a Gateway

What the dynamic objects of a Gateway should be, as a function of the Gateway,
the GKEGatewayCIDRs, the routes, the selectors and the Pods.  An error-free
Reconcile establishes it, whatever was stored before.
-/

namespace GemEmulation.Operator

open Foundations Kube Net

def gatewayVIP (cluster : Cluster) (gw : Unstructured) (networkName : String) : String :=
  (staticAddress gw).getD
    ((((cluster .gkeGatewayCIDR).list.findSome? (offeredVIP networkName)).map dottedQuad).getD "")

def selectorAddresses (cluster : Cluster) (ns epSelectorName targetNetwork : String) :
    List String :=
  match ((cluster .gkeEndpointSelector).get? ⟨ns, epSelectorName⟩).bind selectorLabels with
  | none => []
  | some matchLabels =>
      (listed (cluster .pod) (some ns) matchLabels).flatMap (secondaryAddresses targetNetwork)

def gatherRef (cluster : Cluster) (ns targetNetwork : String) (backends : Backends)
    (ref : BackendRef) : Backends where
  backendAddresses := backends.backendAddresses ++ unseen backends.backendAddresses
    (selectorAddresses cluster ns ref.epSelectorName targetNetwork)
  ports := if ref.epPort ∈ backends.ports then backends.ports
    else backends.ports ++ [ref.epPort]
  haveBackendRefs := true

/-- The backend references of those routes that are bound to the Gateway. -/
def boundRefs (gw : Unstructured) (routes : List Unstructured) : List BackendRef :=
  (routes.filter fun route => routeReferencesGateway route gw).flatMap backendRefs

def gathered (cluster : Cluster) (gw : Unstructured) (targetNetwork : String) : Backends :=
  (boundRefs gw (listed (cluster .gkeL4Route) (some gw.key.ns) [])).foldl
    (gatherRef cluster gw.key.ns targetNetwork) {}

/-- The dynamic objects for some backends: none without backend references. -/
def objectsFor (key : ObjectKey) (gwIP : String) (backends : Backends) :
    Option (Service × EndpointSlice) :=
  if backends.haveBackendRefs then
    some (gatewayService key gwIP backends.ports,
      gatewaySlice key backends.ports backends.backendAddresses)
  else none

def desiredObjects (cluster : Cluster) (gw : Unstructured) (targetNetwork : String) :
    Option (Service × EndpointSlice) :=
  objectsFor gw.key (gatewayVIP cluster gw targetNetwork) (gathered cluster gw targetNetwork)

/-- The dynamic objects under a key have the content of the given ones. -/
def Shows (key : ObjectKey) (objects : Option (Service × EndpointSlice)) (cluster : Cluster) :
    Prop :=
  ((cluster .service).get? key).map content = objects.map (fun pair => content pair.1) ∧
    ((cluster .endpointSlice).get? (sliceKey key)).map content =
      objects.map fun pair => content pair.2

def LooseObjects (key : ObjectKey) (cluster : Cluster) : Prop :=
  StoredWith Loose .service key cluster ∧ StoredWith Loose .endpointSlice (sliceKey key) cluster

/-- The kinds that a Gateway's Reconcile writes besides its dynamic objects. -/
def asideKinds : List Kind := [.gateway, .gkeL4Route, .configMap, .pod]

def Aside (call : Call) : Prop :=
  ∀ kind key, call.target = some (kind, key) → kind ∈ asideKinds

theorem Aside.spares {call : Call} (aside : Aside call) {kind : Kind} (other : kind ∉ asideKinds) :
    call.Spares kind := fun _ target => other (aside _ _ target)

theorem aside_of_read {call : Call} (read : call.target = none) : Aside call :=
  fun _ _ target => by simp [read] at target

theorem aside_update {kind : Kind} (key : ObjectKey) (listed : kind ∈ asideKinds) :
    Aside (.update kind key) := fun _ _ target => by
  cases target
  exact listed

theorem aside_updateStatus {kind : Kind} (key : ObjectKey) (listed : kind ∈ asideKinds) :
    Aside (.updateStatus kind key) := fun _ _ target => by
  cases target
  exact listed

theorem gatheringCall_aside (call : Call) (gathering : GatheringCall call) : Aside call := by
  intro kind key target
  cases call <;> simp_all [GatheringCall, Call.target, asideKinds]

theorem coreDNSCall_aside (call : Call) (permitted : CoreDNSCall call) : Aside call := by
  intro kind key target
  cases call <;> simp_all [CoreDNSCall, Call.target, asideKinds]

theorem dynamic_unchanged {before after : Session} (makes : Makes Aside before after)
    (key : ObjectKey) :
    (after.cluster .service).get? key = (before.cluster .service).get? key ∧
      (after.cluster .endpointSlice).get? key = (before.cluster .endpointSlice).get? key :=
  ⟨makes.unchanged fun _ aside => aside.spares (by decide) key,
    makes.unchanged fun _ aside => aside.spares (by decide) key⟩

theorem shows_of_aside {key : ObjectKey} {objects : Option (Service × EndpointSlice)}
    {before after : Session} (makes : Makes Aside before after)
    (shown : Shows key objects before.cluster) : Shows key objects after.cluster := by
  rw [Shows, (dynamic_unchanged makes key).1,
    (dynamic_unchanged makes (sliceKey key)).2]
  exact shown

theorem loose_of_aside {key : ObjectKey} {before after : Session} (makes : Makes Aside before after)
    (loose : LooseObjects key before.cluster) : LooseObjects key after.cluster := by
  rw [LooseObjects, StoredWith, StoredWith, (dynamic_unchanged makes key).1,
    (dynamic_unchanged makes (sliceKey key)).2]
  exact loose

/-- The Pods that the selector of a reference matches, as a list call returns them. -/
def ListsPods (rank : Rank) (cluster : Cluster) (ns : String) (ref : BackendRef)
    (pods : List Pod) : Prop :=
  match ((cluster .gkeEndpointSelector).get? ⟨ns, ref.epSelectorName⟩).bind selectorLabels with
  | none => pods = []
  | some matchLabels => ∃ count, pods =
      arranged (rank count (.list .pod (some ns) matchLabels)) (listed (cluster .pod) (some ns)
        matchLabels)

def withPods (targetNetwork : String) (backends : Backends) (ref : BackendRef)
    (pods : List Pod) : Backends where
  backendAddresses := backends.backendAddresses ++ unseen backends.backendAddresses
    (pods.flatMap (secondaryAddresses targetNetwork))
  ports := if ref.epPort ∈ backends.ports then backends.ports
    else backends.ports ++ [ref.epPort]
  haveBackendRefs := true

/-- The backends of some references, as they are gathered one after the other. -/
inductive GathersFrom (rank : Rank) (cluster : Cluster) (ns targetNetwork : String) :
    List BackendRef → Backends → Prop where
  | nil : GathersFrom rank cluster ns targetNetwork [] {}
  | snoc {refs : List BackendRef} {backends : Backends} {ref : BackendRef} {pods : List Pod} :
      GathersFrom rank cluster ns targetNetwork refs backends →
      ListsPods rank cluster ns ref pods →
      GathersFrom rank cluster ns targetNetwork (refs ++ [ref])
        (withPods targetNetwork backends ref pods)

def ListsRoutes (rank : Rank) (cluster : Cluster) (ns : String) (routes : List Unstructured) :
    Prop :=
  ∃ count, routes =
    arranged (rank count (.list .gkeL4Route (some ns) []))
      (listed (cluster .gkeL4Route) (some ns) [])

/-- The backends of a Gateway, as they are gathered from some order of the routes. -/
def GathersBackends (rank : Rank) (cluster : Cluster) (gw : Unstructured) (targetNetwork : String)
    (backends : Backends) : Prop :=
  ∃ routes, ListsRoutes rank cluster gw.key.ns routes ∧
    GathersFrom rank cluster gw.key.ns targetNetwork (boundRefs gw routes) backends

section Sources

variable {rank : Rank} {cluster other : Cluster}

theorem selectorAddresses_congr
    (selectors : ∀ key, (cluster .gkeEndpointSelector).get? key =
      (other .gkeEndpointSelector).get? key)
    (pods : ∀ key, (cluster .pod).get? key = (other .pod).get? key)
    (ns epSelectorName targetNetwork : String) :
    selectorAddresses cluster ns epSelectorName targetNetwork =
      selectorAddresses other ns epSelectorName targetNetwork := by
  rw [selectorAddresses, selectorAddresses, selectors]
  simp only [listed, Store.list_congr pods]

theorem gatherRef_congr
    (selectors : ∀ key, (cluster .gkeEndpointSelector).get? key =
      (other .gkeEndpointSelector).get? key)
    (pods : ∀ key, (cluster .pod).get? key = (other .pod).get? key) (ns targetNetwork : String) :
    gatherRef cluster ns targetNetwork = gatherRef other ns targetNetwork := by
  funext backends ref
  rw [gatherRef, gatherRef, selectorAddresses_congr selectors pods]

theorem listsPods_congr
    (selectors : ∀ key, (cluster .gkeEndpointSelector).get? key =
      (other .gkeEndpointSelector).get? key)
    (pods : ∀ key, (cluster .pod).get? key = (other .pod).get? key) (ns : String) :
    ListsPods rank cluster ns = ListsPods rank other ns := by
  funext ref
  unfold ListsPods
  rw [selectors]
  simp only [listed, Store.list_congr pods]

theorem GathersFrom.congr {ns targetNetwork : String} {refs : List BackendRef}
    {backends : Backends} (gathers : GathersFrom rank cluster ns targetNetwork refs backends)
    (selectors : ∀ key, (cluster .gkeEndpointSelector).get? key =
      (other .gkeEndpointSelector).get? key)
    (pods : ∀ key, (cluster .pod).get? key = (other .pod).get? key) :
    GathersFrom rank other ns targetNetwork refs backends := by
  induction gathers with
  | nil => exact .nil
  | snoc _ lists inductionHypothesis =>
      exact .snoc inductionHypothesis (listsPods_congr selectors pods ns ▸ lists)

theorem withPods_unranked {ns targetNetwork : String} {backends : Backends} {ref : BackendRef}
    {pods : List Pod} (lists : ListsPods (fun _ _ _ => 0) cluster ns ref pods) :
    withPods targetNetwork backends ref pods = gatherRef cluster ns targetNetwork backends ref := by
  have addresses : pods.flatMap (secondaryAddresses targetNetwork) =
      selectorAddresses cluster ns ref.epSelectorName targetNetwork := by
    unfold ListsPods at lists
    unfold selectorAddresses
    split at lists
    next => rw [lists, List.flatMap_nil]
    next matchLabels _ =>
      obtain ⟨_, rfl⟩ := lists
      exact congrArg _ (arranged_unranked _)
  rw [withPods, gatherRef, addresses]

theorem GathersFrom.unranked {ns targetNetwork : String} {refs : List BackendRef}
    {backends : Backends}
    (gathers : GathersFrom (fun _ _ _ => 0) cluster ns targetNetwork refs backends) :
    backends = refs.foldl (gatherRef cluster ns targetNetwork) {} := by
  induction gathers with
  | nil => rfl
  | snoc _ lists inductionHypothesis =>
      rw [withPods_unranked lists, inductionHypothesis, List.foldl_append, List.foldl_cons,
        List.foldl_nil]

theorem GathersBackends.unranked {gw : Unstructured} {targetNetwork : String} {backends : Backends}
    (gathers : GathersBackends (fun _ _ _ => 0) cluster gw targetNetwork backends) :
    backends = gathered cluster gw targetNetwork := by
  obtain ⟨_, ⟨_, rfl⟩, gathers⟩ := gathers
  rw [arranged_unranked] at gathers
  exact gathers.unranked

end Sources

theorem collectEndpointsForSelector_lists (rank : Rank) (gw : Unstructured) (targetNetwork : String)
    (ref : BackendRef) (seenAddresses : List String) (session : Session) :
    ∃ pods, ListsPods rank session.cluster gw.key.ns ref pods ∧
      (collectEndpointsForSelector gw ref.epSelectorName targetNetwork seenAddresses
        ⟨noFaults, rank⟩ session).1 =
          unseen seenAddresses (pods.flatMap (secondaryAddresses targetNetwork)) := by
  simp only [collectEndpointsForSelector, ListsPods, Program.bind_apply, get_noFaults]
  cases (session.cluster .gkeEndpointSelector).get? ⟨gw.key.ns, ref.epSelectorName⟩ with
  | none => exact ⟨[], rfl, rfl⟩
  | some epSel =>
      simp only [Option.bind_some]
      cases selectorLabels epSel with
      | none => exact ⟨[], rfl, rfl⟩
      | some matchLabels =>
          simp only [Program.bind_apply, list_ranked, get_cluster, Program.pure_apply]
          exact ⟨_, ⟨_, rfl⟩, rfl⟩

theorem addBackendRef_makes (gw : Unstructured) (targetNetwork : String) (backends : Backends)
    (ref : BackendRef) :
    (addBackendRef gw targetNetwork backends ref).Guarantees (Makes GatheringCall) := by
  refine .bind (.bind (get_makes rfl) fun outcome => ?_) fun _ => .pure _
  split
  · exact .pure _
  · split
    · exact .pure _
    · refine .bind (list_makes rfl) fun outcome => ?_
      split <;> exact .pure _

section Gathering

variable (rank : Rank) (gw : Unstructured) (targetNetwork : String) (start : Session)

def Gathers (refs : List BackendRef) (backends : Backends) (session : Session) : Prop :=
  GathersFrom rank start.cluster gw.key.ns targetNetwork refs backends ∧
    Makes GatheringCall start session

theorem addBackendRef_gathers (refs : List BackendRef) (backends : Backends) (ref : BackendRef) :
    Program.Triple (⟨noFaults, rank⟩ : Client) (Gathers rank gw targetNetwork start refs backends)
      (addBackendRef gw targetNetwork backends ref)
      (Gathers rank gw targetNetwork start (refs ++ [ref])) := by
  rintro session ⟨gathers, makes⟩
  refine ⟨?_, IsTrans.trans _ _ _ makes
    (addBackendRef_makes gw targetNetwork _ ref ⟨noFaults, rank⟩ session)⟩
  obtain ⟨pods, lists, collected⟩ := collectEndpointsForSelector_lists rank gw targetNetwork ref
    backends.backendAddresses session
  have before : ListsPods rank start.cluster gw.key.ns ref pods := by
    rwa [listsPods_congr (fun key => makes.unchanged fun call permitted => by
        cases call <;> simp_all [GatheringCall, Call.target])
      (fun key => makes.unchanged fun call permitted => by
        cases call <;> simp_all [GatheringCall, Call.target])] at lists
  simp only [addBackendRef, Program.bind_apply, Program.pure_apply, collected]
  exact gathers.snoc before

theorem addRoute_gathers (front : List Unstructured) (backends : Backends) (route : Unstructured) :
    Program.Triple (⟨noFaults, rank⟩ : Client)
      (Gathers rank gw targetNetwork start (boundRefs gw front) backends)
      (addRoute gw targetNetwork backends route)
      (Gathers rank gw targetNetwork start (boundRefs gw (front ++ [route]))) := by
  unfold addRoute
  split
  next bound =>
    have refs : boundRefs gw (front ++ [route]) = boundRefs gw front ++ backendRefs route := by
      simp [boundRefs, bound]
    rw [refs]
    refine .bind (Program.Triple.foldlM (fun done =>
      Gathers rank gw targetNetwork start (boundRefs gw front ++ done)) ?_ backends |>.consequence
        (fun session holds => by rwa [List.append_nil]) fun _ _ => id) fun added => ?_
    · intro done ref rest _ result
      rw [← List.append_assoc]
      exact addBackendRef_gathers rank gw targetNetwork start _ result ref
    · rintro session ⟨gathered, makes⟩
      have permitted : GatheringCall (.updateStatus .gkeL4Route route.key) ∧
          GatheringCall (.update .gkeL4Route route.key) := ⟨rfl, rfl⟩
      exact ⟨gathered, IsTrans.trans _ _ _ makes
        (updateUnstructuredStatusIfChanged_makes permitted ⟨noFaults, rank⟩ session)⟩
  next unbound =>
    have refs : boundRefs gw (front ++ [route]) = boundRefs gw front := by
      simp [boundRefs, unbound]
    rw [refs]
    exact .pure fun _ holds => holds

theorem addRoutes_gathers (routes : List Unstructured) :
    Program.Triple (⟨noFaults, rank⟩ : Client) (· = start)
      (routes.foldlM (addRoute gw targetNetwork) {})
      (Gathers rank gw targetNetwork start (boundRefs gw routes)) := by
  refine (Program.Triple.foldlM (fun done =>
    Gathers rank gw targetNetwork start (boundRefs gw done)) ?_ {}).consequence ?_ fun _ _ => id
  · exact fun front route rest _ backends =>
      addRoute_gathers rank gw targetNetwork start front backends route
  · rintro session rfl
    exact ⟨.nil, Std.Refl.refl _⟩

end Gathering

end GemEmulation.Operator
