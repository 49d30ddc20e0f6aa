import GemEmulation.Operator.FailedReads
import GemEmulation.Operator.Gateway.Rewrite
import GemEmulation.Operator.Gateway.Sources
import GemEmulation.Operator.Gateway.Traffic

/-!
# Gateways beside each other

A Reconcile writes the Gateway that it is for, its Service and its EndpointSlice,
the statuses of routes, and the configuration and the Pods of CoreDNS.  Gateways can
be reconciled in any order, and failing ones do not disturb the others.
-/

namespace GemEmulation.Operator

open Foundations Kube Net

/-- What a Reconcile of the Gateway under a key writes beside the statuses of routes. -/
inductive OwnTarget (key : ObjectKey) : Kind → ObjectKey → Prop where
  | gateway : OwnTarget key .gateway key
  | service : OwnTarget key .service key
  | endpointSlice : OwnTarget key .endpointSlice (sliceKey key)
  | configMap (name : String) : OwnTarget key .configMap (kubeSystem name)
  | pod (name : String) : OwnTarget key .pod (kubeSystem name)

def WritesOwn (key : ObjectKey) (call : Call) : Prop :=
  ∀ kind written, call.target = some (kind, written) → OwnTarget key kind written

def WritesNear (key : ObjectKey) (call : Call) : Prop :=
  ∀ kind written, call.target = some (kind, written) →
    OwnTarget key kind written ∨ kind = .gkeL4Route ∧ written.ns = key.ns

theorem WritesOwn.near {key : ObjectKey} {call : Call} (own : WritesOwn key call) :
    WritesNear key call := fun kind written target => .inl (own kind written target)

theorem writesOwn_of_read {key : ObjectKey} {call : Call} (read : call.target = none) :
    WritesOwn key call := fun _ _ target => by simp [read] at target

theorem writesOwn_of_target {key written : ObjectKey} {kind : Kind} {call : Call}
    (own : OwnTarget key kind written) (target : call.target = some (kind, written)) :
    WritesOwn key call := fun _ _ other => by
  cases target.symm.trans other
  exact own

section Parts

variable {key : ObjectKey} {gw : Unstructured}

theorem patchConfigMap_own (name field : String) :
    (patchConfigMap name field).Guarantees (Makes (WritesOwn key)) :=
  (patchConfigMap_calls name field).weaken fun _ _ makes => makes.weaken fun call patch => by
    rcases patch with rfl | rfl
    · exact writesOwn_of_read rfl
    · exact writesOwn_of_target (.configMap name) rfl

theorem restartCoreDNS_own : restartCoreDNS.Guarantees (Makes (WritesOwn key)) := by
  refine .bind_known (fun outcome => ∀ pods, outcome = .ok pods →
      ∀ pod ∈ pods, pod.key.ns = "kube-system")
    (list_makes (writesOwn_of_read rfl)) (fun client session pods listing pod listed => ?_)
    fun outcome inSystem => ?_
  · rw [list_arranged listing, (arranged_perm _ _).mem_iff, mem_listed] at listed
    have selected := listed.2
    simp only [selects, Bool.and_eq_true, decide_eq_true_eq] at selected
    exact selected.1
  · split
    · exact .pure _
    next pods =>
      refine .foldlM _ (fun pod listed _ => .bind (delete_makes ?_) fun _ => .pure _) _
      have system : pod.key = kubeSystem pod.key.name := by
        rw [kubeSystem, ← inSystem pods rfl pod listed]
      exact writesOwn_of_target (system ▸ .pod pod.key.name) rfl

theorem reconcileCoreDNS_own : reconcileCoreDNS.Guarantees (Makes (WritesOwn key)) := by
  refine .bind (.bind (patchConfigMap_own _ _) fun _ => .pure _) fun _ =>
    .bind (patchConfigMap_own _ _) fun patched => ?_
  split
  · exact restartCoreDNS_own
  · exact .pure _

theorem cleanupDynamicResources_own :
    (cleanupDynamicResources gw).Guarantees (Makes (WritesOwn gw.key)) :=
  .bind (delete_makes (writesOwn_of_target .service rfl)) fun _ =>
    .bind (delete_makes (writesOwn_of_target .endpointSlice rfl)) fun _ => .pure _

theorem writeServiceAndEndpointSlice_own (gwIP : String) (ports : List Int)
    (backendAddresses : List String) :
    (writeServiceAndEndpointSlice gw gwIP ports backendAddresses).Guarantees
      (Makes (WritesOwn gw.key)) := by
  have applies {kind : Kind} {written : ObjectKey} (own : OwnTarget gw.key kind written) :
      ∀ call, AppliesTo kind written call → WritesOwn gw.key call := by
    rintro call (rfl | rfl | rfl)
    · exact writesOwn_of_read rfl
    · exact writesOwn_of_target own rfl
    · exact writesOwn_of_target own rfl
  exact .bind ((applyService_makes _).weaken fun _ _ makes => makes.weaken (applies .service))
    fun _ => .bind ((applyEndpointSlice_makes _).weaken fun _ _ makes =>
      makes.weaken (applies .endpointSlice)) fun _ => .pure _

end Parts

/-- The part of a Reconcile that lists the routes and gathers their backends. -/
def gatherRoutes (gw : Unstructured) (targetNetwork : String) : Api (Option Backends) := do
  match ← list .gkeL4Route (some gw.key.ns) with
  | .error _ => pure none
  | .ok routes => some <$> routes.foldlM (addRoute gw targetNetwork) {}

theorem reconcileRoutesAndEndpoints_eq (gw : Unstructured) (gwIP targetNetwork : String) :
    reconcileRoutesAndEndpoints gw gwIP targetNetwork = (do
      match ← gatherRoutes gw targetNetwork with
      | none => pure 0
      | some backends =>
          if backends.haveBackendRefs then
            writeServiceAndEndpointSlice gw gwIP backends.ports backends.backendAddresses
          else cleanupDynamicResources gw
          pure backends.backendAddresses.length) := by
  unfold reconcileRoutesAndEndpoints gatherRoutes
  funext client session
  simp only [Program.bind_apply]
  generalize list .gkeL4Route (some gw.key.ns) [] client session = outcome
  obtain ⟨_ | routes, after⟩ := outcome <;> rfl

section Guarantees

variable {relation : Session → Session → Prop} [Std.Refl relation] [IsTrans Session relation]

/-- A Reconcile guarantees what its own writes and the gathering guarantee. -/
theorem reconcileGateway_guarantees {key : ObjectKey}
    (own : ∀ {Result : Type} {program : Api Result}, program.Guarantees (Makes (WritesOwn key)) →
      program.Guarantees relation)
    (gather : ∀ gw targetNetwork, gw.key = key →
      (gatherRoutes gw targetNetwork).Guarantees relation) :
    (reconcileGateway key).Guarantees relation := by
  have present {gw : Unstructured} (same : gw.key = key) :
      (reconcilePresent gw).Guarantees relation := by
    subst same
    unfold reconcilePresent
    dsimp only
    split
    · exact .pure _
    · refine .bind (own ((determineGatewayIP_makes _ _).weaken fun _ _ makes => makes.weaken ?_))
        fun gwIP => ?_
      · rintro call rfl
        exact writesOwn_of_read rfl
      · split
        · exact .pure _
        · refine .bind (.bind ?_ fun backendCount => .bind (own ?_) fun _ =>
            own reconcileCoreDNS_own) fun _ => .pure _
          · rw [reconcileRoutesAndEndpoints_eq]
            refine .bind (gather _ _ rfl) fun outcome => ?_
            split
            · exact .pure _
            · split
              · exact .bind (own (writeServiceAndEndpointSlice_own _ _ _)) fun _ => .pure _
              · exact .bind (own cleanupDynamicResources_own) fun _ => .pure _
          · exact updateUnstructuredStatusIfChanged_makes
              ⟨writesOwn_of_target .gateway rfl, writesOwn_of_target .gateway rfl⟩
  refine .bind_known (fun outcome => ∀ gw, outcome = .ok gw → gw.key = key)
    (own (get_makes (writesOwn_of_read rfl)))
    (fun _ _ gw found => Store.key_of_get? (get_ok found)) fun outcome filed => ?_
  split
  · split <;> exact .pure _
  next gw =>
    obtain rfl : gw.key = key := filed gw rfl
    split
    · unfold reconcileDeleted
      split
      · refine .bind (own cleanupDynamicResources_own) fun _ => .bind (own (update_makes .gateway
          (writesOwn_of_target .gateway rfl))) fun outcome => ?_
        split <;> exact .pure _
      · exact .pure _
    · refine .bind_known (fun outcome => ∀ gw', outcome = .ok gw' → gw'.key = gw.key)
        (own (ensureFinalizer_makes (writesOwn_of_target .gateway rfl)))
        (fun _ _ gw' ensured => (ensureFinalizer_ok ensured).1) fun outcome kept => ?_
      split
      · exact .pure _
      next gw' => exact .bind (present (kept gw' rfl)) fun _ => .pure _

end Guarantees

abbrev ReadsOnly (call : Call) : Prop := call.target = none

theorem addBackendRef_reads (gw : Unstructured) (targetNetwork : String) (backends : Backends)
    (ref : BackendRef) :
    (addBackendRef gw targetNetwork backends ref).Guarantees (Makes ReadsOnly) := by
  refine .bind (.bind (get_makes rfl) fun outcome => ?_) fun _ => .pure _
  split
  · exact .pure _
  · split
    · exact .pure _
    · refine .bind (list_makes rfl) fun outcome => ?_
      split <;> exact .pure _

theorem gatherRoutes_guarantees {relation : Session → Session → Prop} [Std.Refl relation]
    [IsTrans Session relation] {gw : Unstructured} {targetNetwork : String}
    {routes : List Unstructured}
    (reads : ∀ {Result : Type} {program : Api Result}, program.Guarantees (Makes ReadsOnly) →
      program.Guarantees relation)
    (status : ∀ route ∈ routes, (updateUnstructuredStatusIfChanged .gkeL4Route route none
      routeConds).Guarantees relation) :
    (routes.foldlM (addRoute gw targetNetwork) {}).Guarantees relation := by
  refine .foldlM routes (fun route listed backends => ?_) _
  unfold addRoute
  split
  · refine .bind (.foldlM _ (fun ref _ backends => reads (addBackendRef_reads _ _ _ _)) _)
      fun backends => .bind (status route listed) fun _ => .pure _
  · exact .pure _

theorem gatherRoutes_near (gw : Unstructured) (targetNetwork : String) :
    (gatherRoutes gw targetNetwork).Guarantees (Makes (WritesNear gw.key)) := by
  have reads {Result : Type} {program : Api Result} (makes : program.Guarantees (Makes ReadsOnly)) :
      program.Guarantees (Makes (WritesNear gw.key)) :=
    makes.weaken fun _ _ makes => makes.weaken fun _ read => (writesOwn_of_read read).near
  refine .bind_known (fun outcome => ∀ routes, outcome = .ok routes →
      ∀ route ∈ routes, route.key.ns = gw.key.ns)
    (reads (list_makes rfl)) (fun client session routes listing route listed => ?_)
    fun outcome inNamespace => ?_
  · rw [list_arranged listing, (arranged_perm _ _).mem_iff, mem_listed] at listed
    simpa [selects] using listed.2
  · split
    · exact .pure _
    next routes =>
      refine .bind (gatherRoutes_guarantees reads fun route listed => ?_) fun _ => .pure _
      have near (call : Call) (target : call.target = some (.gkeL4Route, route.key)) :
          WritesNear gw.key call := fun kind written other => by
        cases target.symm.trans other
        exact .inr ⟨rfl, inNamespace routes rfl route listed⟩
      exact updateUnstructuredStatusIfChanged_makes ⟨near _ rfl, near _ rfl⟩

theorem reconcileGateway_near (key : ObjectKey) :
    (reconcileGateway key).Guarantees (Makes (WritesNear key)) :=
  reconcileGateway_guarantees
    (fun makes => makes.weaken fun _ _ makes => makes.weaken fun _ own => own.near)
    fun gw targetNetwork same => same ▸ gatherRoutes_near gw targetNetwork

def routeView (route : Unstructured) : ObjectMeta × Option Value :=
  (route.metadata, lookupEntry "spec" route.body)

def RoutesLook (views : ObjectKey → Option (ObjectMeta × Option Value))
    (cluster : Cluster) : Prop :=
  ∀ key, ((cluster .gkeL4Route).get? key).map routeView = views key

/-- Routes that are being deleted are kept by a finalizer. -/
def LastingRoutes (views : ObjectKey → Option (ObjectMeta × Option Value)) : Prop :=
  ∀ key view, views key = some view → view.1.deletionTimestamp = none ∨ view.1.finalizers ≠ []

section RoutesLook

variable {views : ObjectKey → Option (ObjectMeta × Option Value)}

theorem routesLook_of_makes {allowed : Call → Prop} {Result : Type} {program : Api Result}
    (makes : program.Guarantees (Makes allowed))
    (spares : ∀ call, allowed call → call.Spares .gkeL4Route) :
    program.Guarantees (Program.Keeps fun session => RoutesLook views session.cluster) := by
  intro client session looks key
  rw [← looks key, (makes client session).unchanged fun call permitted => spares call permitted key]

theorem RoutesLook.put {cluster : Cluster} {route stored : Unstructured}
    (looks : RoutesLook views cluster) (found : (cluster .gkeL4Route).get? route.key = some stored)
    (same : routeView route = routeView stored) :
    RoutesLook views (cluster.put .gkeL4Route route) := by
  intro key
  rw [← looks key, Cluster.put_self, Store.get?_put]
  split
  next here => rw [here, found, Option.map_some, Option.map_some, same]
  next => rfl

theorem updateStatus_looks (route : Unstructured) :
    (updateStatus .gkeL4Route route).Guarantees
      (Program.Keeps fun session => RoutesLook views session.cluster) := by
  intro client session looks
  simp only [updateStatus, request]
  split
  next error outcome => exact looks
  next result cluster outcome =>
    split at outcome
    · cases outcome
    split at outcome
    · cases outcome
    next stored found =>
      cases outcome
      have filed : stored.key = route.key := Store.key_of_get? found
      have same : routeView { stored with
          body := withStatus stored.body (lookupEntry "status" route.body) } = routeView stored :=
        Prod.ext rfl (lookupEntry_withStatus _ _ (by decide))
      have here : (session.cluster .gkeL4Route).get? stored.key = some stored := filed ▸ found
      exact looks.put here same

theorem update_looks {route : Unstructured} (lasting : LastingRoutes views)
    (known : views route.key = some (routeView route)) (status : Value) :
    (update .gkeL4Route { route with body := setEntry "status" status route.body }).Guarantees
      (Program.Keeps fun session => RoutesLook views session.cluster) := by
  intro client session looks
  cases outcome : (update .gkeL4Route { route with body := setEntry "status" status route.body }
    client session).1 with
  | error error =>
      have same := request_failed outcome
      exact same ▸ looks
  | ok result =>
      obtain ⟨stored, found, cluster⟩ := update_stores outcome
      have view := looks route.key
      rw [found, known, Option.map_some] at view
      obtain ⟨metadata, spec⟩ : stored.metadata = route.metadata ∧
          lookupEntry "spec" stored.body = lookupEntry "spec" route.body :=
        Prod.ext_iff.mp (Option.some.inj view)
      -- The update brings the metadata and the spec that are stored.
      let sent : Unstructured := { route with body := setEntry "status" status route.body }
      have sameMetadata : (updated .gkeL4Route stored sent).metadata = stored.metadata := by
        have kept : (updated .gkeL4Route stored sent).metadata = { route.metadata with
            uid := stored.metadata.uid
            deletionTimestamp := stored.metadata.deletionTimestamp } := rfl
        rw [kept, ← metadata]
      have sameSpec : lookupEntry "spec" (updated .gkeL4Route stored sent).body =
          lookupEntry "spec" stored.body := by
        have kept : lookupEntry "spec" (updated .gkeL4Route stored sent).body =
            lookupEntry "spec" sent.body := lookupEntry_withStatus _ _ (by decide)
        rw [kept, spec]
        exact (lookupEntry_setEntry _ _ _ _).trans (if_neg (by decide))
      have stays : ¬ ((updated .gkeL4Route stored sent).metadata.deletionTimestamp.isSome = true ∧
          (updated .gkeL4Route stored sent).metadata.finalizers = []) := by
        rw [sameMetadata, metadata]
        rintro ⟨deleted, bare⟩
        rcases lasting route.key _ known with alive | held
        · rw [show route.metadata.deletionTimestamp = none from alive] at deleted
          cases deleted
        · exact held bare
      have cluster' : (update .gkeL4Route sent client session).2.cluster =
          session.cluster.put .gkeL4Route (updated .gkeL4Route stored sent) := by
        rw [cluster, settle, if_neg stays]
      exact cluster' ▸ looks.put found (Prod.ext sameMetadata sameSpec)

theorem routeStatus_looks {route : Unstructured} (lasting : LastingRoutes views)
    (known : views route.key = some (routeView route)) :
    (updateUnstructuredStatusIfChanged .gkeL4Route route none routeConds).Guarantees
      (Program.Keeps fun session => RoutesLook views session.cluster) := by
  refine .bind (fun _ _ looks => looks) fun now => ?_
  dsimp only
  split
  · exact .pure _
  · refine .bind (updateStatus_looks _) fun outcome => ?_
    split
    · exact .pure _
    · refine .bind (update_looks lasting known _) fun outcome => ?_
      split <;> exact .pure _

theorem gatherRoutes_looks (gw : Unstructured) (targetNetwork : String)
    (lasting : LastingRoutes views) :
    (gatherRoutes gw targetNetwork).Guarantees
      (Program.Keeps fun session => RoutesLook views session.cluster) := by
  have reads {Result : Type} {program : Api Result} (makes : program.Guarantees (Makes ReadsOnly)) :
      program.Guarantees (Program.Keeps fun session => RoutesLook views session.cluster) :=
    routesLook_of_makes makes fun call read key target => by simp [read] at target
  refine .bind_keeps (fun outcome => ∀ routes, outcome = .ok routes →
      ∀ route ∈ routes, views route.key = some (routeView route))
    (reads (list_makes rfl)) (fun client session looks routes listing route listed => ?_)
    fun outcome known => ?_
  · rw [list_arranged listing, (arranged_perm _ _).mem_iff, mem_listed] at listed
    rw [← looks route.key, listed.1, Option.map_some]
  · split
    · exact .pure _
    next routes =>
      exact .bind (gatherRoutes_guarantees reads fun route listed =>
        routeStatus_looks lasting (known routes rfl route listed)) fun _ => .pure _

theorem reconcileGateway_looks (key : ObjectKey) (lasting : LastingRoutes views) :
    (reconcileGateway key).Guarantees
      (Program.Keeps fun session => RoutesLook views session.cluster) := by
  refine reconcileGateway_guarantees (fun makes => routesLook_of_makes makes fun call own written
    target => ?_) fun gw targetNetwork _ => gatherRoutes_looks gw targetNetwork lasting
  cases own _ _ target

end RoutesLook

/-- What a Gateway is computed from, and what it is computed to, is left alone. -/
structure Undisturbed (key : ObjectKey) (cluster other : Cluster) : Prop where
  gateway : (cluster .gateway).get? key = (other .gateway).get? key
  objects : KeepsDynamicObjects key cluster other
  cidrs : ∀ cidr, (cluster .gkeGatewayCIDR).get? cidr = (other .gkeGatewayCIDR).get? cidr
  selectors : ∀ epSel,
    (cluster .gkeEndpointSelector).get? epSel = (other .gkeEndpointSelector).get? epSel
  pods : ∀ pod, pod.ns ≠ "kube-system" → (cluster .pod).get? pod = (other .pod).get? pod
  routes : ∀ route, ((cluster .gkeL4Route).get? route).map routeView =
    ((other .gkeL4Route).get? route).map routeView

theorem Undisturbed.refl (key : ObjectKey) (cluster : Cluster) : Undisturbed key cluster cluster :=
  ⟨rfl, ⟨rfl, rfl⟩, fun _ => rfl, fun _ => rfl, fun _ _ => rfl, fun _ => rfl⟩

theorem Undisturbed.trans {key : ObjectKey} {first second third : Cluster}
    (before : Undisturbed key first second) (after : Undisturbed key second third) :
    Undisturbed key first third where
  gateway := before.gateway.trans after.gateway
  objects := ⟨before.objects.1.trans after.objects.1, before.objects.2.trans after.objects.2⟩
  cidrs cidr := (before.cidrs cidr).trans (after.cidrs cidr)
  selectors epSel := (before.selectors epSel).trans (after.selectors epSel)
  pods pod outside := (before.pods pod outside).trans (after.pods pod outside)
  routes route := (before.routes route).trans (after.routes route)

/-- The routes of a cluster that are being deleted are kept by a finalizer. -/
def RoutesLast (cluster : Cluster) : Prop :=
  LastingRoutes fun key => ((cluster .gkeL4Route).get? key).map routeView

/-- A Reconcile of another Gateway does not disturb a Gateway, whatever fails. -/
theorem reconcileGateway_undisturbed {key other : ObjectKey} {client : Client} {session : Session}
    (different : other ≠ key) (lasting : RoutesLast session.cluster) :
    Undisturbed key session.cluster (reconcileGateway other client session).2.cluster := by
  have makes := reconcileGateway_near other client session
  have untouched {kind : Kind} {written : ObjectKey} (apart : ¬ OwnTarget other kind written)
      (route : kind ≠ .gkeL4Route) : (session.cluster kind).get? written =
        ((reconcileGateway other client session).2.cluster kind).get? written :=
    (makes.unchanged fun call near target =>
      (near kind written target).elim apart fun routes => route routes.1).symm
  refine ⟨untouched ?_ (by decide), ⟨untouched ?_ (by decide), untouched ?_ (by decide)⟩,
    fun _ => untouched nofun (by decide), fun _ => untouched nofun (by decide),
    fun pod outside => untouched ?_ (by decide), fun route => ?_⟩
  · rintro ⟨⟩
    exact different rfl
  · rintro ⟨⟩
    exact different rfl
  · have slice : ∀ written, OwnTarget other .endpointSlice written → written = sliceKey other := by
      rintro _ ⟨⟩
      rfl
    exact fun own => different (sliceKey_inj (slice _ own).symm)
  · rintro ⟨⟩
    exact outside rfl
  · exact (reconcileGateway_looks other lasting client session (fun _ => rfl) route).symm

theorem contribution_routeView {gw route other : Unstructured}
    (same : routeView route = routeView other) :
    contribution (some gw.key.ns) [] (fun route =>
        if routeReferencesGateway route gw then backendRefs route else []) route =
      contribution (some gw.key.ns) [] (fun route =>
        if routeReferencesGateway route gw then backendRefs route else []) other := by
  obtain ⟨metadata, spec⟩ : route.metadata = other.metadata ∧
    lookupEntry "spec" route.body = lookupEntry "spec" other.body := Prod.ext_iff.mp same
  have refs : backendRefs route = backendRefs other := by
    simp only [backendRefs, nestedSlice, nestedField, Value.nested, spec]
  have parents : routeReferencesGateway route gw = routeReferencesGateway other gw := by
    simp only [routeReferencesGateway, nestedSlice, nestedField, Value.nested, spec]
  have selected : selects (some gw.key.ns) [] route = selects (some gw.key.ns) [] other := by
    simp [selects, Object.key, metadata]
  rw [contribution, contribution, selected]
  simp only [refs, parents]

/-- Nothing is computed differently for a Gateway outside `kube-system`, where CoreDNS
runs. -/
theorem Undisturbed.computesAlike {cluster other : Cluster} {gw : Unstructured}
    (undisturbed : Undisturbed gw.key cluster other) (outside : gw.key.ns ≠ "kube-system")
    (targetNetwork : String) : ComputesAlike gw targetNetwork cluster other where
  vip := gatewayVIP_alike fun cidr => by rw [undisturbed.cidrs]
  refs := refsOf_congr fun key => by
    have same := undisturbed.routes key
    generalize (cluster .gkeL4Route).get? key = first at same ⊢
    generalize (other .gkeL4Route).get? key = second at same ⊢
    cases first with
    | none =>
        cases second with
        | none => rfl
        | some other => cases same
    | some route =>
        cases second with
        | none => cases same
        | some other => exact contribution_routeView (Option.some.inj same)
  addresses epSelectorName := by
    apply selectorAddresses_alike (undisturbed.selectors _)
    intro labels key
    by_cases system : key.ns = "kube-system"
    · -- What lies in another namespace is not selected.
      have nothing (store : Store PodBody) : ((store.get? key).map (contribution (some gw.key.ns)
          labels (secondaryAddresses targetNetwork))).getD [] = [] := by
        cases found : store.get? key with
        | none => rfl
        | some pod =>
            have filed := Store.key_of_get? found
            rw [Option.map_some, Option.getD_some, contribution, if_neg]
            simp [selects, filed, system, outside.symm]
      rw [nothing, nothing]
    · rw [undisturbed.pods key system]

/-- A Reconcile of a Gateway, with what its client meets and when. -/
structure GatewayRun where
  key : ObjectKey
  client : Client
  now : String

def GatewayRun.after (cluster : Cluster) (run : GatewayRun) : Cluster :=
  (reconcileGateway run.key run.client { cluster, now := run.now }).2.cluster

def reconcileEach (cluster : Cluster) (runs : List GatewayRun) : Cluster :=
  runs.foldl GatewayRun.after cluster

theorem RoutesLast.after {cluster : Cluster} (lasting : RoutesLast cluster) (run : GatewayRun) :
    RoutesLast (run.after cluster) := by
  have looks : RoutesLook (fun key => ((cluster .gkeL4Route).get? key).map routeView)
      (run.after cluster) :=
    reconcileGateway_looks run.key lasting run.client { cluster, now := run.now } fun _ => rfl
  intro key view found
  exact lasting key view ((looks key).symm.trans found)

theorem reconcileEach_undisturbed {key : ObjectKey} {cluster : Cluster} {runs : List GatewayRun}
    (others : ∀ run ∈ runs, run.key ≠ key) (lasting : RoutesLast cluster) :
    Undisturbed key cluster (reconcileEach cluster runs) ∧
      RoutesLast (reconcileEach cluster runs) := by
  induction runs generalizing cluster with
  | nil => exact ⟨.refl key cluster, lasting⟩
  | cons run rest inductionHypothesis =>
      let session : Session := { cluster, now := run.now }
      have first : Undisturbed key session.cluster
          (reconcileGateway run.key run.client session).2.cluster :=
        reconcileGateway_undisturbed (others run List.mem_cons_self) lasting
      obtain ⟨undisturbed, last⟩ := inductionHypothesis
        (fun run listed => others run (List.mem_cons_of_mem _ listed)) (lasting.after run)
      exact ⟨first.trans undisturbed, last⟩

/-- Gateways are reconciled in any order, and whatever fails for the others: one that is
reconciled once, without failing calls, gets the same dynamic objects as by itself. -/
theorem reconcileEach_asAlone {cluster : Cluster} {runs : List GatewayRun} {key : ObjectKey}
    {now : String} (once : (runs.map GatewayRun.key).count key = 1)
    (listed : ⟨key, noFaults, now⟩ ∈ runs) (lasting : RoutesLast cluster)
    (loose : LooseObjects key cluster) (outside : key.ns ≠ "kube-system") (alone : String) :
    SameDynamicObjects key (afterReconcile key alone cluster) (reconcileEach cluster runs) := by
  obtain ⟨front, back, rfl⟩ := List.append_of_mem listed
  rw [List.map_append, List.map_cons, List.count_append, List.count_cons_self] at once
  have others (part : List GatewayRun) (none : (part.map GatewayRun.key).count key = 0) :
      ∀ run ∈ part, run.key ≠ key := by
    intro run member same
    exact List.count_eq_zero.mp none (List.mem_map.mpr ⟨run, member, same⟩)
  have before := others front (by omega)
  have behind := others back (by omega)
  obtain ⟨undisturbed, last⟩ := reconcileEach_undisturbed before lasting
  have reconciled : SameDynamicObjects key (afterReconcile key alone cluster)
      (afterReconcile key now (reconcileEach cluster front)) := by
    refine sameDynamicObjects_alike undisturbed.gateway undisturbed.objects loose
      fun gw found network => ?_
    obtain rfl := Store.key_of_get? found
    exact undisturbed.computesAlike outside _
  have kept := (reconcileEach_undisturbed behind
    (last.after ⟨key, noFaults, now⟩)).1.objects
  rw [reconcileEach, List.foldl_append, List.foldl_cons]
  exact ⟨reconciled.1.trans (congrArg (Option.map content) kept.1),
    reconciled.2.trans (congrArg (Option.map content) kept.2)⟩

def otherGateway : Unstructured where
  metadata := { key := ⟨"default", "other"⟩, annotations := .singleton annotationNetwork "n" }
  body := [("spec", .map [("addresses", .slice [.map [("value", .string "10.0.0.6")]])])]

def twoGateways : Cluster := (twoAppCluster 8080 8080).put .gateway otherGateway

/-- The other Gateway is reconciled twice, first while the Lists of Pods fail. -/
def twoGatewayRuns : List GatewayRun :=
  [⟨otherGateway.key, podListsFail, ""⟩, ⟨gatewayKey, noFaults, ""⟩,
    ⟨otherGateway.key, noFaults, ""⟩]

theorem routesLast_twoGateways : RoutesLast twoGateways := by
  have last : ∀ route ∈ (twoGateways .gkeL4Route).list,
      route.metadata.deletionTimestamp = none := by
    decide
  intro key view found
  obtain ⟨route, stored, rfl⟩ := Option.map_eq_some_iff.mp found
  exact .inl (last route (Store.mem_list.mpr (Store.key_of_get? stored ▸ stored)))

/-- The Gateway with the route gets its Service and both Pods in its EndpointSlice. -/
theorem reconcileEach_asAlone_between :
    SameDynamicObjects gatewayKey (afterReconcile gatewayKey "" twoGateways)
      (reconcileEach twoGateways twoGatewayRuns) ∧
    (((reconcileEach twoGateways twoGatewayRuns) .service).get? gatewayKey).isSome ∧
    (((reconcileEach twoGateways twoGatewayRuns) .endpointSlice).get? (sliceKey gatewayKey)).any
      (fun slice => decide (Offers slice "10.0.0.10" 8080 ∧ Offers slice "10.0.0.20" 8080)) := by
  have loose : LooseObjects gatewayKey twoGateways := looseObjects_of_fresh ⟨rfl, rfl⟩
  refine ⟨?_, by decide +kernel, by decide +kernel⟩
  exact reconcileEach_asAlone (by decide) (List.mem_cons_of_mem _ List.mem_cons_self)
    routesLast_twoGateways loose (by decide) ""

end GemEmulation.Operator
