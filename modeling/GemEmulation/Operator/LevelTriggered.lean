import GemEmulation.Operator.System

/-!
# Independence from the past

After an error-free Reconcile the dynamic objects of a managed Gateway depend on
the present inputs only.  Those of a Gateway that lost its Network or its VIP
stay as some earlier state left them.
-/

namespace GemEmulation.Operator

open Foundations Kube

structure SameInputs (key : ObjectKey) (cluster other : Cluster) : Prop where
  gateway : (cluster .gateway).get? key = (other .gateway).get? key
  sources : SameSources cluster other

/-- The dynamic objects under a key are the same: both missing, or with the same
content. -/
def SameDynamicObjects (key : ObjectKey) (cluster other : Cluster) : Prop :=
  ((cluster .service).get? key).map content = ((other .service).get? key).map content ∧
    ((cluster .endpointSlice).get? (sliceKey key)).map content =
      ((other .endpointSlice).get? (sliceKey key)).map content

def afterReconcile (key : ObjectKey) (now : String) (cluster : Cluster) : Cluster :=
  (reconcileGateway key noFaults { cluster, now }).2.cluster

/-- The Gateway under a key is there and managed. -/
def ManagedAt (key : ObjectKey) (cluster : Cluster) : Prop :=
  ∃ gw, (cluster .gateway).get? key = some gw ∧ Managed cluster gw

theorem Managed.congr {cluster other : Cluster} {gw : Unstructured}
    (sources : SameSources cluster other) (managed : Managed cluster gw) : Managed other gw := by
  unfold Managed at managed ⊢
  split at managed
  next deleted => rwa [if_pos deleted]
  next present =>
    rw [if_neg present]
    refine ⟨managed.1, ?_⟩
    rw [← gatewayVIP_congr sources rfl]
    exact managed.2

theorem managedObjects_congr {cluster other : Cluster} (sources : SameSources cluster other)
    (gw : Unstructured) : managedObjects cluster gw = managedObjects other gw := by
  rw [managedObjects, managedObjects, desiredObjects_congr sources rfl rfl]

theorem sameSources_symm {cluster other : Cluster} (sources : SameSources cluster other) :
    SameSources other cluster where
  cidrs key := (sources.cidrs key).symm
  routes key := (sources.routes key).symm
  selectors key := (sources.selectors key).symm
  pods key := (sources.pods key).symm

/-- Both Reconciles bring the dynamic objects to the same desired state. -/
theorem sameDynamicObjects_of_managed {key : ObjectKey} {cluster other : Cluster}
    (loose : LooseObjects key cluster) (loose' : LooseObjects key other)
    (inputs : SameInputs key cluster other) (managed : ManagedAt key cluster) (now now' : String) :
    SameDynamicObjects key (afterReconcile key now cluster) (afterReconcile key now' other) := by
  obtain ⟨gw, found, manages⟩ := managed
  have first : Shows key (managedObjects cluster gw) (afterReconcile key now cluster) :=
    reconcileGateway_shows found manages loose
  have second : Shows key (managedObjects other gw) (afterReconcile key now' other) :=
    reconcileGateway_shows (inputs.gateway ▸ found) (manages.congr inputs.sources) loose'
  rw [← managedObjects_congr inputs.sources] at second
  exact ⟨first.1.trans second.1.symm, first.2.trans second.2.symm⟩

theorem afterReconcile_service {key : ObjectKey} {cluster : Cluster}
    (unmanaged : ¬ ManagedAt key cluster) (now : String) :
    ((afterReconcile key now cluster) .service).get? key = (cluster .service).get? key :=
  (dynamic_unchanged (reconcileGateway_idle fun gw found managed =>
    unmanaged ⟨gw, found, managed⟩) key).1

theorem sameInputs_put_service (key : ObjectKey) (cluster : Cluster)
    (svc : Object (Kind.Body .service)) : SameInputs key cluster (cluster.put .service svc) := by
  have others : ∀ kind, kind ≠ .service → cluster.put .service svc kind = cluster kind :=
    fun kind different => cluster.put_of_ne svc different
  constructor
  · rw [others .gateway (by decide)]
  · constructor
    · rw [others .gkeGatewayCIDR (by decide)]
      exact fun _ => rfl
    · rw [others .gkeL4Route (by decide)]
      exact fun _ => rfl
    · rw [others .gkeEndpointSelector (by decide)]
      exact fun _ => rfl
    · rw [others .pod (by decide)]
      exact fun _ => rfl

def gatewayKey : ObjectKey := ⟨"default", "gw"⟩

def staticGateway (annotations : Dict String String) : Unstructured where
  metadata := { key := gatewayKey, annotations, finalizers := [gatewayFinalizer] }
  body := [("spec", .map [("addresses", .slice [.map [("value", .string "10.0.0.5")]])])]

theorem get?_put_staticGateway (cluster : Cluster) (annotations : Dict String String) :
    ((cluster.put .gateway (staticGateway annotations)) .gateway).get? gatewayKey =
      some (staticGateway annotations) := by
  rw [Cluster.put_self]
  exact Store.get?_put_self _ (staticGateway annotations)

def plainService (key : ObjectKey) (clusterIP : String) : Service where
  metadata := { key }
  body := { clusterIP, externalIPs := [], ports := [] }

/-- The outcome for a reached state is the same as for every other history with the
same inputs exactly when the Gateway is managed. -/
theorem levelTriggered_iff {key : ObjectKey} {start : OperatorState}
    (fresh : Fresh key start.cluster)
    {events : List OperatorEvent} {state : OperatorState}
    (run : Run operatorStep (LeavesLoose key) start events state) :
    (∀ start' events' state', Fresh key start'.cluster →
      Run operatorStep (LeavesLoose key) start' events' state' →
        SameInputs key state.cluster state'.cluster → ∀ now now',
          SameDynamicObjects key (afterReconcile key now state.cluster)
            (afterReconcile key now' state'.cluster)) ↔
      ManagedAt key state.cluster := by
  constructor
  · intro independent
    by_contra unmanaged
    -- Someone else stores a Service, and the Reconcile leaves it there.
    have stays : ∀ clusterIP, ((state.cluster .service).get? key).map content =
        some (content (plainService key clusterIP)) := by
      intro clusterIP
      have inputs := sameInputs_put_service key state.cluster (plainService key clusterIP)
      have permitted : LeavesLoose key state (.edit .service (plainService key clusterIP)) :=
        fun _ => ⟨rfl, rfl⟩
      have edited := run.snoc permitted rfl
      have same := (independent start _ _ fresh edited inputs "" "").1
      have unmanaged' : ¬ ManagedAt key (state.cluster.put .service (plainService key clusterIP)) :=
        fun ⟨gw, found, managed⟩ => unmanaged
          ⟨gw, inputs.gateway ▸ found, managed.congr (sameSources_symm inputs.sources)⟩
      have stored : ((state.cluster.put .service (plainService key clusterIP)) .service).get? key =
          some (plainService key clusterIP) := by
        rw [Cluster.put_self]
        exact Store.get?_put_self _ (plainService key clusterIP)
      rw [afterReconcile_service unmanaged] at same
      rw [same]
      exact congrArg (Option.map content) ((afterReconcile_service unmanaged' "").trans stored)
    have equal := (stays "a").symm.trans (stays "b")
    simp [content, plainService] at equal
  · intro managed start' events' state' fresh' run' inputs now now'
    exact sameDynamicObjects_of_managed (looseObjects_of_run fresh run)
      (looseObjects_of_run fresh' run') inputs managed now now'

theorem levelTriggered_staticGateway :
    ∃ state,
      Run operatorStep (LeavesLoose gatewayKey) (.initial ∅)
        [.edit .gateway (staticGateway (.singleton annotationNetwork "n"))] state ∧
      ∀ start' events' state', Fresh gatewayKey start'.cluster →
        Run operatorStep (LeavesLoose gatewayKey) start' events' state' →
          SameInputs gatewayKey state.cluster state'.cluster → ∀ now now',
            SameDynamicObjects gatewayKey (afterReconcile gatewayKey now state.cluster)
              (afterReconcile gatewayKey now' state'.cluster) := by
  have permitted : LeavesLoose gatewayKey (.initial ∅)
      (.edit .gateway (staticGateway (.singleton annotationNetwork "n"))) := trivial
  have run : Run operatorStep (LeavesLoose gatewayKey) (.initial ∅) _ _ := .single permitted rfl
  refine ⟨_, run, (levelTriggered_iff ⟨rfl, rfl⟩ run).mpr ?_⟩
  exact ⟨_, get?_put_staticGateway ∅ _, by decide, by decide⟩

def boundRoute : Unstructured where
  metadata := { key := ⟨"default", "r"⟩ }
  body := [("spec", .map [
    ("parentRefs", .slice [.map [("name", .string "gw")]]),
    ("rules", .slice [.map [("backendRefs", .slice [.map [("name", .string "s")]])]])])]

def programming : List OperatorEvent :=
  [.edit .gateway (staticGateway (.singleton annotationNetwork "n")),
    .edit .gkeL4Route boundRoute, .reconcileGateway gatewayKey "" noFaults,
    .discard .gkeL4Route boundRoute.key]

def sourcesEmpty (cluster : Cluster) : Bool :=
  (cluster .gkeGatewayCIDR).list.isEmpty && (cluster .gkeL4Route).list.isEmpty &&
    (cluster .gkeEndpointSelector).list.isEmpty && (cluster .pod).list.isEmpty

theorem sameSources_of_empty {cluster other : Cluster} (empty : sourcesEmpty cluster = true)
    (empty' : sourcesEmpty other = true) : SameSources cluster other := by
  simp only [sourcesEmpty, Bool.and_eq_true, List.isEmpty_iff] at empty empty'
  obtain ⟨⟨⟨cidrs, routes⟩, selectors⟩, pods⟩ := empty
  obtain ⟨⟨⟨cidrs', routes'⟩, selectors'⟩, pods'⟩ := empty'
  constructor <;> intro key
  · rw [Store.get?_of_list_nil cidrs, Store.get?_of_list_nil cidrs']
  · rw [Store.get?_of_list_nil routes, Store.get?_of_list_nil routes']
  · rw [Store.get?_of_list_nil selectors, Store.get?_of_list_nil selectors']
  · rw [Store.get?_of_list_nil pods, Store.get?_of_list_nil pods']

theorem sourcesEmpty_put_gateway (cluster : Cluster) (gw : Object (Kind.Body .gateway)) :
    sourcesEmpty (cluster.put .gateway gw) = sourcesEmpty cluster := by
  have others : ∀ kind, kind ≠ .gateway → cluster.put .gateway gw kind = cluster kind :=
    fun kind different => cluster.put_of_ne gw different
  simp only [sourcesEmpty, others .gkeGatewayCIDR (by decide), others .gkeL4Route (by decide),
    others .gkeEndpointSelector (by decide), others .pod (by decide)]

theorem service_put_gateway (cluster : Cluster) (gw : Object (Kind.Body .gateway)) :
    cluster.put .gateway gw .service = cluster .service :=
  cluster.put_of_ne gw (by decide)

/-- The Gateway loses its Network after it was programmed, or never had one: the
Service of the first history outlives the next Reconcile. -/
theorem staleService_kept :
    ∃ state other,
      Run operatorStep Anything (.initial ∅)
        (programming ++ [.edit .gateway (staticGateway ∅)]) state ∧
      Run operatorStep Anything (.initial ∅) [.edit .gateway (staticGateway ∅)] other ∧
      SameInputs gatewayKey state.cluster other.cluster ∧
      ¬ SameDynamicObjects gatewayKey (afterReconcile gatewayKey "" state.cluster)
        (afterReconcile gatewayKey "" other.cluster) := by
  have programmed : (execute operatorStep (.initial ∅) programming).any (fun state =>
      ((state.cluster .service).get? gatewayKey).isSome && sourcesEmpty state.cluster) = true := by
    decide
  obtain ⟨middle, executed, check⟩ := (Option.any_eq_true _ _).mp programmed
  obtain ⟨kept, empty⟩ := (Bool.and_eq_true _ _).mp check
  have unmanaged : ∀ cluster : Cluster,
      ¬ ManagedAt gatewayKey (cluster.put .gateway (staticGateway ∅)) := by
    rintro cluster ⟨gw, found, managed⟩
    rw [get?_put_staticGateway] at found
    cases found
    exact managed.1 rfl
  refine ⟨_, _, (run_of_execute executed).snoc trivial rfl, .single trivial rfl, ?_, ?_⟩
  · refine ⟨(get?_put_staticGateway _ _).trans (get?_put_staticGateway _ _).symm,
      sameSources_of_empty ?_ ?_⟩
    · exact (sourcesEmpty_put_gateway _ _).trans empty
    · exact sourcesEmpty_put_gateway ∅ _
  · intro same
    obtain ⟨svc, found⟩ := Option.isSome_iff_exists.mp kept
    have left := afterReconcile_service (unmanaged middle.cluster) ""
    have right := afterReconcile_service (unmanaged ∅) ""
    rw [service_put_gateway] at left right
    have services := (congrArg (Option.map content) left).symm.trans
      (same.1.trans (congrArg (Option.map content) right))
    rw [found] at services
    cases services

end GemEmulation.Operator
