import GemEmulation.Operator.Deletion
import GemEmulation.Operator.System

/-!
# Namespace isolation

A Service keeps the pool that the operator once gave it.  So a Network is
isolated from the namespaces outside its allowlist as long as no edit denies a
Service that already carries the Network's pool.
-/

namespace GemEmulation.Operator

open Foundations Kube

/-- The stored Service carries the pool of the Network that it asks for. -/
def CarriesPool (cluster : Cluster) (svc : Service) (networkName : String) : Prop :=
  (cluster .service).get? svc.key = some svc ∧ Requests svc networkName ∧
    svc.metadata.annotations.get? annotationAddressPool = some (poolName networkName)

/-- No Service outside a Network's allowlist carries the Network's pool, unless
someone other than the operator has written it. -/
def Isolated (state : OperatorState) : Prop :=
  ∀ networkName netObj svc, (state.cluster .network).get? ⟨"", networkName⟩ = some netObj →
    CarriesPool state.cluster svc networkName →
      namespaceAllowedForNetwork netObj svc.key.ns = false → state.foreignPool svc.key = true

/-- No edit denies a Service with a pool that the operator has written. -/
def Unrevoking (state : OperatorState) : OperatorEvent → Prop
  | .edit .network netObj => ∀ svc, CarriesPool state.cluster svc netObj.key.name →
      state.foreignPool svc.key = false → namespaceAllowedForNetwork netObj svc.key.ns = true
  | .edit .service svc => ∀ networkName netObj, Requests svc networkName →
      (state.cluster .network).get? ⟨"", networkName⟩ = some netObj →
        svc.metadata.annotations.get? annotationAddressPool = some (poolName networkName) →
          poolOf state.cluster svc.key = some (poolName networkName) →
            state.foreignPool svc.key = false → namespaceAllowedForNetwork netObj svc.key.ns = true
  | _ => True

theorem poolOf_of_stored {cluster : Cluster} {svc : Service}
    (stored : (cluster .service).get? svc.key = some svc) :
    poolOf cluster svc.key = svc.metadata.annotations.get? annotationAddressPool := by
  rw [poolOf, stored, Option.bind_some]

theorem foreignPool_advance {state : OperatorState} {cluster : Cluster} {key : ObjectKey}
    (byOperator : Bool) (same : poolOf cluster key = poolOf state.cluster key) :
    (state.advance byOperator cluster).foreignPool key = state.foreignPool key := if_pos same

/-- A change that leaves a Service and what its Network allows keeps it isolated. -/
theorem foreignPool_of_unchanged {state : OperatorState} (isolated : Isolated state)
    {cluster : Cluster} (byOperator : Bool) {networkName : String} {netObj before : Unstructured}
    {svc : Service} (found : (state.cluster .network).get? ⟨"", networkName⟩ = some before)
    (annotations : before.metadata.annotations = netObj.metadata.annotations)
    (carries : CarriesPool cluster svc networkName)
    (same : (state.cluster .service).get? svc.key = some svc)
    (denied : namespaceAllowedForNetwork netObj svc.key.ns = false) :
    (state.advance byOperator cluster).foreignPool svc.key = true := by
  rw [foreignPool_advance byOperator
    ((poolOf_of_stored carries.1).trans (poolOf_of_stored same).symm)]
  apply isolated networkName before svc found ⟨same, carries.2⟩
  rwa [namespaceAllowedForNetwork, annotations]

theorem isolated_edit {state : OperatorState} (isolated : Isolated state) {kind : Kind}
    {object : Object kind.Body} (unrevoking : Unrevoking state (.edit kind object)) :
    Isolated (state.advance false (state.cluster.put kind object)) := by
  intro networkName netObj svc found carries denied
  have found' : (state.cluster.put kind object .network).get? ⟨"", networkName⟩ =
      some netObj := found
  have stored : (state.cluster.put kind object .service).get? svc.key = some svc := carries.1
  by_cases editsNetwork : (kind, object.key) = (.network, ⟨"", networkName⟩)
  · obtain ⟨rfl, key⟩ := Prod.mk.inj editsNetwork
    rw [Cluster.put_self, Store.get?_put, if_pos key.symm] at found'
    cases found'
    have same : (state.cluster .service).get? svc.key = some svc := by
      rwa [state.cluster.get?_put_of_ne netObj (by simp)] at stored
    rw [foreignPool_advance false ((poolOf_of_stored stored).trans (poolOf_of_stored same).symm)]
    have granted : CarriesPool state.cluster svc netObj.key.name := by
      rw [key]
      exact ⟨same, carries.2⟩
    by_contra own
    rw [unrevoking svc granted (Bool.eq_false_of_not_eq_true own)] at denied
    cases denied
  · rw [state.cluster.get?_put_of_ne object editsNetwork] at found'
    by_cases editsService : (kind, object.key) = (.service, svc.key)
    · obtain ⟨rfl, key⟩ := Prod.mk.inj editsService
      rw [Cluster.put_self, Store.get?_put, if_pos key.symm] at stored
      cases stored
      have pool : poolOf (state.cluster.put .service svc) svc.key = some (poolName networkName) :=
        (poolOf_of_stored carries.1).trans carries.2.2
      have advanced : (state.advance false (state.cluster.put .service svc)).foreignPool
          svc.key = if poolOf (state.cluster.put .service svc) svc.key =
            poolOf state.cluster svc.key then state.foreignPool svc.key
          else !false && (poolOf (state.cluster.put .service svc) svc.key).isSome := rfl
      rw [advanced, pool]
      split
      next kept =>
        by_contra own
        rw [unrevoking networkName netObj carries.2.1 found' carries.2.2 kept.symm
          (Bool.eq_false_of_not_eq_true own)] at denied
        cases denied
      next => rfl
    · rw [state.cluster.get?_put_of_ne object editsService] at stored
      exact foreignPool_of_unchanged isolated false found' rfl carries stored denied

theorem isolated_discard {state : OperatorState} (isolated : Isolated state) (kind : Kind)
    (key : ObjectKey) : Isolated (state.advance false (state.cluster.remove kind key)) := by
  intro networkName netObj svc found carries denied
  have found' : (state.cluster.remove kind key .network).get? ⟨"", networkName⟩ =
      some netObj := found
  have stored : (state.cluster.remove kind key .service).get? svc.key = some svc := carries.1
  have removedOther : ∀ {other : Kind} {otherKey : ObjectKey} {result : Object other.Body},
      (state.cluster.remove kind key other).get? otherKey = some result →
        (state.cluster other).get? otherKey = some result := by
    intro other otherKey result present
    by_cases same : (kind, key) = (other, otherKey)
    · obtain ⟨rfl, rfl⟩ := Prod.mk.inj same
      simp at present
    · rwa [state.cluster.get?_remove_of_ne same] at present
  exact foreignPool_of_unchanged isolated false (removedOther found') rfl carries
    (removedOther stored) denied

/-- Metadata that a Network's Reconcile may leave a Service with: its annotations, or
the pool of the Network if that is allowed. -/
def KeptOrBound (before : Cluster) (name : String) (key : ObjectKey) (metadata : ObjectMeta) :
    Prop :=
  Inherits before .service key metadata ∨
    ∃ netObj, (before .network).get? ⟨"", name⟩ = some netObj ∧
      namespaceAllowedForNetwork netObj key.ns = true ∧
        metadata.annotations.get? annotationNetwork = some name

theorem reconcileNetwork_keptOrBound (texts : LibraryTexts) (name : String) (faults : Faults)
    (session : Session) (key : ObjectKey) :
    StoredWith (KeptOrBound session.cluster name key) .service key
      (reconcileNetwork texts name faults session).2.cluster := by
  refine reconcileNetwork_service (fun netObj found svc present requests allowed stored _ => ?_)
    fun stored found => .inl ⟨stored, found, rfl⟩
  have filed : netObj.key = ⟨"", name⟩ := Store.key_of_get? found
  rw [filed] at requests
  rw [Store.key_of_get? present] at allowed
  refine .inr ⟨netObj, found, allowed, ?_⟩
  have different : annotationNetwork ≠ annotationAddressPool := by decide
  simp only [refreshed, withPool, Dict.get?_set, if_neg different]
  exact requests

theorem isolated_reconcileNetwork {state : OperatorState} (isolated : Isolated state)
    (texts : LibraryTexts) (name now : String) (faults : Faults) :
    Isolated (state.advance true
      (reconcileNetwork texts name faults { cluster := state.cluster, now }).2.cluster) := by
  intro networkName netObj svc found carries denied
  obtain ⟨before, foundBefore, annotations⟩ := reconcileNetwork_networks texts name faults
    { cluster := state.cluster, now } ⟨"", networkName⟩ netObj found
  rcases reconcileNetwork_keptOrBound texts name faults
    { cluster := state.cluster, now } svc.key svc
    carries.1 with ⟨kept, stored, same⟩ | ⟨binding, foundBinding, allowed, network⟩
  · have key : kept.key = svc.key := Store.key_of_get? stored
    have pool : poolOf state.cluster svc.key = some (poolName networkName) := by
      rw [poolOf, stored, Option.bind_some, same]
      exact carries.2.2
    refine (foreignPool_advance true
      ((poolOf_of_stored carries.1).trans (carries.2.2.trans pool.symm))).trans ?_
    rw [← key]
    refine isolated networkName before kept foundBefore ⟨key ▸ stored, ?_, ?_⟩ ?_
    · rw [Requests, same]
      exact carries.2.1
    · rw [same]
      exact carries.2.2
    · rwa [key, namespaceAllowedForNetwork, annotations]
  · have requests : svc.metadata.annotations.get? annotationNetwork = some networkName :=
      carries.2.1
    cases requests.symm.trans network
    cases foundBefore.symm.trans foundBinding
    rw [namespaceAllowedForNetwork, annotations] at allowed
    rw [namespaceAllowedForNetwork, allowed] at denied
    cases denied

def KeptOrBare (before : Cluster) (key : ObjectKey) (metadata : ObjectMeta) : Prop :=
  Inherits before .service key metadata ∨ metadata.annotations = ∅

theorem respected_keptOrBare (before : Cluster) (key : ObjectKey) :
    Respected (KeptOrBare before key) where
  created _ bare _ := .inr bare
  refreshed _ _ bare _ _ := .inr bare
  marked _ _ kept _ := kept

theorem isolated_reconcileGateway {state : OperatorState} (isolated : Isolated state)
    (key : ObjectKey) (now : String) (faults : Faults) :
    Isolated (state.advance true
      (reconcileGateway key faults { cluster := state.cluster, now }).2.cluster) := by
  intro networkName netObj svc found carries denied
  have networks := (reconcileGateway_makes key faults { cluster := state.cluster, now }).unchanged
    fun call own => (own.spares (by decide) (by decide) (by decide) : call.Spares .network)
      ⟨"", networkName⟩
  have foundBefore := networks.symm.trans found
  have kept := (respected_keptOrBare state.cluster svc.key).reconcileGateway (by decide) key faults
    { cluster := state.cluster, now } (fun stored present => .inl ⟨stored, present, rfl⟩)
    svc carries.1
  rcases kept with ⟨before, stored, same⟩ | bare
  · have filed : before.key = svc.key := Store.key_of_get? stored
    have pool : poolOf state.cluster svc.key = some (poolName networkName) := by
      rw [poolOf, stored, Option.bind_some, same]
      exact carries.2.2
    refine (foreignPool_advance true
      ((poolOf_of_stored carries.1).trans (carries.2.2.trans pool.symm))).trans ?_
    rw [← filed]
    refine isolated networkName netObj before foundBefore ⟨filed ▸ stored, ?_, ?_⟩ (filed ▸ denied)
    · rw [Requests, same]
      exact carries.2.1
    · rw [same]
      exact carries.2.2
  · have pool := carries.2.2
    rw [bare] at pool
    cases pool

theorem operatorStep_isolated {state next : OperatorState} {event : OperatorEvent}
    (isolated : Isolated state) (unrevoking : Unrevoking state event)
    (stepped : operatorStep state event = some next) : Isolated next := by
  cases event with
  | edit kind object =>
      cases stepped
      exact isolated_edit isolated unrevoking
  | discard kind key =>
      cases stepped
      exact isolated_discard isolated kind key
  | reconcileGateway key now faults =>
      cases stepped
      exact isolated_reconcileGateway isolated key now faults
  | reconcileNetwork texts name now faults =>
      cases stepped
      exact isolated_reconcileNetwork isolated texts name now faults

/-- Networks stay isolated in every run in which no edit denies a Service that
carries a pool of the operator's. -/
theorem isolated_of_unrevoking {cluster : Cluster} (poolless : ∀ key, poolOf cluster key = none)
    {events : List OperatorEvent} {state : OperatorState}
    (run : Run operatorStep Unrevoking (.initial cluster) events state) : Isolated state := by
  have base : Isolated (.initial cluster) := by
    intro networkName netObj svc _ carries _
    have pool := poolOf_of_stored carries.1
    rw [carries.2.2, OperatorState.initial, poolless] at pool
    cases pool
  exact run.invariant base operatorStep_isolated

def allowingNetwork (allowlist : String) : Unstructured where
  metadata := {
    key := ⟨"", "n"⟩
    annotations := .singleton annotationAllowedNamespaces allowlist
    finalizers := [networkFinalizer] }
  body := []

def askingService : Service where
  metadata := { key := ⟨"default", "web"⟩, annotations := .singleton annotationNetwork "n" }
  body := { clusterIP := "", externalIPs := [], ports := [] }

theorem isolated_of_closedNetwork :
    ∃ state, Run operatorStep Unrevoking (.initial ∅)
        [.edit .network (allowingNetwork "other"), .edit .service askingService,
          .reconcileNetwork noTexts "n" "" noFaults] state ∧ Isolated state := by
  have first : Unrevoking (.initial ∅) (.edit .network (allowingNetwork "other")) :=
    fun svc carries => by cases carries.1
  have second : ∀ state, Unrevoking state (.edit .service askingService) :=
    fun state networkName netObj _ _ pool => by cases pool
  have third : ∀ state, Unrevoking state (.reconcileNetwork noTexts "n" "" noFaults) :=
    fun _ => trivial
  have run : Run operatorStep Unrevoking (.initial ∅) _ _ :=
    ((Run.single first rfl).snoc (second _) rfl).snoc (third _) rfl
  exact ⟨_, run, isolated_of_unrevoking (fun _ => rfl) run⟩

/-- The Service is bound while its namespace is allowed, and then it no longer is. -/
def tightening : List OperatorEvent :=
  [.edit .network (allowingNetwork "default"), .edit .service askingService,
    .reconcileNetwork noTexts "n" "" noFaults, .edit .network (allowingNetwork "other"),
      .reconcileNetwork noTexts "n" "" noFaults]

/-- The Service keeps the pool after an error-free Reconcile of the tightened Network. -/
theorem tightening_notIsolated :
    ∃ state, Run operatorStep Anything (.initial ∅) tightening state ∧ ¬ Isolated state := by
  have check : (execute operatorStep (.initial ∅) tightening).any (fun state =>
      ((state.cluster .network).get? ⟨"", "n"⟩).any (fun netObj =>
        !namespaceAllowedForNetwork netObj "default") &&
      ((state.cluster .service).get? ⟨"default", "web"⟩).any (fun svc =>
        decide (Requests svc "n" ∧
          svc.metadata.annotations.get? annotationAddressPool = some (poolName "n"))) &&
      !state.foreignPool ⟨"default", "web"⟩) = true := by
    decide
  obtain ⟨state, executed, held⟩ := (Option.any_eq_true _ _).mp check
  simp only [Bool.and_eq_true, Bool.not_eq_true', Option.any_eq_true, decide_eq_true_eq] at held
  obtain ⟨⟨⟨netObj, found, denied⟩, svc, stored, requests, pool⟩, own⟩ := held
  have key : svc.key = ⟨"default", "web"⟩ := Store.key_of_get? stored
  refine ⟨state, run_of_execute executed, fun isolated => ?_⟩
  have foreign := isolated "n" netObj svc found ⟨key ▸ stored, requests, pool⟩ (by rwa [key])
  rw [key, own] at foreign
  cases foreign

end GemEmulation.Operator
