import GemEmulation.Kube.Views
import GemEmulation.Operator.Gateway.Gathered
import GemEmulation.Operator.LevelTriggered

/-!
# What a Gateway is computed from

Of the routes, the selectors, the Pods and the GKEGatewayCIDRs a Gateway uses a
part each.  Clusters in which these parts are the same give it the same dynamic
objects.
-/

namespace GemEmulation.Operator

open Foundations Kube Net

variable {cluster other : Cluster} {gw : Unstructured} {targetNetwork : String}

/-- The VIP, the backend references and the backend addresses of a Gateway on a Network are
the same. -/
structure ComputesAlike (gw : Unstructured) (targetNetwork : String) (cluster other : Cluster) :
    Prop where
  vip : gatewayVIP cluster gw targetNetwork = gatewayVIP other gw targetNetwork
  refs : refsOf cluster gw = refsOf other gw
  addresses : ∀ epSelectorName, selectorAddresses cluster gw.key.ns epSelectorName targetNetwork =
    selectorAddresses other gw.key.ns epSelectorName targetNetwork

namespace ComputesAlike

theorem desiredObjects (alike : ComputesAlike gw targetNetwork cluster other) :
    desiredObjects cluster gw targetNetwork = desiredObjects other gw targetNetwork := by
  have gathering : gatherRef cluster gw.key.ns targetNetwork =
      gatherRef other gw.key.ns targetNetwork := by
    funext backends ref
    rw [gatherRef, gatherRef, alike.addresses]
  have routes : boundRefs gw (listed (cluster .gkeL4Route) (some gw.key.ns) []) =
      boundRefs gw (listed (other .gkeL4Route) (some gw.key.ns) []) := alike.refs
  rw [Operator.desiredObjects, Operator.desiredObjects, gathered, gathered, alike.vip, gathering,
    routes]

end ComputesAlike

/-- The routes that are bound to the Gateway have the same backend references. -/
theorem refsOf_congr (same : ∀ key,
      (((cluster .gkeL4Route).get? key).map (contribution (some gw.key.ns) [] fun route =>
          if routeReferencesGateway route gw then backendRefs route else [])).getD [] =
        (((other .gkeL4Route).get? key).map (contribution (some gw.key.ns) [] fun route =>
          if routeReferencesGateway route gw then backendRefs route else [])).getD []) :
    refsOf cluster gw = refsOf other gw := by
  have bound (routes : List Unstructured) : boundRefs gw routes = routes.flatMap fun route =>
      if routeReferencesGateway route gw then backendRefs route else [] := by
    induction routes with
    | nil => rfl
    | cons route rest inductionHypothesis =>
        have rest : (rest.filter fun route => routeReferencesGateway route gw).flatMap backendRefs =
            _ := inductionHypothesis
        rw [boundRefs, List.filter_cons, List.flatMap_cons, ← rest]
        split <;> rfl
  rw [refsOf, refsOf, bound, bound]
  exact listed_flatMap_congr same

theorem selectorAddresses_alike {ns epSelectorName : String}
    (selector : (cluster .gkeEndpointSelector).get? ⟨ns, epSelectorName⟩ =
      (other .gkeEndpointSelector).get? ⟨ns, epSelectorName⟩)
    (pods : ∀ labels key, (((cluster .pod).get? key).map (contribution (some ns) labels
        (secondaryAddresses targetNetwork))).getD [] =
      (((other .pod).get? key).map (contribution (some ns) labels
        (secondaryAddresses targetNetwork))).getD []) :
    selectorAddresses cluster ns epSelectorName targetNetwork =
      selectorAddresses other ns epSelectorName targetNetwork := by
  rw [selectorAddresses, selectorAddresses, selector]
  split
  · rfl
  next labels _ => exact listed_flatMap_congr (pods labels)

theorem gatewayVIP_alike (same : ∀ key,
      ((cluster .gkeGatewayCIDR).get? key).bind (offeredVIP targetNetwork) =
        ((other .gkeGatewayCIDR).get? key).bind (offeredVIP targetNetwork)) :
    gatewayVIP cluster gw targetNetwork = gatewayVIP other gw targetNetwork := by
  have first (items : List Unstructured) : items.findSome? (offeredVIP targetNetwork) =
      (items.filterMap (offeredVIP targetNetwork)).head? := (List.head?_filterMap ..).symm
  rw [gatewayVIP, gatewayVIP, first, first, Store.list_filterMap_congr same]

def KeepsDynamicObjects (key : ObjectKey) (cluster other : Cluster) : Prop :=
  (cluster .service).get? key = (other .service).get? key ∧
    (cluster .endpointSlice).get? (sliceKey key) = (other .endpointSlice).get? (sliceKey key)

theorem KeepsDynamicObjects.loose {key : ObjectKey} (kept : KeepsDynamicObjects key cluster other)
    (loose : LooseObjects key cluster) : LooseObjects key other := by
  rw [LooseObjects, StoredWith, StoredWith, ← kept.1, ← kept.2]
  exact loose

theorem managed_alike (alike : annotationOf gw annotationNetwork ≠ "" →
      ComputesAlike gw (annotationOf gw annotationNetwork) cluster other) :
    Managed cluster gw ↔ Managed other gw := by
  unfold Managed
  split
  · exact Iff.rfl
  · apply and_congr_right
    intro network
    rw [(alike network).vip]

/-- A Reconcile of a Gateway that is not there or not managed leaves its dynamic objects. -/
theorem afterReconcile_idle {key : ObjectKey} (now : String)
    (unmanaged : ∀ gw, (cluster .gateway).get? key = some gw → ¬ Managed cluster gw) :
    KeepsDynamicObjects key (afterReconcile key now cluster) cluster := by
  have makes : Makes Aside { cluster, now } (reconcileGateway key noFaults { cluster, now }).2 :=
    reconcileGateway_idle unmanaged
  exact ⟨(dynamic_unchanged makes key).1, (dynamic_unchanged makes (sliceKey key)).2⟩

/-- An error-free Reconcile leaves the same dynamic objects, whether there is a Gateway to
manage or not. -/
theorem sameDynamicObjects_alike {key : ObjectKey} {now now' : String}
    (gateway : (cluster .gateway).get? key = (other .gateway).get? key)
    (kept : KeepsDynamicObjects key cluster other) (loose : LooseObjects key cluster)
    (alike : ∀ gw, (cluster .gateway).get? key = some gw →
      annotationOf gw annotationNetwork ≠ "" →
        ComputesAlike gw (annotationOf gw annotationNetwork) cluster other) :
    SameDynamicObjects key (afterReconcile key now cluster) (afterReconcile key now' other) := by
  by_cases managed : ManagedAt key cluster
  · obtain ⟨gw, found, managed⟩ := managed
    have managed' := (managed_alike (alike gw found)).mp managed
    have objects : managedObjects cluster gw = managedObjects other gw := by
      unfold Managed at managed
      unfold managedObjects
      split
      · rfl
      next undeleted =>
        rw [if_neg undeleted] at managed
        exact (alike gw found managed.1).desiredObjects
    have first : Shows key (managedObjects cluster gw) (afterReconcile key now cluster) :=
      reconcileGateway_shows found managed loose
    have second : Shows key (managedObjects other gw) (afterReconcile key now' other) :=
      reconcileGateway_shows (gateway ▸ found) managed' (kept.loose loose)
    rw [objects] at first
    exact ⟨first.1.trans second.1.symm, first.2.trans second.2.symm⟩
  · -- Neither Reconcile touches them.
    have first := afterReconcile_idle now fun gw found manages => managed ⟨gw, found, manages⟩
    have second := afterReconcile_idle now' fun gw found manages =>
      managed ⟨gw, gateway ▸ found, (managed_alike (alike gw (gateway ▸ found))).mpr manages⟩
    exact ⟨congrArg (Option.map content) (first.1.trans (kept.1.trans second.1.symm)),
      congrArg (Option.map content) (first.2.trans (kept.2.trans second.2.symm))⟩

end GemEmulation.Operator
