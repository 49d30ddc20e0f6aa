import GemEmulation.Operator.Gateway.Backends
import GemEmulation.Operator.Gateway.CoreDNS
import GemEmulation.Operator.Gateway.DynamicObjects
import GemEmulation.Operator.Gateway.Vip

/-!
# Reconciling a Gateway

`GatewayReconciler.Reconcile` and the loops over the routes, with the calls
that each part makes.
-/

namespace GemEmulation.Operator

open Foundations Kube

def gatewayFinalizer : String := "networking.gke.io/gateway-ip-protection"

/-- `reconcileRoutesAndEndpoints`: the number of ready backend endpoints. -/
def reconcileRoutesAndEndpoints (gw : Unstructured) (gwIP targetNetwork : String) : Api Nat := do
  match ← list .gkeL4Route (some gw.key.ns) with
  | .error _ => pure 0
  | .ok routes =>
      let backends ← routes.foldlM (addRoute gw targetNetwork) {}
      if backends.haveBackendRefs then
        writeServiceAndEndpointSlice gw gwIP backends.ports backends.backendAddresses
      else cleanupDynamicResources gw
      pure backends.backendAddresses.length

def gatewayAddresses (gwIP : String) : List Value :=
  [.map [("type", .string "IPAddress"), ("value", .string gwIP)]]

def gatewayConditions (backendCount : Nat) : List Condition :=
  [⟨"Accepted", "True", "Accepted", "Gateway accepted by networking.gke.io/cluster-ip"⟩,
    ⟨"Programmed", "True", "Programmed",
      "Gateway programmed; " ++ toString backendCount ++ " ready backend endpoint(s)"⟩]

def programGateway (gw : Unstructured) (gwIP targetNetwork : String) : Api Unit := do
  let backendCount ← reconcileRoutesAndEndpoints gw gwIP targetNetwork
  let _ ← updateUnstructuredStatusIfChanged .gateway gw (some (gatewayAddresses gwIP))
    (gatewayConditions backendCount)
  reconcileCoreDNS

/-- The part of `Reconcile` for a Gateway with its finalizer: the seconds after
which it is requeued. -/
def reconcilePresent (gw : Unstructured) : Api Nat := do
  let targetNetwork := annotationOf gw annotationNetwork
  if targetNetwork = "" then pure 5
  else
    let gwIP ← determineGatewayIP gw targetNetwork
    if gwIP = "" then pure 5
    else
      programGateway gw gwIP targetNetwork
      pure 30

/-- The part of `Reconcile` for a Gateway that is being deleted. -/
def reconcileDeleted (gw : Unstructured) : Api (Except ApiError (Option Nat)) := do
  if containsFinalizer gw gatewayFinalizer then
    cleanupDynamicResources gw
    match ← update .gateway (removeFinalizer gw gatewayFinalizer) with
    | .ok _ => pure (.ok none)
    | .error error => pure (.error error)
  else pure (.ok none)

def reconcileGateway (key : ObjectKey) : Api (Except ApiError (Option Nat)) := do
  match ← get .gateway key with
  | .error error =>
      match ignoreNotFound error with
      | none => pure (.ok none)
      | some error => pure (.error error)
  | .ok gw =>
      if gw.metadata.deletionTimestamp.isSome then reconcileDeleted gw
      else
        match ← ensureFinalizer .gateway gatewayFinalizer gw with
        | .error error => pure (.error error)
        | .ok gw =>
            let requeueAfter ← reconcilePresent gw
            pure (.ok (some requeueAfter))

def GatheringCall : Call → Prop
  | .get kind _ => kind = .gkeEndpointSelector
  | .list kind _ _ => kind = .pod
  | .update kind _ | .updateStatus kind _ => kind = .gkeL4Route
  | _ => False

theorem addRoute_makes (gw : Unstructured) (targetNetwork : String) (backends : Backends)
    (route : Unstructured) :
    (addRoute gw targetNetwork backends route).Guarantees (Makes GatheringCall) := by
  unfold addRoute
  split
  · refine .bind (.foldlM _ (fun ref _ backends => .bind ?_ fun _ => .pure _) _) fun _ =>
      .bind (updateUnstructuredStatusIfChanged_makes ⟨rfl, rfl⟩) fun _ => .pure _
    refine .bind (get_makes rfl) fun outcome => ?_
    split
    · exact .pure _
    · split
      · exact .pure _
      · refine .bind (list_makes rfl) fun outcome => ?_
        split <;> exact .pure _
  · exact .pure _

theorem determineGatewayIP_makes (gw : Unstructured) (networkName : String) :
    (determineGatewayIP gw networkName).Guarantees
      (Makes fun call => call = .list .gkeGatewayCIDR none []) := by
  unfold determineGatewayIP
  split
  · exact .pure _
  · split
    · exact .pure _
    · refine .bind (list_makes rfl) fun outcome => ?_
      split <;> exact .pure _

end GemEmulation.Operator
