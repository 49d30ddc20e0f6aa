import GemEmulation.Operator.Network.Children

/-!
# Binding Services to Networks

A Service that names a Network is bound to the Network's MetalLB pool if the
Network's allowlist permits the Service's namespace.
-/

namespace GemEmulation.Operator

open Foundations Kube

def annotationAllowedNamespaces : String := "networking.gke.io/gdce-allowed-namespaces"

def annotationAddressPool : String := "metallb.universe.tf/address-pool"

/-- `namespaceAllowedForNetwork`: without an allowlist every namespace is. -/
def namespaceAllowedForNetwork (netObj : Unstructured) (ns : String) : Bool :=
  match netObj.metadata.annotations.get? annotationAllowedNamespaces with
  | none => true
  | some allowlist =>
      if Text.trimSpace allowlist = "" ∨ Text.trimSpace allowlist = "*" then true
      else (Text.split allowlist ',').any fun allowed => decide (Text.trimSpace allowed = ns)

def Requests (svc : Service) (networkName : String) : Prop :=
  svc.metadata.annotations.get? annotationNetwork = some networkName

instance (svc : Service) (networkName : String) : Decidable (Requests svc networkName) :=
  inferInstanceAs (Decidable (_ = _))

def withPool (svc : Service) (pool : String) : Service :=
  { svc with metadata := { svc.metadata with
      annotations := svc.metadata.annotations.set annotationAddressPool pool } }

def bindingDenied (texts : LibraryTexts) (netObj : Unstructured) (svc : Service) :
    RecordedEvent where
  object := netObj.key
  reason := "ServiceBindingDenied"
  message := "Service " ++ svc.key.ns ++ "/" ++ svc.key.name ++
    " requested this network but namespace " ++ texts.quoted svc.key.ns ++ " is not in the " ++
      annotationAllowedNamespaces ++ " allowlist"

def bindService (texts : LibraryTexts) (netObj : Unstructured)
    (updateErrors : List (ObjectKey × ApiError)) (svc : Service) :
    Api (List (ObjectKey × ApiError)) := do
  if Requests svc netObj.key.name then
    if namespaceAllowedForNetwork netObj svc.key.ns = false then
      recordEvent (bindingDenied texts netObj svc)
      pure updateErrors
    else if annotationOf svc annotationAddressPool = poolName netObj.key.name then
      pure updateErrors
    else
      match ← update .service (withPool svc (poolName netObj.key.name)) with
      | .ok _ => pure updateErrors
      | .error error => pure (updateErrors ++ [(svc.key, error)])
  else pure updateErrors

def reconcileServices (texts : LibraryTexts) (netObj : Unstructured) :
    Api (Except NetworkError Unit) := do
  match ← list .service with
  | .error error => pure (.error (.api error))
  | .ok services =>
      let updateErrors ← services.foldlM (bindService texts netObj) []
      pure (if updateErrors = [] then .ok () else .error (.services updateErrors))

def ServiceCall (call : Call) : Prop :=
  ∀ kind key, call.target = some (kind, key) → kind = .service

theorem bindService_makes (texts : LibraryTexts) (netObj : Unstructured)
    (updateErrors : List (ObjectKey × ApiError)) (svc : Service) :
    (bindService texts netObj updateErrors svc).Guarantees (Makes ServiceCall) := by
  unfold bindService
  split
  · split
    · exact .bind (recordEvent_makes _) fun _ => .pure _
    · split
      · exact .pure _
      · refine .bind (update_makes .service fun _ _ writes => ?_) fun outcome => ?_
        · cases writes
          rfl
        · split <;> exact .pure _
  · exact .pure _

theorem reconcileServices_makes (texts : LibraryTexts) (netObj : Unstructured) :
    (reconcileServices texts netObj).Guarantees (Makes ServiceCall) := by
  refine .bind (list_makes fun _ _ writes => by cases writes) fun outcome => ?_
  split
  · exact .pure _
  · exact .bind (.foldlM _ (fun svc _ updateErrors =>
      bindService_makes texts netObj updateErrors svc)
      _) fun _ => .pure _

end GemEmulation.Operator
