import GemEmulation.Operator.Gateway.CoreDNS
import GemEmulation.Operator.Network.Services
import GemEmulation.Operator.PodMutator.Annotations

/-!
# Reconciling a Network

`NetworkReconciler.Reconcile`: the child objects, the Services, and the
conditions that report on them.
-/

namespace GemEmulation.Operator

open Foundations Foundations.Json Kube

def networkFinalizer : String := "networking.gke.io/network-finalizer"

def annotationVLANID : String := "networking.gke.io/gdce-vlan-id"

def annotationVLANMTU : String := "networking.gke.io/gdce-vlan-mtu"

def defaultVLANMTU : String := "1410"

def provisionedNetworksConfigMap : String := "gem-provisioned-networks"

/-- The interface of a Network: that of its spec, or that of its VLAN. -/
def interfaceNameOf (netObj : Unstructured) (vlanID : String) : String :=
  let ifaceName :=
    (nestedString netObj.body ["spec", "nodeInterfaceMatcher", "interfaceName"]).getD ""
  if ifaceName = "" ∧ vlanID ≠ "" then "gdcenet0." ++ vlanID else ifaceName

def isPrimaryNetwork (netObj : Unstructured) (vlanID ifaceName : String) : Bool :=
  decide (netObj.key.name = "pod-network" ∨ netObj.key.name = "default" ∨
    vlanID = "" ∧ ifaceName = "")

def isHostInterfaceProvisioned (vlanID ifaceName : String) : Api Bool := do
  match ← get .configMap ⟨"kube-system", provisionedNetworksConfigMap⟩ with
  | .error _ => pure false
  | .ok cm =>
      pure (decide (vlanID ≠ "") && (cm.body.data.get? vlanID).isSome ||
        decide (ifaceName ≠ "" ∧ ifaceName ∈ cm.body.data.values))

/-- Whether the Network is primary or its host interface is provisioned. -/
def isProvisioned (netObj : Unstructured) (vlanID ifaceName : String) : Api Bool :=
  if isPrimaryNetwork netObj vlanID ifaceName then pure true
  else isHostInterfaceProvisioned vlanID ifaceName

def isCoreDNSGatewayRuleActive : Api Bool := do
  match ← get .configMap ⟨"kube-system", "coredns-config"⟩ with
  | .error _ => pure false
  | .ok cm => pure (Text.contains ((cm.body.data.get? "Corefile").getD "") gatewayDomain)

def missingHostInterface : String :=
  "Network accepted, but the underlying host VXLAN was not statically provisioned. " ++
    "Pods attempting to use this network will fail. " ++
      "Rebuild cluster using Ansible variables to activate."

def readyCondition (provisioned : Bool) (childErrors : List String) : Condition :=
  if provisioned = false then ⟨"Ready", "False", "MissingHostInterface", missingHostInterface⟩
  else if childErrors ≠ [] then
    ⟨"Ready", "False", "ChildResourceError",
      "Failed to reconcile child resources: " ++ Text.join childErrors "; "⟩
  else ⟨"Ready", "True", "NetworkReady", "Network interface and IPAM ready"⟩

/-- The `CoreDNSReady` condition. -/
def coreDNSCondition (active : Bool) : Condition :=
  if active then
    ⟨"CoreDNSReady", "True", "CoreDNSServiceReady", "CoreDNS service is ready for the network"⟩
  else
    ⟨"CoreDNSReady", "False", "CoreDNSRewriteRuleMissing",
      "CoreDNS is not configured with the .gkegw.cluster.local rewrite rule"⟩

def childError (texts : LibraryTexts) (child : String) : Except NetworkError Unit → List String
  | .ok () => []
  | .error error => [child ++ ": " ++ error.message texts]

def attachNetwork (netObj : Unstructured) (ifaceName vlanMTU : String) :
    Api (Except NetworkError Unit) :=
  if ifaceName = "" then pure (.ok ()) else reconcileNetAttachDef netObj ifaceName vlanMTU

def reconcileVIPPool (netObj : Unstructured) (ifaceName : String) :
    Api (String × Except NetworkError Unit) := do
  let lbVIPsJSON := annotationOf netObj annotationLBServiceVIPs
  if lbVIPsJSON = "" then pure ("", .ok ())
  else
    match unmarshalStrict decodeTexts [] lbVIPsJSON with
    | none => pure ("VIP pool annotation", .error (.vipPool lbVIPsJSON))
    | some [] => pure ("", .ok ())
    | some vipList => do
        let outcome ← reconcileMetalLB netObj vipList ifaceName
        pure ("IPAddressPool/L2Advertisement", outcome)

/-- The children and the Services of a Network: the texts of what went wrong. -/
def reconcileChildren (texts : LibraryTexts) (netObj : Unstructured) (ifaceName vlanMTU : String) :
    Api (List String) := do
  let attached ← attachNetwork netObj ifaceName vlanMTU
  let pooled ← reconcileVIPPool netObj ifaceName
  let bound ← reconcileServices texts netObj
  pure (childError texts "NetworkAttachmentDefinition" attached ++
    childError texts pooled.1 pooled.2 ++ childError texts "Service binding" bound)

def warnUnlessProvisioned (netObj : Unstructured) (provisioned : Bool) : Api Unit :=
  if provisioned then pure ()
  else recordEvent ⟨netObj.key, "MissingHostInterface", missingHostInterface⟩

/-- The part of `Reconcile` for a Network with its finalizer. -/
def reconcilePresentNetwork (texts : LibraryTexts) (netObj : Unstructured) : Api Unit := do
  let vlanID := annotationOf netObj annotationVLANID
  let vlanMTU := annotationOf netObj annotationVLANMTU
  let ifaceName := interfaceNameOf netObj vlanID
  let provisioned ← isProvisioned netObj vlanID ifaceName
  warnUnlessProvisioned netObj provisioned
  let childErrors ← reconcileChildren texts netObj ifaceName
    (if vlanMTU = "" then defaultVLANMTU else vlanMTU)
  let active ← isCoreDNSGatewayRuleActive
  let _ ← updateUnstructuredStatusIfChanged .network netObj none
    [readyCondition provisioned childErrors, coreDNSCondition active]
  pure ()

/-- The part of `Reconcile` for a Network that is being deleted. -/
def reconcileDeletedNetwork (netObj : Unstructured) : Api (Except ApiError (Option Nat)) := do
  if containsFinalizer netObj networkFinalizer then
    cleanupNetworkChildren netObj
    match ← update .network (removeFinalizer netObj networkFinalizer) with
    | .ok _ => pure (.ok none)
    | .error error => pure (.error error)
  else pure (.ok none)

def reconcileNetwork (texts : LibraryTexts) (name : String) :
    Api (Except ApiError (Option Nat)) := do
  match ← get .network ⟨"", name⟩ with
  | .error error =>
      match ignoreNotFound error with
      | none => pure (.ok none)
      | some error => pure (.error error)
  | .ok netObj =>
      if netObj.metadata.deletionTimestamp.isSome then reconcileDeletedNetwork netObj
      else
        match ← ensureFinalizer .network networkFinalizer netObj with
        | .error error => pure (.error error)
        | .ok netObj =>
            reconcilePresentNetwork texts netObj
            pure (.ok (some 30))

end GemEmulation.Operator
