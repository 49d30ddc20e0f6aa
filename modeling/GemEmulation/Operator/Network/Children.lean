import GemEmulation.Foundations.Json.RoundTrip
import GemEmulation.Kube.Apply
import GemEmulation.Operator.PodMutator.Allocator

/-!
# The child objects of a Network

The NetworkAttachmentDefinitions in every namespace and the MetalLB objects in
`kube-system`: what they hold, how they are applied, and how they are removed.
-/

namespace GemEmulation.Operator

open Foundations Kube Net

inductive NetworkError where
  | api (error : ApiError)
  | invalidMTU (mtu : String)
  | namespaces (failures : List (String × ApiError))
  | vipPool (raw : String)
  | services (failures : List (ObjectKey × ApiError))
  deriving DecidableEq, Repr

/-- The texts that come from libraries: errors of the client, quoted strings, and
the error of decoding a list of texts. -/
structure LibraryTexts where
  api : ApiError → String
  quoted : String → String
  decoding : String → String

def NetworkError.message (texts : LibraryTexts) : NetworkError → String
  | api error => texts.api error
  | invalidMTU mtu => "invalid VLAN MTU " ++ texts.quoted mtu ++ ": must be a positive integer"
  | namespaces failures => Text.join (failures.map fun (ns, error) =>
      "namespace " ++ ns ++ ": " ++ texts.api error) "\n"
  | vipPool raw => texts.decoding raw
  | services failures => Text.join (failures.map fun (key, error) =>
      "service " ++ key.ns ++ "/" ++ key.name ++ ": " ++ texts.api error) "\n"

def sameSpec (existing obj : Unstructured) : Bool :=
  match lookupEntry "spec" existing.body, lookupEntry "spec" obj.body with
  | none, none => true
  | some first, some second => first.deepEqual second
  | _, _ => false

def applyOrUpdate (kind : CustomKind) (obj : Unstructured) : Api (Except ApiError Unit) :=
  applyObject (.custom kind) sameSpec obj

def networkOwnerReference (netObj : Unstructured) : OwnerReference where
  apiVersion := "networking.gke.io/v1"
  kind := "Network"
  name := netObj.key.name
  uid := netObj.metadata.uid
  controller := true

def childObject (owner : Unstructured) (key : ObjectKey) (spec : Fields) : Unstructured where
  metadata := { key, ownerReferences := [networkOwnerReference owner] }
  body := [("spec", .map spec)]

def atoi (text : String) : Option Int :=
  let magnitude (digits : List Char) : Option Nat :=
    if digits = [] ∨ digits.any (fun c => (Text.decimalValue c).isNone) then none
    else some (Text.natural digits)
  match text.toList with
  | '-' :: digits => (magnitude digits).bind fun value =>
      if value ≤ 2 ^ 63 then some (-value) else none
  | '+' :: digits | digits => (magnitude digits).bind fun value =>
      if value < 2 ^ 63 then some value else none

def parseMTU (mtu : String) : Option Int :=
  (atoi (Text.trimSpace mtu)).filter (0 < ·)

def cniIPAM (owner : Unstructured) : Json :=
  let gateway4 := gateway4Of owner
  let network := if gateway4 = "" then none else parseIP4 gateway4
  match network with
  | none => .object [("type", .string "host-local"), ("subnet", .string "usePodCidr")]
  | some ip =>
      let prefixLen := prefixLength owner
      let subnet := dottedQuad (ip &&& cidrMask prefixLen 32) ++ "/" ++ toString prefixLen
      .object [("type", .string "host-local"), ("subnet", .string subnet),
        ("gateway", .string gateway4)]

def cniConfig (owner : Unstructured) (ifaceName : String) (mtu : Int) : String :=
  .ofList (Json.printIndented 0 (.object [
    ("cniVersion", .string "0.3.1"),
    ("type", .string "macvlan"),
    ("master", .string ifaceName),
    ("mode", .string "bridge"),
    ("mtu", .number (toString mtu)),
    ("capabilities", .object [("ips", .bool true)]),
    ("ipam", cniIPAM owner)]))

def netAttachDef (owner : Unstructured) (ns config : String) : Unstructured :=
  childObject owner ⟨ns, owner.key.name⟩ [("config", .string config)]

/-- Apply the NetworkAttachmentDefinition in a namespace that is not going away. -/
def applyInNamespace (owner : Unstructured) (config : String)
    (applyErrors : List (String × ApiError)) (ns : Object Unit) :
    Api (List (String × ApiError)) := do
  if ns.metadata.deletionTimestamp.isSome then pure applyErrors
  else
    match ← applyOrUpdate .netAttachDef (netAttachDef owner ns.key.name config) with
    | .ok () => pure applyErrors
    | .error error => pure (applyErrors ++ [(ns.key.name, error)])

def reconcileNetAttachDef (owner : Unstructured) (ifaceName mtu : String) :
    Api (Except NetworkError Unit) := do
  match parseMTU mtu with
  | none => pure (.error (.invalidMTU mtu))
  | some mtuInt =>
      match ← list .namespace with
      | .error error => pure (.error (.api error))
      | .ok namespaces =>
          let config := cniConfig owner ifaceName mtuInt
          let applyErrors ← namespaces.foldlM (applyInNamespace owner config) []
          pure (if applyErrors = [] then .ok () else .error (.namespaces applyErrors))

def poolName (networkName : String) : String := networkName ++ "-pool"

def ipAddressPool (owner : Unstructured) (vipPool : List String) : Unstructured :=
  childObject owner ⟨"kube-system", poolName owner.key.name⟩
    [("addresses", .slice (vipPool.map .string)), ("autoAssign", .bool false)]

def l2Advertisement (owner : Unstructured) (ifaceName : String) : Unstructured :=
  childObject owner ⟨"kube-system", "l2advertise-" ++ owner.key.name⟩
    [("ipAddressPools", .slice [.string (poolName owner.key.name)]),
      ("interfaces", .slice [.string ifaceName])]

def reconcileMetalLB (owner : Unstructured) (vipPool : List String) (ifaceName : String) :
    Api (Except NetworkError Unit) := do
  match ← applyOrUpdate .ipAddressPool (ipAddressPool owner vipPool) with
  | .error error => pure (.error (.api error))
  | .ok () =>
      match ← applyOrUpdate .l2Advertisement (l2Advertisement owner ifaceName) with
      | .error error => pure (.error (.api error))
      | .ok () => pure (.ok ())

/-- Delete a Network's NetworkAttachmentDefinition, whatever the outcome. -/
def deleteInNamespace (name : String) (_ : Unit) (ns : Object Unit) : Api Unit := do
  let _ ← delete (.custom .netAttachDef) ⟨ns.key.name, name⟩
  pure ()

/-- `cleanupNetworkChildren`: no failure keeps the other children. -/
def cleanupNetworkChildren (netObj : Unstructured) : Api Unit := do
  let name := netObj.key.name
  match ← list .namespace with
  | .ok namespaces => namespaces.foldlM (deleteInNamespace name) ()
  | .error _ => pure ()
  let _ ← delete (.custom .ipAddressPool) ⟨"kube-system", poolName name⟩
  let _ ← delete (.custom .l2Advertisement) ⟨"kube-system", "l2advertise-" ++ name⟩
  pure ()

def ChildCall (call : Call) : Prop :=
  ∀ kind key, call.target = some (kind, key) →
    kind = .netAttachDef ∨ kind = .ipAddressPool ∨ kind = .l2Advertisement

theorem applyOrUpdate_makes {kind : CustomKind} {obj : Unstructured}
    (child : kind = .netAttachDef ∨ kind = .ipAddressPool ∨ kind = .l2Advertisement) :
    (applyOrUpdate kind obj).Guarantees (Makes ChildCall) := by
  refine applyObject_makes.weaken fun _ _ makes => makes.weaken fun call applies => ?_
  rintro target key writes
  rcases applies with rfl | rfl | rfl <;> cases writes <;>
    rcases child with rfl | rfl | rfl <;> simp

theorem reconcileNetAttachDef_makes (owner : Unstructured) (ifaceName mtu : String) :
    (reconcileNetAttachDef owner ifaceName mtu).Guarantees (Makes ChildCall) := by
  unfold reconcileNetAttachDef
  split
  · exact .pure _
  · refine .bind (list_makes fun _ _ writes => by cases writes) fun outcome => ?_
    split
    · exact .pure _
    · refine .bind (.foldlM _ (fun ns _ applyErrors => ?_) _) fun _ => .pure _
      unfold applyInNamespace
      split
      · exact .pure _
      · refine .bind (applyOrUpdate_makes (.inl rfl)) fun outcome => ?_
        split <;> exact .pure _

theorem reconcileMetalLB_makes (owner : Unstructured) (vipPool : List String) (ifaceName : String) :
    (reconcileMetalLB owner vipPool ifaceName).Guarantees (Makes ChildCall) := by
  refine .bind (applyOrUpdate_makes (.inr (.inl rfl))) fun outcome => ?_
  split
  · exact .pure _
  · refine .bind (applyOrUpdate_makes (.inr (.inr rfl))) fun outcome => ?_
    split <;> exact .pure _

theorem delete_child {kind : Kind} {key : ObjectKey}
    (child : kind = .netAttachDef ∨ kind = .ipAddressPool ∨ kind = .l2Advertisement) :
    (delete kind key).Guarantees (Makes ChildCall) :=
  delete_makes fun _ _ writes => by
    cases writes
    exact child

theorem cleanupNetworkChildren_makes (netObj : Unstructured) :
    (cleanupNetworkChildren netObj).Guarantees (Makes ChildCall) := by
  have rest : Program.Guarantees (Makes ChildCall) (do
      let _ ← delete (.custom .ipAddressPool) ⟨"kube-system", poolName netObj.key.name⟩
      let _ ← delete (.custom .l2Advertisement) ⟨"kube-system", "l2advertise-" ++ netObj.key.name⟩
      pure ()) :=
    .bind (delete_child (.inr (.inl rfl))) fun _ =>
      .bind (delete_child (.inr (.inr rfl))) fun _ => .pure _
  refine .bind (list_makes fun _ _ writes => by cases writes) fun outcome => ?_
  split
  · refine .bind (.foldlM _ (fun ns _ _ => ?_) _) fun _ => rest
    exact .bind (delete_child (.inl rfl)) fun _ => .pure _
  · exact rest

end GemEmulation.Operator
