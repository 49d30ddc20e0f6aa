import GemEmulation.Kube.Decode
import GemEmulation.Operator.Resources

/-!
# The backends of a Gateway

The routes bound to a Gateway, the selectors that they name, and the secondary
addresses of the Pods that the selectors match.
-/

namespace GemEmulation.Operator

open Foundations Foundations.Json Kube

/-- `routeReferencesGateway`: a parent reference without a namespace means the
route's own. -/
def routeReferencesGateway (route gw : Unstructured) : Bool :=
  ((nestedSlice route.body ["spec", "parentRefs"]).getD []).any fun ref =>
    match ref.asMap with
    | none => false
    | some refMap =>
        let ns := (textField refMap "namespace").getD ""
        decide ((textField refMap "name").getD "" = gw.key.name ∧ (ns = "" ∨ ns = gw.key.ns))

/-- A backend reference with the port that it is programmed with. -/
structure BackendRef where
  epSelectorName : String
  epPort : Int
  deriving DecidableEq, Repr

/-- The port of a backend reference, 80 unless it is a valid port number. -/
def backendPort (bMap : Fields) : Int :=
  match (lookupEntry "port" bMap).bind Value.asInt64 with
  | some p => if 0 < p ∧ p ≤ 65535 then p else 80
  | none => 80

def backendRef (bRef : Value) : Option BackendRef := do
  let bMap ← bRef.asMap
  let name := (textField bMap "name").getD ""
  if name = "" then none else some ⟨name, backendPort bMap⟩

def backendRefs (route : Unstructured) : List BackendRef :=
  ((nestedSlice route.body ["spec", "rules"]).getD []).flatMap fun rule =>
    match rule.asMap with
    | none => []
    | some ruleMap => ((nestedSlice ruleMap ["backendRefs"]).getD []).filterMap backendRef

def annotationNetworkStatus : String := "k8s.v1.cni.cncf.io/network-status"

/-- `networkStatusNameMatches`: the part after the last slash is the Network. -/
def networkStatusNameMatches (name targetNetwork : String) : Bool :=
  decide (Text.afterLast '/' name = targetNetwork)

/-- `isPodReady`: the first `Ready` condition decides. -/
def isPodReady (pod : Pod) : Bool :=
  (pod.body.conditions.find? fun cond => decide (cond.type = "Ready")).any fun cond =>
    decide (cond.status = .true)

def entryAddress (targetNetwork : String) (item : Fields) : Option String :=
  if networkStatusNameMatches ((textField item "name").getD "") targetNetwork then
    match (lookupEntry "ips" item).bind Value.asSlice with
    | some (ip :: _) => ip.asString.filter (· ≠ "")
    | _ => none
  else none

/-- The addresses on the Network that the status of a running and ready Pod
reports. -/
def secondaryAddresses (targetNetwork : String) (pod : Pod) : List String :=
  if pod.body.phase ≠ .running ∨ isPodReady pod = false then []
  else
    let netStatusJSON := annotationOf pod annotationNetworkStatus
    if netStatusJSON = "" then []
    else
      match unmarshalStrict decodeMaps [] netStatusJSON with
      | some statusList => statusList.filterMap (entryAddress targetNetwork)
      | none => []

def selectorLabels (epSel : Unstructured) : Option (List (String × String)) :=
  (nestedStringMap epSel.body ["spec", "selector", "matchLabels"]).filter (· ≠ [])

def unseen : (seenAddresses addresses : List String) → List String
  | _, [] => []
  | seenAddresses, ip :: rest =>
      if ip ∈ seenAddresses then unseen seenAddresses rest
      else ip :: unseen (ip :: seenAddresses) rest

def collectEndpointsForSelector (gw : Unstructured) (epSelectorName targetNetwork : String)
    (seenAddresses : List String) : Api (List String) := do
  match ← get .gkeEndpointSelector ⟨gw.key.ns, epSelectorName⟩ with
  | .error _ => pure []
  | .ok epSel =>
      match selectorLabels epSel with
      | none => pure []
      | some matchLabels =>
          match ← list .pod (some gw.key.ns) matchLabels with
          | .error _ => pure []
          | .ok pods =>
              pure (unseen seenAddresses (pods.flatMap (secondaryAddresses targetNetwork)))

/-- What the loops over the routes have gathered: the addresses and the ports
are also the sets of those seen. -/
structure Backends where
  backendAddresses : List String := []
  ports : List Int := []
  haveBackendRefs : Bool := false
  deriving DecidableEq, Repr

def addBackendRef (gw : Unstructured) (targetNetwork : String) (backends : Backends)
    (ref : BackendRef) : Api Backends := do
  let added ← collectEndpointsForSelector gw ref.epSelectorName targetNetwork
    backends.backendAddresses
  pure {
    backendAddresses := backends.backendAddresses ++ added
    ports := if ref.epPort ∈ backends.ports then backends.ports
      else backends.ports ++ [ref.epPort]
    haveBackendRefs := true }

def routeConds : List Condition :=
  [⟨"Accepted", "True", "Accepted", "GKEL4Route bound to Gateway"⟩,
    ⟨"Ready", "True", "Ready", "Route programming active"⟩]

def addRoute (gw : Unstructured) (targetNetwork : String) (backends : Backends)
    (route : Unstructured) : Api Backends :=
  if routeReferencesGateway route gw then do
    let backends ← (backendRefs route).foldlM (addBackendRef gw targetNetwork) backends
    let _ ← updateUnstructuredStatusIfChanged .gkeL4Route route none routeConds
    pure backends
  else pure backends

theorem mem_unseen {address : String} : ∀ {seenAddresses addresses : List String},
    address ∈ unseen seenAddresses addresses ↔
      address ∈ addresses ∧ address ∉ seenAddresses
  | seenAddresses, [] => by simp [unseen]
  | seenAddresses, ip :: rest => by
      unfold unseen
      split
      next seen =>
        rw [mem_unseen, List.mem_cons]
        constructor
        · exact fun ⟨listed, fresh⟩ => ⟨.inr listed, fresh⟩
        · rintro ⟨rfl | listed, fresh⟩
          · exact absurd seen fresh
          · exact ⟨listed, fresh⟩
      next new =>
        rw [List.mem_cons, mem_unseen, List.mem_cons, List.mem_cons, not_or]
        constructor
        · rintro (rfl | ⟨listed, -, fresh⟩)
          · exact ⟨.inl rfl, new⟩
          · exact ⟨.inr listed, fresh⟩
        · rintro ⟨rfl | listed, fresh⟩
          · exact .inl rfl
          · by_cases same : address = ip
            · exact .inl same
            · exact .inr ⟨listed, same, fresh⟩

theorem nodup_unseen : ∀ {seenAddresses addresses : List String},
    (unseen seenAddresses addresses).Nodup
  | seenAddresses, [] => by simp [unseen]
  | seenAddresses, ip :: rest => by
      unfold unseen
      split
      next => exact nodup_unseen
      next =>
        exact List.nodup_cons.mpr
          ⟨fun again => (mem_unseen.mp again).2 (by simp), nodup_unseen⟩

end GemEmulation.Operator
