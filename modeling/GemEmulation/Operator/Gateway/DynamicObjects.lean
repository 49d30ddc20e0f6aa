import GemEmulation.Kube.Apply
import GemEmulation.Operator.Resources

/-!
# The dynamic objects of a Gateway

The headless Service and the EndpointSlice that the operator keeps for a
Gateway: what they hold, how they are applied, and how they are removed.
-/

namespace GemEmulation.Operator

open Foundations Kube

def portName (ports : List Int) (p : Int) : String :=
  if ports.length = 1 then "service" else "service-" ++ toString p

def servicePort (ports : List Int) (p : Int) : ServicePort where
  name := portName ports p
  port := p
  targetPort := p
  protocol := "TCP"

def gatewayService (key : ObjectKey) (gwIP : String) (ports : List Int) : Service where
  metadata := {
    key
    labels := .singleton "networking.gke.io/gateway-name" key.name }
  body := {
    clusterIP := "None"
    externalIPs := [gwIP]
    ports := ports.map (servicePort ports) }

def sliceKey (key : ObjectKey) : ObjectKey := ⟨key.ns, key.name ++ "-slice"⟩

def endpointPort (ports : List Int) (p : Int) : EndpointPort where
  name := some (portName ports p)
  port := some p
  protocol := some "TCP"

/-- The EndpointSlice of a Gateway: an endpoint for each backend address. -/
def gatewaySlice (key : ObjectKey) (ports : List Int) (backendAddresses : List String) :
    EndpointSlice where
  metadata := {
    key := sliceKey key
    labels := (Dict.singleton "kubernetes.io/service-name" key.name).set
      "endpointslice.kubernetes.io/managed-by" "gem-network-operator" }
  body := {
    addressType := "IPv4"
    endpoints := backendAddresses.map fun addr => ⟨[addr], some true⟩
    ports := ports.map (endpointPort ports) }

theorem sliceKey_inj {key other : ObjectKey} (same : sliceKey key = sliceKey other) :
    key = other := by
  obtain ⟨ns, name⟩ := key
  obtain ⟨ns', name'⟩ := other
  simpa [sliceKey] using same

def upToDate {Body : Type} [DecidableEq Body] (existing object : Object Body) : Bool :=
  decide (existing.body = object.body) && existing.metadata.labels.sameMap object.metadata.labels

def applyService (svc : Service) : Api (Except ApiError Unit) :=
  applyObject .service upToDate svc

def applyEndpointSlice (slice : EndpointSlice) : Api (Except ApiError Unit) :=
  applyObject .endpointSlice upToDate slice

/-- `writeServiceAndEndpointSlice`: a failure of the one does not keep the other. -/
def writeServiceAndEndpointSlice (gw : Unstructured) (gwIP : String) (ports : List Int)
    (backendAddresses : List String) : Api Unit := do
  let _ ← applyService (gatewayService gw.key gwIP ports)
  let _ ← applyEndpointSlice (gatewaySlice gw.key ports backendAddresses)
  pure ()

def cleanupDynamicResources (gw : Unstructured) : Api Unit := do
  let _ ← delete .service gw.key
  let _ ← delete .endpointSlice (sliceKey gw.key)
  pure ()

theorem upToDate_sound {Body : Type} [DecidableEq Body] {existing object : Object Body}
    (same : upToDate existing object = true) : content existing = content object := by
  simp only [upToDate, Bool.and_eq_true, decide_eq_true_eq] at same
  exact Prod.ext (Dict.get?_of_sameMap same.2) same.1

section Applied

variable {faults : Faults} {rank : Rank} {session : Session}

theorem applyService_stored (svc : Service) (reads : ReadFaults faults) (fresh : Undeleted svc)
    (live : ∀ stored, (session.cluster .service).get? svc.key = some stored → Undeleted stored)
    (through : LetsThrough faults (.get .service svc.key) (session.times (.get .service svc.key))
      defaultRetries) :
    StoredAs .service svc (applyService svc ⟨faults, rank⟩ session).2.cluster :=
  applyObject_stored reads (fun _ _ => rfl) (fun _ => upToDate_sound) fresh live through

theorem applyEndpointSlice_stored (slice : EndpointSlice) (reads : ReadFaults faults)
    (fresh : Undeleted slice)
    (live : ∀ stored, (session.cluster .endpointSlice).get? slice.key = some stored →
      Undeleted stored)
    (through : LetsThrough faults (.get .endpointSlice slice.key)
      (session.times (.get .endpointSlice slice.key)) defaultRetries) :
    StoredAs .endpointSlice slice (applyEndpointSlice slice ⟨faults, rank⟩ session).2.cluster :=
  applyObject_stored reads (fun _ _ => rfl) (fun _ => upToDate_sound) fresh live through

end Applied

end GemEmulation.Operator
