import GemEmulation.Operator.Gateway.Gathered
import GemEmulation.Operator.LevelTriggered

/-!
# Where traffic goes

The addresses and the ports of all backend references are gathered in two lists,
and the EndpointSlice offers every port at every address.
-/

namespace GemEmulation.Operator

open Foundations Kube

/-- The slice offers a port at an address: it offers all its ports at all its
addresses. -/
def Offers (slice : EndpointSlice) (address : String) (port : Int) : Prop :=
  (∃ endpoint ∈ slice.body.endpoints, address ∈ endpoint.addresses) ∧
    ∃ offered ∈ slice.body.ports, offered.port = some port

instance (slice : EndpointSlice) (address : String) (port : Int) :
    Decidable (Offers slice address port) :=
  inferInstanceAs (Decidable (_ ∧ _))

/-- A backend reference of a bound route, whose selector selects a Pod with the
address, has the port. -/
def Sends (cluster : Cluster) (gw : Unstructured) (address : String) (port : Int) : Prop :=
  ∃ ref ∈ refsOf cluster gw, ref.epPort = port ∧
    address ∈ selectorAddresses cluster gw.key.ns ref.epSelectorName
      (annotationOf gw annotationNetwork)

instance (cluster : Cluster) (gw : Unstructured) (address : String) (port : Int) :
    Decidable (Sends cluster gw address port) :=
  inferInstanceAs (Decidable (∃ ref ∈ refsOf cluster gw, _))

/-- The backend references of every port select the same addresses. -/
def PortsAgree (cluster : Cluster) (gw : Unstructured) : Prop :=
  ∀ first ∈ refsOf cluster gw, ∀ second ∈ refsOf cluster gw,
    ∀ address ∈ selectorAddresses cluster gw.key.ns first.epSelectorName
      (annotationOf gw annotationNetwork), Sends cluster gw address second.epPort

instance (cluster : Cluster) (gw : Unstructured) : Decidable (PortsAgree cluster gw) :=
  inferInstanceAs (Decidable (∀ first ∈ refsOf cluster gw, ∀ second ∈ refsOf cluster gw, _))

/-- A Gateway that a Reconcile programs: it has a Network and a VIP, and no one
deletes it or its dynamic objects. -/
structure Programmable (cluster : Cluster) (gw : Unstructured) : Prop where
  found : (cluster .gateway).get? gw.key = some gw
  present : gw.metadata.deletionTimestamp.isSome = false
  network : annotationOf gw annotationNetwork ≠ ""
  vip : gatewayVIP cluster gw (annotationOf gw annotationNetwork) ≠ ""
  loose : LooseObjects gw.key cluster

def LeavesSlice (rank : Rank) (cluster : Cluster) (now : String) (gw : Unstructured)
    (slice : EndpointSlice) : Prop :=
  ((reconcileGateway gw.key ⟨noFaults, rank⟩ { cluster, now }).2.cluster .endpointSlice).get?
    (sliceKey gw.key) = some slice

theorem offers_of_content {key : ObjectKey} {ports : List Int} {backendAddresses : List String}
    {slice : EndpointSlice} (same : content slice =
      content (gatewaySlice key ports backendAddresses))
    (address : String) (port : Int) :
    Offers slice address port ↔ address ∈ backendAddresses ∧ port ∈ ports := by
  have body : slice.body = (gatewaySlice key ports backendAddresses).body := congrArg Prod.snd same
  simp [Offers, body, gatewaySlice, endpointPort]

/-- The slice of a programmed Gateway offers the gathered ports at the gathered
addresses. -/
theorem Programmable.leaves {cluster : Cluster} {gw : Unstructured}
    (programmable : Programmable cluster gw) (rank : Rank) (now : String) :
    ∃ backends, GathersBackends rank cluster gw (annotationOf gw annotationNetwork) backends ∧
      (((reconcileGateway gw.key ⟨noFaults, rank⟩ { cluster, now }).2.cluster .endpointSlice).get?
        (sliceKey gw.key)).map content =
          if backends.haveBackendRefs then
            some (content (gatewaySlice gw.key backends.ports backends.backendAddresses))
          else none := by
  let session : Session := { cluster, now }
  have found : (session.cluster .gateway).get? gw.key = some gw := programmable.found
  obtain ⟨vip, lists, programs⟩ := reconcileGateway_programs rank found programmable.present
    programmable.network programmable.loose
  obtain ⟨backends, gathers, -, slice⟩ := programs (lists.ne_empty_iff.mpr programmable.vip)
  refine ⟨backends, gathers, slice.trans ?_⟩
  unfold objectsFor
  split <;> rfl

theorem GathersBackends.offers {rank : Rank} {cluster : Cluster} {gw : Unstructured}
    {targetNetwork : String} {backends : Backends}
    (gathers : GathersBackends rank cluster gw targetNetwork backends) (address : String)
    (port : Int) :
    address ∈ backends.backendAddresses ∧ port ∈ backends.ports ↔
      (∃ ref ∈ refsOf cluster gw,
        address ∈ selectorAddresses cluster gw.key.ns ref.epSelectorName targetNetwork) ∧
      ∃ ref ∈ refsOf cluster gw, ref.epPort = port := by
  obtain ⟨routes, lists, gathers⟩ := gathers
  rw [gathers.mem_addresses, gathers.mem_ports]
  simp only [lists.boundRefs_perm.mem_iff]

theorem GathersBackends.haveBackendRefs {rank : Rank} {cluster : Cluster} {gw : Unstructured}
    {targetNetwork : String} {backends : Backends}
    (gathers : GathersBackends rank cluster gw targetNetwork backends) :
    backends.haveBackendRefs = true ↔ refsOf cluster gw ≠ [] := by
  obtain ⟨routes, lists, gathers⟩ := gathers
  rw [gathers.haveBackendRefs, ← List.length_pos_iff, ← List.length_pos_iff,
    lists.boundRefs_perm.length_eq]

/-- Every pair that the slice offers is sent by a backend reference, for every order
of the lists, exactly when the references of every port select the same addresses. -/
theorem trafficSent_iff {cluster : Cluster} {gw : Unstructured}
    (programmable : Programmable cluster gw) (now : String) :
    (∀ rank slice address port, LeavesSlice rank cluster now gw slice →
      Offers slice address port → Sends cluster gw address port) ↔ PortsAgree cluster gw := by
  constructor
  · intro sent first listed second listed' address selected
    obtain ⟨backends, gathers, left⟩ := programmable.leaves (fun _ _ _ => 0) now
    rw [if_pos (gathers.haveBackendRefs.mpr (List.ne_nil_of_mem listed))] at left
    obtain ⟨slice, leaves, same⟩ := Option.map_eq_some_iff.mp left
    apply sent _ slice address second.epPort leaves
    rw [offers_of_content same, gathers.offers]
    exact ⟨⟨first, listed, selected⟩, second, listed', rfl⟩
  · intro agree rank slice address port leaves offers
    obtain ⟨backends, gathers, left⟩ := programmable.leaves rank now
    rw [leaves, Option.map_some] at left
    split at left
    · rw [offers_of_content (Option.some.inj left), gathers.offers] at offers
      obtain ⟨⟨first, listed, selected⟩, second, listed', rfl⟩ := offers
      exact agree first listed second listed' address selected
    · cases left

def backendPod (name app address : String) : Pod where
  metadata := {
    key := ⟨"default", name⟩
    labels := .singleton "app" app
    annotations := .singleton annotationNetworkStatus
      ("[\x7b\"name\":\"n\",\"ips\":[\"" ++ address ++ "\"]\x7d]") }
  body := { phase := .running, conditions := [⟨"Ready", .true⟩] }

def appSelector (name app : String) : Unstructured where
  metadata := { key := ⟨"default", name⟩ }
  body := [("spec", .map [("selector", .map [("matchLabels", .map [("app", .string app)])])])]

def twoPortRoute (first second : Int) : Unstructured where
  metadata := { key := ⟨"default", "r"⟩ }
  body := [("spec", .map [
    ("parentRefs", .slice [.map [("name", .string "gw")]]),
    ("rules", .slice [.map [("backendRefs", .slice [
      .map [("name", .string "web"), ("port", .int64 first)],
      .map [("name", .string "db"), ("port", .int64 second)]])]])])]

def twoAppCluster (first second : Int) : Cluster :=
  (((((Cluster.put ∅ .gateway (staticGateway (.singleton annotationNetwork "n"))).put .gkeL4Route
    (twoPortRoute first second)).put .gkeEndpointSelector (appSelector "web" "web")).put
      .gkeEndpointSelector (appSelector "db" "db")).put .pod
        (backendPod "web-0" "web" "10.0.0.10")).put .pod (backendPod "db-0" "db" "10.0.0.20")

def twoAppGateway : Unstructured := staticGateway (.singleton annotationNetwork "n")

theorem programmable_twoApps (first second : Int) :
    Programmable (twoAppCluster first second) twoAppGateway where
  found := rfl
  present := rfl
  network := by decide
  vip := by
    have static : gatewayVIP (twoAppCluster first second) twoAppGateway "n" = "10.0.0.5" := rfl
    exact static ▸ by decide
  loose := looseObjects_of_fresh ⟨rfl, rfl⟩

theorem trafficSent_iff_onePort :
    (∀ rank slice address port,
      LeavesSlice rank (twoAppCluster 8080 8080) "" twoAppGateway slice →
        Offers slice address port → Sends (twoAppCluster 8080 8080) twoAppGateway address port) ↔
      PortsAgree (twoAppCluster 8080 8080) twoAppGateway :=
  trafficSent_iff (programmable_twoApps 8080 8080) ""

/-- The port of the database is offered at the address of the web server. -/
theorem crossedPort_offered :
    ∃ slice, LeavesSlice (fun _ _ _ => 0) (twoAppCluster 80 5432) "" twoAppGateway slice ∧
      Offers slice "10.0.0.10" 5432 ∧
      ¬ Sends (twoAppCluster 80 5432) twoAppGateway "10.0.0.10" 5432 := by
  have left : (((reconcileGateway twoAppGateway.key ⟨noFaults, fun _ _ _ => 0⟩
      { cluster := twoAppCluster 80 5432, now := "" }).2.cluster .endpointSlice).get?
        (sliceKey twoAppGateway.key)).any
          (fun slice => decide (Offers slice "10.0.0.10" 5432)) = true := by
    decide +kernel
  obtain ⟨slice, leaves, offers⟩ := (Option.any_eq_true _ _).mp left
  exact ⟨slice, leaves, of_decide_eq_true offers, by decide +kernel⟩

end GemEmulation.Operator
