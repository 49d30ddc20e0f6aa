import GemEmulation.Operator.Gateway.Choice
import GemEmulation.Operator.Gateway.Sources
import GemEmulation.Operator.PodMutator.Annotations

/-!
# The watches of the Gateway controller

The controller watches Gateways, Pods, routes, selectors and GKEGatewayCIDRs, and
maps each of them to the Gateways that it reconciles when the object changes.  No
change that matters to a Gateway is missed.
-/

namespace GemEmulation.Operator

open Foundations Kube Net

def podUsesSecondaryNetworks (pod : Pod) : Bool :=
  (pod.metadata.annotations.get? annotationGKEInterfaces).isSome ||
    (pod.metadata.annotations.get? annotationNetworkStatus).isSome

def filteredOut : (kind : Kind) → Object kind.Body → Bool
  | .pod, pod => !podUsesSecondaryNetworks pod
  | _, _ => false

def findGatewaysForNamespaceObject (kind : Kind) (object : Object kind.Body) :
    Api (List ObjectKey) := do
  if filteredOut kind object then pure []
  else
    match ← list .gateway (some object.key.ns) with
    | .error _ => pure []
    | .ok gateways => pure (gateways.map Object.key)

def sharesNetwork (cidr gw : Unstructured) : Bool :=
  let targetNet := annotationOf gw annotationNetwork
  decide (targetNet ≠ "" ∧ (targetNet = specNetwork cidr ∨ targetNet = cidr.key.name))

def findGatewaysForCIDR (cidr : Unstructured) : Api (List ObjectKey) := do
  match ← list .gateway with
  | .error _ => pure []
  | .ok gateways => pure ((gateways.filter (sharesNetwork cidr)).map Object.key)

/-- The watches of `SetupWithManager`. -/
def watchRequests : (kind : Kind) → Object kind.Body → Api (List ObjectKey)
  | .custom .gateway, gw => pure [gw.key]
  | .pod, pod => findGatewaysForNamespaceObject .pod pod
  | .custom .gkeL4Route, route => findGatewaysForNamespaceObject .gkeL4Route route
  | .custom .gkeEndpointSelector, epSel =>
      findGatewaysForNamespaceObject .gkeEndpointSelector epSel
  | .custom .gkeGatewayCIDR, cidr => findGatewaysForCIDR cidr
  | _, _ => pure []

section Requests

variable {rank : Rank} {session : Session} {gw : Unstructured}

theorem mem_findGatewaysForNamespaceObject {kind : Kind} {object : Object kind.Body}
    (found : (session.cluster .gateway).get? gw.key = some gw) (sameNs : gw.key.ns = object.key.ns)
    (heard : filteredOut kind object = false) :
    gw.key ∈ (findGatewaysForNamespaceObject kind object ⟨noFaults, rank⟩ session).1 := by
  simp only [findGatewaysForNamespaceObject, heard, Bool.false_eq_true, if_false,
    Program.bind_apply, list_ranked, Program.pure_apply]
  refine List.mem_map_of_mem ((arranged_perm _ _).mem_iff.mpr (mem_listed.mpr ⟨found, ?_⟩))
  simp [selects, sameNs]

theorem mem_findGatewaysForCIDR {cidr : Unstructured}
    (found : (session.cluster .gateway).get? gw.key = some gw)
    (shares : sharesNetwork cidr gw = true) :
    gw.key ∈ (findGatewaysForCIDR cidr ⟨noFaults, rank⟩ session).1 := by
  simp only [findGatewaysForCIDR, Program.bind_apply, list_ranked, Program.pure_apply, listed_all]
  refine List.mem_map_of_mem (List.mem_filter.mpr ⟨?_, shares⟩)
  exact (arranged_perm _ _).mem_iff.mpr (Store.mem_list.mpr found)

end Requests

def ChangesOnly (kind : Kind) (changed : ObjectKey) (before after : Cluster) : Prop :=
  ∀ other key, (other, key) ≠ (kind, changed) →
    (after other).get? key = (before other).get? key

/-- The watches do not map a change to the Gateway under a key: neither the old object nor
the new one. -/
def Missed (kind : Kind) (changed key : ObjectKey) (rank : Rank) (before : Cluster)
    (after : Session) : Prop :=
  ∀ object, (before kind).get? changed = some object ∨
      (after.cluster kind).get? changed = some object →
    key ∉ (watchRequests kind object ⟨noFaults, rank⟩ after).1

variable {kind : Kind} {changed : ObjectKey} {rank : Rank} {before : Cluster} {after : Session}
  {gw : Unstructured}

theorem secondaryAddresses_filteredOut {pod : Pod} (targetNetwork : String)
    (filtered : filteredOut .pod pod = true) : secondaryAddresses targetNetwork pod = [] := by
  have silent : annotationOf pod annotationNetworkStatus = "" := by
    simp only [filteredOut, podUsesSecondaryNetworks, Bool.not_eq_true', Bool.or_eq_false_iff,
      Option.isSome_eq_false_iff, Option.isNone_iff_eq_none] at filtered
    rw [annotationOf, filtered.2, Option.getD_none]
  unfold secondaryAddresses
  simp only [silent, if_true, ite_self]

section Missed

variable (only : ChangesOnly kind changed before after.cluster)
  (missed : Missed kind changed gw.key rank before after)
  (found : (after.cluster .gateway).get? gw.key = some gw)
include only missed found

/-- An object of which the watches miss a change lies in another namespace, or is filtered
out. -/
theorem missed_namespaceObject (watched : Kind)
    (maps : watchRequests watched = findGatewaysForNamespaceObject watched) (key : ObjectKey) :
    (before watched).get? key = (after.cluster watched).get? key ∨
      ∀ object, (before watched).get? key = some object ∨
          (after.cluster watched).get? key = some object →
        gw.key.ns ≠ object.key.ns ∨ filteredOut watched object = true := by
  by_cases same : (watched, key) = (kind, changed)
  · cases same
    refine .inr fun object stored => ?_
    by_contra heard
    rw [not_or, not_not, Bool.not_eq_true] at heard
    apply missed object stored
    rw [maps]
    exact mem_findGatewaysForNamespaceObject found heard.1 heard.2
  · exact .inl (only watched key same).symm

theorem missed_contribution {Item : Type} (watched : Kind) {labels : List (String × String)}
    {gather : Object watched.Body → List Item}
    (maps : watchRequests watched = findGatewaysForNamespaceObject watched)
    (silent : ∀ object, filteredOut watched object = true → gather object = []) (key : ObjectKey) :
    (((before watched).get? key).map (contribution (some gw.key.ns) labels gather)).getD [] =
      (((after.cluster watched).get? key).map
        (contribution (some gw.key.ns) labels gather)).getD [] := by
  rcases missed_namespaceObject only missed found watched maps key with same | apart
  · rw [same]
  · have nothing (stored : Option (Object watched.Body))
        (apart : ∀ object, stored = some object →
          gw.key.ns ≠ object.key.ns ∨ filteredOut watched object = true) :
        (stored.map (contribution (some gw.key.ns) labels gather)).getD [] = [] := by
      cases stored with
      | none => rfl
      | some object =>
          rw [Option.map_some, Option.getD_some, contribution]
          rcases apart object rfl with elsewhere | filtered
          · rw [if_neg]
            simp [selects, Ne.symm elsewhere]
          · rw [silent object filtered, ite_self]
    rw [nothing _ fun object stored => apart object (.inl stored),
      nothing _ fun object stored => apart object (.inr stored)]

theorem missed_gatewayVIP (network : annotationOf gw annotationNetwork ≠ "") :
    gatewayVIP before gw (annotationOf gw annotationNetwork) =
      gatewayVIP after.cluster gw (annotationOf gw annotationNetwork) := by
  apply gatewayVIP_alike
  intro key
  by_cases same : (Kind.gkeGatewayCIDR, key) = (kind, changed)
  · cases same
    have nothing : ∀ cidr, (before .gkeGatewayCIDR).get? changed = some cidr ∨
        (after.cluster .gkeGatewayCIDR).get? changed = some cidr →
          offeredVIP (annotationOf gw annotationNetwork) cidr = none := by
      intro cidr stored
      refine if_neg fun offers => missed cidr stored (mem_findGatewaysForCIDR found ?_)
      exact decide_eq_true ⟨network, offers.imp Eq.symm Eq.symm⟩
    rw [Option.bind_eq_none_iff.mpr fun cidr stored => nothing cidr (.inl stored),
      Option.bind_eq_none_iff.mpr fun cidr stored => nothing cidr (.inr stored)]
  · rw [only _ _ same]

theorem missed_computesAlike (network : annotationOf gw annotationNetwork ≠ "") :
    ComputesAlike gw (annotationOf gw annotationNetwork) before after.cluster where
  vip := missed_gatewayVIP only missed found network
  refs := refsOf_congr <| missed_contribution only missed found .gkeL4Route rfl fun _ filtered => by
    cases filtered
  addresses epSelectorName := by
    refine selectorAddresses_alike ?_ fun labels => missed_contribution only missed found .pod rfl
      fun pod filtered => secondaryAddresses_filteredOut _ filtered
    rcases missed_namespaceObject only missed found .gkeEndpointSelector rfl
      ⟨gw.key.ns, epSelectorName⟩ with same | apart
    · exact same
    · have absent (stored : Option Unstructured) (filed : ∀ epSel, stored = some epSel →
          epSel.key = ⟨gw.key.ns, epSelectorName⟩) (apart : ∀ epSel, stored = some epSel →
            gw.key.ns ≠ epSel.key.ns ∨ filteredOut .gkeEndpointSelector epSel = true) :
          stored = none := by
        cases stored with
        | none => rfl
        | some epSel =>
            rcases apart epSel rfl with elsewhere | filtered
            · exact absurd (congrArg ObjectKey.ns (filed epSel rfl)).symm elsewhere
            · cases filtered
      rw [absent _ (fun _ => Store.key_of_get?) fun epSel stored => apart epSel (.inl stored),
        absent _ (fun _ => Store.key_of_get?) fun epSel stored => apart epSel (.inr stored)]

end Missed

theorem determineGatewayIP_gatewayVIP {networkName : String} (session : Session)
    (network : networkName ≠ "") :
    (determineGatewayIP gw networkName noFaults session).1 =
      gatewayVIP session.cluster gw networkName :=
  (determineGatewayIP_lists (fun _ _ _ => 0) gw network session).unranked

/-- The VIP that a Reconcile without failing calls determines for the stored Gateway. -/
def determinedVIP (key : ObjectKey) (session : Session) : Option String :=
  ((session.cluster .gateway).get? key).map fun gw =>
    (determineGatewayIP gw (annotationOf gw annotationNetwork) noFaults session).1

/-- Whatever the first Reconcile after a change leaves differently than one before it, the
change is mapped to the Gateway. -/
theorem watches_complete {key : ObjectKey} (now now' : String)
    (only : ChangesOnly kind changed before after.cluster)
    (dynamic : kind ≠ .service ∧ kind ≠ .endpointSlice) (loose : LooseObjects key before)
    (differs : ¬ SameDynamicObjects key (afterReconcile key now before)
        (afterReconcile key now' after.cluster) ∨
      determinedVIP key { cluster := before, now } ≠ determinedVIP key after) :
    ∃ object, ((before kind).get? changed = some object ∨
        (after.cluster kind).get? changed = some object) ∧
      key ∈ (watchRequests kind object ⟨noFaults, rank⟩ after).1 := by
  by_contra! missed
  have gateway : (before .gateway).get? key = (after.cluster .gateway).get? key := by
    by_cases same : (Kind.gateway, key) = (kind, changed)
    · cases same
      have absent (stored : Option Unstructured) (filed : ∀ gw, stored = some gw → gw.key = changed)
          (missed : ∀ gw, stored = some gw → changed ∉ [gw.key]) : stored = none := by
        cases stored with
        | none => rfl
        | some gw => exact absurd (filed gw rfl ▸ List.mem_singleton_self _) (missed gw rfl)
      rw [absent _ (fun _ => Store.key_of_get?) fun gw stored => missed gw (.inl stored),
        absent _ (fun _ => Store.key_of_get?) fun gw stored => missed gw (.inr stored)]
    · exact (only _ _ same).symm
  have kept : KeepsDynamicObjects key before after.cluster :=
    ⟨(only _ _ fun same => dynamic.1 (congrArg Prod.fst same).symm).symm,
      (only _ _ fun same => dynamic.2 (congrArg Prod.fst same).symm).symm⟩
  have missedBy {gw : Unstructured} (found : (before .gateway).get? key = some gw) :
      gw.key = key ∧ Missed kind changed gw.key rank before after ∧
        (after.cluster .gateway).get? gw.key = some gw := by
    obtain rfl := Store.key_of_get? found
    exact ⟨rfl, missed, gateway ▸ found⟩
  rcases differs with objects | vip
  · refine objects (sameDynamicObjects_alike gateway kept loose fun gw found network => ?_)
    obtain ⟨-, missed, foundAfter⟩ := missedBy found
    exact missed_computesAlike only missed foundAfter network
  · apply vip
    dsimp only [determinedVIP]
    rw [← gateway]
    apply Option.map_congr
    intro gw found
    obtain ⟨-, missed, foundAfter⟩ := missedBy found
    by_cases network : annotationOf gw annotationNetwork = ""
    · unfold determineGatewayIP
      rw [network]
      cases staticAddress gw <;> rfl
    · rw [determineGatewayIP_gatewayVIP _ network, determineGatewayIP_gatewayVIP _ network]
      exact missed_gatewayVIP only missed foundAfter network

def waitingGateway : Unstructured where
  metadata := { key := gatewayKey, annotations := .singleton annotationNetwork "n" }
  body := []

def waitingCluster : Cluster := (∅ : Cluster).put .gateway waitingGateway

def arrivedSession : Session where
  cluster := waitingCluster.put .gkeGatewayCIDR pairCIDR
  now := ""

theorem watches_complete_pair : ∃ cidr : Unstructured,
    ((waitingCluster .gkeGatewayCIDR).get? pairCIDR.key = some cidr ∨
      (arrivedSession.cluster .gkeGatewayCIDR).get? pairCIDR.key = some cidr) ∧
    gatewayKey ∈ (watchRequests .gkeGatewayCIDR cidr noFaults arrivedSession).1 := by
  have only : ChangesOnly .gkeGatewayCIDR pairCIDR.key waitingCluster arrivedSession.cluster :=
    fun other key different => waitingCluster.get?_put_of_ne _ different.symm
  have loose : LooseObjects gatewayKey waitingCluster := looseObjects_of_fresh ⟨rfl, rfl⟩
  have network : annotationOf waitingGateway annotationNetwork ≠ "" := by decide
  refine watches_complete "" "" only (by decide) loose (.inr fun same => ?_)
  have vip := Option.some.inj same
  dsimp only at vip
  rw [determineGatewayIP_gatewayVIP _ network, determineGatewayIP_gatewayVIP _ network] at vip
  exact absurd vip (by decide)

end GemEmulation.Operator
