import GemEmulation.Operator.Gateway.Frame

/-!
# What is gathered in any order

The addresses and the ports of a Gateway's backends do not depend on the order in
which the client lists the routes and the Pods; only their order does.
-/

namespace GemEmulation.Operator

open Foundations Kube Net

section Gathered

variable {rank : Rank} {cluster : Cluster} {ns targetNetwork : String} {refs : List BackendRef}
  {backends : Backends}

theorem ListsPods.mem_addresses {ref : BackendRef} {pods : List Pod} {address : String}
    (lists : ListsPods rank cluster ns ref pods) :
    address ∈ pods.flatMap (secondaryAddresses targetNetwork) ↔
      address ∈ selectorAddresses cluster ns ref.epSelectorName targetNetwork := by
  unfold ListsPods at lists
  unfold selectorAddresses
  split at lists
  next => simp [lists]
  next matchLabels _ =>
    obtain ⟨count, rfl⟩ := lists
    simp only [List.mem_flatMap, (arranged_perm _ _).mem_iff]

theorem GathersFrom.mem_addresses (gathers :
    GathersFrom rank cluster ns targetNetwork refs backends)
    {address : String} :
    address ∈ backends.backendAddresses ↔
      ∃ ref ∈ refs, address ∈ selectorAddresses cluster ns ref.epSelectorName targetNetwork := by
  induction gathers with
  | nil => simp
  | snoc _ lists inductionHypothesis =>
      simp only [withPods, List.mem_append, mem_unseen, lists.mem_addresses, List.mem_singleton,
        inductionHypothesis]
      constructor
      · rintro (⟨ref, listed, selected⟩ | ⟨selected, -⟩)
        · exact ⟨ref, .inl listed, selected⟩
        · exact ⟨_, .inr rfl, selected⟩
      · rintro ⟨ref, listed | rfl, selected⟩
        · exact .inl ⟨ref, listed, selected⟩
        · exact or_iff_not_imp_left.mpr fun unseen => ⟨selected, unseen⟩

theorem GathersFrom.mem_ports (gathers : GathersFrom rank cluster ns targetNetwork refs backends)
    {port : Int} : port ∈ backends.ports ↔ ∃ ref ∈ refs, ref.epPort = port := by
  induction gathers with
  | nil => simp
  | @snoc refs backends ref pods _ _ inductionHypothesis =>
      have ports : port ∈ (withPods targetNetwork backends ref pods).ports ↔
          port ∈ backends.ports ∨ ref.epPort = port := by
        unfold withPods
        dsimp only
        split
        next seen =>
          exact ⟨.inl, fun listed => listed.elim id fun same => same ▸ seen⟩
        next => simp [eq_comm]
      simp only [ports, inductionHypothesis, List.mem_append, List.mem_singleton]
      constructor
      · rintro (⟨other, listed, same⟩ | same)
        · exact ⟨other, .inl listed, same⟩
        · exact ⟨ref, .inr rfl, same⟩
      · rintro ⟨other, listed | rfl, same⟩
        · exact .inl ⟨other, listed, same⟩
        · exact .inr same

theorem GathersFrom.haveBackendRefs
    (gathers : GathersFrom rank cluster ns targetNetwork refs backends) :
    backends.haveBackendRefs = true ↔ refs ≠ [] := by
  cases gathers <;> simp [withPods]

theorem boundRefs_perm (gw : Unstructured) {routes others : List Unstructured}
    (permuted : routes.Perm others) : (boundRefs gw routes).Perm (boundRefs gw others) :=
  (permuted.filter _).flatMap_right _

/-- The backend references of the routes that are bound to the Gateway. -/
def refsOf (cluster : Cluster) (gw : Unstructured) : List BackendRef :=
  boundRefs gw (listed (cluster .gkeL4Route) (some gw.key.ns) [])

theorem ListsRoutes.boundRefs_perm {gw : Unstructured} {routes : List Unstructured}
    (lists : ListsRoutes rank cluster gw.key.ns routes) :
    (boundRefs gw routes).Perm (refsOf cluster gw) := by
  obtain ⟨count, rfl⟩ := lists
  exact Operator.boundRefs_perm gw (arranged_perm _ _)

/-- Whether there is a VIP does not depend on the order of the GKEGatewayCIDRs. -/
theorem ListsVIP.ne_empty_iff {gw : Unstructured} {networkName vip : String}
    (lists : ListsVIP rank cluster gw networkName vip) :
    vip ≠ "" ↔ gatewayVIP cluster gw networkName ≠ "" := by
  obtain ⟨count, rfl⟩ := lists
  unfold gatewayVIP
  cases staticAddress gw with
  | some value => exact Iff.rfl
  | none =>
      simp only [Option.getD_none]
      have offered (items : List Unstructured) :
          (((items.findSome? (offeredVIP networkName)).map dottedQuad).getD "") ≠ "" ↔
            ∃ item ∈ items, offeredVIP networkName item ≠ none := by
        cases found : items.findSome? (offeredVIP networkName) with
        | none => simpa using List.findSome?_eq_none_iff.mp found
        | some address =>
            obtain ⟨item, listed, offers⟩ := List.exists_of_findSome?_eq_some found
            exact iff_of_true (dottedQuad_ne_empty address) ⟨item, listed, by simp [offers]⟩
      rw [offered, offered]
      simp only [(arranged_perm _ _).mem_iff]

end Gathered

end GemEmulation.Operator
