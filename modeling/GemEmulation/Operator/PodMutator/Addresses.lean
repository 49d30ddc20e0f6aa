import GemEmulation.Operator.PodMutator.Kept
import GemEmulation.Operator.PodMutator.Merging

/-!
# Addresses after a merge

Every entry that a requested network lands on has addresses at the end, explicit
addresses stay, and the allocated ones differ from each other and from those that
the Pod came with.
-/

namespace GemEmulation.Operator

open Foundations Kube Net

def ipsAt (entries : List MultusNetworkSpec) (place : Nat) : List String :=
  ((entries[place]?).map MultusNetworkSpec.ips).getD []

/-- An address that an entry has now and that was not given explicitly. -/
structure NewAddress (existing entries : List MultusNetworkSpec) (place : Nat) (ip : String) :
    Prop where
  implicit : ipsAt existing place = []
  listed : ip ∈ ipsAt entries place

theorem ipsAt_claim {sec : MultusNetworkSpec} (noIPs : sec.ips = [])
    (entries : List MultusNetworkSpec) (place : Nat) :
    ipsAt (claim sec entries) place = ipsAt entries place := by
  induction entries generalizing place with
  | nil => cases place <;> simp [claim, ipsAt, noIPs]
  | cons existing rest inductionHypothesis =>
      by_cases matching : matchesSecondary sec existing = true
      · cases place <;> simp [claim, matching, ipsAt, adoptInterface_ips]
      · cases place with
        | zero => simp [claim, matching, ipsAt]
        | succ place => simpa [claim, matching, ipsAt] using inductionHypothesis place

theorem ipsAt_set {entries : List MultusNetworkSpec} {place : Nat} {landed : MultusNetworkSpec}
    (found : entries[place]? = some landed) (entry : MultusNetworkSpec) (other : Nat) :
    ipsAt (entries.set place entry) other =
      if other = place then entry.ips else ipsAt entries other := by
  obtain ⟨inRange, -⟩ := List.getElem?_eq_some_iff.mp found
  by_cases same : other = place
  · subst same
    simp [ipsAt, inRange]
  · rw [if_neg same, ipsAt, ipsAt, List.getElem?_set_ne (Ne.symm same)]

/-- A turn with a client: the entry has addresses already, or gets one whose text was
not in use. -/
theorem mergeSecondary_address {sec : MultusNetworkSpec} {state merged : MergeState}
    {client : Client} {session : Session} (noIPs : sec.ips = [])
    (succeeded : (mergeSecondary true sec state client session).1 = .ok merged) :
    (ipsAt state.existingMultus (landing sec state.existingMultus) ≠ [] ∧
      merged.inUseSet = state.inUseSet ∧
      ∀ place, ipsAt merged.existingMultus place = ipsAt state.existingMultus place) ∨
    (ipsAt state.existingMultus (landing sec state.existingMultus) = [] ∧ ∃ ip u,
      cleanIP ip = dottedQuad u ∧ dottedQuad u ∉ state.inUseSet.map cleanIP ∧
      merged.inUseSet = state.inUseSet ++ [dottedQuad u] ∧
      ∀ place, ipsAt merged.existingMultus place =
        if place = landing sec state.existingMultus then [ip]
        else ipsAt state.existingMultus place) := by
  obtain ⟨landed, entry, found, assigned, rewritten⟩ := mergeSecondary_lands succeeded
  have before : ipsAt state.existingMultus (landing sec state.existingMultus) = landed.ips := by
    rw [← ipsAt_claim noIPs, ipsAt, found]
    rfl
  have after := fun place => ipsAt_set found entry place
  rw [← rewritten] at after
  simp only [ipsAt_claim noIPs] at after
  rcases assignIPs_cases assigned with ⟨given, rfl, unused⟩ | ⟨missing, ip, allocated, rfl⟩
  · refine .inl ⟨fun empty => given ⟨before ▸ empty, rfl⟩, unused, fun place => ?_⟩
    rw [after]
    split
    next same => rw [same, before]
    next => rfl
  · obtain ⟨u, prefixLen, written, inUse, unlisted, -⟩ := allocateSecondaryIP_ok allocated
    exact .inr ⟨before.trans missing, ip, u, by rw [written, cleanIP_allocated], unlisted, inUse,
      after⟩

/-- What holds of the entries and the set of addresses in use after some turns. -/
structure Addressed (existing : List MultusNetworkSpec) (state : MergeState) : Prop where
  kept : ∀ place, ipsAt existing place ≠ [] →
    ipsAt state.existingMultus place = ipsAt existing place
  single : ∀ place, ipsAt existing place = [] → ipsAt state.existingMultus place = [] ∨
    ∃ ip u, ipsAt state.existingMultus place = [ip] ∧ cleanIP ip = dottedQuad u ∧
      dottedQuad u ∈ state.inUseSet
  seen : ∀ entry ∈ existing, ∀ ip ∈ entry.ips, cleanIP ip ≠ "" → cleanIP ip ∈ state.inUseSet
  unlisted : ∀ place ip, NewAddress existing state.existingMultus place ip →
    ∀ entry ∈ existing, ∀ old ∈ entry.ips, cleanIP ip ≠ cleanIP old
  apart : ∀ place ip place' ip', NewAddress existing state.existingMultus place ip →
    NewAddress existing state.existingMultus place' ip' → place ≠ place' →
      cleanIP ip ≠ cleanIP ip'

theorem Addressed.start (existing : List MultusNetworkSpec) :
    Addressed existing ⟨existing, excludeIPs (existing.flatMap MultusNetworkSpec.ips)⟩ where
  kept _ _ := rfl
  single _ missing := .inl missing
  seen entry listed ip given nonempty := by
    rw [excludeIPs, List.mem_filter, decide_eq_true_eq]
    exact ⟨List.mem_map_of_mem (List.mem_flatMap.mpr ⟨entry, listed, given⟩), nonempty⟩
  unlisted place ip new := by
    have none := new.implicit ▸ new.listed
    cases none
  apart place ip place' ip' new := by
    have none := new.implicit ▸ new.listed
    cases none

/-- A dotted quad that is not among the cleaned texts is not among the texts. -/
theorem not_mem_of_not_mem_clean {inUseSet : List String} {u : IPv4}
    (unlisted : dottedQuad u ∉ inUseSet.map cleanIP) : dottedQuad u ∉ inUseSet := fun listed =>
  unlisted (List.mem_map.mpr ⟨_, listed, cleanIP_dottedQuad u⟩)

namespace Addressed

variable {existing : List MultusNetworkSpec} {state merged : MergeState}

/-- Only the addresses at each place and the set of addresses in use matter. -/
theorem congr (addressed : Addressed existing state) (unused : merged.inUseSet = state.inUseSet)
    (same : ∀ place, ipsAt merged.existingMultus place = ipsAt state.existingMultus place) :
    Addressed existing merged where
  kept place given := (same place).trans (addressed.kept place given)
  single place implicit := by
    rw [same, unused]
    exact addressed.single place implicit
  seen := by
    rw [unused]
    exact addressed.seen
  unlisted place ip new :=
    addressed.unlisted place ip ⟨new.implicit, same place ▸ new.listed⟩
  apart place ip place' ip' new new' :=
    addressed.apart place ip place' ip' ⟨new.implicit, same place ▸ new.listed⟩
      ⟨new'.implicit, same place' ▸ new'.listed⟩

theorem new_inUse (addressed : Addressed existing state) {place : Nat} {ip : String}
    (new : NewAddress existing state.existingMultus place ip) :
    ∃ u, cleanIP ip = dottedQuad u ∧ dottedQuad u ∈ state.inUseSet := by
  have listed := new.listed
  rcases addressed.single place new.implicit with none | ⟨only, u, alone, written, inUse⟩
  · rw [none] at listed
    cases listed
  · rw [alone, List.mem_singleton] at listed
    exact ⟨u, listed ▸ written, inUse⟩

theorem allocate (addressed : Addressed existing state) {landed : Nat} {ip : String} {u : IPv4}
    (missing : ipsAt state.existingMultus landed = []) (written : cleanIP ip = dottedQuad u)
    (fresh : dottedQuad u ∉ state.inUseSet)
    (inUse : merged.inUseSet = state.inUseSet ++ [dottedQuad u])
    (after : ∀ place, ipsAt merged.existingMultus place =
      if place = landed then [ip] else ipsAt state.existingMultus place) :
    Addressed existing merged := by
  have implicit : ipsAt existing landed = [] := by
    by_contra given
    exact given ((addressed.kept landed given).symm.trans missing)
  have old : ∀ {place other}, NewAddress existing merged.existingMultus place other →
      (place = landed ∧ other = ip) ∨
        (place ≠ landed ∧ NewAddress existing state.existingMultus place other) := by
    intro place other new
    have listed := new.listed
    rw [after] at listed
    split at listed
    next here => exact .inl ⟨here, List.mem_singleton.mp listed⟩
    next elsewhere => exact .inr ⟨elsewhere, new.implicit, listed⟩
  have unequal : ∀ {place other}, NewAddress existing state.existingMultus place other →
      cleanIP other ≠ cleanIP ip := by
    intro place other new same
    obtain ⟨u', spelled, known⟩ := addressed.new_inUse new
    rw [spelled, written] at same
    exact fresh (same ▸ known)
  refine ⟨?_, ?_, ?_, ?_, ?_⟩
  · intro place given
    have elsewhere : place ≠ landed := by
      rintro rfl
      exact given implicit
    rw [after, if_neg elsewhere]
    exact addressed.kept place given
  · intro place unassigned
    rw [after, inUse]
    split
    next => exact .inr ⟨ip, u, rfl, written, by simp⟩
    next =>
      refine (addressed.single place unassigned).imp_right
        fun ⟨only, u', alone, spelled, known⟩ => ?_
      exact ⟨only, u', alone, spelled, List.mem_append_left _ known⟩
  · intro entry listed given member nonempty
    rw [inUse]
    exact List.mem_append_left _ (addressed.seen entry listed given member nonempty)
  · intro place other new entry listed given member
    rcases old new with ⟨-, rfl⟩ | ⟨-, earlier⟩
    · intro same
      have known := addressed.seen entry listed given member
        (by rw [← same, written]; exact dottedQuad_ne_empty u)
      rw [← same, written] at known
      exact fresh known
    · exact addressed.unlisted place other earlier entry listed given member
  · intro place other place' other' new new' distinct
    rcases old new with ⟨here, rfl⟩ | ⟨-, earlier⟩ <;>
      rcases old new' with ⟨here', rfl⟩ | ⟨-, earlier'⟩
    · exact absurd (here.trans here'.symm) distinct
    · exact (unequal earlier').symm
    · exact unequal earlier
    · exact addressed.apart place other place' other' earlier earlier' distinct

/-- A turn of the loop keeps the invariant, and no place loses its addresses. -/
theorem step (addressed : Addressed existing state) {sec : MultusNetworkSpec} {client : Client}
    {session : Session} (noIPs : sec.ips = [])
    (succeeded : (mergeSecondary true sec state client session).1 = .ok merged) :
    Addressed existing merged ∧
      ipsAt merged.existingMultus (landing sec state.existingMultus) ≠ [] ∧
      ∀ place, ipsAt state.existingMultus place ≠ [] → ipsAt merged.existingMultus place ≠ [] := by
  rcases mergeSecondary_address noIPs succeeded with
    ⟨given, unused, same⟩ | ⟨missing, ip, u, written, fresh, inUse, after⟩
  · refine ⟨addressed.congr unused same, ?_, fun place => ?_⟩
    · rwa [same]
    · rw [same]
      exact id
  · refine ⟨addressed.allocate missing written (not_mem_of_not_mem_clean fresh) inUse after, ?_,
      fun place assigned => ?_⟩
    · simp [after]
    · rw [after]
      split
      next => simp
      next => exact assigned

end Addressed

/-- The whole loop with a client. -/
theorem mergeSecondaries_addressed {existing requested : List MultusNetworkSpec}
    {state merged : MergeState} {client : Client} {session : Session}
    (addressed : Addressed existing state) (noIPs : ∀ sec ∈ requested, sec.ips = [])
    (succeeded : (mergeSecondaries true requested state client session).1 = .ok merged) :
    Addressed existing merged ∧
      (∀ place ∈ landings requested state.existingMultus, ipsAt merged.existingMultus place ≠ []) ∧
      ∀ place, ipsAt state.existingMultus place ≠ [] → ipsAt merged.existingMultus place ≠ [] := by
  induction requested generalizing state session with
  | nil =>
      cases succeeded
      exact ⟨addressed, nofun, fun _ => id⟩
  | cons sec rest inductionHypothesis =>
      have others : ∀ other ∈ rest, other.ips = [] := fun other listed =>
        noIPs other (List.mem_cons_of_mem _ listed)
      simp only [mergeSecondaries, Program.bind_apply] at succeeded
      generalize turn : mergeSecondary true sec state client session = outcome at succeeded
      obtain ⟨failure | next, after⟩ := outcome
      · contradiction
      · have turned := congrArg Prod.fst turn
        obtain ⟨kept, landed, stays⟩ := addressed.step (noIPs sec List.mem_cons_self) turned
        obtain ⟨final, places, still⟩ := inductionHypothesis kept others succeeded
        refine ⟨final, ?_, fun place given => still place (stays place given)⟩
        -- The later networks land as if the entry had no address yet.
        have sameLandings : landings rest next.existingMultus =
            landings rest (claim sec state.existingMultus) := by
          obtain ⟨landed, entry, found, assigned, rewritten⟩ := mergeSecondary_lands turned
          rw [← landings_bare others, rewritten, map_bare_set found (assignIPs_bare assigned),
            landings_bare others]
        intro place listed
        rcases List.mem_cons.mp listed with rfl | later
        · exact still _ landed
        · exact places place (sameLandings ▸ later)

/-- After a mutation with a client, each place where a requested network landed has
addresses, explicit addresses are kept, and every other entry has at most one
address, which is new. -/
theorem mutation_addresses {pod mutated : Pod} {client : Client} {session : Session}
    (mutates : (mutatePodInterfacesWithContext true pod client session).1 = .ok (true, mutated)) :
    (∀ place ∈ landings (requestedNetworks pod) (existingMultusOf pod),
      ipsAt (existingMultusOf mutated) place ≠ []) ∧
    (∀ place, ipsAt (existingMultusOf pod) place ≠ [] →
      ipsAt (existingMultusOf mutated) place = ipsAt (existingMultusOf pod) place) ∧
    (∀ place ip, NewAddress (existingMultusOf pod) (existingMultusOf mutated) place ip →
      ipsAt (existingMultusOf mutated) place = [ip] ∧ (∃ u, cleanIP ip = dottedQuad u) ∧
        ∀ entry ∈ existingMultusOf pod, ∀ old ∈ entry.ips, cleanIP ip ≠ cleanIP old) ∧
    ∀ place ip place' ip', NewAddress (existingMultusOf pod) (existingMultusOf mutated) place ip →
      NewAddress (existingMultusOf pod) (existingMultusOf mutated) place' ip' → place ≠ place' →
        cleanIP ip ≠ cleanIP ip' := by
  obtain ⟨plan, merged, planned, loop, rfl⟩ := mutatePodInterfacesWithContext_ok mutates
  obtain ⟨ifaces, -, -, -, -, start⟩ := planMutation_some planned
  have addressed : Addressed (existingMultusOf pod) plan.start := by
    rw [start]
    exact .start _
  obtain ⟨final, places, -⟩ := mergeSecondaries_addressed addressed
    (fun sec => planMutation_ips planned) loop
  rw [planMutation_start planned, ← requestedNetworks_of_plan planned] at places
  rw [existingMultusOf_mutatedPod]
  refine ⟨places, final.kept, fun place ip new => ⟨?_, ?_, final.unlisted place ip new⟩,
    final.apart⟩
  · have listed := new.listed
    rcases final.single place new.implicit with none | ⟨only, u, alone, -⟩
    · rw [none] at listed
      cases listed
    · rw [alone, List.mem_singleton] at listed
      rw [alone, listed]
  · obtain ⟨u, written, -⟩ := final.new_inUse new
    exact ⟨u, written⟩

/-- A Pod that asks for two addresses of the small Network and brings its own of another. -/
def pairedPod : Pod :=
  interfacesPod [⟨"eth1", "n"⟩, ⟨"eth2", "n"⟩, ⟨"net1", "m"⟩] [⟨"m", "net1", ["10.9.0.7"]⟩]

def pairedEntries : List MultusNetworkSpec :=
  [⟨"m", "net1", ["10.9.0.7"]⟩, ⟨"n", "eth1", ["10.0.0.13/28"]⟩, ⟨"n", "eth2", ["10.0.0.14/28"]⟩]

def pairedPlan : MutationPlan where
  primaryIfaces := []
  secondaryNetworks := [⟨"n", "eth1", []⟩, ⟨"n", "eth2", []⟩, ⟨"m", "net1", []⟩]
  start := ⟨[⟨"m", "net1", ["10.9.0.7"]⟩], excludeIPs ["10.9.0.7"]⟩

theorem pairedPod_mutates :
    (mutatePodInterfacesWithContext true pairedPod noFaults smallSession).1 =
      .ok (true, mutatedPod pairedPod [] pairedEntries) := by
  have planned : planMutation pairedPod = some pairedPlan :=
    planMutation_interfacesPod (by decide) (by decide) _
  have merges : ((mergeSecondaries true pairedPlan.secondaryNetworks pairedPlan.start noFaults
      smallSession).1.map MergeState.existingMultus) = .ok pairedEntries := by
    decide +kernel
  cases merged : (mergeSecondaries true pairedPlan.secondaryNetworks pairedPlan.start noFaults
      smallSession).1 with
  | error error =>
      rw [merged] at merges
      cases merges
  | ok final =>
      rw [merged] at merges
      have entries : final.existingMultus = pairedEntries := Except.ok.inj merges
      rw [mutatePodInterfacesWithContext_of_merge planned merged, entries]
      rfl

theorem mutation_addresses_paired :
    let entries := existingMultusOf pairedPod
    let written := existingMultusOf (mutatedPod pairedPod [] pairedEntries)
    (∀ place ∈ landings (requestedNetworks pairedPod) entries, ipsAt written place ≠ []) ∧
    (∀ place, ipsAt entries place ≠ [] → ipsAt written place = ipsAt entries place) ∧
    (∀ place ip, NewAddress entries written place ip →
      ipsAt written place = [ip] ∧ (∃ u, cleanIP ip = dottedQuad u) ∧
        ∀ entry ∈ entries, ∀ old ∈ entry.ips, cleanIP ip ≠ cleanIP old) ∧
    ∀ place ip place' ip', NewAddress entries written place ip →
      NewAddress entries written place' ip' → place ≠ place' → cleanIP ip ≠ cleanIP ip' :=
  mutation_addresses pairedPod_mutates

end GemEmulation.Operator
