import GemEmulation.Operator.PodMutator.Mutator

/-!
# Where secondary networks land

The merge loop apart from its allocations: a secondary network lands on the
first entry that matches it, which adopts its interface, or becomes a new entry.
What a turn of the loop adds to that is an address for the entry.
-/

namespace GemEmulation.Operator

open Foundations Kube

def claim (sec : MultusNetworkSpec) : List MultusNetworkSpec → List MultusNetworkSpec
  | [] => [sec]
  | existing :: rest =>
      if matchesSecondary sec existing then adoptInterface sec existing :: rest
      else existing :: claim sec rest

def claimAll (entries requested : List MultusNetworkSpec) : List MultusNetworkSpec :=
  requested.foldl (fun entries sec => claim sec entries) entries

def landing (sec : MultusNetworkSpec) (entries : List MultusNetworkSpec) : Nat :=
  entries.findIdx (matchesSecondary sec)

def landings : List MultusNetworkSpec → List MultusNetworkSpec → List Nat
  | [], _ => []
  | sec :: rest, entries => landing sec entries :: landings rest (claim sec entries)

def bare (entry : MultusNetworkSpec) : MultusNetworkSpec := { entry with ips := [] }

theorem matchesSecondary_bare (sec entry : MultusNetworkSpec) :
    matchesSecondary sec (bare entry) = matchesSecondary sec entry := rfl

theorem bare_adoptInterface (sec entry : MultusNetworkSpec) :
    bare (adoptInterface sec entry) = adoptInterface sec (bare entry) := by
  unfold adoptInterface bare
  split <;> rfl

theorem map_bare_claim {sec : MultusNetworkSpec} (noIPs : sec.ips = [])
    (entries : List MultusNetworkSpec) :
    (claim sec entries).map bare = claim sec (entries.map bare) := by
  induction entries with
  | nil => simp [claim, bare, ← noIPs]
  | cons existing rest inductionHypothesis =>
      by_cases matching : matchesSecondary sec existing = true
      · simp [claim, matchesSecondary_bare, matching, bare_adoptInterface]
      · simp [claim, matchesSecondary_bare, matching, inductionHypothesis]

theorem map_bare_claimAll {requested : List MultusNetworkSpec}
    (noIPs : ∀ sec ∈ requested, sec.ips = []) (entries : List MultusNetworkSpec) :
    (claimAll entries requested).map bare = claimAll (entries.map bare) requested := by
  induction requested generalizing entries with
  | nil => rfl
  | cons sec rest inductionHypothesis =>
      have others : ∀ other ∈ rest, other.ips = [] := fun other listed =>
        noIPs other (List.mem_cons_of_mem _ listed)
      change (claimAll (claim sec entries) rest).map bare =
        claimAll (claim sec (entries.map bare)) rest
      rw [inductionHypothesis others, map_bare_claim (noIPs sec List.mem_cons_self)]

theorem landing_bare (sec : MultusNetworkSpec) (entries : List MultusNetworkSpec) :
    landing sec (entries.map bare) = landing sec entries := by
  rw [landing, List.findIdx_map]
  rfl

theorem landings_bare {requested : List MultusNetworkSpec} (noIPs : ∀ sec ∈ requested, sec.ips = [])
    (entries : List MultusNetworkSpec) :
    landings requested (entries.map bare) = landings requested entries := by
  induction requested generalizing entries with
  | nil => rfl
  | cons sec rest inductionHypothesis =>
      rw [landings, landings, landing_bare, ← map_bare_claim (noIPs sec List.mem_cons_self),
        inductionHypothesis fun other listed => noIPs other (List.mem_cons_of_mem _ listed)]

theorem claim_of_findIdx? {sec : MultusNetworkSpec} {entries : List MultusNetworkSpec}
    {foundIdx : Nat} (found : entries.findIdx? (matchesSecondary sec) = some foundIdx)
    (entry : MultusNetworkSpec) :
    landing sec entries = foundIdx ∧
      (claim sec entries)[foundIdx]? = some (adoptInterface sec (entries.getD foundIdx {})) ∧
        entries.set foundIdx entry = (claim sec entries).set foundIdx entry := by
  induction entries generalizing foundIdx with
  | nil => cases found
  | cons existing rest inductionHypothesis =>
      rw [List.findIdx?_cons] at found
      by_cases matching : matchesSecondary sec existing = true
      · rw [if_pos matching] at found
        cases found
        simp [landing, List.findIdx_cons, claim, matching]
      · rw [if_neg matching] at found
        obtain ⟨place, later, rfl⟩ := Option.map_eq_some_iff.mp found
        obtain ⟨lands, claimed, rewritten⟩ := inductionHypothesis later
        rw [landing] at lands
        simp [landing, List.findIdx_cons, claim, matching, lands, claimed, rewritten]

theorem claim_of_not_found {sec : MultusNetworkSpec} {entries : List MultusNetworkSpec}
    (found : entries.findIdx? (matchesSecondary sec) = none) :
    landing sec entries = entries.length ∧ claim sec entries = entries ++ [sec] := by
  induction entries with
  | nil => exact ⟨rfl, rfl⟩
  | cons existing rest inductionHypothesis =>
      rw [List.findIdx?_cons] at found
      by_cases matching : matchesSecondary sec existing = true
      · rw [if_pos matching] at found
        cases found
      · rw [if_neg matching, Option.map_eq_none_iff] at found
        obtain ⟨lands, claimed⟩ := inductionHypothesis found
        rw [landing] at lands
        simp [landing, List.findIdx_cons, claim, matching, lands, claimed]

/-- A turn of the loop: the network lands, and its entry may be given an address. -/
theorem mergeSecondary_lands {hasClient : Bool} {sec : MultusNetworkSpec}
    {state merged : MergeState} {client : Client} {session : Session}
    (succeeded : (mergeSecondary hasClient sec state client session).1 = .ok merged) :
    ∃ landed entry, (claim sec state.existingMultus)[landing sec state.existingMultus]? =
      some landed ∧
      (assignIPs hasClient sec.name landed state.inUseSet client session).1 =
        .ok (entry, merged.inUseSet) ∧
      merged.existingMultus =
        (claim sec state.existingMultus).set (landing sec state.existingMultus) entry := by
  cases found : state.existingMultus.findIdx? (matchesSecondary sec) with
  | some foundIdx =>
      simp only [mergeSecondary, found, Program.bind_apply] at succeeded
      generalize assignment : assignIPs hasClient sec.name
        (adoptInterface sec (state.existingMultus.getD foundIdx {})) state.inUseSet client session =
          outcome at succeeded
      obtain ⟨failure | ⟨entry, inUse⟩, after⟩ := outcome
      · contradiction
      · cases succeeded
        obtain ⟨lands, landed, rewritten⟩ := claim_of_findIdx? found entry
        rw [lands]
        exact ⟨_, entry, landed, congrArg Prod.fst assignment, rewritten⟩
  | none =>
      simp only [mergeSecondary, found, Program.bind_apply] at succeeded
      generalize assignment : assignIPs hasClient sec.name sec state.inUseSet client session =
        outcome at succeeded
      obtain ⟨failure | ⟨entry, inUse⟩, after⟩ := outcome
      · contradiction
      · cases succeeded
        obtain ⟨lands, claimed⟩ := claim_of_not_found found
        rw [lands, claimed]
        refine ⟨sec, entry, by simp, congrArg Prod.fst assignment, ?_⟩
        simp

theorem assignIPs_bare {hasClient : Bool} {netName : String} {entry result : MultusNetworkSpec}
    {inUseSet inUse : List String} {client : Client} {session : Session}
    (assigned : (assignIPs hasClient netName entry inUseSet client session).1 =
      .ok (result, inUse)) : bare result = bare entry := by
  rcases assignIPs_cases assigned with ⟨-, rfl, -⟩ | ⟨-, ipWithPrefix, -, rfl⟩ <;> rfl

theorem map_bare_set {entries : List MultusNetworkSpec} {place : Nat}
    {landed entry : MultusNetworkSpec} (found : entries[place]? = some landed)
    (same : bare entry = bare landed) : (entries.set place entry).map bare = entries.map bare := by
  obtain ⟨inRange, rfl⟩ := List.getElem?_eq_some_iff.mp found
  have inMap : place < (entries.map bare).length := by simpa using inRange
  have itself : bare entries[place] = (entries.map bare)[place] := by simp
  rw [List.map_set, same, itself, List.set_getElem_self inMap]

theorem mergeSecondaries_bare {hasClient : Bool} {requested : List MultusNetworkSpec}
    {state merged : MergeState} {client : Client} {session : Session}
    (noIPs : ∀ sec ∈ requested, sec.ips = [])
    (succeeded : (mergeSecondaries hasClient requested state client session).1 = .ok merged) :
    merged.existingMultus.map bare = (claimAll state.existingMultus requested).map bare := by
  induction requested generalizing state session with
  | nil =>
      cases succeeded
      rfl
  | cons sec rest inductionHypothesis =>
      have others : ∀ other ∈ rest, other.ips = [] := fun other listed =>
        noIPs other (List.mem_cons_of_mem _ listed)
      simp only [mergeSecondaries, Program.bind_apply] at succeeded
      generalize turn : mergeSecondary hasClient sec state client session = outcome at succeeded
      obtain ⟨failure | next, after⟩ := outcome
      · contradiction
      · obtain ⟨landed, entry, found, assigned, rewritten⟩ :=
          mergeSecondary_lands (congrArg Prod.fst turn)
        calc merged.existingMultus.map bare
            = claimAll (next.existingMultus.map bare) rest := by
              rw [inductionHypothesis others succeeded, map_bare_claimAll others]
          _ = claimAll ((claim sec state.existingMultus).map bare) rest := by
              rw [rewritten, map_bare_set found (assignIPs_bare assigned)]
          _ = (claimAll state.existingMultus (sec :: rest)).map bare :=
              (map_bare_claimAll others _).symm

end GemEmulation.Operator
