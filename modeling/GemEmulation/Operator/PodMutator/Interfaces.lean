import GemEmulation.Operator.PodMutator.Merging

/-!
# Interface names after a merge

A requested interface lands on the first entry of its network that has its name
or no name at all.  An entry without a name before the one that has it already is
given the same name, and the Pod asks for one interface twice.
-/

namespace GemEmulation.Operator

open Foundations Kube

def interfaceNames (entries : List MultusNetworkSpec) : List String :=
  (entries.map MultusNetworkSpec.interface).filter fun interface => decide (interface ≠ "")

/-- The entries of a network without an interface before the entry that has the
requested one. -/
def unnamedBefore (sec : MultusNetworkSpec) : List MultusNetworkSpec → Nat
  | [] => 0
  | entry :: rest =>
      if entry.interface = sec.interface then 0
      else (if entry.name = sec.name ∧ entry.interface = "" then 1 else 0) + unnamedBefore sec rest

/-- The requested networks that compete for such entries: they ask for an interface
that no entry has. -/
def competitors (existing earlier : List MultusNetworkSpec) (sec : MultusNetworkSpec) : Nat :=
  earlier.countP fun other =>
    decide (other.name = sec.name ∧ other.interface ∉ interfaceNames existing)

/-- When a requested network's turn comes, earlier ones have taken all entries
without an interface before the entry that has its interface. -/
def NeverOvertaken (existing requested : List MultusNetworkSpec) : Prop :=
  ∀ earlier sec later, requested = earlier ++ sec :: later →
    sec.interface ∈ interfaceNames existing →
      unnamedBefore sec existing ≤ competitors existing earlier sec

theorem interfaceNames_cons (entry : MultusNetworkSpec) (rest : List MultusNetworkSpec) :
    interfaceNames (entry :: rest) =
      if entry.interface = "" then interfaceNames rest
      else entry.interface :: interfaceNames rest := by
  by_cases empty : entry.interface = "" <;> simp [interfaceNames, empty]

theorem nonempty_of_mem_interfaceNames {interface : String} {entries : List MultusNetworkSpec}
    (listed : interface ∈ interfaceNames entries) : interface ≠ "" := by
  simpa using (List.mem_filter.mp listed).2

theorem mem_interfaceNames_cons {interface : String} (entry : MultusNetworkSpec)
    (rest : List MultusNetworkSpec) :
    interface ∈ interfaceNames (entry :: rest) ↔
      (interface ≠ "" ∧ entry.interface = interface) ∨ interface ∈ interfaceNames rest := by
  rw [interfaceNames_cons]
  by_cases empty : entry.interface = ""
  · rw [if_pos empty, empty]
    exact ⟨.inr, fun listed => listed.resolve_left fun same => same.1 same.2.symm⟩
  · rw [if_neg empty, List.mem_cons]
    refine or_congr_left ⟨fun same => ⟨same ▸ empty, same.symm⟩, fun same => same.2.symm⟩

theorem adoptInterface_interface (sec entry : MultusNetworkSpec) :
    (adoptInterface sec entry).interface =
      if entry.interface = "" then sec.interface else entry.interface := by
  unfold adoptInterface
  by_cases empty : entry.interface = "" <;> by_cases missing : sec.interface = "" <;>
    simp [empty, missing]

theorem mem_interfaceNames_claim {sec : MultusNetworkSpec} {interface : String}
    (other : interface ≠ sec.interface) (entries : List MultusNetworkSpec) :
    interface ∈ interfaceNames (claim sec entries) ↔ interface ∈ interfaceNames entries := by
  induction entries with
  | nil =>
      rw [claim, mem_interfaceNames_cons]
      exact or_iff_right fun same => other same.2.symm
  | cons entry rest inductionHypothesis =>
      by_cases matching : matchesSecondary sec entry = true
      · rw [claim, if_pos matching, interfaceNames_cons, interfaceNames_cons,
          adoptInterface_interface]
        by_cases empty : entry.interface = ""
        · by_cases missing : sec.interface = "" <;> simp [empty, missing, other]
        · simp [empty]
      · rw [claim, if_neg matching, interfaceNames_cons, interfaceNames_cons]
        by_cases empty : entry.interface = "" <;> simp [empty, inductionHypothesis]

theorem adoptInterface_interface_fresh {sec entry : MultusNetworkSpec}
    (matching : matchesSecondary sec entry = true) (named : sec.interface ≠ "")
    (fresh : entry.interface ≠ sec.interface) :
    entry.name = sec.name ∧ entry.interface = "" ∧
      (adoptInterface sec entry).interface = sec.interface := by
  simp only [matchesSecondary, decide_eq_true_eq] at matching
  have empty : entry.interface = "" := by tauto
  exact ⟨matching.1, empty, by rw [adoptInterface_interface, if_pos empty]⟩

/-- A network whose interface no entry has uses up an entry without one. -/
theorem unnamedBefore_claim {sec other : MultusNetworkSpec} {entries : List MultusNetworkSpec}
    (named : sec.interface ≠ "") (apart : other.interface ≠ sec.interface)
    (fresh : sec.interface ∉ interfaceNames entries)
    (present : other.interface ∈ interfaceNames entries) :
    unnamedBefore other (claim sec entries) =
      unnamedBefore other entries - if sec.name = other.name then 1 else 0 := by
  induction entries with
  | nil => simp [interfaceNames] at present
  | cons entry rest inductionHypothesis =>
      have nonempty := nonempty_of_mem_interfaceNames present
      rw [mem_interfaceNames_cons, not_or, not_and] at fresh
      obtain ⟨freshEntry, freshRest⟩ := fresh
      replace freshEntry := freshEntry named
      by_cases matching : matchesSecondary sec entry = true
      · obtain ⟨sameName, empty, adopted⟩ :=
          adoptInterface_interface_fresh matching named freshEntry
        rw [claim, if_pos matching, unnamedBefore, unnamedBefore, adopted, empty,
          if_neg apart.symm, if_neg nonempty.symm, sameName]
        by_cases sameNetwork : sec.name = other.name <;> simp [sameNetwork, named]
      · rw [claim, if_neg matching, unnamedBefore, unnamedBefore]
        by_cases own : entry.interface = other.interface
        · simp [own]
        · have later : other.interface ∈ interfaceNames rest :=
            ((mem_interfaceNames_cons _ _).mp present).resolve_left fun same => own same.2
          rw [if_neg own, if_neg own, inductionHypothesis freshRest later]
          by_cases sameNetwork : sec.name = other.name
          · -- An entry of the network without an interface would have matched.
            have taken : ¬ (entry.name = other.name ∧ entry.interface = "") := by
              rintro ⟨sameName, empty⟩
              exact matching (by simp [matchesSecondary, sameName, sameNetwork, empty])
            rw [if_neg taken, zero_add, zero_add]
          · simp [sameNetwork]

/-- A network that is not overtaken lands on the entry that has its interface. -/
theorem claim_own {sec : MultusNetworkSpec} {entries : List MultusNetworkSpec}
    (present : sec.interface ∈ interfaceNames entries)
    (agreeing : ∀ entry ∈ entries, entry.interface = sec.interface → entry.name = sec.name)
    (first : unnamedBefore sec entries = 0) : claim sec entries = entries := by
  induction entries with
  | nil => simp [interfaceNames] at present
  | cons entry rest inductionHypothesis =>
      have named := nonempty_of_mem_interfaceNames present
      by_cases own : entry.interface = sec.interface
      · have matching : matchesSecondary sec entry = true := by
          simp [matchesSecondary, own, agreeing entry List.mem_cons_self own]
        have kept : adoptInterface sec entry = entry := by
          rw [adoptInterface, if_neg]
          rintro ⟨empty, -⟩
          exact named (own ▸ empty)
        rw [claim, if_pos matching, kept]
      · rw [unnamedBefore, if_neg own] at first
        have notMatching : ¬ matchesSecondary sec entry = true := by
          intro matching
          have sameNetwork := (adoptInterface_interface_fresh matching named own)
          rw [if_pos ⟨sameNetwork.1, sameNetwork.2.1⟩] at first
          omega
        have later : sec.interface ∈ interfaceNames rest :=
          ((mem_interfaceNames_cons _ _).mp present).resolve_left fun same => own same.2
        rw [claim, if_neg notMatching, inductionHypothesis later
          (fun other inRest => agreeing other (List.mem_cons_of_mem _ inRest)) (by omega)]

/-- A network that is overtaken takes another entry for the same interface. -/
theorem claim_overtaken {sec : MultusNetworkSpec} {entries : List MultusNetworkSpec}
    (present : sec.interface ∈ interfaceNames entries) (unnamed : 0 < unnamedBefore sec entries) :
    ¬ (interfaceNames (claim sec entries)).Nodup := by
  induction entries with
  | nil => simp [interfaceNames] at present
  | cons entry rest inductionHypothesis =>
      have named := nonempty_of_mem_interfaceNames present
      by_cases own : entry.interface = sec.interface
      · simp [unnamedBefore, own] at unnamed
      · have later : sec.interface ∈ interfaceNames rest :=
          ((mem_interfaceNames_cons _ _).mp present).resolve_left fun same => own same.2
        by_cases matching : matchesSecondary sec entry = true
        · have adopted := (adoptInterface_interface_fresh matching named own).2.2
          rw [claim, if_pos matching, interfaceNames_cons, adopted, if_neg named, List.nodup_cons]
          exact fun distinct => distinct.1 later
        · rw [unnamedBefore, if_neg own] at unnamed
          have notTaken : ¬ (entry.name = sec.name ∧ entry.interface = "") := by
            rintro ⟨sameName, empty⟩
            exact matching (by simp [matchesSecondary, sameName, empty])
          rw [if_neg notTaken, zero_add] at unnamed
          have duplicated := inductionHypothesis later unnamed
          rw [claim, if_neg matching, interfaceNames_cons]
          by_cases empty : entry.interface = ""
          · rwa [if_pos empty]
          · rw [if_neg empty, List.nodup_cons]
            exact fun distinct => duplicated distinct.2

theorem claim_fresh {sec : MultusNetworkSpec} {entries : List MultusNetworkSpec}
    (named : sec.interface ≠ "") (fresh : sec.interface ∉ interfaceNames entries)
    (distinct : (interfaceNames entries).Nodup) : (interfaceNames (claim sec entries)).Nodup := by
  induction entries with
  | nil => simp [claim, interfaceNames, named]
  | cons entry rest inductionHypothesis =>
      rw [mem_interfaceNames_cons, not_or, not_and] at fresh
      obtain ⟨freshEntry, freshRest⟩ := fresh
      replace freshEntry := freshEntry named
      rw [interfaceNames_cons] at distinct
      by_cases matching : matchesSecondary sec entry = true
      · obtain ⟨-, empty, adopted⟩ := adoptInterface_interface_fresh matching named freshEntry
        rw [if_pos empty] at distinct
        rw [claim, if_pos matching, interfaceNames_cons, adopted, if_neg named, List.nodup_cons]
        exact ⟨freshRest, distinct⟩
      · rw [claim, if_neg matching, interfaceNames_cons]
        by_cases empty : entry.interface = ""
        · rw [if_pos empty] at distinct ⊢
          exact inductionHypothesis freshRest distinct
        · rw [if_neg empty, List.nodup_cons] at distinct
          rw [if_neg empty, List.nodup_cons, mem_interfaceNames_claim freshEntry]
          exact ⟨distinct.1, inductionHypothesis freshRest distinct.2⟩

theorem interfaceNames_subset_claim (sec : MultusNetworkSpec) (entries : List MultusNetworkSpec) :
    interfaceNames entries ⊆ interfaceNames (claim sec entries) := by
  intro interface listed
  induction entries with
  | nil => simp [interfaceNames] at listed
  | cons entry rest inductionHypothesis =>
      rw [mem_interfaceNames_cons] at listed
      by_cases matching : matchesSecondary sec entry = true
      · rw [claim, if_pos matching, mem_interfaceNames_cons, adoptInterface_interface]
        apply listed.imp_left
        rintro ⟨nonempty, same⟩
        refine ⟨nonempty, ?_⟩
        rw [if_neg (same ▸ nonempty), same]
      · rw [claim, if_neg matching, mem_interfaceNames_cons]
        exact listed.imp_right inductionHypothesis

theorem distinct_of_claim {sec : MultusNetworkSpec} {entries : List MultusNetworkSpec}
    (distinct : (interfaceNames (claim sec entries)).Nodup) : (interfaceNames entries).Nodup := by
  induction entries with
  | nil => simp [interfaceNames]
  | cons entry rest inductionHypothesis =>
      by_cases matching : matchesSecondary sec entry = true
      · rw [claim, if_pos matching, interfaceNames_cons, adoptInterface_interface] at distinct
        rw [interfaceNames_cons]
        by_cases empty : entry.interface = ""
        · rw [if_pos empty]
          rw [if_pos empty] at distinct
          split at distinct
          next => exact distinct
          next => exact (List.nodup_cons.mp distinct).2
        · rw [if_neg empty]
          rwa [if_neg empty, if_neg empty] at distinct
      · rw [claim, if_neg matching, interfaceNames_cons] at distinct
        rw [interfaceNames_cons]
        by_cases empty : entry.interface = ""
        · rw [if_pos empty] at distinct ⊢
          exact inductionHypothesis distinct
        · rw [if_neg empty, List.nodup_cons] at distinct ⊢
          exact ⟨fun listed => distinct.1 (interfaceNames_subset_claim sec rest listed),
            inductionHypothesis distinct.2⟩

theorem distinct_of_claimAll {requested entries : List MultusNetworkSpec}
    (distinct : (interfaceNames (claimAll entries requested)).Nodup) :
    (interfaceNames entries).Nodup := by
  induction requested generalizing entries with
  | nil => exact distinct
  | cons sec rest inductionHypothesis => exact distinct_of_claim (inductionHypothesis distinct)

theorem neverOvertaken_cons {existing rest : List MultusNetworkSpec} {first : MultusNetworkSpec} :
    NeverOvertaken existing (first :: rest) ↔
      (first.interface ∈ interfaceNames existing → unnamedBefore first existing = 0) ∧
        ∀ earlier sec later, rest = earlier ++ sec :: later →
          sec.interface ∈ interfaceNames existing →
            unnamedBefore sec existing ≤ competitors existing (first :: earlier) sec := by
  constructor
  · intro never
    refine ⟨fun present => ?_, fun earlier sec later shape => ?_⟩
    · simpa [competitors] using never [] first rest rfl present
    · exact never (first :: earlier) sec later (by rw [shape, List.cons_append])
  · rintro ⟨head, tail⟩ earlier sec later shape present
    cases earlier with
    | nil =>
        obtain ⟨rfl, rfl⟩ := List.cons.inj shape
        rw [head present]
        exact Nat.zero_le _
    | cons other earlier =>
        obtain ⟨rfl, rfl⟩ := List.cons.inj shape
        exact tail earlier sec later rfl present

/-- What holds of the entries and of the networks that are still to land. -/
structure Mergeable (entries requested : List MultusNetworkSpec) : Prop where
  distinct : (interfaceNames entries).Nodup
  apart : (requested.map MultusNetworkSpec.interface).Nodup
  named : ∀ sec ∈ requested, sec.interface ≠ ""
  agreeing : ∀ entry ∈ entries, ∀ sec ∈ requested, entry.interface = sec.interface →
    entry.name = sec.name

theorem mem_claim {sec entry : MultusNetworkSpec} {entries : List MultusNetworkSpec}
    (listed : entry ∈ claim sec entries) : entry ∈ entries ∨ entry.interface = sec.interface := by
  induction entries with
  | nil => exact .inr (congrArg _ (List.mem_singleton.mp listed))
  | cons existing rest inductionHypothesis =>
      by_cases matching : matchesSecondary sec existing = true
      · rw [claim, if_pos matching] at listed
        rcases List.mem_cons.mp listed with rfl | later
        · by_cases empty : existing.interface = ""
          · exact .inr (by rw [adoptInterface_interface, if_pos empty])
          · refine .inl (List.mem_cons.mpr (.inl ?_))
            rw [adoptInterface, if_neg fun adopts => empty adopts.1]
        · exact .inl (List.mem_cons_of_mem _ later)
      · rw [claim, if_neg matching] at listed
        rcases List.mem_cons.mp listed with rfl | later
        · exact .inl List.mem_cons_self
        · exact (inductionHypothesis later).imp_left (List.mem_cons_of_mem _)

namespace Mergeable

variable {entries rest : List MultusNetworkSpec} {sec : MultusNetworkSpec}

theorem apart_head (mergeable : Mergeable entries (sec :: rest)) {other : MultusNetworkSpec}
    (later : other ∈ rest) : other.interface ≠ sec.interface := fun same =>
  (List.nodup_cons.mp mergeable.apart).1 (List.mem_map.mpr ⟨other, later, same⟩)

theorem tail (mergeable : Mergeable entries (sec :: rest)) : Mergeable entries rest where
  distinct := mergeable.distinct
  apart := (List.nodup_cons.mp mergeable.apart).2
  named other later := mergeable.named other (List.mem_cons_of_mem _ later)
  agreeing entry listed other later :=
    mergeable.agreeing entry listed other (List.mem_cons_of_mem _ later)

theorem claim (mergeable : Mergeable entries (sec :: rest))
    (fresh : sec.interface ∉ interfaceNames entries) :
    Mergeable (Operator.claim sec entries) rest where
  distinct := claim_fresh (mergeable.named sec List.mem_cons_self) fresh mergeable.distinct
  apart := mergeable.tail.apart
  named := mergeable.tail.named
  agreeing entry listed other later same := by
    rcases mem_claim listed with old | claimed
    · exact mergeable.tail.agreeing entry old other later same
    · exact absurd (same.symm.trans claimed) (mergeable.apart_head later)

end Mergeable

/-- A fresh network changes what later ones meet by the entry that it takes. -/
theorem neverOvertaken_claim {entries rest : List MultusNetworkSpec} {sec : MultusNetworkSpec}
    (mergeable : Mergeable entries (sec :: rest)) (fresh : sec.interface ∉ interfaceNames entries) :
    NeverOvertaken (claim sec entries) rest ↔
      ∀ earlier other later, rest = earlier ++ other :: later →
        other.interface ∈ interfaceNames entries →
          unnamedBefore other entries ≤ competitors entries (sec :: earlier) other := by
  refine forall₃_congr fun earlier other later => forall_congr' fun shape => ?_
  have inRest : ∀ network ∈ earlier ++ other :: later, network.interface ≠ sec.interface :=
    fun network listed => mergeable.apart_head (shape ▸ listed)
  have apart := inRest other (by simp)
  have same : competitors (claim sec entries) earlier other =
      competitors entries earlier other := by
    apply List.countP_congr
    intro network listed
    simp [mem_interfaceNames_claim (inRest network (by simp [listed]))]
  have counted : competitors entries (sec :: earlier) other =
      competitors entries earlier other + if sec.name = other.name then 1 else 0 := by
    simp [competitors, List.countP_cons, fresh]
  rw [mem_interfaceNames_claim apart]
  apply forall_congr'
  intro present
  rw [unnamedBefore_claim (mergeable.named sec List.mem_cons_self) apart fresh present, same,
    counted]
  omega

/-- The interface names stay distinct exactly when no requested network is
overtaken. -/
theorem claimAll_distinct_iff {entries requested : List MultusNetworkSpec}
    (mergeable : Mergeable entries requested) :
    (interfaceNames (claimAll entries requested)).Nodup ↔ NeverOvertaken entries requested := by
  induction requested generalizing entries with
  | nil =>
      apply iff_of_true mergeable.distinct
      intro earlier sec later shape
      simp at shape
  | cons sec rest inductionHypothesis =>
      rw [neverOvertaken_cons]
      change (interfaceNames (claimAll (claim sec entries) rest)).Nodup ↔ _
      by_cases present : sec.interface ∈ interfaceNames entries
      · by_cases first : unnamedBefore sec entries = 0
        · have own := claim_own present (fun entry listed =>
            mergeable.agreeing entry listed sec List.mem_cons_self) first
          rw [own, inductionHypothesis mergeable.tail]
          have same : ∀ earlier other,
              competitors entries (sec :: earlier) other = competitors entries earlier other :=
            fun earlier other => by simp [competitors, present]
          simp only [same, first, implies_true, true_and]
          rfl
        · refine iff_of_false (fun distinct => ?_) fun never => first (never.1 present)
          exact claim_overtaken present (Nat.pos_of_ne_zero first) (distinct_of_claimAll distinct)
      · rw [inductionHypothesis (mergeable.claim present), neverOvertaken_claim mergeable present]
        exact (and_iff_right fun listed => absurd listed present).symm

theorem interfaceNames_bare (entries : List MultusNetworkSpec) :
    interfaceNames (entries.map bare) = interfaceNames entries := by
  rw [interfaceNames, List.map_map]
  rfl

/-- A merge keeps interface names distinct exactly when no requested interface is
overtaken: as many entries of its network without an interface as stand before the
entry that has it are taken by earlier requests. -/
theorem mergedInterfaces_distinct_iff {hasClient : Bool} {pod mutated : Pod} {client : Client}
    {session : Session}
    (mutates : (mutatePodInterfacesWithContext hasClient pod client session).1 =
      .ok (true, mutated))
    (mergeable : Mergeable (existingMultusOf pod) (requestedNetworks pod)) :
    (interfaceNames (existingMultusOf mutated)).Nodup ↔
      NeverOvertaken (existingMultusOf pod) (requestedNetworks pod) := by
  obtain ⟨plan, merged, planned, loop, rfl⟩ := mutatePodInterfacesWithContext_ok mutates
  have landed := mergeSecondaries_bare (fun sec => planMutation_ips planned) loop
  rw [planMutation_start planned, ← requestedNetworks_of_plan planned] at landed
  rw [existingMultusOf_mutatedPod, ← claimAll_distinct_iff mergeable, ← interfaceNames_bare,
    landed, interfaceNames_bare]

/-- The first entry has no interface, the second one has the requested one. -/
def overtakingEntries : List MultusNetworkSpec := [⟨"n", "", []⟩, ⟨"n", "eth1", []⟩]

theorem planMutation_eth1 (existing : List MultusNetworkSpec) :
    planMutation (interfacesPod [⟨"eth1", "n"⟩] existing) =
      some ⟨[], [⟨"n", "eth1", []⟩], ⟨existing,
        excludeIPs (existing.flatMap MultusNetworkSpec.ips)⟩⟩ :=
  planMutation_interfacesPod (by decide) (by decide) existing

theorem mergeable_eth1 {existing : List MultusNetworkSpec}
    (distinct : (interfaceNames existing).Nodup)
    (sameNetwork : ∀ entry ∈ existing, entry.name = "n") :
    Mergeable (existingMultusOf (interfacesPod [⟨"eth1", "n"⟩] existing))
      (requestedNetworks (interfacesPod [⟨"eth1", "n"⟩] existing)) := by
  rw [existingMultusOf_interfacesPod, requestedNetworks_of_plan (planMutation_eth1 existing)]
  refine ⟨distinct, by simp, by simp, fun entry listed sec requested _ => ?_⟩
  rw [List.mem_singleton.mp requested]
  exact sameNetwork entry listed

theorem overtaken_duplicates :
    Mergeable (existingMultusOf (interfacesPod [⟨"eth1", "n"⟩] overtakingEntries))
        (requestedNetworks (interfacesPod [⟨"eth1", "n"⟩] overtakingEntries)) ∧
      ∃ mutated, (mutatePodInterfacesWithContext false (interfacesPod [⟨"eth1", "n"⟩]
          overtakingEntries) noFaults ⟨∅, "", [], []⟩).1 = .ok (true, mutated) ∧
        interfaceNames (existingMultusOf mutated) = ["eth1", "eth1"] := by
  have mutates := @mutatePodInterfacesWithContext_of_merge false _ _ _ noFaults ⟨∅, "", [], []⟩
    (planMutation_eth1 overtakingEntries) rfl
  refine ⟨mergeable_eth1 (by decide) (by decide), _, mutates, ?_⟩
  rw [existingMultusOf_mutatedPod]
  rfl

/-- A Pod that asks for two interfaces; one entry has the first of them, and one has none. -/
def namedPod : Pod :=
  interfacesPod [⟨"eth1", "n"⟩, ⟨"eth2", "n"⟩] [⟨"n", "eth1", []⟩, ⟨"n", "", []⟩]

theorem mergedInterfaces_distinct_named :
    (interfaceNames (existingMultusOf (mutatedPod namedPod []
        [⟨"n", "eth1", []⟩, ⟨"n", "eth2", []⟩]))).Nodup ↔
      NeverOvertaken (existingMultusOf namedPod) (requestedNetworks namedPod) := by
  have planned : planMutation namedPod = some ⟨[], [⟨"n", "eth1", []⟩, ⟨"n", "eth2", []⟩],
      ⟨[⟨"n", "eth1", []⟩, ⟨"n", "", []⟩], []⟩⟩ :=
    planMutation_interfacesPod (by decide) (by decide) _
  have mutates := @mutatePodInterfacesWithContext_of_merge false _ _ _ noFaults ⟨∅, "", [], []⟩
    planned rfl
  have mergeable : Mergeable (existingMultusOf namedPod) (requestedNetworks namedPod) := by
    rw [requestedNetworks_of_plan planned, namedPod, existingMultusOf_interfacesPod]
    exact ⟨by decide, by decide, by decide, by decide⟩
  exact mergedInterfaces_distinct_iff mutates mergeable

end GemEmulation.Operator
