import GemEmulation.Operator.PodMutator.FirstFit
import GemEmulation.Operator.PodMutator.Uniqueness

/-!
# When addresses are released

The allocator never returns an address that a live Pod lists.  A Pod that has
a deletion timestamp counts as gone although it may still be running, so its
addresses are handed out again while it shuts down.
-/

namespace GemEmulation.Operator

open Foundations Foundations.Json Kube Net

theorem allocateSecondaryIP_unclaimed {netName : String} {inUseSet inUse : List String}
    {faults : Faults} {session : Session} {ipWithPrefix : String}
    (allocated : (allocateSecondaryIP netName inUseSet faults session).1 =
      .ok (ipWithPrefix, inUse))
    {pod : Pod} (stored : pod ∈ (session.cluster .pod).list) (live : isLive pod = true)
    {claim : String} (claimed : Claims netName pod claim) :
      cleanIP ipWithPrefix ≠ cleanIP claim := by
  obtain ⟨u, prefixLen, written, -, -, unclaimed⟩ := allocateSecondaryIP_ok allocated
  rw [written, cleanIP_allocated]
  intro same
  exact unclaimed pod stored (mem_excludePod.mpr
    ⟨live, dottedQuad_ne_empty u, claim, claimed, same.symm⟩)

/-- Whatever was admitted, stored and stopped before, an allocation spares the addresses,
written as dotted quads, that are listed by a stored Pod that has not stopped and is not being
deleted. -/
theorem allocation_spares_live {state : Admissions}
    {netName : String} {inUseSet inUse : List String} {faults : Faults} {ipWithPrefix : String}
    (allocated : (allocateSecondaryIP netName inUseSet faults state.session).1 =
      .ok (ipWithPrefix, inUse))
    {pod : Pod} (stored : pod ∈ (state.cluster .pod).list)
    (running : pod.body.phase ≠ .succeeded ∧ pod.body.phase ≠ .failed)
    (notDeleted : pod.metadata.deletionTimestamp = none)
    {claim : String} (claimed : Claims netName pod claim) {address : IPv4}
    (dotted : cleanIP claim = dottedQuad address) :
    cleanIP ipWithPrefix ≠ dottedQuad address := by
  have live : isLive pod = true := decide_eq_true ⟨running.1, running.2, notDeleted⟩
  exact dotted ▸ allocateSecondaryIP_unclaimed allocated stored live claimed

def runningPod : List AdmissionEvent :=
  [.arrive 0 (requestingPod "a"), .advance 0 noFaults, .store 0,
    .setPhase ⟨"default", "a"⟩ .running]

theorem allocation_spares_runningPod :
    ∃ state, Run admissionStep Serialised (.initial bareCluster) runningPod state ∧
      ∃ ipWithPrefix inUse, (allocateSecondaryIP "n" [] noFaults state.session).1 =
        .ok (ipWithPrefix, inUse) ∧ cleanIP ipWithPrefix ≠ dottedQuad (ofOctets 10 0 0 10) := by
  have spared : (executeChecked admissionStep serialises (.initial bareCluster) runningPod).any
      (fun state => (state.cluster .pod).list.any (fun pod =>
          decide (pod.body.phase = .running ∧ pod.metadata.deletionTimestamp = none ∧
            claimedIPs "n" pod = ["10.0.0.10/24"])) &&
        decide ((allocateSecondaryIP "n" [] noFaults state.session).1 =
          .ok ("10.0.0.11/24", ["10.0.0.11"]))) = true := by
    decide +kernel
  obtain ⟨state, executed, spared⟩ := (Option.any_eq_true _ _).mp spared
  simp only [Bool.and_eq_true, List.any_eq_true, decide_eq_true_eq] at spared
  obtain ⟨⟨pod, stored, running, notDeleted, claims⟩, allocated⟩ := spared
  have claimed : Claims "n" pod "10.0.0.10/24" := by
    rw [← mem_claimedIPs, claims]
    exact List.mem_singleton_self _
  exact ⟨state, run_of_executeChecked serialised_of_serialises executed, _, _, allocated,
    allocation_spares_live allocated stored (by rw [running]; decide) notDeleted claimed (by rfl)⟩

def terminatingPod : List AdmissionEvent :=
  [.arrive 0 (requestingPod "a"), .advance 0 noFaults, .store 0,
    .setPhase ⟨"default", "a"⟩ .running, .terminate ⟨"default", "a"⟩ "2026-01-01T00:00:00Z"]

theorem terminatingPod_released :
    ∃ state, Run admissionStep Serialised (.initial bareCluster) terminatingPod state ∧
      ∃ pod ∈ (state.cluster .pod).list, pod.body.phase = .running ∧
        Claims "n" pod "10.0.0.10/24" ∧
          (allocateSecondaryIP "n" [] noFaults state.session).1 =
            .ok ("10.0.0.10/24", ["10.0.0.10"]) := by
  have released : (executeChecked admissionStep serialises (.initial bareCluster)
      terminatingPod).any (fun state =>
        (state.cluster .pod).list.any (fun pod => decide (pod.body.phase = .running ∧
          claimedIPs "n" pod = ["10.0.0.10/24"])) &&
        decide ((allocateSecondaryIP "n" [] noFaults state.session).1 =
          .ok ("10.0.0.10/24", ["10.0.0.10"]))) = true := by
    decide +kernel
  obtain ⟨state, executed, released⟩ := (Option.any_eq_true _ _).mp released
  simp only [Bool.and_eq_true, List.any_eq_true, decide_eq_true_eq] at released
  obtain ⟨⟨pod, stored, running, claims⟩, allocated⟩ := released
  refine ⟨state, run_of_executeChecked serialised_of_serialises executed, pod, stored, running,
    ?_, allocated⟩
  rw [← mem_claimedIPs, claims]
  exact List.mem_singleton_self _

end GemEmulation.Operator
