import GemEmulation.Operator.PodMutator.Admission
import GemEmulation.Operator.PodMutator.Exclusion

/-!
# When allocated addresses are unique

Two requests that both read the Pods before either is stored may be given the
same address.  When requests are serialised for each Network this cannot
happen: an address that a request holds is held by no live Pod, and once its
Pod is stored the annotation keeps later requests from it.
-/

namespace GemEmulation.Operator

open Foundations Foundations.Json Kube Net

def Carries (pod : Pod) (netName address : String) : Prop :=
  ∃ entry, Annotates decodeMultusNetworks pod annotationMultusNetworks entry ∧
    entry.name = netName ∧ ∃ ip ∈ entry.ips, cleanIP ip = address

theorem Carries.excluded {pod : Pod} {netName address : String}
    (carries : Carries pod netName address) (live : isLive pod = true)
    (nonempty : address ≠ "") : address ∈ excludePod netName pod := by
  obtain ⟨entry, annotated, named, ip, listed, written⟩ := carries
  exact mem_excludePod.mpr ⟨live, nonempty, ip, .network annotated named listed, written⟩

theorem Carries.ofSameAnnotations {pod next : Pod} {netName address : String}
    (same : next.metadata.annotations.get? annotationMultusNetworks =
      pod.metadata.annotations.get? annotationMultusNetworks)
    (carries : Carries pod netName address) : Carries next netName address := by
  obtain ⟨entry, ⟨raw, entries, found, decoded, listed⟩, rest⟩ := carries
  exact ⟨entry, ⟨raw, entries, same.trans found, decoded, listed⟩, rest⟩

theorem carries_mutated {admission : Admission} {entry : MultusNetworkSpec}
    {netName address ip : String} (listed : entry ∈ admission.merge.existingMultus)
    (named : entry.name = netName) (assigned : ip ∈ entry.ips) (written : cleanIP ip = address) :
    Carries (createdPod admission.mutated) netName address :=
  ⟨entry, ⟨_, _, mutatedAnnotations_multus _ _ _, unmarshalStrict_marshalMultusNetworks _,
    listed⟩, named, ip, assigned, written⟩

structure AdmissionInvariant (state : Admissions) : Prop where
  carried : ∀ pod ∈ (state.cluster .pod).list, ∀ grant ∈ state.held pod.key,
    grant.2 ≠ "" ∧ Carries pod grant.1 grant.2
  merged : ∀ id admission, state.pending.get? id = some admission →
    ∀ grant ∈ admission.grants, grant.2 ≠ "" ∧
      ∃ entry ∈ admission.merge.existingMultus, entry.name = grant.1 ∧
        ∃ ip ∈ entry.ips, cleanIP ip = grant.2
  fresh : ∀ id admission, state.pending.get? id = some admission →
    ∀ grant ∈ admission.grants, ∀ pod ∈ (state.cluster .pod).list, isLive pod = true →
      grant ∉ state.held pod.key
  unique : NoDuplicates state

theorem admissionInvariant_initial (cluster : Cluster) :
    AdmissionInvariant (.initial cluster) where
  carried pod _ grant held := by simp [Admissions.initial, Admissions.held] at held
  merged id admission found := by simp [Admissions.initial] at found
  fresh id admission found := by simp [Admissions.initial] at found
  unique first _ second _ _ _ _ grant held := by simp [Admissions.initial, Admissions.held] at held

/-- A Pod of the next state holds nothing, or is a later stage of a Pod that
held the same. -/
def Descends (state next : Admissions) (pod : Pod) : Prop :=
  next.held pod.key = [] ∨
    ∃ earlier ∈ (state.cluster .pod).list, earlier.key = pod.key ∧
      next.held pod.key = state.held pod.key ∧ (isLive pod = true → isLive earlier = true) ∧
        ∀ netName address, Carries earlier netName address → Carries pod netName address

theorem AdmissionInvariant.descend {state next : Admissions} (invariant : AdmissionInvariant state)
    (pods : ∀ pod ∈ (next.cluster .pod).list, Descends state next pod)
    (requests : ∀ id admission, next.pending.get? id = some admission →
      state.pending.get? id = some admission ∨ admission.grants = []) :
    AdmissionInvariant next where
  carried pod stored grant held := by
    rcases pods pod stored with nothing | ⟨earlier, stored', sameKey, same, -, carries⟩
    · simp [nothing] at held
    · rw [same, ← sameKey] at held
      obtain ⟨nonempty, carried⟩ := invariant.carried earlier stored' grant held
      exact ⟨nonempty, carries _ _ carried⟩
  merged id admission found grant granted := by
    rcases requests id admission found with before | nothing
    · exact invariant.merged id admission before grant granted
    · simp [nothing] at granted
  fresh id admission found grant granted pod stored live held := by
    rcases requests id admission found with before | nothing
    · rcases pods pod stored with nothing | ⟨earlier, stored', sameKey, same, lived, -⟩
      · simp [nothing] at held
      · rw [same, ← sameKey] at held
        exact invariant.fresh id admission before grant granted earlier stored' (lived live) held
    · simp [nothing] at granted
  unique first stored second stored' different live live' grant held held' := by
    rcases pods first stored with nothing | ⟨earlier, before, sameKey, same, lived, -⟩
    · simp [nothing] at held
    · rcases pods second stored' with nothing | ⟨earlier', before', sameKey', same', lived', -⟩
      · simp [nothing] at held'
      · rw [same, ← sameKey] at held
        rw [same', ← sameKey'] at held'
        exact invariant.unique earlier before earlier' before' (by rwa [sameKey, sameKey'])
          (lived live) (lived' live') grant held held'

theorem descends_self {state next : Admissions} {pod : Pod}
    (stored : pod ∈ (state.cluster .pod).list) (same : next.held pod.key = state.held pod.key) :
    Descends state next pod :=
  .inr ⟨pod, stored, rfl, same, id, fun _ _ => id⟩

/-- A later stage of a Pod is not alive again, and carries what it carried. -/
theorem changePod_invariant {state next : Admissions} {key : ObjectKey}
    {change : Pod → Option Pod} (invariant : AdmissionInvariant state)
    (changed : changePod state key change = some next)
    (later : ∀ pod stage, change pod = some stage →
      (isLive stage = true → isLive pod = true) ∧
        stage.metadata.annotations.get? annotationMultusNetworks =
          pod.metadata.annotations.get? annotationMultusNetworks) :
    AdmissionInvariant next := by
  unfold changePod at changed
  obtain ⟨pod, found, changed⟩ := Option.bind_eq_some_iff.mp changed
  obtain ⟨stage, advanced, changed⟩ := Option.bind_eq_some_iff.mp changed
  split at changed
  next sameKey =>
    cases changed
    have podKey := Store.key_of_get? found
    obtain ⟨notRevived, sameAnnotation⟩ := later pod stage advanced
    refine invariant.descend (fun other stored => ?_) fun _ _ found => .inl found
    simp only [Cluster.put_self, Store.mem_list, Store.get?_put] at stored
    split at stored
    next =>
      cases stored
      refine .inr ⟨pod, ?_, podKey.trans sameKey.symm, rfl, notRevived, fun _ _ carries =>
        carries.ofSameAnnotations sameAnnotation⟩
      rw [Store.mem_list, podKey]
      exact found
    next => exact descends_self (Store.mem_list.mpr stored) rfl
  next => contradiction

/-- A turn of the loop hands out at most an address that no live Pod holds. -/
theorem advance_invariant {state : Admissions} {id : Nat} {faults : Faults}
    {admission : Admission} {sec : MultusNetworkSpec} {rest : List MultusNetworkSpec}
    {merge : MergeState} (invariant : AdmissionInvariant state)
    (found : state.pending.get? id = some admission)
    (succeeded : (mergeSecondary true sec admission.merge faults state.session).1 = .ok merge) :
    AdmissionInvariant { state with
      pending := state.pending.set id (admission.merged sec rest merge) } := by
  obtain ⟨kept, handedOut⟩ := mergeSecondary_ok succeeded
  -- Every grant is an old one or the address handed out in this turn.
  have grants : ∀ grant ∈ (admission.merged sec rest merge).grants,
      grant ∈ admission.grants ∨ ∃ entry ∈ merge.existingMultus, grant.1 = sec.name ∧
        FreshAddress state.cluster sec.name entry grant.2 := by
    intro grant granted
    rcases List.mem_append.mp granted with before | now
    · exact .inl before
    · rcases handedOut with same | ⟨address, added, entry, listed, fresh⟩
      · simp [same] at now
      · rw [added, List.drop_left, List.map_singleton, List.mem_singleton] at now
        subst now
        exact .inr ⟨entry, listed, rfl, fresh⟩
  refine ⟨invariant.carried, ?_, ?_, invariant.unique⟩
  · intro other waiting present grant granted
    rw [Dict.get?_set] at present
    split at present
    next =>
      cases present
      rcases grants grant granted with before | ⟨entry, listed, named, fresh⟩
      · obtain ⟨nonempty, entry, listed, named, ip, assigned, written⟩ :=
          invariant.merged id admission found grant before
        obtain ⟨entry', listed', sameName, sameIPs⟩ :=
          kept entry listed (List.ne_nil_of_mem assigned)
        exact ⟨nonempty, entry', listed', sameName.trans named, ip, sameIPs ▸ assigned, written⟩
      · exact ⟨fresh.nonempty, entry, listed, fresh.named.trans named.symm, fresh.listed⟩
    next => exact invariant.merged other waiting present grant granted
  · intro other waiting present grant granted pod stored live
    rw [Dict.get?_set] at present
    split at present
    next =>
      cases present
      rcases grants grant granted with before | ⟨entry, -, named, fresh⟩
      · exact invariant.fresh id admission found grant before pod stored live
      · intro held
        obtain ⟨nonempty, carries⟩ := invariant.carried pod stored grant held
        rw [named] at carries
        exact fresh.unclaimed pod stored (carries.excluded live nonempty)
    next => exact invariant.fresh other waiting present grant granted pod stored live

theorem store_invariant {state : Admissions} {id : Nat} {admission : Admission}
    (invariant : AdmissionInvariant state) (found : state.pending.get? id = some admission)
    (serialised : Serialised state (.store id)) :
    AdmissionInvariant {
      cluster := state.cluster.put .pod (createdPod admission.mutated)
      pending := state.pending.erase id
      holders := state.holders.set admission.pod.key admission.grants } := by
  set next : Admissions := {
      cluster := state.cluster.put .pod (createdPod admission.mutated)
      pending := state.pending.erase id
      holders := state.holders.set admission.pod.key admission.grants } with nextDef
  have heldNew : next.held admission.pod.key = admission.grants := by
    simp [nextDef, Admissions.held]
  have heldOld : ∀ key, key ≠ admission.pod.key → next.held key = state.held key := by
    intro key different
    simp [nextDef, Admissions.held, different]
  -- A stored Pod is the new one, or one that was there before under another key.
  have pods : ∀ pod ∈ (next.cluster .pod).list, pod = createdPod admission.mutated ∨
      pod.key ≠ admission.pod.key ∧ pod ∈ (state.cluster .pod).list := by
    intro pod stored
    simp only [nextDef, Cluster.put_self, Store.mem_list, Store.get?_put] at stored
    split at stored
    next =>
      cases stored
      exact .inl rfl
    next different => exact .inr ⟨different, Store.mem_list.mpr stored⟩
  have waiting : ∀ other admission', next.pending.get? other = some admission' →
      other ≠ id ∧ state.pending.get? other = some admission' := by
    intro other admission' present
    simp only [nextDef, Dict.get?_erase] at present
    split at present
    next => contradiction
    next different => exact ⟨different, present⟩
  refine ⟨?_, ?_, ?_, ?_⟩
  · intro pod stored grant held
    rcases pods pod stored with rfl | ⟨different, before⟩
    · replace held : grant ∈ admission.grants := heldNew ▸ held
      obtain ⟨nonempty, entry, listed, named, ip, assigned, written⟩ :=
        invariant.merged id admission found grant held
      exact ⟨nonempty, carries_mutated listed named assigned written⟩
    · rw [heldOld _ different] at held
      exact invariant.carried pod before grant held
  · intro other admission' present
    exact invariant.merged other admission' (waiting other admission' present).2
  · intro other admission' present grant granted pod stored live
    obtain ⟨different, present⟩ := waiting other admission' present
    rcases pods pod stored with rfl | ⟨differentKey, before⟩
    · intro held
      replace held : grant ∈ admission.grants := heldNew ▸ held
      exact serialised admission found other admission' different present grant held grant
        granted rfl
    · rw [heldOld _ differentKey]
      exact invariant.fresh other admission' present grant granted pod before live
  · intro first stored second stored' different live live' grant held held'
    rcases pods first stored with rfl | ⟨differentKey, before⟩
    · rcases pods second stored' with rfl | ⟨differentKey', before'⟩
      · exact different rfl
      · rw [heldOld _ differentKey'] at held'
        replace held : grant ∈ admission.grants := heldNew ▸ held
        exact invariant.fresh id admission found grant held second before' live' held'
    · rw [heldOld _ differentKey] at held
      rcases pods second stored' with rfl | ⟨differentKey', before'⟩
      · replace held' : grant ∈ admission.grants := heldNew ▸ held'
        exact invariant.fresh id admission found grant held' first before live held
      · rw [heldOld _ differentKey'] at held'
        exact invariant.unique first before second before' different live live' grant held held'

/-- Every serialised step keeps the invariant. -/
theorem admissionStep_invariant {state next : Admissions} {event : AdmissionEvent}
    (invariant : AdmissionInvariant state) (serialised : Serialised state event)
    (stepped : admissionStep state event = some next) : AdmissionInvariant next := by
  cases event with
  | arrive id pod =>
      simp only [admissionStep] at stepped
      split at stepped
      next plan absent planned =>
        cases stepped
        refine invariant.descend (fun pod stored => descends_self stored rfl) ?_
        intro other admission present
        rw [Dict.get?_set] at present
        split at present
        next =>
          cases present
          exact .inr rfl
        next => exact .inl present
      next => contradiction
  | advance id faults =>
      simp only [admissionStep] at stepped
      split at stepped
      next => contradiction
      next admission found =>
        split at stepped
        next => contradiction
        next sec rest _ =>
          split at stepped
          next =>
            cases stepped
            refine invariant.descend (fun pod stored => descends_self stored rfl) ?_
            intro other admission present
            rw [Dict.get?_erase] at present
            split at present
            next => contradiction
            next => exact .inl present
          next merge succeeded =>
            cases stepped
            exact advance_invariant invariant found succeeded
  | store id =>
      simp only [admissionStep] at stepped
      split at stepped
      next => contradiction
      next admission found =>
        split at stepped
        next =>
          cases stepped
          exact store_invariant invariant found serialised
        next => contradiction
  | abort id =>
      cases stepped
      refine invariant.descend (fun pod stored => descends_self stored rfl) ?_
      intro other admission present
      rw [Dict.get?_erase] at present
      split at present
      next => contradiction
      next => exact .inl present
  | storeUnmutated pod =>
      simp only [admissionStep] at stepped
      split at stepped
      next =>
        cases stepped
        refine invariant.descend (fun other stored => ?_) fun _ _ present => .inl present
        simp only [Cluster.put_self, Store.mem_list, Store.get?_put] at stored
        split at stored
        next =>
          cases stored
          exact .inl (by simp [Admissions.held, createdPod])
        next different =>
          exact descends_self (Store.mem_list.mpr stored) (by
            have otherKey : other.key ≠ pod.key := different
            simp [Admissions.held, otherKey])
      next => contradiction
  | setPhase key phase =>
      apply changePod_invariant invariant stepped
      intro pod stage changed
      split at changed
      next => contradiction
      next running =>
        cases changed
        refine ⟨fun live => ?_, rfl⟩
        simp only [isLive, hasStopped, decide_eq_true_eq, not_or] at *
        exact ⟨running.1, running.2, live.2.2⟩
  | reportStatus key statusKey text =>
      apply changePod_invariant invariant stepped
      intro pod stage changed
      split at changed
      next isKey =>
        cases changed
        have notMultus : annotationMultusNetworks ≠ statusKey := by
          rintro rfl
          revert isKey
          decide
        exact ⟨id, by simp [annotatedPod, notMultus]⟩
      next => contradiction
  | terminate key time =>
      apply changePod_invariant invariant stepped
      intro pod stage changed
      cases changed
      refine ⟨fun live => ?_, rfl⟩
      simp [isLive, marked] at live
  | removePod key =>
      cases stepped
      refine invariant.descend (fun pod stored => ?_) fun _ _ present => .inl present
      simp only [Cluster.remove_self, Store.mem_list, Store.get?_remove] at stored
      split at stored
      next => contradiction
      next different =>
        exact descends_self (Store.mem_list.mpr stored) (by simp [Admissions.held, different])
  | edit kind object =>
      simp only [admissionStep] at stepped
      split at stepped
      next => contradiction
      next notPod =>
        cases stepped
        refine invariant.descend (fun pod stored => ?_) fun _ _ present => .inl present
        simp only [Cluster.put_of_ne _ object (Ne.symm notPod)] at stored
        exact descends_self stored rfl
  | discard kind key =>
      simp only [admissionStep] at stepped
      split at stepped
      next => contradiction
      next notPod =>
        cases stepped
        refine invariant.descend (fun pod stored => ?_) fun _ _ present => .inl present
        simp only [Cluster.remove_of_ne _ key (Ne.symm notPod)] at stored
        exact descends_self stored rfl

/-- In a run whose admissions are serialised for each Network, no two live Pods
ever hold the same allocated address. -/
theorem noDuplicates_of_serialised {cluster : Cluster} {events : List AdmissionEvent}
    {state : Admissions}
    (run : Run admissionStep Serialised (.initial cluster) events state) :
    NoDuplicates state :=
  (run.invariant (admissionInvariant_initial cluster) admissionStep_invariant).unique

def serialises (state : Admissions) : AdmissionEvent → Bool
  | .store id =>
      match state.pending.get? id with
      | none => true
      | some admission => state.pending.entries.all fun (other, waiting) =>
          decide (other = id) || admission.grants.all fun grant =>
            waiting.grants.all fun grant' => decide (grant.1 ≠ grant'.1)
  | _ => true

theorem serialised_of_serialises (state : Admissions) (event : AdmissionEvent)
    (checked : serialises state event = true) : Serialised state event := by
  cases event with
  | store id =>
      intro admission found other waiting different present grant granted grant' granted'
      simp only [serialises, found, List.all_eq_true, Bool.or_eq_true, decide_eq_true_eq,
        Prod.forall, Dict.mem_entries_iff] at checked
      rcases checked other waiting present with same | distinct
      · exact absurd same different
      · exact distinct grant.1 grant.2 granted grant'.1 grant'.2 granted'
  | _ => trivial

def sharesAddress (state : Admissions) (first second : ObjectKey) : Bool :=
  ((state.cluster .pod).get? first).any isLive &&
    ((state.cluster .pod).get? second).any isLive &&
      (state.held first).any fun grant => decide (grant ∈ state.held second)

theorem not_noDuplicates_of_sharesAddress {state : Admissions} {first second : ObjectKey}
    (different : first ≠ second) (shared : sharesAddress state first second = true) :
    ¬ NoDuplicates state := by
  intro unique
  simp only [sharesAddress, Bool.and_eq_true, Option.any_eq_true, List.any_eq_true,
    decide_eq_true_eq] at shared
  obtain ⟨⟨⟨pod, found, live⟩, pod', found', live'⟩, grant, held, held'⟩ := shared
  have key := Store.key_of_get? found
  have key' := Store.key_of_get? found'
  subst key key'
  exact unique pod (Store.mem_list.mpr found) pod' (Store.mem_list.mpr found') different live live'
    grant held held'

/-- A Pod that asks for an interface on the Network `n`. -/
def requestingPod (name : String) : Pod where
  metadata := {
    key := ⟨"default", name⟩
    annotations := .singleton annotationGKEInterfaces (marshalGKEInterfaces [⟨"eth1", "n"⟩]) }
  body := {}

/-- A cluster with the Network `n` only. -/
def bareCluster : Cluster :=
  (∅ : Cluster).put .network {
    metadata := { key := ⟨"", "n"⟩ }
    body := [("spec", .map [("gateway4", .string "10.0.0.1")])] }

def racingAdmissions : List AdmissionEvent :=
  [.arrive 0 (requestingPod "a"), .arrive 1 (requestingPod "b"),
    .advance 0 noFaults, .advance 1 noFaults, .store 0, .store 1]

theorem racingAdmissions_duplicate :
    ∃ state, Run admissionStep Anything (.initial bareCluster) racingAdmissions state ∧
      ¬ NoDuplicates state := by
  have shared : (execute admissionStep (.initial bareCluster) racingAdmissions).any
      (fun state => sharesAddress state ⟨"default", "a"⟩ ⟨"default", "b"⟩) = true := by
    decide +kernel
  obtain ⟨state, executed, shares⟩ := (Option.any_eq_true _ _).mp shared
  exact ⟨state, run_of_execute executed, not_noDuplicates_of_sharesAddress (by decide) shares⟩

def serialAdmissions : List AdmissionEvent :=
  [.arrive 0 (requestingPod "a"), .advance 0 noFaults, .store 0,
    .arrive 1 (requestingPod "b"), .advance 1 noFaults, .store 1]

theorem serialAdmissions_noDuplicates :
    ∃ state, Run admissionStep Serialised (.initial bareCluster) serialAdmissions state ∧
      (state.cluster .pod).list.length = 2 ∧ NoDuplicates state := by
  have stored : (executeChecked admissionStep serialises (.initial bareCluster)
      serialAdmissions).any
        (fun state => decide ((state.cluster .pod).list.length = 2)) = true := by
    decide +kernel
  obtain ⟨state, executed, length⟩ := (Option.any_eq_true _ _).mp stored
  have run := run_of_executeChecked serialised_of_serialises executed
  exact ⟨state, run, of_decide_eq_true length, noDuplicates_of_serialised run⟩

end GemEmulation.Operator
