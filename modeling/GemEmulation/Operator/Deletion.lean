import GemEmulation.Kube.Deletion
import GemEmulation.Operator.Gateway.Frame
import GemEmulation.Operator.Network.Frame

/-!
# Deleting Gateways and Networks

Both controllers delete their children, ignore what fails, and release the
finalizer.  Nothing is leaked exactly when every Delete gets through.
-/

namespace GemEmulation.Operator

open Foundations Kube

def gatewayChildren (key : ObjectKey) : List (Kind × ObjectKey) :=
  [(.service, key), (.endpointSlice, sliceKey key)]

theorem cleanupDynamicResources_deletes (gw : Unstructured) (faults : Faults) (session : Session) :
    (cleanupDynamicResources gw faults session).2 =
      (deleteAll (gatewayChildren gw.key) faults session).2 := rfl

theorem reconcileDeleted_session {gw : Unstructured}
    (held : containsFinalizer gw gatewayFinalizer = true)
    (faults : Faults) (session : Session) :
    (reconcileDeleted gw faults session).2 =
      (update .gateway (removeFinalizer gw gatewayFinalizer) faults
        (deleteAll (gatewayChildren gw.key) faults session).2).2 := by
  simp only [reconcileDeleted, held, if_true, Program.bind_apply, cleanupDynamicResources_deletes]
  generalize update .gateway _ faults _ = updated
  obtain ⟨outcome, after⟩ := updated
  cases outcome <;> rfl

/-- When a Reconcile releases a deleted Gateway's finalizer, its dynamic objects are
gone and no Delete has failed, exactly when every Delete that it makes removes its
object. -/
theorem gatewayDeletion_leaksNothing_iff {faults : Faults} (honest : HonestFaults faults)
    {key : ObjectKey} {gw : Unstructured} {cluster : Cluster}
    (found : (cluster .gateway).get? key = some gw)
    (deleted : gw.metadata.deletionTimestamp.isSome) (now : String) :
    let after := (reconcileGateway key faults { cluster, now }).2
    (ReleasesFinalizer .gateway key gatewayFinalizer cluster after.cluster →
        ∀ child ∈ gatewayChildren key, CleanlyGone after child) ↔
      (containsFinalizer gw gatewayFinalizer = true → faults 0 (.get .gateway key) = none →
        faults 0 (.update .gateway key) = none →
          ∀ child ∈ gatewayChildren key, Removable faults cluster child) := by
  obtain rfl := Store.key_of_get? found
  set start : Session := { cluster, now }
  have unchanged := get_cluster .gateway gw.key faults start
  simp only [reconcileGateway, Program.bind_apply]
  cases failing : faults 0 (.get .gateway gw.key) with
  | some error =>
      have refused : (get .gateway gw.key faults start).1 = .error error := get_refused failing
      rw [refused]
      refine iff_of_true (fun releases => ?_)
        fun _ granted => absurd granted (Option.some_ne_none error)
      exact absurd releases (not_releasesFinalizer (by
        dsimp only
        cases ignoreNotFound error <;> simp only [Program.pure_apply, unchanged, start]))
  | none =>
      have granted : (get .gateway gw.key faults start).1 = .ok gw := by
        rw [get_granted failing]
        simp only [start, found]
      have fresh : ∀ call, call ≠ .get .gateway gw.key →
          (get .gateway gw.key faults start).2.times call = 0 := by
        intro call other
        rw [get_times, List.count_singleton]
        simp [start, Session.times, Ne.symm other]
      simp only [granted, deleted, if_true, true_implies]
      set read := (get .gateway gw.key faults start).2
      by_cases held : containsFinalizer gw gatewayFinalizer = true
      · have deletes := deleteAll_makes (gatewayChildren gw.key) faults read
        have clean : (∀ child ∈ gatewayChildren gw.key,
            CleanlyGone (deleteAll (gatewayChildren gw.key) faults read).2 child) ↔
              ∀ child ∈ gatewayChildren gw.key, Removable faults read.cluster child :=
          deleteAll_cleanlyGone honest (by simp [gatewayChildren]) (by simp [gatewayChildren])
            fun target _ => fresh _ (by simp)
        rw [reconcileDeleted_session held]
        set cleaned := (deleteAll (gatewayChildren gw.key) faults read).2
        have keeps : (cleaned.cluster .gateway).get? gw.key = (cluster .gateway).get? gw.key := by
          rw [deletes.unchanged (by
            rintro call ⟨target, listed, rfl⟩ same
            simp [gatewayChildren] at listed
            rcases listed with rfl | rfl <;> cases same), unchanged]
        have times : cleaned.times (.update .gateway gw.key) = 0 :=
          (deletes.times_eq (by simp [DeletesOf])).trans (fresh _ (by simp))
        have updates : Makes (Eq (.update .gateway gw.key)) cleaned
            (update .gateway (removeFinalizer gw gatewayFinalizer) faults cleaned).2 :=
          update_makes .gateway rfl faults cleaned
        rw [update_releasesFinalizer found held keeps, times]
        simp only [held, true_implies]
        apply imp_congr_right
        intro _
        rw [unchanged] at clean
        rw [← clean]
        refine forall₂_congr fun child listed => cleanlyGone_of_makes updates ?_
        rintro call rfl same
        simp only [gatewayChildren, List.mem_cons, List.not_mem_nil, or_false] at listed
        rcases listed with rfl | rfl <;> cases same
      · refine iff_of_true (fun releases => ?_) fun contained => absurd contained held
        obtain ⟨⟨other, present, contained⟩, -⟩ := releases
        cases found.symm.trans present
        exact absurd contained held

theorem honest_noFaults : HonestFaults noFaults := nofun

def deletedGateway : Unstructured where
  metadata := {
    key := ⟨"default", "gw"⟩
    finalizers := [gatewayFinalizer]
    deletionTimestamp := some "2026-01-01T00:00:00Z" }
  body := []

def deletingGateway : Cluster :=
  (Cluster.put ∅ .gateway deletedGateway).put .service
    (gatewayService ⟨"default", "gw"⟩ "10.0.0.5" [80])

theorem gatewayDeletion_leaksNothing_noFaults :
    (ReleasesFinalizer .gateway ⟨"default", "gw"⟩ gatewayFinalizer deletingGateway
        (reconcileGateway ⟨"default", "gw"⟩ noFaults
          { cluster := deletingGateway, now := "" }).2.cluster →
      ∀ child ∈ gatewayChildren ⟨"default", "gw"⟩, CleanlyGone
        (reconcileGateway ⟨"default", "gw"⟩ noFaults { cluster := deletingGateway, now := "" }).2
          child) ↔
      (containsFinalizer deletedGateway gatewayFinalizer = true →
        noFaults 0 (.get .gateway ⟨"default", "gw"⟩) = none →
          noFaults 0 (.update .gateway ⟨"default", "gw"⟩) = none →
            ∀ child ∈ gatewayChildren ⟨"default", "gw"⟩,
              Removable noFaults deletingGateway child) := by
  have found : (deletingGateway .gateway).get? ⟨"default", "gw"⟩ = some deletedGateway := rfl
  exact gatewayDeletion_leaksNothing_iff honest_noFaults found rfl ""

def deletesFail : Faults := fun _ call =>
  match call with
  | .delete _ _ => some (.other "timeout")
  | _ => none

theorem honest_deletesFail : HonestFaults deletesFail := by
  intro count call failed
  unfold deletesFail at failed
  split at failed <;> cases failed

theorem failedDelete_leaksService :
    HonestFaults deletesFail ∧
      ¬ (ReleasesFinalizer .gateway ⟨"default", "gw"⟩ gatewayFinalizer deletingGateway
          (reconcileGateway ⟨"default", "gw"⟩ deletesFail
            { cluster := deletingGateway, now := "" }).2.cluster →
        ∀ child ∈ gatewayChildren ⟨"default", "gw"⟩, CleanlyGone
          (reconcileGateway ⟨"default", "gw"⟩ deletesFail
            { cluster := deletingGateway, now := "" }).2
            child) := by
  refine ⟨honest_deletesFail, fun leaksNothing => ?_⟩
  set after := (reconcileGateway ⟨"default", "gw"⟩ deletesFail
    { cluster := deletingGateway, now := "" }).2 with afterEq
  have released : ((after.cluster .gateway).get? ⟨"default", "gw"⟩).isNone = true := by
    rw [afterEq]
    decide
  have kept : ((after.cluster .service).get? ⟨"default", "gw"⟩).isSome = true := by
    rw [afterEq]
    decide
  have gone := (leaksNothing ⟨⟨deletedGateway, rfl, rfl⟩, fun gw found => by
    simp [found] at released⟩ (.service, ⟨"default", "gw"⟩) (List.mem_cons_self ..)).1
  simp [gone] at kept

def metalLBChildren (name : String) : List (Kind × ObjectKey) :=
  [(.ipAddressPool, ⟨"kube-system", poolName name⟩),
    (.l2Advertisement, ⟨"kube-system", "l2advertise-" ++ name⟩)]

def networkChildren (cluster : Cluster) (name : String) : List (Kind × ObjectKey) :=
  (listed (cluster .namespace) none []).map (fun ns => (.netAttachDef, ⟨ns.key.name, name⟩)) ++
    metalLBChildren name

def NetworkChild (name : String) (child : Kind × ObjectKey) : Prop :=
  (∃ ns, child = (.netAttachDef, ⟨ns, name⟩)) ∨ child ∈ metalLBChildren name

theorem deleteAll_append (first second : List (Kind × ObjectKey)) (faults : Faults)
    (session : Session) :
    deleteAll (first ++ second) faults session =
      deleteAll second faults (deleteAll first faults session).2 := by
  rw [deleteAll, List.foldlM_append]
  rfl

theorem cleanupNetworkChildren_refused {netObj : Unstructured} {faults : Faults} {session : Session}
    {error : ApiError}
    (refused : faults (session.times (.list .namespace none [])) (.list .namespace none []) =
      some error) :
    (cleanupNetworkChildren netObj faults session).2 =
      (deleteAll (metalLBChildren netObj.key.name) faults
        (list .namespace none [] faults session).2).2 := by
  simp only [cleanupNetworkChildren, Program.bind_apply, list_refused refused]
  rfl

theorem cleanupNetworkChildren_granted {netObj : Unstructured} {faults : Faults} {session : Session}
    (granted : faults (session.times (.list .namespace none [])) (.list .namespace none []) =
      none) :
    (cleanupNetworkChildren netObj faults session).2 =
      (deleteAll (networkChildren session.cluster netObj.key.name) faults
        (list .namespace none [] faults session).2).2 := by
  have inNamespaces : ∀ namespaces : List (Object Unit),
      namespaces.foldlM (deleteInNamespace netObj.key.name) () =
        deleteAll (namespaces.map fun ns => (.netAttachDef, ⟨ns.key.name, netObj.key.name⟩)) := by
    intro namespaces
    rw [deleteAll, List.foldlM_map]
    rfl
  simp only [cleanupNetworkChildren, Program.bind_apply, list_granted granted, networkChildren,
    deleteAll_append, ← inNamespaces]
  rfl

theorem reconcileDeletedNetwork_session {netObj : Unstructured}
    (held : containsFinalizer netObj networkFinalizer = true) (faults : Faults)
    (session : Session) :
    (reconcileDeletedNetwork netObj faults session).2 =
      (update .network (removeFinalizer netObj networkFinalizer) faults
        (cleanupNetworkChildren netObj faults session).2).2 := by
  simp only [reconcileDeletedNetwork, held, if_true, Program.bind_apply]
  generalize update .network _ faults _ = updated
  obtain ⟨outcome, after⟩ := updated
  cases outcome <;> rfl

/-- Every call of the cleanup gets through, and it knows and removes all children. -/
structure CleansUp (faults : Faults) (cluster : Cluster) (name : String) : Prop where
  listed : faults 0 (.list .namespace none []) = none
  removable : ∀ child ∈ networkChildren cluster name, Removable faults cluster child
  homed : ∀ ns, (cluster .netAttachDef).get? ⟨ns, name⟩ ≠ none →
    (.netAttachDef, ⟨ns, name⟩) ∈ networkChildren cluster name

/-- Namespaces are not in namespaces. -/
def ClusterScoped (cluster : Cluster) : Prop :=
  ∀ key ns, (cluster .namespace).get? key = some ns → key.ns = ""

theorem networkChildren_nodup {cluster : Cluster} (flat : ClusterScoped cluster) (name : String) :
    (networkChildren cluster name).Nodup := by
  refine List.nodup_append'.mpr ⟨?_, by simp [metalLBChildren], ?_⟩
  · rw [listed_all]
    refine List.Nodup.map_on ?_ (cluster .namespace).nodup_list
    intro first inFirst second inSecond same
    have stored := Store.mem_list.mp inFirst
    have stored' := Store.mem_list.mp inSecond
    have names : first.key.name = second.key.name := by simpa using same
    have keys : first.key = second.key := by
      have spaces := (flat _ _ stored).trans (flat _ _ stored').symm
      cases firstKey : first.key
      cases secondKey : second.key
      simp_all
    rw [keys] at stored
    exact Option.some.inj (stored.symm.trans stored')
  · intro child attached other
    obtain ⟨ns, -, rfl⟩ := List.mem_map.mp attached
    simp [metalLBChildren] at other

theorem networkChild_of_mem {cluster : Cluster} {name : String} {child : Kind × ObjectKey}
    (listed : child ∈ networkChildren cluster name) : NetworkChild name child := by
  rcases List.mem_append.mp listed with attached | other
  · obtain ⟨ns, -, rfl⟩ := List.mem_map.mp attached
    exact .inl ⟨_, rfl⟩
  · exact .inr other

theorem networkChild_kind {name : String} {child : Kind × ObjectKey}
    (isChild : NetworkChild name child) :
    child.1 = .netAttachDef ∨ child.1 = .ipAddressPool ∨ child.1 = .l2Advertisement := by
  rcases isChild with ⟨ns, rfl⟩ | listed
  · exact .inl rfl
  · simp only [metalLBChildren, List.mem_cons, List.not_mem_nil, or_false] at listed
    rcases listed with rfl | rfl <;> simp

/-- The children are cleanly gone after the cleanup exactly when it removes them all. -/
theorem deleteAll_networkChildren {faults : Faults} (honest : HonestFaults faults)
    {cluster : Cluster} {name : String} (flat : ClusterScoped cluster) {session : Session}
    (same : session.cluster = cluster)
    (fresh : ∀ kind key, session.times (.delete kind key) = 0) :
    (∀ child, NetworkChild name child →
        CleanlyGone (deleteAll (networkChildren cluster name) faults session).2 child) ↔
      (∀ child ∈ networkChildren cluster name, Removable faults cluster child) ∧
        ∀ ns, (cluster .netAttachDef).get? ⟨ns, name⟩ ≠ none →
          (.netAttachDef, ⟨ns, name⟩) ∈ networkChildren cluster name := by
  subst same
  have clean := deleteAll_cleanlyGone honest (networkChildren_nodup flat name)
    (fun child listed => by
      rcases networkChild_kind (networkChild_of_mem listed) with kind | kind | kind <;> simp [kind])
    fun child _ => fresh child.1 child.2
  have others : ∀ child, child ∉ networkChildren session.cluster name →
      (CleanlyGone (deleteAll (networkChildren session.cluster name) faults session).2 child ↔
        (session.cluster child.1).get? child.2 = none) := by
    intro child unlisted
    rw [cleanlyGone_of_makes (deleteAll_makes _ faults session) (by
      rintro call ⟨other, listed, rfl⟩ same
      cases same
      exact unlisted listed)]
    apply and_iff_left
    intro error logged
    exact absurd logged (not_mem_calls_of_times (fresh _ _) _)
  constructor
  · intro gone
    refine ⟨clean.mp fun child listed => gone child (networkChild_of_mem listed), ?_⟩
    intro ns present
    by_contra unlisted
    exact present ((others _ unlisted).mp (gone _ (.inl ⟨ns, rfl⟩)))
  · rintro ⟨removable, homed⟩ child isChild
    by_cases listed : child ∈ networkChildren session.cluster name
    · exact clean.mpr removable child listed
    · rcases isChild with ⟨ns, rfl⟩ | metalLB
      · exact (others _ listed).mpr (not_not.mp fun present => listed (homed ns present))
      · exact absurd (List.mem_append_right _ metalLB) listed

/-- Nothing of a Network is left behind: the namespaces were listed, and every child
is gone without a failed Delete. -/
def NothingLeft (name : String) (after : Session) : Prop :=
  (∀ error, (.list .namespace none [], some error) ∉ after.calls) ∧
    ∀ child, NetworkChild name child → CleanlyGone after child

theorem nothingLeft_of_makes {name : String} {before after : Session}
    (makes : Makes (Eq (.update .network ⟨"", name⟩)) before after) :
    NothingLeft name after ↔ NothingLeft name before := by
  refine and_congr (forall_congr' fun error => not_congr (makes.mem_calls_iff nofun)) ?_
  refine forall₂_congr fun child isChild => cleanlyGone_of_makes makes ?_
  rintro call rfl same
  cases same
  rcases networkChild_kind isChild with kind | kind | kind <;> cases kind

/-- The cleanup leaves nothing behind exactly when it knows and removes everything. -/
theorem cleanupNetworkChildren_nothingLeft {faults : Faults} (honest : HonestFaults faults)
    {netObj : Unstructured} {session : Session} (flat : ClusterScoped session.cluster)
    (fresh : ∀ call, call ≠ .get .network netObj.key → session.times call = 0) :
    NothingLeft netObj.key.name (cleanupNetworkChildren netObj faults session).2 ↔
      CleansUp faults session.cluster netObj.key.name := by
  have times := fresh (.list .namespace none []) nofun
  have logged : (list .namespace none [] faults session).2.calls = session.calls ++
      [(.list .namespace none [], errorOf (list .namespace none [] faults session).1)] :=
    request_calls _ _ _ _
  cases failing : faults 0 (.list .namespace none []) with
  | some error =>
      have refused := times.symm ▸ failing
      rw [list_refused refused] at logged
      rw [cleanupNetworkChildren_refused refused]
      refine iff_of_false (fun left => ?_) fun cleans => by cases failing.symm.trans cleans.listed
      exact left.1 error ((deleteAll_makes _ faults _).mem_calls (by simp [logged, errorOf]))
  | none =>
      have granted := times.symm ▸ failing
      rw [list_granted granted] at logged
      rw [cleanupNetworkChildren_granted granted]
      have cluster := list_cluster .namespace none [] faults session
      have unmade : ∀ kind key, (list .namespace none [] faults session).2.times
          (.delete kind key) = 0 := by
        intro kind key
        rw [list_times, fresh (.delete kind key) nofun]
        rfl
      have children : (∀ child, NetworkChild netObj.key.name child → _) ↔ _ :=
        deleteAll_networkChildren honest flat cluster unmade
      have deletes := deleteAll_makes (networkChildren session.cluster netObj.key.name) faults
        (list .namespace none [] faults session).2
      have unrefused : ∀ error, (Call.list .namespace none [], some error) ∉
          (deleteAll (networkChildren session.cluster netObj.key.name) faults
            (list .namespace none [] faults session).2).2.calls := by
        intro error present
        rw [deletes.mem_calls_iff (by rintro ⟨target, -, same⟩; cases same), logged] at present
        simp only [errorOf, List.mem_append, List.mem_singleton, Prod.mk.injEq, reduceCtorEq,
          and_false, or_false] at present
        exact not_mem_calls_of_times times _ present
      rw [NothingLeft, children]
      exact ⟨fun left => ⟨failing, left.2.1, left.2.2⟩,
        fun cleans => ⟨unrefused, cleans.removable, cleans.homed⟩⟩

/-- When a Reconcile releases a deleted Network's finalizer, it leaves nothing behind
and no call of the cleanup has failed, exactly when the cleanup gets all its calls
through and removes all children. -/
theorem networkDeletion_leaksNothing_iff {faults : Faults} (honest : HonestFaults faults)
    (texts : LibraryTexts) {name : String} {netObj : Unstructured} {cluster : Cluster}
    (flat : ClusterScoped cluster) (found : (cluster .network).get? ⟨"", name⟩ = some netObj)
    (deleted : netObj.metadata.deletionTimestamp.isSome) (now : String) :
    let after := (reconcileNetwork texts name faults { cluster, now }).2
    (ReleasesFinalizer .network ⟨"", name⟩ networkFinalizer cluster after.cluster →
        NothingLeft name after) ↔
      (containsFinalizer netObj networkFinalizer = true →
        faults 0 (.get .network ⟨"", name⟩) = none →
          faults 0 (.update .network ⟨"", name⟩) = none → CleansUp faults cluster name) := by
  have filed : netObj.key = ⟨"", name⟩ := Store.key_of_get? found
  set start : Session := { cluster, now }
  have unchanged := get_cluster .network ⟨"", name⟩ faults start
  simp only [reconcileNetwork, Program.bind_apply]
  cases failing : faults 0 (.get .network ⟨"", name⟩) with
  | some error =>
      have refused : (get .network ⟨"", name⟩ faults start).1 = .error error := get_refused failing
      rw [refused]
      refine iff_of_true (fun releases => ?_)
        fun _ granted => absurd granted (Option.some_ne_none error)
      exact absurd releases (not_releasesFinalizer (by
        dsimp only
        cases ignoreNotFound error <;> simp only [Program.pure_apply, unchanged, start]))
  | none =>
      have granted : (get .network ⟨"", name⟩ faults start).1 = .ok netObj := by
        rw [get_granted failing]
        simp only [start, found]
      have fresh : ∀ call, call ≠ .get .network ⟨"", name⟩ →
          (get .network ⟨"", name⟩ faults start).2.times call = 0 := by
        intro call other
        rw [get_times, List.count_singleton]
        simp [start, Session.times, Ne.symm other]
      simp only [granted, deleted, if_true, true_implies]
      set read := (get .network ⟨"", name⟩ faults start).2
      by_cases held : containsFinalizer netObj networkFinalizer = true
      · have children := cleanupNetworkChildren_makes netObj faults read
        have nothing : NothingLeft netObj.key.name
            (cleanupNetworkChildren netObj faults read).2 ↔ _ :=
          cleanupNetworkChildren_nothingLeft honest (unchanged.symm ▸ flat) (by rwa [filed])
        have updates : ∀ session, Makes (Eq (.update .network ⟨"", name⟩)) session
            (update .network (removeFinalizer netObj networkFinalizer) faults session).2 :=
          fun session => update_makes .network (by rw [← filed]; rfl) faults session
        have times : (cleanupNetworkChildren netObj faults read).2.times
            (.update .network ⟨"", name⟩) = 0 :=
          (children.times_eq fun child => by simpa using child _ _ rfl).trans (fresh _ (by simp))
        have keeps : ((cleanupNetworkChildren netObj faults read).2.cluster .network).get?
            netObj.key = (cluster .network).get? netObj.key := by
          rw [children.unchanged fun call child target => by simpa using child _ _ target,
            unchanged]
        have released : ReleasesFinalizer .network netObj.key networkFinalizer cluster
            (update .network (removeFinalizer netObj networkFinalizer) faults
              (cleanupNetworkChildren netObj faults read).2).2.cluster ↔ _ :=
          update_releasesFinalizer (filed.symm ▸ found) held keeps
        rw [filed, times] at released
        rw [filed, unchanged] at nothing
        rw [reconcileDeletedNetwork_session held, released, nothingLeft_of_makes (updates _)]
        simp only [held, true_implies]
        exact imp_congr_right fun _ => nothing
      · refine iff_of_true (fun releases => ?_) fun contained => absurd contained held
        obtain ⟨⟨other, present, contained⟩, -⟩ := releases
        cases found.symm.trans present
        exact absurd contained held

def noTexts : LibraryTexts := ⟨fun _ => "", id, fun _ => ""⟩

def deletedNetwork : Unstructured where
  metadata := {
    key := ⟨"", "n"⟩
    finalizers := [networkFinalizer]
    deletionTimestamp := some "2026-01-01T00:00:00Z" }
  body := []

/-- The Network with its NetworkAttachmentDefinition in the only namespace. -/
def deletingNetwork : Cluster :=
  ((Cluster.put ∅ .network deletedNetwork).put .namespace ⟨{ key := ⟨"", "default"⟩ }, ()⟩).put
    .netAttachDef (netAttachDef deletedNetwork "default" "")

theorem networkDeletion_leaksNothing_noFaults :
    (ReleasesFinalizer .network ⟨"", "n"⟩ networkFinalizer deletingNetwork
        (reconcileNetwork noTexts "n" noFaults
          { cluster := deletingNetwork, now := "" }).2.cluster →
      NothingLeft "n"
        (reconcileNetwork noTexts "n" noFaults { cluster := deletingNetwork, now := "" }).2) ↔
      (containsFinalizer deletedNetwork networkFinalizer = true →
        noFaults 0 (.get .network ⟨"", "n"⟩) = none →
          noFaults 0 (.update .network ⟨"", "n"⟩) = none →
            CleansUp noFaults deletingNetwork "n") := by
  have found : (deletingNetwork .network).get? ⟨"", "n"⟩ = some deletedNetwork := rfl
  have namespaces : ∀ key, (deletingNetwork .namespace).get? key =
      if key = ⟨"", "default"⟩ then some ⟨{ key := ⟨"", "default"⟩ }, ()⟩ else none := fun _ => rfl
  have flat : ClusterScoped deletingNetwork := by
    intro key ns stored
    rw [namespaces] at stored
    split at stored
    next same => rw [same]
    next => cases stored
  exact networkDeletion_leaksNothing_iff honest_noFaults noTexts flat found rfl ""

def namespaceListFails : Faults := fun _ call =>
  match call with
  | .list .namespace _ _ => some (.other "timeout")
  | _ => none

theorem honest_namespaceListFails : HonestFaults namespaceListFails := by
  intro count call failed
  unfold namespaceListFails at failed
  split at failed <;> cases failed

/-- The Network goes away and its NetworkAttachmentDefinition stays. -/
theorem failedList_leaksNetAttachDef :
    HonestFaults namespaceListFails ∧
      ¬ (ReleasesFinalizer .network ⟨"", "n"⟩ networkFinalizer deletingNetwork
          (reconcileNetwork noTexts "n" namespaceListFails
            { cluster := deletingNetwork, now := "" }).2.cluster →
        NothingLeft "n" (reconcileNetwork noTexts "n" namespaceListFails
          { cluster := deletingNetwork, now := "" }).2) := by
  refine ⟨honest_namespaceListFails, fun leaksNothing => ?_⟩
  set after := (reconcileNetwork noTexts "n" namespaceListFails
    { cluster := deletingNetwork, now := "" }).2 with afterEq
  have released : ((after.cluster .network).get? ⟨"", "n"⟩).isNone = true := by
    rw [afterEq]
    decide
  have kept : ((after.cluster .netAttachDef).get? ⟨"default", "n"⟩).isSome = true := by
    rw [afterEq]
    decide
  have gone := ((leaksNothing ⟨⟨deletedNetwork, rfl, rfl⟩, fun netObj found => by
    simp [found] at released⟩).2 (.netAttachDef, ⟨"default", "n"⟩) (.inl ⟨_, rfl⟩)).1
  simp [gone] at kept

end GemEmulation.Operator
