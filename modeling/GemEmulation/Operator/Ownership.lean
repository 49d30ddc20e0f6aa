import GemEmulation.Operator.Ready

/-!
# The owners of a Network's children

A Reconcile of a Network leaves every child that it is responsible for as an apply
leaves it.  Whether the children are owned then depends on what was there before.
-/

namespace GemEmulation.Operator

open Foundations Foundations.Json Kube

/-- The child is as an apply leaves it. -/
def LeftApplied (before after : Cluster) (child : CustomKind × Unstructured) : Prop :=
  (after (.custom child.1)).get? child.2.key =
    applied (.custom child.1) sameSpec child.2 ((before (.custom child.1)).get? child.2.key)

theorem leftApplied_congr {before before' after after' : Cluster}
    {child : CustomKind × Unstructured}
    (was : (before (.custom child.1)).get? child.2.key =
      (before' (.custom child.1)).get? child.2.key)
    (is : (after (.custom child.1)).get? child.2.key =
      (after' (.custom child.1)).get? child.2.key) :
    LeftApplied before after child ↔ LeftApplied before' after' child := by
  rw [LeftApplied, LeftApplied, was, is]

section Attaching

variable {client : Client} (owner : Unstructured) (config : String) (before : Cluster)

/-- The state of the loop over the namespaces: where it has been, the
NetworkAttachmentDefinition is applied, elsewhere nothing has changed. -/
structure Attaches (done : List (Object Unit)) (applyErrors : List (String × ApiError))
    (session : Session) : Prop where
  rest : ∀ key, (∀ ns ∈ done, ns.key.name ≠ key.ns) →
    (session.cluster .netAttachDef).get? key = (before .netAttachDef).get? key
  attached : applyErrors = [] → ∀ ns ∈ done, ns.metadata.deletionTimestamp = none →
    LeftApplied before session.cluster
      (.netAttachDef, netAttachDef owner ns.key.name config)

theorem applyInNamespace_attaches {done : List (Object Unit)} {ns : Object Unit}
    (first : ∀ other ∈ done, other.key.name ≠ ns.key.name)
    (applyErrors : List (String × ApiError)) :
    Program.Triple client (Attaches owner config before done applyErrors)
      (applyInNamespace owner config applyErrors ns)
      (Attaches owner config before (done ++ [ns])) := by
  rintro session ⟨rest, attached⟩
  unfold applyInNamespace
  split
  next terminating =>
    refine ⟨fun key other => rest key fun ns' early => other ns' (List.mem_append_left _ early),
      fun clean other listed remains => ?_⟩
    rcases List.mem_append.mp listed with early | last
    · exact attached clean other early remains
    · cases List.mem_singleton.mp last
      simp [remains] at terminating
  next =>
    set child := netAttachDef owner ns.key.name config
    have untouched : (session.cluster .netAttachDef).get? child.key =
        (before .netAttachDef).get? child.key := rest child.key first
    have leaves : LeavesApplied .netAttachDef sameSpec child session
        (applyOrUpdate .netAttachDef child client session).1
        (applyOrUpdate .netAttachDef child client session).2 := applyObject_leaves
    have makes : Makes (AppliesTo .netAttachDef child.key) session
        (applyOrUpdate .netAttachDef child client session).2 := applyObject_makes client session
    simp only [Program.bind_apply]
    generalize applyOrUpdate .netAttachDef child client session = run at leaves makes
    obtain ⟨result, after⟩ := run
    have others : ∀ key, ns.key.name ≠ key.ns →
        (after.cluster .netAttachDef).get? key = (session.cluster .netAttachDef).get? key := by
      refine fun key apart => makes.unchanged fun call applies => ?_
      have different : child.key ≠ key := fun same => apart (congrArg ObjectKey.ns same)
      rcases applies with rfl | rfl | rfl <;> simp [Call.target, different]
    have restThen : ∀ key, (∀ ns' ∈ done ++ [ns], ns'.key.name ≠ key.ns) →
        (after.cluster .netAttachDef).get? key = (before .netAttachDef).get? key := by
      intro key other
      rw [others key (other ns (by simp))]
      exact rest key fun ns' early => other ns' (List.mem_append_left _ early)
    cases result with
    | error error => exact ⟨restThen, fun clean => by simp at clean⟩
    | ok _ =>
        refine ⟨restThen, fun clean other listed remains => ?_⟩
        rcases List.mem_append.mp listed with early | last
        · refine (leftApplied_congr rfl ?_).mp (attached clean other early remains)
          exact (others _ (first other early).symm).symm
        · cases List.mem_singleton.mp last
          exact leaves.trans (congrArg _ untouched)

theorem namespace_apart {cluster : Cluster} (flat : ClusterScoped cluster)
    {items front rest : List (Object Unit)} {ns : Object Unit}
    (permuted : items.Perm (cluster .namespace).list) (whole : items = front ++ ns :: rest) :
    ∀ other ∈ front, other.key.name ≠ ns.key.name := by
  intro other early same
  have stored : ∀ item ∈ items, (cluster .namespace).get? item.key = some item :=
    fun item listed => Store.mem_list.mp (permuted.mem_iff.mp listed)
  have here := stored ns (whole ▸ by simp)
  have there := stored other (whole ▸ by simp [early])
  have keys : other.key = ns.key := by
    have spaces := (flat _ _ there).trans (flat _ _ here).symm
    cases otherKey : other.key
    cases nsKey : ns.key
    simp_all
  rw [keys, here] at there
  cases there
  have distinct : items.Nodup := permuted.nodup_iff.mpr (cluster .namespace).nodup_list
  rw [whole] at distinct
  exact List.disjoint_of_nodup_append distinct early List.mem_cons_self

theorem attachNetwork_leaves {before : Cluster} (flat : ClusterScoped before)
    (ifaceName mtu : String) :
    Program.Triple client
      (fun session => (session.cluster .namespace).list = (before .namespace).list ∧
        ∀ key, (session.cluster .netAttachDef).get? key = (before .netAttachDef).get? key)
      (attachNetwork owner ifaceName mtu)
      fun outcome session => outcome = .ok () → ifaceName ≠ "" →
        ∀ child ∈ desiredAttachments before owner ifaceName mtu,
          LeftApplied before session.cluster child := by
  unfold attachNetwork
  split
  next nameless => exact .pure fun _ _ _ named => absurd nameless named
  rintro session ⟨namespaces, same⟩
  unfold reconcileNetAttachDef desiredAttachments
  cases parseMTU mtu with
  | none => nofun
  | some mtuInt =>
      have read := list_cluster .namespace none [] client session
      simp only [Program.bind_apply]
      cases outcome : (list .namespace none [] client session).1 with
      | error error => nofun
      | ok items =>
          have permuted : items.Perm (before .namespace).list := by
            rw [list_arranged outcome, listed_all, namespaces]
            exact arranged_perm _ _
          set config := cniConfig owner ifaceName mtuInt
          have start : Attaches owner config before [] []
              (list .namespace none [] client session).2 :=
            ⟨fun key _ => read ▸ same key, fun _ _ listed => by cases listed⟩
          have turns : Program.Triple client (Attaches owner config before [] [])
              (items.foldlM (applyInNamespace owner config) [])
              (Attaches owner config before items) :=
            .foldlM _ (fun front ns rest whole applyErrors =>
              applyInNamespace_attaches owner config before (namespace_apart flat permuted whole)
                applyErrors) []
          have loop := turns _ start
          simp only [Program.bind_apply, Program.pure_apply]
          intro succeeded _ child listed
          split at succeeded
          next clean =>
            obtain ⟨ns, inList, rfl⟩ := List.mem_map.mp listed
            obtain ⟨stored, remains⟩ := List.mem_filter.mp inList
            exact loop.attached clean ns (permuted.mem_iff.mpr stored) (by simpa using remains)
          next => cases succeeded

end Attaching

section Pooling

variable {client : Client} (owner : Unstructured)

theorem reconcileMetalLB_leaves (before : Cluster) (vipList : List String) (ifaceName : String) :
    Program.Triple client
      (fun session => ∀ kind, kind = .ipAddressPool ∨ kind = .l2Advertisement → ∀ key,
        (session.cluster kind).get? key = (before kind).get? key)
      (reconcileMetalLB owner vipList ifaceName)
      fun outcome session => outcome = .ok () →
        LeftApplied before session.cluster (.ipAddressPool, ipAddressPool owner vipList) ∧
          LeftApplied before session.cluster
            (.l2Advertisement, l2Advertisement owner ifaceName) := by
  intro session same
  set pool := ipAddressPool owner vipList
  set l2Adv := l2Advertisement owner ifaceName
  have first : LeavesApplied .ipAddressPool sameSpec pool session
      (applyOrUpdate .ipAddressPool pool client session).1
      (applyOrUpdate .ipAddressPool pool client session).2 := applyObject_leaves
  have sparing : Makes (Call.Spares .l2Advertisement) session
      (applyOrUpdate .ipAddressPool pool client session).2 :=
    applyOrUpdate_spares (by decide) client session
  simp only [reconcileMetalLB, Program.bind_apply]
  generalize applyOrUpdate .ipAddressPool pool client session = run at first sparing
  obtain ⟨result, middle⟩ := run
  cases result with
  | error error =>
      intro succeeded
      cases succeeded
  | ok _ =>
      have second : LeavesApplied .l2Advertisement sameSpec l2Adv middle
          (applyOrUpdate .l2Advertisement l2Adv client middle).1
          (applyOrUpdate .l2Advertisement l2Adv client middle).2 := applyObject_leaves
      have sparing' : Makes (Call.Spares .ipAddressPool) middle
          (applyOrUpdate .l2Advertisement l2Adv client middle).2 :=
        applyOrUpdate_spares (by decide) client middle
      simp only [Program.bind_apply]
      generalize applyOrUpdate .l2Advertisement l2Adv client middle = run at second sparing'
      obtain ⟨result, after⟩ := run
      cases result with
      | error error =>
          intro succeeded
          cases succeeded
      | ok _ =>
          have pooled : LeftApplied session.cluster middle.cluster (.ipAddressPool, pool) := first
          have advertised : LeftApplied middle.cluster after.cluster (.l2Advertisement, l2Adv) :=
            second
          refine fun _ => ⟨(leftApplied_congr (same _ (.inl rfl) _) ?_).mp pooled,
            (leftApplied_congr ?_ rfl).mp advertised⟩
          · exact (sparing'.unchanged fun call spares => spares _).symm
          · rw [sparing.unchanged fun call spares => spares _]
            exact same _ (.inr rfl) _

theorem reconcileVIPPool_leaves (before : Cluster) (ifaceName : String) :
    Program.Triple client
      (fun session => ∀ kind, kind = .ipAddressPool ∨ kind = .l2Advertisement → ∀ key,
        (session.cluster kind).get? key = (before kind).get? key)
      (reconcileVIPPool owner ifaceName)
      fun outcome session => outcome.2 = .ok () → ∀ child ∈ desiredPool owner ifaceName,
        LeftApplied before session.cluster child := by
  unfold reconcileVIPPool
  dsimp only
  split
  next empty =>
    refine .pure fun session _ _ child listed => ?_
    rw [desiredPool, empty] at listed
    cases listed
  next =>
    split
    next =>
      refine .pure fun session _ succeeded => ?_
      cases succeeded
    next decoded =>
      refine .pure fun session _ _ child listed => ?_
      rw [desiredPool, decoded] at listed
      cases listed
    next vipList nonempty decoded =>
      refine .bind (reconcileMetalLB_leaves owner before vipList ifaceName) fun outcome => ?_
      refine .pure fun session leaves succeeded child listed => ?_
      obtain ⟨pooled, advertised⟩ := leaves succeeded
      rw [desiredPool_eq decoded nonempty] at listed
      simp only [List.mem_cons, List.not_mem_nil, or_false] at listed
      rcases listed with rfl | rfl
      · exact pooled
      · exact advertised

end Pooling

/-- After a reconcile of the children without errors each desired child is as an apply
leaves it. -/
theorem reconcileChildren_leaves (texts : LibraryTexts) (netObj : Unstructured) {before : Cluster}
    (flat : ClusterScoped before) (client : Client) :
    Program.Triple client
      (fun session => ∀ kind, kind ≠ .network → ∀ key,
        (session.cluster kind).get? key = (before kind).get? key)
      (reconcileChildren texts netObj (interfaceNameOf netObj
        (annotationOf netObj annotationVLANID))
        (vlanMTUOf netObj))
      fun childErrors session => childErrors = [] → ∀ child ∈ desiredChildren before netObj,
        LeftApplied before session.cluster child := by
  intro session same
  set ifaceName := interfaceNameOf netObj (annotationOf netObj annotationVLANID) with iface
  set attached := attachNetwork netObj ifaceName (vlanMTUOf netObj) client session with attachedEq
  set pooled := reconcileVIPPool netObj ifaceName client attached.2 with pooledEq
  set bound := reconcileServices texts netObj client pooled.2 with boundEq
  have run : reconcileChildren texts netObj ifaceName (vlanMTUOf netObj) client session =
      (childError texts "NetworkAttachmentDefinition" attached.1 ++
        childError texts pooled.1.1 pooled.1.2 ++ childError texts "Service binding" bound.1,
          bound.2) := rfl
  rw [run]
  intro clean child listed
  simp only [List.append_eq_nil_iff] at clean
  obtain ⟨⟨attachClean, poolClean⟩, -⟩ := clean
  have servicing : ∀ {kind : Kind}, kind ≠ .service → ∀ key,
      (bound.2.cluster kind).get? key = (pooled.2.cluster kind).get? key := fun other key =>
    (reconcileServices_makes texts netObj client pooled.2).unchanged
      fun call service target => other (service _ _ target)
  rcases List.mem_append.mp listed with attachment | poolChild
  · have named : ifaceName ≠ "" := by
      rintro nameless
      rw [← iface, if_pos nameless] at attachment
      cases attachment
    rw [← iface, if_neg named] at attachment
    have kind := desiredAttachments_kind attachment
    have attaches : Program.Triple client _ (attachNetwork netObj ifaceName (vlanMTUOf netObj)) _ :=
      attachNetwork_leaves netObj flat ifaceName (vlanMTUOf netObj)
    have leaves := attaches session ⟨Store.list_congr (same _ (by decide)), same _ (by decide)⟩
      (childError_nil attachClean) named child attachment
    refine (leftApplied_congr rfl ?_).mp leaves
    rw [kind, servicing (by decide)]
    exact ((reconcileVIPPool_spares ifaceName client attached.2).unchanged
      fun call spares => spares _).symm
  · have kinds := desiredPool_kind poolChild
    have pools : Program.Triple client _ (reconcileVIPPool netObj ifaceName) _ :=
      reconcileVIPPool_leaves netObj before ifaceName
    have leaves := pools attached.2 (fun kind poolKind key => by
      have other : kind ≠ .netAttachDef := by rcases poolKind with rfl | rfl <;> decide
      have off : kind ≠ .network := by rcases poolKind with rfl | rfl <;> decide
      rw [← same kind off]
      exact (attachNetwork_spares other netObj ifaceName (vlanMTUOf netObj) client
        session).unchanged fun call spares => spares _) (childError_nil poolClean) child poolChild
    refine (leftApplied_congr rfl ?_).mp leaves
    exact (servicing (by rcases kinds with kind | kind <;> simp [kind]) _).symm

/-- What goes wrong with the children of a Network with its finalizer. -/
def presentErrors (texts : LibraryTexts) (netObj : Unstructured) : Api (List String) := do
  let vlanID := annotationOf netObj annotationVLANID
  let ifaceName := interfaceNameOf netObj vlanID
  let provisioned ← isProvisioned netObj vlanID ifaceName
  warnUnlessProvisioned netObj provisioned
  reconcileChildren texts netObj ifaceName (vlanMTUOf netObj)

/-- The Network with its finalizer and what goes wrong with its children in a
`Reconcile`, if it comes to that. -/
def foundErrors (texts : LibraryTexts) (name : String) :
    Api (Option (Unstructured × List String)) := do
  match ← get .network ⟨"", name⟩ with
  | .error _ => pure none
  | .ok netObj =>
      if netObj.metadata.deletionTimestamp.isSome then pure none
      else
        match ← ensureFinalizer .network networkFinalizer netObj with
        | .error _ => pure none
        | .ok netObj =>
            let childErrors ← presentErrors texts netObj
            pure (some (netObj, childErrors))

/-- A Reconcile without errors: it gets to the children, and nothing goes wrong with
them. -/
def ErrorFree (texts : LibraryTexts) (name : String) (client : Client) (session : Session) : Prop :=
  (foundErrors texts name client session).1.map Prod.snd = some []

def NetworkCall (call : Call) : Prop :=
  ∀ kind key, call.target = some (kind, key) → kind = .network

section Run

variable {texts : LibraryTexts} {name : String} {client : Client} {session : Session}
  {netObj finalized : Unstructured}

/-- Once the children are reconciled, a Reconcile writes nothing but the status. -/
theorem reconcilePresentNetwork_after (session : Session) :
    Makes NetworkCall (presentErrors texts netObj client session).2
      (reconcilePresentNetwork texts netObj client session).2 := by
  have reading : isCoreDNSGatewayRuleActive.Guarantees (Makes NetworkCall) := by
    refine .bind (get_makes fun _ _ writes => by cases writes) fun outcome => ?_
    split <;> exact .pure _
  have writing : ∀ call, call = .updateStatus .network netObj.key ∨
      call = .update .network netObj.key → NetworkCall call := by
    rintro call (rfl | rfl) kind key target <;> cases target <;> rfl
  set probed := isProvisioned netObj (annotationOf netObj annotationVLANID)
    (interfaceNameOf netObj (annotationOf netObj annotationVLANID)) client session
  set children := reconcileChildren texts netObj
    (interfaceNameOf netObj (annotationOf netObj annotationVLANID)) (vlanMTUOf netObj) client
      (warnUnlessProvisioned netObj probed.1 client probed.2).2
  have ending : (isCoreDNSGatewayRuleActive >>= fun active =>
      updateUnstructuredStatusIfChanged .network netObj none
        [readyCondition probed.1 children.1, coreDNSCondition active] >>= fun _ =>
          (pure () : Api Unit)).Guarantees (Makes NetworkCall) :=
    .bind reading fun active => .bind (updateUnstructuredStatusIfChanged_makes
      ⟨writing _ (.inl rfl), writing _ (.inr rfl)⟩) fun _ => .pure _
  exact ending client children.2

theorem presentErrors_leaves {before : Cluster} (flat : ClusterScoped before) :
    Program.Triple client (fun session => ∀ kind, kind ≠ .network → ∀ key,
        (session.cluster kind).get? key = (before kind).get? key) (presentErrors texts netObj)
      fun childErrors session => childErrors = [] → ∀ child ∈ desiredChildren before netObj,
        LeftApplied before session.cluster child := by
  intro session same
  set probed := isProvisioned netObj (annotationOf netObj annotationVLANID)
    (interfaceNameOf netObj (annotationOf netObj annotationVLANID)) client session
  set warned := (warnUnlessProvisioned netObj probed.1 client probed.2).2
  have reads : warned.cluster = session.cluster :=
    (warnUnlessProvisioned_cluster probed.1).trans (isProvisioned_cluster _ _)
  exact reconcileChildren_leaves texts netObj flat client warned fun kind other key => by
    rw [reads]
    exact same kind other key

/-- A Reconcile without errors leaves each desired child as an apply leaves it. -/
theorem reconcileNetwork_leaves (flat : ClusterScoped session.cluster)
    (found : (session.cluster .network).get? ⟨"", name⟩ = some netObj)
    (errorFree : ErrorFree texts name client session) :
    ∀ child ∈ desiredChildren session.cluster netObj,
      LeftApplied session.cluster (reconcileNetwork texts name client session).2.cluster child := by
  have unchanged := get_cluster .network ⟨"", name⟩ client session
  have filed : netObj.key = ⟨"", name⟩ := Store.key_of_get? found
  unfold ErrorFree foundErrors at errorFree
  unfold reconcileNetwork
  simp only [Program.bind_apply] at errorFree ⊢
  set read := (get .network ⟨"", name⟩ client session).2
  cases outcome : (get .network ⟨"", name⟩ client session).1 with
  | error error => simp [outcome] at errorFree
  | ok object =>
      cases found.symm.trans (get_ok outcome)
      simp only [outcome] at errorFree ⊢
      split at errorFree
      next => cases errorFree
      next present =>
        rw [if_neg present]
        simp only [Program.bind_apply] at errorFree ⊢
        have makes : Makes (Eq (.update .network netObj.key)) read
            (ensureFinalizer .network networkFinalizer netObj client read).2 :=
          ensureFinalizer_makes rfl client read
        cases ensured : (ensureFinalizer .network networkFinalizer netObj client read).1 with
        | error error => simp [ensured] at errorFree
        | ok finalized =>
            simp only [ensured, Program.bind_apply, Program.pure_apply, Option.map_some,
              Option.some.injEq] at errorFree ⊢
            have same := ensureFinalizer_sameNetwork ensured
            have uid := ensureFinalizer_uid (by rw [unchanged, filed]; exact found) ensured
            set middle := (ensureFinalizer .network networkFinalizer netObj client read).2
            have others : ∀ kind, kind ≠ .network → ∀ key,
                (middle.cluster kind).get? key = (session.cluster kind).get? key := by
              intro kind other key
              rw [makes.unchanged (by
                rintro call rfl target
                cases target
                exact other rfl), unchanged]
            have leaves := presentErrors_leaves flat middle others errorFree
            rw [desiredChildren_congr same uid] at leaves
            intro child listed
            refine (leftApplied_congr rfl ?_).mp (leaves child listed)
            exact ((reconcilePresentNetwork_after middle).unchanged fun call permitted writes =>
              desiredChildren_ne_network listed (permitted _ _ writes)).symm

end Run

/-- The metadata names the Network, as it is now, as the controller. -/
def OwnedBy (netObj : Unstructured) (metadata : ObjectMeta) : Prop :=
  ∃ reference ∈ metadata.ownerReferences, reference.controller = true ∧
    reference.name = netObj.key.name ∧ reference.uid = netObj.metadata.uid

instance (netObj : Unstructured) (metadata : ObjectMeta) : Decidable (OwnedBy netObj metadata) :=
  inferInstanceAs (Decidable (∃ reference ∈ metadata.ownerReferences, _))

def OwnedChild (netObj : Unstructured) (child : CustomKind × Unstructured) (cluster : Cluster) :
    Prop :=
  ∃ stored, (cluster (.custom child.1)).get? child.2.key = some stored ∧
    OwnedBy netObj stored.metadata

/-- An existing child that a Reconcile leaves owned: with the desired spec it is owned
already, and with another spec no one is deleting it. -/
def OwnedOrRewritten (netObj child existing : Unstructured) : Prop :=
  if sameSpec existing child then OwnedBy netObj existing.metadata else Undeleted existing

theorem desiredChildren_form {cluster : Cluster} {netObj : Unstructured}
    {child : CustomKind × Unstructured} (listed : child ∈ desiredChildren cluster netObj) :
    ∃ key spec, child.2 = childObject netObj key spec := by
  rcases List.mem_append.mp listed with attachment | poolChild
  · split at attachment
    next => cases attachment
    next =>
      unfold desiredAttachments at attachment
      split at attachment
      · cases attachment
      · obtain ⟨ns, -, rfl⟩ := List.mem_map.mp attachment
        exact ⟨_, _, rfl⟩
  · unfold desiredPool at poolChild
    split at poolChild
    next => cases poolChild
    next => cases poolChild
    next =>
      simp only [List.mem_cons, List.not_mem_nil, or_false] at poolChild
      rcases poolChild with rfl | rfl <;> exact ⟨_, _, rfl⟩

/-- What an apply of a child leaves is owned unless it was skipped or completed a
deletion. -/
theorem applied_owned_iff {kind : CustomKind} {netObj : Unstructured} {key : ObjectKey}
    {spec : Fields} (existing : Option Unstructured) :
    (∃ stored, applied (.custom kind) sameSpec (childObject netObj key spec) existing =
      some stored ∧ OwnedBy netObj stored.metadata) ↔
      ∀ stored, existing = some stored →
        OwnedOrRewritten netObj (childObject netObj key spec) stored := by
  have owned : ∀ uid deletionTimestamp, OwnedBy netObj
      { (childObject netObj key spec).metadata with uid, deletionTimestamp } := fun _ _ =>
    ⟨networkOwnerReference netObj, List.mem_singleton_self _, rfl, rfl, rfl⟩
  cases existing with
  | none =>
      refine ⟨nofun, fun _ => ⟨childObject netObj key spec, rfl, owned _ _⟩⟩
  | some existing =>
      simp only [Option.some.injEq, forall_eq', OwnedOrRewritten, applied]
      by_cases same : sameSpec existing (childObject netObj key spec) = true
      · simp [same]
      · rw [if_neg same, if_neg same]
        have free : (childObject netObj key spec).metadata.finalizers = [] := rfl
        cases deleting : existing.metadata.deletionTimestamp with
        | some time => simp [Undeleted, deleting, free]
        | none =>
            simp only [Option.isSome_none, Bool.false_eq_true, false_and, if_false]
            exact ⟨fun _ => deleting, fun _ => ⟨_, rfl, owned _ _⟩⟩

/-- After a Reconcile without errors the children are owned exactly if no child that was
there before was skipped without its owner or lost to its deletion. -/
theorem reconcileNetwork_owned_iff {texts : LibraryTexts} {name : String} {client : Client}
    {session : Session} {netObj : Unstructured} (flat : ClusterScoped session.cluster)
    (found : (session.cluster .network).get? ⟨"", name⟩ = some netObj)
    (errorFree : ErrorFree texts name client session) :
    (∀ child ∈ desiredChildren session.cluster netObj,
      OwnedChild netObj child (reconcileNetwork texts name client session).2.cluster) ↔
      ∀ child ∈ desiredChildren session.cluster netObj, ∀ existing,
        (session.cluster (.custom child.1)).get? child.2.key = some existing →
          OwnedOrRewritten netObj child.2 existing := by
  apply forall₂_congr
  intro child listed
  rw [OwnedChild, reconcileNetwork_leaves flat found errorFree child listed]
  obtain ⟨kind, obj⟩ := child
  obtain ⟨key, spec, rfl⟩ := desiredChildren_form listed
  exact applied_owned_iff _

def renewedNetwork : Unstructured where
  metadata := {
    key := ⟨"", "n"⟩
    uid := "2"
    annotations := .singleton annotationLBServiceVIPs "[\"10.0.0.9\"]"
    finalizers := [networkFinalizer] }
  body := []

def leftoverPool : Unstructured :=
  ipAddressPool { renewedNetwork with metadata := { renewedNetwork.metadata with uid := "1" } }
    ["10.0.0.9"]

def leftover : Session where
  cluster := (Cluster.put ∅ .network renewedNetwork).put .ipAddressPool leftoverPool
  now := ""

theorem leftover_flat : ClusterScoped leftover.cluster := fun _ _ stored => by cases stored

theorem leftover_found : (leftover.cluster .network).get? ⟨"", "n"⟩ = some renewedNetwork := rfl

theorem leftover_errorFree : ErrorFree noTexts "n" noFaults leftover := by
  unfold ErrorFree
  decide +kernel

theorem leftover_desired : desiredChildren leftover.cluster renewedNetwork =
    [(.ipAddressPool, ipAddressPool renewedNetwork ["10.0.0.9"]),
      (.l2Advertisement, l2Advertisement renewedNetwork "")] := by
  have iface : interfaceNameOf renewedNetwork (annotationOf renewedNetwork annotationVLANID) = "" :=
    rfl
  have decoded : unmarshalStrict decodeTexts []
      (annotationOf renewedNetwork annotationLBServiceVIPs) =
      some ["10.0.0.9"] := by decide +kernel
  rw [desiredChildren, iface, if_pos rfl, desiredPool, decoded]
  rfl

/-- The pool has the desired spec, so the new Network does not become its owner. -/
theorem leftover_unowned : ErrorFree noTexts "n" noFaults leftover ∧
    ¬ ∀ child ∈ desiredChildren leftover.cluster renewedNetwork, OwnedChild renewedNetwork child
      (reconcileNetwork noTexts "n" noFaults leftover).2.cluster := by
  refine ⟨leftover_errorFree, fun owned => ?_⟩
  have listed : (.ipAddressPool, ipAddressPool renewedNetwork ["10.0.0.9"]) ∈
      desiredChildren leftover.cluster renewedNetwork := by simp [leftover_desired]
  obtain ⟨stored, found, ownedBy⟩ := owned _ listed
  have left := reconcileNetwork_leaves leftover_flat leftover_found leftover_errorFree _ listed
  rw [LeftApplied, found] at left
  have existing : (leftover.cluster .ipAddressPool).get?
      (ipAddressPool renewedNetwork ["10.0.0.9"]).key = some leftoverPool := rfl
  have unchanged : sameSpec leftoverPool (ipAddressPool renewedNetwork ["10.0.0.9"]) = true := by
    decide
  dsimp only at left
  rw [existing, applied_unchanged unchanged] at left
  have earlier : ¬ OwnedBy renewedNetwork leftoverPool.metadata := by decide
  exact earlier (Option.some.inj left ▸ ownedBy)

theorem reconcileNetwork_owned_leftover :
    (∀ child ∈ desiredChildren leftover.cluster renewedNetwork, OwnedChild renewedNetwork child
      (reconcileNetwork noTexts "n" noFaults leftover).2.cluster) ↔
      ∀ child ∈ desiredChildren leftover.cluster renewedNetwork, ∀ existing,
        (leftover.cluster (.custom child.1)).get? child.2.key = some existing →
          OwnedOrRewritten renewedNetwork child.2 existing :=
  reconcileNetwork_owned_iff leftover_flat leftover_found leftover_errorFree

end GemEmulation.Operator
