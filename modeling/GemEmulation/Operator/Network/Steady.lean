import GemEmulation.Kube.Quiet
import GemEmulation.Operator.Ready
import GemEmulation.Operator.StatusUpdates

/-!
# A Network at rest

Once a Reconcile of a Network has completed without failing calls, further ones
write nothing, whenever they run and in whatever order objects are listed.
-/

namespace GemEmulation.Operator

open Foundations Foundations.Json Kube

def attachOutcome (netObj : Unstructured) : Except NetworkError Unit :=
  if hostInterface netObj = "" then .ok ()
  else
    match parseMTU (vlanMTUOf netObj) with
    | none => .error (.invalidMTU (vlanMTUOf netObj))
    | some _ => .ok ()

def poolOutcome (netObj : Unstructured) : String × Except NetworkError Unit :=
  let lbVIPsJSON := annotationOf netObj annotationLBServiceVIPs
  if lbVIPsJSON = "" then ("", .ok ())
  else
    match unmarshalStrict decodeTexts [] lbVIPsJSON with
    | none => ("VIP pool annotation", .error (.vipPool lbVIPsJSON))
    | some [] => ("", .ok ())
    | some _ => ("IPAddressPool/L2Advertisement", .ok ())

/-- Whether the ConfigMap lists the host interface, or there is none to list. -/
def provisionedIn (cluster : Cluster) (netObj : Unstructured) : Bool :=
  isPrimaryNetwork netObj (annotationOf netObj annotationVLANID) (hostInterface netObj) ||
    match (cluster .configMap).get? ⟨"kube-system", provisionedNetworksConfigMap⟩ with
    | none => false
    | some cm =>
        decide (annotationOf netObj annotationVLANID ≠ "") &&
            (cm.body.data.get? (annotationOf netObj annotationVLANID)).isSome ||
          decide (hostInterface netObj ≠ "" ∧ hostInterface netObj ∈ cm.body.data.values)

def ruleActiveIn (cluster : Cluster) : Bool :=
  match (cluster .configMap).get? ⟨"kube-system", "coredns-config"⟩ with
  | none => false
  | some cm => Text.contains ((cm.body.data.get? "Corefile").getD "") gatewayDomain

def settledErrors (texts : LibraryTexts) (netObj : Unstructured) : List String :=
  childError texts "NetworkAttachmentDefinition" (attachOutcome netObj) ++
    childError texts (poolOutcome netObj).1 (poolOutcome netObj).2

def settledConditions (texts : LibraryTexts) (cluster : Cluster) (netObj : Unstructured) :
    List Condition :=
  [readyCondition (provisionedIn cluster netObj) (settledErrors texts netObj),
    coreDNSCondition (ruleActiveIn cluster)]

/-- The children and the Services are as the Network asks. -/
structure AtRest (netObj : Unstructured) (cluster : Cluster) : Prop where
  attached : hostInterface netObj ≠ "" → ∀ mtuInt, parseMTU (vlanMTUOf netObj) = some mtuInt →
    ∀ ns ∈ (cluster .namespace).list, ns.metadata.deletionTimestamp = none →
      StoredSpec .netAttachDef
        (netAttachDef netObj ns.key.name (cniConfig netObj (hostInterface netObj) mtuInt)) cluster
  pooled : ∀ vipList,
    unmarshalStrict decodeTexts [] (annotationOf netObj annotationLBServiceVIPs) = some vipList →
      vipList ≠ [] → Pooled netObj vipList (hostInterface netObj) cluster
  bound : ∀ key, BoundAt netObj key cluster

section Quiet

variable {texts : LibraryTexts} {netObj : Unstructured} {cluster : Cluster} {rank : Rank}

theorem applyOrUpdate_quiet {kind : CustomKind} {obj : Unstructured}
    (stored : StoredSpec kind obj cluster) :
    Quiet ⟨noFaults, rank⟩ cluster (applyOrUpdate kind obj) (· = .ok ()) := by
  obtain ⟨existing, found, same⟩ := stored
  exact .applyObject found same

theorem attachNetwork_quiet (rest : AtRest netObj cluster) :
    Quiet ⟨noFaults, rank⟩ cluster (attachNetwork netObj (hostInterface netObj) (vlanMTUOf netObj))
      (· = attachOutcome netObj) := by
  unfold attachNetwork attachOutcome
  split
  next => exact .pure rfl
  next named =>
    unfold reconcileNetAttachDef
    cases parsed : parseMTU (vlanMTUOf netObj) with
    | none => exact .pure rfl
    | some mtuInt =>
        apply (Quiet.list none []).bind
        rintro _ ⟨namespaces, rfl, listing⟩
        rw [listed_all] at listing
        refine (Quiet.foldlM fun ns listed => ?_).bind ?_
        · unfold applyInNamespace
          split
          next => exact .pure rfl
          next live =>
            rw [Option.not_isSome_iff_eq_none] at live
            refine (applyOrUpdate_quiet (rest.attached named mtuInt parsed ns
              (listing.mem_iff.mp listed) live)).bind ?_
            rintro _ rfl
            exact .pure rfl
        · rintro _ rfl
          exact .pure rfl

theorem reconcileVIPPool_quiet (rest : AtRest netObj cluster) :
    Quiet ⟨noFaults, rank⟩ cluster (reconcileVIPPool netObj (hostInterface netObj))
      (· = poolOutcome netObj) := by
  unfold reconcileVIPPool poolOutcome
  dsimp only
  split
  next => exact .pure rfl
  next =>
    cases decoded :
        unmarshalStrict decodeTexts [] (annotationOf netObj annotationLBServiceVIPs) with
    | none => exact .pure rfl
    | some vipList =>
        cases vipList with
        | nil => exact .pure rfl
        | cons first others =>
            obtain ⟨pool, l2⟩ := rest.pooled _ decoded (List.cons_ne_nil first others)
            have metalLB : Quiet ⟨noFaults, rank⟩ cluster
                (reconcileMetalLB netObj (first :: others) (hostInterface netObj))
                  (· = .ok ()) := by
              apply (applyOrUpdate_quiet pool).bind
              rintro _ rfl
              apply (applyOrUpdate_quiet l2).bind
              rintro _ rfl
              exact .pure rfl
            apply metalLB.bind
            rintro _ rfl
            exact .pure rfl

theorem reconcileServices_quiet (rest : AtRest netObj cluster) :
    Quiet ⟨noFaults, rank⟩ cluster (reconcileServices texts netObj) (· = .ok ()) := by
  unfold reconcileServices
  apply (Quiet.list none []).bind
  rintro _ ⟨services, rfl, listing⟩
  rw [listed_all] at listing
  refine (Quiet.foldlM fun svc listed => ?_).bind ?_
  · have stored : (cluster .service).get? svc.key = some svc :=
      Store.mem_list.mp (listing.mem_iff.mp listed)
    unfold bindService
    split
    next requests =>
      split
      next => exact (Quiet.recordEvent _).bind fun _ _ => .pure rfl
      next allowed =>
        rw [if_pos (rest.bound svc.key svc stored requests (by simpa using allowed))]
        exact .pure rfl
    next => exact .pure rfl
  · rintro _ rfl
    exact .pure rfl

variable (netObj rank) in
theorem isProvisioned_quiet : Quiet ⟨noFaults, rank⟩ cluster
    (isProvisioned netObj (annotationOf netObj annotationVLANID) (hostInterface netObj))
    (· = provisionedIn cluster netObj) := by
  unfold isProvisioned provisionedIn
  split
  next primary =>
    rw [primary]
    exact .pure rfl
  next secondary =>
    rw [Bool.not_eq_true] at secondary
    rw [secondary, Bool.false_or]
    apply (Quiet.get _).bind
    rintro _ rfl
    cases (cluster .configMap).get? ⟨"kube-system", provisionedNetworksConfigMap⟩ with
    | none => exact .pure rfl
    | some cm => exact .pure rfl

variable (rank) in
theorem isCoreDNSGatewayRuleActive_quiet : Quiet ⟨noFaults, rank⟩ cluster
    isCoreDNSGatewayRuleActive (· = ruleActiveIn cluster) := by
  unfold isCoreDNSGatewayRuleActive ruleActiveIn
  apply (Quiet.get _).bind
  rintro _ rfl
  cases (cluster .configMap).get? ⟨"kube-system", "coredns-config"⟩ with
  | none => exact .pure rfl
  | some cm => exact .pure rfl

theorem warnUnlessProvisioned_quiet (provisioned : Bool) : Quiet ⟨noFaults, rank⟩ cluster
    (warnUnlessProvisioned netObj provisioned) fun _ => True := by
  unfold warnUnlessProvisioned
  split
  next => exact .pure trivial
  next => exact .recordEvent _

/-- At rest a Reconcile computes the settled conditions, and writes nothing before it. -/
theorem networkConditions_quiet (rest : AtRest netObj cluster) :
    Quiet ⟨noFaults, rank⟩ cluster (networkConditions texts netObj)
      (· = settledConditions texts cluster netObj) := by
  apply (isProvisioned_quiet netObj rank).bind
  rintro _ rfl
  apply (warnUnlessProvisioned_quiet _).bind
  intro _ _
  have children : Quiet ⟨noFaults, rank⟩ cluster
      (reconcileChildren texts netObj (hostInterface netObj) (vlanMTUOf netObj))
      (· = settledErrors texts netObj) := by
    apply (attachNetwork_quiet rest).bind
    rintro _ rfl
    apply (reconcileVIPPool_quiet rest).bind
    rintro _ rfl
    apply (reconcileServices_quiet rest).bind
    rintro _ rfl
    exact .pure (List.append_nil _)
  apply children.bind
  rintro _ rfl
  apply (isCoreDNSGatewayRuleActive_quiet rank).bind
  rintro _ rfl
  exact .pure rfl

/-- A Reconcile of a Network with its finalizer and a settled status, whose children are
at rest, makes reads only. -/
theorem reconcileNetwork_quiet {name : String}
    (found : (cluster .network).get? ⟨"", name⟩ = some netObj)
    (undeleted : netObj.metadata.deletionTimestamp = none)
    (finalized : containsFinalizer netObj networkFinalizer = true) (rest : AtRest netObj cluster)
    (settled : ∀ now, StatusSettled netObj now none (settledConditions texts cluster netObj)) :
    Quiet ⟨noFaults, rank⟩ cluster (reconcileNetwork texts name) (· = .ok (some 30)) := by
  apply (Quiet.get _).bind
  rintro _ rfl
  rw [found]
  simp only [undeleted, Option.isSome_none, Bool.false_eq_true, if_false, ensureFinalizer,
    finalized, if_true]
  have status : Quiet ⟨noFaults, rank⟩ cluster (updateUnstructuredStatusIfChanged .network netObj
      none (settledConditions texts cluster netObj)) fun _ => True := by
    rintro session rfl
    rw [update_of_settled (settled session.now)]
    exact ⟨trivial, rfl, Std.Refl.refl session⟩
  have present : Quiet ⟨noFaults, rank⟩ cluster (reconcilePresentNetwork texts netObj)
      fun _ => True := by
    rw [reconcilePresentNetwork_conditions]
    apply (networkConditions_quiet rest).bind
    rintro _ rfl
    exact status.bind fun _ _ => .pure trivial
  exact Quiet.bind (.pure rfl) (by
    rintro _ rfl
    exact present.bind fun _ _ => .pure rfl)

end Quiet

section Settling

variable (texts : LibraryTexts) (netObj : Unstructured) (rank : Rank)

theorem applyOrUpdate_granted (kind : CustomKind) (obj : Unstructured) (session : Session) :
    (applyOrUpdate kind obj ⟨noFaults, rank⟩ session).1 = .ok () := by
  simp only [applyOrUpdate, applyObject, defaultRetries, retryOnConflict, Program.bind_apply,
    attemptApply_noFaults]
  rfl

theorem update_noFaults (kind : Kind) (object : Object kind.Body) {stored : Object kind.Body}
    {session : Session} (found : (session.cluster kind).get? object.key = some stored) :
    ∃ result, (update kind object ⟨noFaults, rank⟩ session).1 = .ok result := by
  rw [update_granted rfl found]
  exact ⟨_, rfl⟩

/-- Without failing calls every namespace gets its NetworkAttachmentDefinition. -/
theorem attachNetwork_settles (cluster : Cluster) :
    Program.Triple ⟨noFaults, rank⟩
      (fun session => (session.cluster .namespace).list = (cluster .namespace).list ∧
        (hostInterface netObj ≠ "" → AllStorable (desiredAttachments cluster netObj
          (hostInterface netObj) (vlanMTUOf netObj)) session.cluster))
      (attachNetwork netObj (hostInterface netObj) (vlanMTUOf netObj))
      fun outcome session => outcome = attachOutcome netObj ∧
        (hostInterface netObj ≠ "" → ∀ mtuInt, parseMTU (vlanMTUOf netObj) = some mtuInt →
          ∀ ns ∈ (cluster .namespace).list, ns.metadata.deletionTimestamp = none →
            StoredSpec .netAttachDef
              (netAttachDef netObj ns.key.name (cniConfig netObj (hostInterface netObj) mtuInt))
              session.cluster) := by
  rintro session ⟨namespaces, storable⟩
  unfold attachNetwork attachOutcome
  split
  next unnamed => exact ⟨rfl, fun named => absurd unnamed named⟩
  next named =>
    unfold reconcileNetAttachDef
    cases parsed : parseMTU (vlanMTUOf netObj) with
    | none => exact ⟨rfl, nofun⟩
    | some mtuInt =>
        have read := list_cluster .namespace none [] ⟨noFaults, rank⟩ session
        simp only [Program.bind_apply, list_ranked, listed_all, namespaces]
        set items := arranged (rank (session.times (.list .namespace none []))
          (.list .namespace none [])) (cluster .namespace).list with itemsEq
        set config := cniConfig netObj (hostInterface netObj) mtuInt
        have listing : items.Perm (cluster .namespace).list := arranged_perm _ _
        have start : ([] : List (String × ApiError)) = [] ∧ Attaching netObj config items [] []
            (list .namespace none [] ⟨noFaults, rank⟩ session).2 := by
          refine ⟨rfl, fun ns listed remains => ?_, fun _ _ listed => by cases listed⟩
          rw [read]
          exact storable named _
            (mem_desiredAttachments parsed (listing.mem_iff.mp listed) remains)
        have turns : Program.Triple ⟨noFaults, rank⟩
            (fun session => ([] : List (String × ApiError)) = [] ∧
              Attaching netObj config items [] [] session)
            (items.foldlM (applyInNamespace netObj config) [])
            (fun errors session => errors = [] ∧
              Attaching netObj config items items errors session) := by
          refine .foldlM (fun done errors session => errors = [] ∧
            Attaching netObj config items done errors session) (fun done ns rest whole errors => ?_)
            []
          rintro session ⟨rfl, attaching⟩
          have member : ns ∈ items := whole ▸ by simp
          refine ⟨?_, applyInNamespace_attaching netObj config member done [] session attaching⟩
          unfold applyInNamespace
          split
          next => rfl
          next => simp only [Program.bind_apply, applyOrUpdate_granted, Program.pure_apply]
        obtain ⟨clean, attaching⟩ := turns _ start
        simp only [Program.pure_apply, clean, if_true]
        refine ⟨trivial, fun _ mtuInt' same ns listed remains => ?_⟩
        cases same
        exact attaching.attached clean ns (listing.mem_iff.mpr listed) remains

theorem reconcileVIPPool_settles : Program.Triple ⟨noFaults, rank⟩
    (fun session => AllStorable (desiredPool netObj (hostInterface netObj)) session.cluster)
    (reconcileVIPPool netObj (hostInterface netObj)) fun outcome session =>
      outcome = poolOutcome netObj ∧ ∀ vipList,
        unmarshalStrict decodeTexts [] (annotationOf netObj annotationLBServiceVIPs) =
          some vipList → vipList ≠ [] →
            Pooled netObj vipList (hostInterface netObj) session.cluster := by
  intro session storable
  have outcome : (reconcileVIPPool netObj (hostInterface netObj) ⟨noFaults, rank⟩ session).1 =
      poolOutcome netObj := by
    unfold reconcileVIPPool poolOutcome
    dsimp only
    split
    next => rfl
    next =>
      cases unmarshalStrict decodeTexts [] (annotationOf netObj annotationLBServiceVIPs) with
      | none => rfl
      | some vipList =>
          cases vipList with
          | nil => rfl
          | cons first others =>
              simp only [reconcileMetalLB, Program.bind_apply, applyOrUpdate_granted]
              rfl
  refine ⟨outcome, fun vipList decoded nonempty => ?_⟩
  have clean : (poolOutcome netObj).2 = .ok () := by
    unfold poolOutcome
    dsimp only
    split
    next => rfl
    next =>
      rw [decoded]
      cases vipList with
      | nil => exact absurd rfl nonempty
      | cons first others => rfl
  rw [← outcome] at clean
  exact reconcileVIPPool_pooled netObj (hostInterface netObj) session storable clean vipList
    decoded nonempty

/-- Without failing calls every Service that asks for the Network and may is bound. -/
theorem reconcileServices_settles : Program.Triple ⟨noFaults, rank⟩ (fun _ => True)
    (reconcileServices texts netObj) fun outcome session =>
      outcome = .ok () ∧ ∀ key, BoundAt netObj key session.cluster := by
  intro session _
  have read := list_cluster .service none [] ⟨noFaults, rank⟩ session
  simp only [reconcileServices, Program.bind_apply, list_ranked, listed_all]
  set services := arranged (rank (session.times (.list .service none []))
    (.list .service none [])) (session.cluster .service).list with servicesEq
  have listing : services.Perm (session.cluster .service).list := arranged_perm _ _
  have start : ([] : List (ObjectKey × ApiError)) = [] ∧ Binding netObj session.cluster [] []
      (list .service none [] ⟨noFaults, rank⟩ session).2 :=
    ⟨rfl, fun key _ => by rw [read], fun _ _ listed => by cases listed⟩
  have turns : Program.Triple ⟨noFaults, rank⟩
      (fun after => ([] : List (ObjectKey × ApiError)) = [] ∧
        Binding netObj session.cluster [] [] after)
      (services.foldlM (bindService texts netObj) [])
      (fun errors after => errors = [] ∧ Binding netObj session.cluster services errors after) := by
    refine .foldlM (fun done errors after => errors = [] ∧
      Binding netObj session.cluster done errors after) (fun front svc rest whole errors => ?_) []
    rintro middle ⟨rfl, binding⟩
    refine ⟨?_, bindService_binding texts netObj listing whole [] middle binding⟩
    obtain ⟨stored, first⟩ := listed_once listing whole
    have present : (middle.cluster .service).get? svc.key = some svc :=
      (binding.rest _ first).trans stored
    unfold bindService
    split
    next =>
      split
      next => rfl
      next =>
        split
        next => rfl
        next =>
          obtain ⟨result, granted⟩ := update_noFaults rank .service
            (withPool svc (poolName netObj.key.name)) present
          simp only [Program.bind_apply, granted]
          rfl
    next => rfl
  obtain ⟨clean, binding⟩ := turns _ start
  simp only [Program.pure_apply, clean, if_true]
  refine ⟨trivial, fun key svc found => ?_⟩
  by_cases listed : ∃ other ∈ services, other.key = key
  · obtain ⟨other, listed, rfl⟩ := listed
    exact binding.bound clean other listed svc found
  · have same := binding.rest key fun other inList same => listed ⟨other, inList, same⟩
    rw [same] at found
    have filed := Store.key_of_get? found
    exact absurd ⟨svc, listing.mem_iff.mpr (Store.mem_list.mpr (filed ▸ found)), filed⟩ listed

theorem reconcileChildren_spares (kind : Kind) (ifaceName vlanMTU : String)
    (other : kind ≠ .netAttachDef ∧ kind ≠ .ipAddressPool ∧ kind ≠ .l2Advertisement ∧
      kind ≠ .service) :
    (reconcileChildren texts netObj ifaceName vlanMTU).Guarantees (Makes (Call.Spares kind)) := by
  have children : ∀ call, ChildCall call → call.Spares kind := by
    intro call child key target
    rcases child _ _ target with rfl | rfl | rfl
    · exact other.1 rfl
    · exact other.2.1 rfl
    · exact other.2.2.1 rfl
  have services : ∀ call, ServiceCall call → call.Spares kind := by
    intro call service key target
    obtain rfl := service _ _ target
    exact other.2.2.2 rfl
  refine .bind ((attachNetwork_makes _ _ _).weaken fun _ _ makes =>
    makes.weaken children) fun _ => ?_
  refine .bind ((reconcileVIPPool_makes _ _).weaken fun _ _ makes =>
    makes.weaken children) fun _ => ?_
  exact .bind ((reconcileServices_makes _ _).weaken fun _ _ makes => makes.weaken services)
    fun _ => .pure _

theorem reconcileChildren_settles {session : Session}
    (storable : AllStorable (desiredChildren session.cluster netObj) session.cluster) :
    (reconcileChildren texts netObj (hostInterface netObj) (vlanMTUOf netObj) ⟨noFaults, rank⟩
        session).1 = settledErrors texts netObj ∧
      AtRest netObj (reconcileChildren texts netObj (hostInterface netObj) (vlanMTUOf netObj)
        ⟨noFaults, rank⟩ session).2.cluster := by
  have namespaces := (reconcileChildren_spares texts netObj .namespace (hostInterface netObj)
    (vlanMTUOf netObj) (by decide) ⟨noFaults, rank⟩ session).listed_unchanged
      (fun _ off => off) none []
  rw [listed_all, listed_all] at namespaces
  have attaching := attachNetwork_settles netObj rank session.cluster session
    ⟨rfl, fun named child listed => storable child (desiredAttachments_subset named listed)⟩
  have poolStorable : AllStorable (desiredPool netObj (hostInterface netObj))
      (attachNetwork netObj (hostInterface netObj) (vlanMTUOf netObj) ⟨noFaults, rank⟩
        session).2.cluster :=
    attachNetwork_storable netObj _ _ _ fun child listed =>
      storable child (desiredPool_subset session.cluster netObj listed)
  simp only [reconcileChildren, Program.bind_apply, Program.pure_apply] at namespaces ⊢
  generalize attachNetwork netObj (hostInterface netObj) (vlanMTUOf netObj) ⟨noFaults, rank⟩
    session =
    attached at attaching poolStorable namespaces ⊢
  obtain ⟨outcome, middle⟩ := attached
  obtain ⟨rfl, everywhere⟩ := attaching
  have pooling := reconcileVIPPool_settles netObj rank middle poolStorable
  have poolSpares : Makes (Call.Spares .netAttachDef) middle
      (reconcileVIPPool netObj (hostInterface netObj) ⟨noFaults, rank⟩ middle).2 :=
    reconcileVIPPool_spares _ _ middle
  generalize reconcileVIPPool netObj (hostInterface netObj) ⟨noFaults, rank⟩ middle = pooled
    at pooling poolSpares namespaces ⊢
  obtain ⟨outcome, late⟩ := pooled
  obtain ⟨rfl, pools⟩ := pooling
  have binding := reconcileServices_settles texts netObj rank late trivial
  have servicing := reconcileServices_makes texts netObj ⟨noFaults, rank⟩ late
  generalize reconcileServices texts netObj ⟨noFaults, rank⟩ late = bound
    at binding servicing namespaces ⊢
  obtain ⟨outcome, after⟩ := bound
  obtain ⟨rfl, binds⟩ := binding
  have childServices : ∀ {kind : Kind}, kind ≠ .service → ∀ key,
      (after.cluster kind).get? key = (late.cluster kind).get? key := fun other key =>
    servicing.unchanged fun call service target => other (service _ _ target)
  refine ⟨List.append_nil _, fun named mtuInt parsed ns listed live => ?_,
    fun vipList decoded nonempty => ?_, binds⟩
  · rw [namespaces] at listed
    refine (storedSpec_congr ?_).mp (everywhere named mtuInt parsed ns listed live)
    rw [childServices (by decide)]
    exact (poolSpares.unchanged fun call off => off _).symm
  · obtain ⟨pool, l2⟩ := pools vipList decoded nonempty
    exact ⟨(storedSpec_congr (childServices (by decide) _).symm).mp pool,
      (storedSpec_congr (childServices (by decide) _).symm).mp l2⟩

/-- The kinds that a Reconcile of a Network writes besides the Network. -/
def ChildKind (kind : Kind) : Prop :=
  kind = .netAttachDef ∨ kind = .ipAddressPool ∨ kind = .l2Advertisement ∨ kind = .service

theorem networkConditions_settles {session : Session}
    (storable : AllStorable (desiredChildren session.cluster netObj) session.cluster) :
    (networkConditions texts netObj ⟨noFaults, rank⟩ session).1 =
        settledConditions texts session.cluster netObj ∧
      AtRest netObj (networkConditions texts netObj ⟨noFaults, rank⟩ session).2.cluster ∧
      ∀ kind, ¬ ChildKind kind → ∀ key,
        ((networkConditions texts netObj ⟨noFaults, rank⟩ session).2.cluster kind).get? key =
          (session.cluster kind).get? key := by
  have probing := isProvisioned_quiet netObj rank session rfl
  simp only [networkConditions, Program.bind_apply, Program.pure_apply]
  rw [show interfaceNameOf netObj (annotationOf netObj annotationVLANID) =
    hostInterface netObj from rfl]
  generalize isProvisioned netObj (annotationOf netObj annotationVLANID) (hostInterface netObj)
    ⟨noFaults, rank⟩ session = probed at probing ⊢
  obtain ⟨provisioned, early⟩ := probed
  obtain ⟨rfl, earlyCluster, -⟩ := probing
  have warning : (warnUnlessProvisioned netObj (provisionedIn session.cluster netObj)
      ⟨noFaults, rank⟩ early).2.cluster = early.cluster := warnUnlessProvisioned_cluster _
  dsimp only at earlyCluster ⊢
  rw [earlyCluster] at warning
  generalize (warnUnlessProvisioned netObj (provisionedIn session.cluster netObj)
    ⟨noFaults, rank⟩ early).2 = warned at warning ⊢
  rw [← warning] at storable
  have settling := reconcileChildren_settles texts netObj rank storable
  have spares : ∀ kind, ¬ ChildKind kind → Makes (Call.Spares kind) warned _ := fun kind other =>
    reconcileChildren_spares texts netObj kind (hostInterface netObj) (vlanMTUOf netObj)
      (by simpa [ChildKind] using other) ⟨noFaults, rank⟩ warned
  rw [vlanMTUOf] at settling spares
  generalize reconcileChildren texts netObj (hostInterface netObj)
    (if annotationOf netObj annotationVLANMTU = "" then defaultVLANMTU
      else annotationOf netObj annotationVLANMTU) ⟨noFaults, rank⟩ warned = worked
    at settling spares ⊢
  obtain ⟨errors, after⟩ := worked
  obtain ⟨rfl, rest⟩ := settling
  have others : ∀ kind, ¬ ChildKind kind → ∀ key,
      (after.cluster kind).get? key = (session.cluster kind).get? key := by
    intro kind other key
    rw [← warning]
    exact (spares kind other).unchanged fun call off => off key
  obtain ⟨active, lastCluster, -⟩ := isCoreDNSGatewayRuleActive_quiet rank after rfl
  have sameRule : ruleActiveIn after.cluster = ruleActiveIn session.cluster := by
    rw [ruleActiveIn, ruleActiveIn, others .configMap (by simp [ChildKind])]
  dsimp only
  rw [active, sameRule, lastCluster]
  exact ⟨rfl, rest, others⟩

end Settling

def SameTime (before after : Session) : Prop := after.now = before.now

instance : Std.Refl SameTime := ⟨fun _ => rfl⟩

instance : IsTrans Session SameTime := ⟨fun _ _ _ first second => Eq.trans second first⟩

theorem request_sameTime {Result : Type} (call : Call)
    (effect : Session → Except ApiError (Result × Cluster)) :
    (request call effect).Guarantees SameTime := by
  intro client session
  simp only [request]
  split <;> rfl

theorem list_sameTime (kind : Kind) (ns : Option String) (labels : List (String × String)) :
    (list kind ns labels).Guarantees SameTime := fun client session =>
  request_sameTime _ _ client session

theorem applyOrUpdate_sameTime (kind : CustomKind) (obj : Unstructured) :
    (applyOrUpdate kind obj).Guarantees SameTime :=
  applyObject_guarantees (request_sameTime _ _) (request_sameTime _ _)
    (request_sameTime _ _)

section SameTime

variable (texts : LibraryTexts) (netObj : Unstructured)

theorem attachNetwork_sameTime (ifaceName vlanMTU : String) :
    (attachNetwork netObj ifaceName vlanMTU).Guarantees SameTime := by
  unfold attachNetwork reconcileNetAttachDef
  split
  · exact .pure _
  · split
    · exact .pure _
    · refine .bind (list_sameTime _ _ _) fun outcome => ?_
      split
      · exact .pure _
      · refine .bind (.foldlM _ (fun ns _ applyErrors => ?_) _) fun _ => .pure _
        unfold applyInNamespace
        split
        · exact .pure _
        · refine .bind (applyOrUpdate_sameTime _ _) fun outcome => ?_
          split <;> exact .pure _

theorem reconcileVIPPool_sameTime (ifaceName : String) :
    (reconcileVIPPool netObj ifaceName).Guarantees SameTime := by
  unfold reconcileVIPPool
  dsimp only
  split
  · exact .pure _
  · split
    · exact .pure _
    · exact .pure _
    · refine .bind (.bind (applyOrUpdate_sameTime _ _) fun outcome => ?_) fun _ => .pure _
      split
      · exact .pure _
      · refine .bind (applyOrUpdate_sameTime _ _) fun outcome => ?_
        split <;> exact .pure _

theorem reconcileServices_sameTime : (reconcileServices texts netObj).Guarantees SameTime := by
  refine .bind (list_sameTime _ _ _) fun outcome => ?_
  split
  · exact .pure _
  · refine .bind (.foldlM _ (fun svc _ updateErrors => ?_) _) fun _ => .pure _
    unfold bindService
    split
    · split
      · exact .bind (fun _ _ => rfl) fun _ => .pure _
      · split
        · exact .pure _
        · refine .bind (request_sameTime _ _) fun outcome => ?_
          split <;> exact .pure _
    · exact .pure _

theorem networkConditions_sameTime : (networkConditions texts netObj).Guarantees SameTime := by
  refine .bind ?_ fun provisioned => .bind ?_ fun _ => .bind ?_ fun _ => .bind ?_ fun _ => .pure _
  · unfold isProvisioned
    split
    · exact .pure _
    · refine .bind (request_sameTime _ _) fun outcome => ?_
      split <;> exact .pure _
  · unfold warnUnlessProvisioned
    split
    · exact .pure _
    · exact fun _ _ => rfl
  · exact .bind (attachNetwork_sameTime _ _ _) fun _ =>
      .bind (reconcileVIPPool_sameTime _ _) fun _ =>
      .bind (reconcileServices_sameTime _ _) fun _ => .pure _
  · refine .bind (request_sameTime _ _) fun outcome => ?_
    split <;> exact .pure _

theorem ensureFinalizer_sameTime :
    (ensureFinalizer .network networkFinalizer netObj).Guarantees SameTime := by
  unfold ensureFinalizer
  split
  · exact .pure _
  · exact request_sameTime _ _

end SameTime

section Versions

variable {netObj other : Unstructured} {cluster after : Cluster}

theorem AtRest.congr (rest : AtRest netObj cluster) (same : SameNetwork netObj other)
    (kept : ∀ kind, kind ≠ .network → ∀ key,
      (cluster kind).get? key = (after kind).get? key) : AtRest other after := by
  obtain ⟨attached, pooled, bound⟩ := rest
  rw [same.hostInterface_eq, same.vlanMTUOf_eq] at attached
  rw [same.hostInterface_eq, same.annotationOf_eq] at pooled
  refine ⟨fun named mtuInt parsed ns listed live => ?_, fun vipList decoded nonempty => ?_,
    fun key svc found => ?_⟩
  · rw [← Store.list_congr (kept .namespace (by decide))] at listed
    have stored := attached named mtuInt parsed ns listed live
    rw [same.cniConfig_eq] at stored
    have sameNAD : ∀ config, (StoredSpec .netAttachDef (netAttachDef netObj ns.key.name config)
        after ↔ StoredSpec .netAttachDef (netAttachDef other ns.key.name config) after) :=
      fun config => storedSpec_of_body (by simp [netAttachDef, childObject, same.key]) rfl
    exact (sameNAD _).mp ((storedSpec_congr (kept _ (by decide) _)).mp stored)
  · obtain ⟨pool, l2⟩ := pooled vipList decoded nonempty
    have samePool : StoredSpec .ipAddressPool (ipAddressPool netObj vipList) after ↔
        StoredSpec .ipAddressPool (ipAddressPool other vipList) after :=
      storedSpec_of_body (by simp [ipAddressPool, childObject, same.key]) rfl
    have sameL2 : ∀ ifaceName,
        (StoredSpec .l2Advertisement (l2Advertisement netObj ifaceName) after ↔
        StoredSpec .l2Advertisement (l2Advertisement other ifaceName) after) := fun ifaceName =>
      storedSpec_of_body (by simp [l2Advertisement, childObject, same.key])
        (by simp [l2Advertisement, childObject, same.key])
    exact ⟨samePool.mp ((storedSpec_congr (kept _ (by decide) _)).mp pool),
      (sameL2 _).mp ((storedSpec_congr (kept _ (by decide) _)).mp l2)⟩
  · have carries := bound key svc ((kept _ (by decide) _).trans found)
    rwa [same.key, namespaceAllowedForNetwork, same.annotations] at carries

theorem settledConditions_congr (texts : LibraryTexts) (same : SameNetwork netObj other)
    (kept : ∀ key, (cluster .configMap).get? key = (after .configMap).get? key) :
    settledConditions texts cluster netObj = settledConditions texts after other := by
  have attach : attachOutcome netObj = attachOutcome other := by
    rw [attachOutcome, attachOutcome, same.hostInterface_eq, same.vlanMTUOf_eq]
  have pool : poolOutcome netObj = poolOutcome other := by
    simp only [poolOutcome, same.annotationOf_eq]
  have provisioned : provisionedIn cluster netObj = provisionedIn after other := by
    simp only [provisionedIn, isPrimaryNetwork, same.key, same.annotationOf_eq,
      same.hostInterface_eq, kept]
  simp only [settledConditions, settledErrors, ruleActiveIn, attach, pool, provisioned, kept]

end Versions

section Runs

variable {texts : LibraryTexts} {netObj : Unstructured} {rank : Rank} {session : Session}

theorem proper_withStatus {fields : Fields} (proper : (Value.map fields).Proper)
    {status : Option Value} (properStatus : ∀ value ∈ status, value.Proper) :
    (Value.map (withStatus fields status)).Proper := by
  rw [Value.Proper, Value.properFields_iff] at proper ⊢
  obtain ⟨distinct, properFields⟩ := proper
  cases status with
  | none =>
      exact ⟨(List.filter_sublist.map Prod.fst).nodup distinct,
        fun field listed => properFields field (List.mem_of_mem_filter listed)⟩
  | some value =>
      have stored := setEntry_nodup "status" value distinct
      refine ⟨stored, fun (name, found) listed => ?_⟩
      have present := (mem_iff_lookupEntry stored name found).mp listed
      rw [lookupEntry_setEntry] at present
      split at present
      · cases present
        exact properStatus value rfl
      · exact properFields (name, found) ((mem_iff_lookupEntry distinct name found).mpr present)

/-- Without failing calls a Network that no one deletes gets its finalizer. -/
theorem ensureFinalizer_settles (rank : Rank)
    (found : (session.cluster .network).get? netObj.key = some netObj)
    (undeleted : netObj.metadata.deletionTimestamp = none)
    (proper : (Value.map netObj.body).Proper) :
    ∃ finalized, (ensureFinalizer .network networkFinalizer netObj ⟨noFaults, rank⟩ session).1 =
        .ok finalized ∧
      ((ensureFinalizer .network networkFinalizer netObj ⟨noFaults, rank⟩ session).2.cluster
        .network).get? netObj.key = some finalized ∧
      finalized.metadata.deletionTimestamp = none ∧
      containsFinalizer finalized networkFinalizer = true ∧
      (Value.map finalized.body).Proper := by
  unfold ensureFinalizer
  split
  next present => exact ⟨netObj, rfl, found, undeleted, present, proper⟩
  next absent =>
    have key : (addFinalizer netObj networkFinalizer).key = netObj.key := addFinalizer_key _ _
    rw [← key] at found ⊢
    rw [update_granted rfl found]
    refine ⟨updated .network netObj (addFinalizer netObj networkFinalizer), rfl, ?_, undeleted,
      ?_, ?_⟩
    · have live : ¬ ((updated .network netObj
          (addFinalizer netObj networkFinalizer)).metadata.deletionTimestamp.isSome ∧
            (updated .network netObj (addFinalizer netObj networkFinalizer)).metadata.finalizers =
              []) := by
        simp [updated, undeleted]
      simp only [settle, if_neg live, Cluster.put_self]
      exact Store.get?_put_self _ (updated .network netObj (addFinalizer netObj networkFinalizer))
    · rw [addFinalizer, if_neg absent]
      simp [containsFinalizer, updated]
    · have body : (addFinalizer netObj networkFinalizer).body = netObj.body := by
        simp [addFinalizer, absent]
      simp only [updated, updatedBody, CustomKind.hasStatus, if_true, body]
      apply proper_withStatus proper
      intro value stored
      rw [Value.Proper, Value.properFields_iff] at proper
      exact proper.2 _ (mem_of_lookupEntry stored)

/-- A status update that is let through changes nothing of the object but its status. -/
theorem statusUpdate_stores (rank : Rank) {kind : CustomKind} {obj : Unstructured}
    (conds : List Condition)
    (hasStatus : kind.hasStatus = true)
    (found : (session.cluster (.custom kind)).get? obj.key = some obj) :
    (updateUnstructuredStatusIfChanged kind obj none conds ⟨noFaults, rank⟩ session).1 = .ok () ∧
      ∃ next, ((updateUnstructuredStatusIfChanged kind obj none conds ⟨noFaults, rank⟩
          session).2.cluster (.custom kind)).get? obj.key = some next ∧
        next.metadata = obj.metadata ∧
          lookupEntry "spec" next.body = lookupEntry "spec" obj.body := by
  by_cases settled : StatusSettled obj session.now none conds
  · rw [update_of_settled settled]
    exact ⟨rfl, obj, found, rfl, rfl⟩
  · have asked : updateStatus kind (withDesired obj session.now none conds) ⟨noFaults, rank⟩
        session = _ := updateStatus_granted rfl hasStatus found
    rw [update_of_unsettled settled, asked]
    refine ⟨rfl, { obj with body := withStatus obj.body (lookupEntry "status"
      (withDesired obj session.now none conds).body) }, ?_, rfl,
        lookupEntry_withStatus _ _ (by decide)⟩
    dsimp only
    rw [Cluster.put_self]
    exact Store.get?_put_self _ { obj with body := withStatus obj.body (lookupEntry "status"
      (withDesired obj session.now none conds).body) }

theorem conditions_distinct (provisioned active : Bool) (childErrors : List String) :
    ([readyCondition provisioned childErrors, coreDNSCondition active].map
      Condition.type).Nodup := by
  have ready : (readyCondition provisioned childErrors).type = "Ready" := by
    unfold readyCondition
    split <;> [rfl; split <;> rfl]
  have coreDNS : (coreDNSCondition active).type = "CoreDNSReady" := by cases active <;> rfl
  simp [ready, coreDNS]

/-- The work on a Network with its finalizer leaves it at rest, with a settled status. -/
theorem reconcilePresentNetwork_settles (texts : LibraryTexts) (rank : Rank)
    (found : (session.cluster .network).get? netObj.key = some netObj)
    (proper : (Value.map netObj.body).Proper) (timed : session.now ≠ "")
    (storable : AllStorable (desiredChildren session.cluster netObj) session.cluster) :
    ∃ next, ((reconcilePresentNetwork texts netObj ⟨noFaults, rank⟩ session).2.cluster
        .network).get? netObj.key = some next ∧ next.metadata = netObj.metadata ∧
      AtRest next (reconcilePresentNetwork texts netObj ⟨noFaults, rank⟩ session).2.cluster ∧
      ∀ now, StatusSettled next now none (settledConditions texts
        (reconcilePresentNetwork texts netObj ⟨noFaults, rank⟩ session).2.cluster next) := by
  obtain ⟨computed, rest, others⟩ :=
    networkConditions_settles texts netObj rank storable
  have clock := networkConditions_sameTime texts netObj ⟨noFaults, rank⟩ session
  rw [reconcilePresentNetwork_conditions]
  simp only [Program.bind_apply, Program.pure_apply]
  generalize networkConditions texts netObj ⟨noFaults, rank⟩ session = worked
    at computed rest others clock ⊢
  obtain ⟨conditions, after⟩ := worked
  dsimp only at computed rest others clock ⊢
  have present : (after.cluster .network).get? netObj.key = some netObj :=
    (others .network (by simp [ChildKind]) _).trans found
  have distinct : (conditions.map Condition.type).Nodup := by
    rw [computed]
    exact conditions_distinct _ _ _
  obtain ⟨succeeded, next, stored, metadata, spec⟩ := statusUpdate_stores rank
    conditions rfl present
  have settled := settled_after_update proper (by simp) distinct (clock.symm ▸ timed) present
    succeeded stored (.inr (.inl rfl))
  have writes : Makes (fun call => call = .updateStatus .network netObj.key ∨
      call = .update .network netObj.key) after
      (updateUnstructuredStatusIfChanged .network netObj none conditions
        ⟨noFaults, rank⟩ after).2 :=
    updateUnstructuredStatusIfChanged_makes ⟨.inl rfl, .inr rfl⟩ _ after
  have kept : ∀ kind, kind ≠ .network → ∀ key, (after.cluster kind).get? key = _ :=
    fun kind other key => (writes.unchanged (by
      rintro call (rfl | rfl) target <;> cases target <;> exact other rfl)).symm
  have same : SameNetwork netObj next :=
    ⟨congrArg ObjectMeta.key metadata.symm, congrArg ObjectMeta.annotations metadata.symm,
      spec.symm⟩
  have conditionsKept := settledConditions_congr texts same
    (fun key => ((others .configMap (by simp [ChildKind]) key).symm.trans
      (kept .configMap (by decide) key)))
  refine ⟨next, stored, metadata, rest.congr same kept, fun now => ?_⟩
  rw [← conditionsKept, ← computed]
  exact settled now

/-- After a Reconcile without failing calls, a further one makes reads only, whenever it
runs and in whatever order objects are listed. -/
theorem reconcileNetwork_comesToRest {name : String}
    (found : (session.cluster .network).get? ⟨"", name⟩ = some netObj)
    (undeleted : netObj.metadata.deletionTimestamp = none)
    (proper : (Value.map netObj.body).Proper) (timed : session.now ≠ "")
    (storable : AllStorable (desiredChildren session.cluster netObj) session.cluster)
    (later : Rank) :
    Quiet ⟨noFaults, later⟩ (reconcileNetwork texts name ⟨noFaults, rank⟩ session).2.cluster
      (reconcileNetwork texts name) (· = .ok (some 30)) := by
  have filed : netObj.key = ⟨"", name⟩ := Store.key_of_get? found
  have unchanged := get_cluster .network ⟨"", name⟩ ⟨noFaults, rank⟩ session
  have clock : SameTime session (get .network ⟨"", name⟩ ⟨noFaults, rank⟩ session).2 :=
    request_sameTime _ _ _ _
  have asked : (get .network ⟨"", name⟩ ⟨noFaults, rank⟩ session).1 = .ok netObj := by
    rw [get_noFaults, found]
  -- The run as far as the finalizer, and what it leaves.
  have run : (reconcileNetwork texts name ⟨noFaults, rank⟩ session).2 =
      (match ensureFinalizer .network networkFinalizer netObj ⟨noFaults, rank⟩
          (get .network ⟨"", name⟩ ⟨noFaults, rank⟩ session).2 with
        | (.error _, middle) => middle
        | (.ok finalized, middle) =>
            (reconcilePresentNetwork texts finalized ⟨noFaults, rank⟩ middle).2) := by
    simp only [reconcileNetwork, Program.bind_apply, asked, undeleted, Option.isSome_none,
      Bool.false_eq_true, if_false]
    split
    next error ensured => simp [ensured]
    next finalized ensured => simp [Program.bind_apply, ensured]
  rw [run]
  clear run asked
  generalize (get .network ⟨"", name⟩ ⟨noFaults, rank⟩ session).2 = read at unchanged clock ⊢
  rw [← filed, ← unchanged] at found
  rw [← unchanged] at storable
  obtain ⟨finalized, ensured, stored, live, finalizes, properThen⟩ :=
    ensureFinalizer_settles rank found undeleted proper
  have same := ensureFinalizer_sameNetwork ensured
  have uid := ensureFinalizer_uid found ensured
  have makes : Makes (Eq (.update .network netObj.key)) read
      (ensureFinalizer .network networkFinalizer netObj ⟨noFaults, rank⟩ read).2 :=
    ensureFinalizer_makes rfl _ read
  have clockThen := ensureFinalizer_sameTime netObj ⟨noFaults, rank⟩ read
  generalize ensureFinalizer .network networkFinalizer netObj ⟨noFaults, rank⟩ read = outcome
    at ensured stored makes clockThen ⊢
  obtain ⟨outcome, middle⟩ := outcome
  obtain rfl : outcome = .ok finalized := ensured
  have others : ∀ kind, kind ≠ .network → ∀ key,
      (middle.cluster kind).get? key = (read.cluster kind).get? key :=
    fun kind other key => makes.unchanged (by
      rintro call rfl target
      cases target
      exact other rfl)
  have storableThen : AllStorable (desiredChildren middle.cluster finalized) middle.cluster := by
    rw [desiredChildren_congr same uid,
      desiredChildren_namespaces netObj (Store.list_congr (others .namespace (by decide)))]
    exact storable.congr fun child listed => others _ (desiredChildren_ne_network listed) _
  have timedThen : middle.now ≠ "" := by
    rw [show middle.now = session.now from Eq.trans clockThen clock]
    exact timed
  obtain ⟨next, left, metadata, rest, settled⟩ := reconcilePresentNetwork_settles texts rank
    (same.key ▸ stored) properThen timedThen storableThen
  refine reconcileNetwork_quiet ?_ (metadata ▸ live) ?_ rest settled
  · rwa [same.key, filed] at left
  · rw [containsFinalizer, metadata]
    exact finalizes

/-- Reconciles of a Network one after another, each with its order of listing and time. -/
def reconcileRepeatedly (texts : LibraryTexts) (name : String) (runs : List (Rank × String))
    (session : Session) : Session :=
  runs.foldl (fun session (rank, now) =>
    (reconcileNetwork texts name ⟨noFaults, rank⟩ { session with now }).2) session

theorem reconcileRepeatedly_quiet {name : String} {cluster : Cluster}
    (quiet : ∀ rank, Quiet ⟨noFaults, rank⟩ cluster (reconcileNetwork texts name) fun _ => True)
    (runs : List (Rank × String)) (same : session.cluster = cluster) :
    (reconcileRepeatedly texts name runs session).cluster = cluster ∧
      Makes Reads session (reconcileRepeatedly texts name runs session) := by
  induction runs generalizing session with
  | nil => exact ⟨same, Std.Refl.refl session⟩
  | cons run rest inductionHypothesis =>
      obtain ⟨rank, now⟩ := run
      obtain ⟨-, kept, reads⟩ := quiet rank { session with now } same
      obtain ⟨keptThen, readsThen⟩ := inductionHypothesis kept
      have readsNow : Makes Reads session _ := reads
      exact ⟨keptThen, IsTrans.trans _ _ _ readsNow readsThen⟩

/-- After a Reconcile without failing calls any number of further ones write nothing. -/
theorem reconcileNetwork_idempotent {name : String}
    (found : (session.cluster .network).get? ⟨"", name⟩ = some netObj)
    (undeleted : netObj.metadata.deletionTimestamp = none)
    (proper : (Value.map netObj.body).Proper) (timed : session.now ≠ "")
    (storable : AllStorable (desiredChildren session.cluster netObj) session.cluster)
    (runs : List (Rank × String)) :
    let first := (reconcileNetwork texts name ⟨noFaults, rank⟩ session).2
    (reconcileRepeatedly texts name runs first).cluster = first.cluster ∧
      Makes Reads first (reconcileRepeatedly texts name runs first) :=
  reconcileRepeatedly_quiet (fun later => (reconcileNetwork_comesToRest found undeleted proper timed
    storable later).weaken fun _ _ => trivial) runs rfl

theorem vlanNetwork_proper : (Value.map vlanNetwork.body).Proper := by
  simp [vlanNetwork, Value.Proper, Value.ProperFields]

theorem reconcileNetwork_idempotent_vlan :
    let session : Session := { cluster := vlanCluster, now := "2026-01-01T00:00:00Z" }
    let first := (reconcileNetwork noTexts "n" noFaults session).2
    let runs : List (Rank × String) := [(fun _ _ _ => 0, "2026-01-01T00:00:30Z")]
    (reconcileRepeatedly noTexts "n" runs first).cluster = first.cluster ∧
      Makes Reads first (reconcileRepeatedly noTexts "n" runs first) :=
  have found : (vlanCluster .network).get? ⟨"", "n"⟩ = some vlanNetwork := rfl
  reconcileNetwork_idempotent found rfl vlanNetwork_proper (by decide) vlanCluster_storable _

end Runs

end GemEmulation.Operator
