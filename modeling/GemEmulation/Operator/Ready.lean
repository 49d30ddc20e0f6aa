import GemEmulation.Operator.Deletion

/-!
# Soundness of the Ready condition

A Network's Reconcile computes a Ready condition with status True only when the
host interface, the children and the Services are as the Network asks.
-/

namespace GemEmulation.Operator

open Foundations Foundations.Json Kube

/-- Two versions of a Network that differ in nothing but bookkeeping. -/
structure SameNetwork (netObj other : Unstructured) : Prop where
  key : netObj.key = other.key
  annotations : netObj.metadata.annotations = other.metadata.annotations
  spec : lookupEntry "spec" netObj.body = lookupEntry "spec" other.body

theorem deepEqualItems_strings (texts : List String) :
    Value.deepEqualItems (texts.map .string) (texts.map .string) = true := by
  induction texts with
  | nil => rfl
  | cons text rest inductionHypothesis =>
      simpa [Value.deepEqualItems, Value.deepEqual] using inductionHypothesis

theorem sameSpec_netAttachDef (owner other : Unstructured) (ns ns' config : String) :
    sameSpec (netAttachDef owner ns config) (netAttachDef other ns' config) = true := by
  simp [sameSpec, netAttachDef, childObject, lookupEntry, Value.deepEqual, Value.deepEqualFields]

theorem sameSpec_ipAddressPool (owner : Unstructured) (vipPool : List String) :
    sameSpec (ipAddressPool owner vipPool) (ipAddressPool owner vipPool) = true := by
  simp [sameSpec, ipAddressPool, childObject, lookupEntry, Value.deepEqual, Value.deepEqualFields,
    deepEqualItems_strings]

theorem sameSpec_l2Advertisement (owner : Unstructured) (ifaceName : String) :
    sameSpec (l2Advertisement owner ifaceName) (l2Advertisement owner ifaceName) = true := by
  simp [sameSpec, l2Advertisement, childObject, lookupEntry, Value.deepEqual,
    Value.deepEqualFields, Value.deepEqualItems]

/-- A NetworkAttachmentDefinition with the desired spec has the desired config. -/
theorem config_of_sameSpec {nad owner : Unstructured} {ns config : String}
    (same : sameSpec nad (netAttachDef owner ns config) = true) :
    nestedString nad.body ["spec", "config"] = some config := by
  have desired : lookupEntry "spec" (netAttachDef owner ns config).body =
      some (.map [("config", .string config)]) := rfl
  rw [sameSpec, desired] at same
  cases spec : lookupEntry "spec" nad.body with
  | none => simp [spec] at same
  | some value =>
      rw [spec] at same
      cases value with
      | map fields =>
          match fields with
          | [(name, inner)] =>
              simp only [Value.deepEqual, Value.deepEqualFields, lookupEntry, Bool.and_true,
                List.length_singleton, decide_true, Bool.true_and] at same
              split at same
              next found lookup =>
                split at lookup
                next named =>
                  cases lookup
                  cases inner with
                  | string text =>
                      simp only [Value.deepEqual, decide_eq_true_eq] at same
                      subst same
                      simp [nestedString, nestedField, Value.nested, spec, lookupEntry, named,
                        Value.asString]
                  | _ => simp [Value.deepEqual] at same
                next => cases lookup
              next => cases same
          | [] => simp [Value.deepEqual] at same
          | _ :: _ :: _ => simp [Value.deepEqual] at same
      | _ => simp [Value.deepEqual] at same

/-- The NetworkAttachmentDefinitions in the namespaces that are not going away. -/
def desiredAttachments (cluster : Cluster) (netObj : Unstructured) (ifaceName mtu : String) :
    List (CustomKind × Unstructured) :=
  match parseMTU mtu with
  | none => []
  | some mtuInt =>
      ((cluster .namespace).list.filter fun ns => ns.metadata.deletionTimestamp.isNone).map
        fun ns => (.netAttachDef, netAttachDef netObj ns.key.name
          (cniConfig netObj ifaceName mtuInt))

def desiredPool (netObj : Unstructured) (ifaceName : String) : List (CustomKind × Unstructured) :=
  match unmarshalStrict decodeTexts [] (annotationOf netObj annotationLBServiceVIPs) with
  | none | some [] => []
  | some vipList => [(.ipAddressPool, ipAddressPool netObj vipList),
      (.l2Advertisement, l2Advertisement netObj ifaceName)]

def desiredChildren (cluster : Cluster) (netObj : Unstructured) :
    List (CustomKind × Unstructured) :=
  let ifaceName := interfaceNameOf netObj (annotationOf netObj annotationVLANID)
  (if ifaceName = "" then []
    else desiredAttachments cluster netObj ifaceName (vlanMTUOf netObj)) ++
      desiredPool netObj ifaceName

theorem desiredPool_kind {owner : Unstructured} {ifaceName : String}
    {child : CustomKind × Unstructured} (listed : child ∈ desiredPool owner ifaceName) :
    child.1 = .ipAddressPool ∨ child.1 = .l2Advertisement := by
  unfold desiredPool at listed
  split at listed
  next => cases listed
  next => cases listed
  next =>
    simp only [List.mem_cons, List.not_mem_nil, or_false] at listed
    rcases listed with rfl | rfl <;> simp

theorem desiredAttachments_kind {cluster : Cluster} {owner : Unstructured} {ifaceName mtu : String}
    {child : CustomKind × Unstructured}
    (listed : child ∈ desiredAttachments cluster owner ifaceName mtu) :
      child.1 = .netAttachDef := by
  unfold desiredAttachments at listed
  split at listed
  · cases listed
  · obtain ⟨ns, -, rfl⟩ := List.mem_map.mp listed
    rfl

theorem desiredChildren_kind {cluster : Cluster} {netObj : Unstructured}
    {child : CustomKind × Unstructured} (listed : child ∈ desiredChildren cluster netObj) :
    child.1 = .netAttachDef ∨ child.1 = .ipAddressPool ∨ child.1 = .l2Advertisement := by
  rcases List.mem_append.mp listed with attachment | poolChild
  · split at attachment
    · cases attachment
    · exact .inl (desiredAttachments_kind attachment)
  · exact .inr (desiredPool_kind poolChild)

theorem desiredChildren_ne_network {cluster : Cluster} {netObj : Unstructured}
    {child : CustomKind × Unstructured} (listed : child ∈ desiredChildren cluster netObj) :
    Kind.custom child.1 ≠ .network := by
  rcases desiredChildren_kind listed with kind | kind | kind <;> simp [kind]

theorem desiredChildren_namespaces {cluster other : Cluster} (netObj : Unstructured)
    (same : (cluster .namespace).list = (other .namespace).list) :
    desiredChildren cluster netObj = desiredChildren other netObj := by
  simp only [desiredChildren, desiredAttachments, same]

theorem mem_desiredAttachments {cluster : Cluster} {owner : Unstructured} {ifaceName mtu : String}
    {mtuInt : Int} {ns : Object Unit} (parsed : parseMTU mtu = some mtuInt)
    (listed : ns ∈ (cluster .namespace).list) (remains : ns.metadata.deletionTimestamp = none) :
    (.netAttachDef, netAttachDef owner ns.key.name (cniConfig owner ifaceName mtuInt)) ∈
      desiredAttachments cluster owner ifaceName mtu := by
  rw [desiredAttachments, parsed]
  exact List.mem_map.mpr ⟨ns, List.mem_filter.mpr ⟨listed, by simp [remains]⟩, rfl⟩

theorem desiredPool_eq {owner : Unstructured} {ifaceName : String} {vipList : List String}
    (decoded :
      unmarshalStrict decodeTexts [] (annotationOf owner annotationLBServiceVIPs) = some vipList)
    (nonempty : vipList ≠ []) :
    desiredPool owner ifaceName = [(.ipAddressPool, ipAddressPool owner vipList),
      (.l2Advertisement, l2Advertisement owner ifaceName)] := by
  cases vipList with
  | nil => exact absurd rfl nonempty
  | cons first rest => simp [desiredPool, decoded]

theorem desiredAttachments_subset {cluster : Cluster} {netObj : Unstructured}
    (named : hostInterface netObj ≠ "") :
    desiredAttachments cluster netObj (hostInterface netObj) (vlanMTUOf netObj) ⊆
      desiredChildren cluster netObj := by
  intro child listed
  apply List.mem_append_left
  rwa [← hostInterface, if_neg named]

theorem desiredPool_subset (cluster : Cluster) (netObj : Unstructured) :
    desiredPool netObj (hostInterface netObj) ⊆ desiredChildren cluster netObj :=
  fun _ listed => List.mem_append_right _ listed

/-- An apply of the object is stored: what is there has the spec, or no one is deleting it. -/
def Storable (kind : CustomKind) (obj : Unstructured) (cluster : Cluster) : Prop :=
  ∀ stored, (cluster (.custom kind)).get? obj.key = some stored →
    sameSpec stored obj = true ∨ Undeleted stored

theorem storable_congr {kind : CustomKind} {obj : Unstructured} {cluster other : Cluster}
    (same : (cluster (.custom kind)).get? obj.key = (other (.custom kind)).get? obj.key) :
    Storable kind obj cluster ↔ Storable kind obj other := by
  rw [Storable, Storable, same]

/-- The children are stored when they are applied: no one is deleting a child that is there with
another spec. -/
def AllStorable (children : List (CustomKind × Unstructured)) (cluster : Cluster) : Prop :=
  ∀ child ∈ children, Storable child.1 child.2 cluster

theorem AllStorable.pool {owner : Unstructured} {ifaceName : String} {vipList : List String}
    {cluster : Cluster} (storable : AllStorable (desiredPool owner ifaceName) cluster)
    (decoded :
      unmarshalStrict decodeTexts [] (annotationOf owner annotationLBServiceVIPs) = some vipList)
    (nonempty : vipList ≠ []) :
    Storable .ipAddressPool (ipAddressPool owner vipList) cluster ∧
      Storable .l2Advertisement (l2Advertisement owner ifaceName) cluster := by
  rw [AllStorable, desiredPool_eq decoded nonempty] at storable
  exact ⟨storable (.ipAddressPool, ipAddressPool owner vipList) (by simp),
    storable (.l2Advertisement, l2Advertisement owner ifaceName) (by simp)⟩

theorem AllStorable.congr {children : List (CustomKind × Unstructured)} {cluster other : Cluster}
    (storable : AllStorable children cluster)
    (same : ∀ child ∈ children, (other (.custom child.1)).get? child.2.key =
      (cluster (.custom child.1)).get? child.2.key) : AllStorable children other :=
  fun child listed => (storable_congr (same child listed)).mpr (storable child listed)

section Applying

variable {kind : CustomKind} {obj : Unstructured} {client : Client} {session : Session}

theorem applyOrUpdate_outcome (plain : kind.hasStatus = false) (itself : sameSpec obj obj = true)
    (storable : Storable kind obj session.cluster) :
    AppliedOrFailed (.custom kind) sameSpec obj session (applyOrUpdate kind obj client session).1
      (applyOrUpdate kind obj client session).2 := by
  refine applyObject_outcome itself (fun existing => ?_) storable
  simpa [sameSpec, updated, updatedBody, plain] using itself

/-- An apply that was stored will be stored again: it leaves the spec, or what was there. -/
theorem applyOrUpdate_storable (plain : kind.hasStatus = false) (itself : sameSpec obj obj = true)
    (storable : Storable kind obj session.cluster) :
    Storable kind obj (applyOrUpdate kind obj client session).2.cluster := by
  have outcome : AppliedOrFailed (.custom kind) sameSpec obj session
      (applyOrUpdate kind obj client session).1 (applyOrUpdate kind obj client session).2 :=
    applyOrUpdate_outcome plain itself storable
  generalize applyOrUpdate kind obj client session = applied at outcome
  obtain ⟨result, after⟩ := applied
  cases result with
  | error error =>
      have unchanged : after.cluster = session.cluster := outcome
      rw [unchanged]
      exact storable
  | ok _ =>
      obtain ⟨result, found, same⟩ := outcome
      intro stored present
      cases found.symm.trans present
      exact .inl same

theorem applyOrUpdate_spares {spared : Kind} (other : spared ≠ .custom kind) :
    (applyOrUpdate kind obj).Guarantees (Makes (Call.Spares spared)) := by
  refine applyObject_makes.weaken fun _ _ makes => makes.weaken fun call applies key target => ?_
  rcases applies with rfl | rfl | rfl <;> simp [Call.target, other.symm] at target

end Applying

/-- An object is stored under the key of the given one, with the same spec. -/
def StoredSpec (kind : CustomKind) (obj : Unstructured) (cluster : Cluster) : Prop :=
  ∃ stored, (cluster (.custom kind)).get? obj.key = some stored ∧ sameSpec stored obj = true

theorem storedSpec_congr {kind : CustomKind} {obj : Unstructured} {cluster other : Cluster}
    (same : (cluster (.custom kind)).get? obj.key = (other (.custom kind)).get? obj.key) :
    StoredSpec kind obj cluster ↔ StoredSpec kind obj other := by
  rw [StoredSpec, StoredSpec, same]

section Attaching

variable {faults : Faults} {client : Client} (owner : Unstructured) (config : String)

structure Attaching (items done : List (Object Unit)) (applyErrors : List (String × ApiError))
    (session : Session) : Prop where
  storable : ∀ ns ∈ items, ns.metadata.deletionTimestamp = none →
    Storable .netAttachDef (netAttachDef owner ns.key.name config) session.cluster
  attached : applyErrors = [] → ∀ ns ∈ done, ns.metadata.deletionTimestamp = none →
    StoredSpec .netAttachDef (netAttachDef owner ns.key.name config) session.cluster

theorem applyInNamespace_attaching {items : List (Object Unit)} {ns : Object Unit}
    (member : ns ∈ items) (done : List (Object Unit)) (applyErrors : List (String × ApiError)) :
    Program.Triple client (Attaching owner config items done applyErrors)
      (applyInNamespace owner config applyErrors ns)
      (Attaching owner config items (done ++ [ns])) := by
  rintro session ⟨storable, attached⟩
  unfold applyInNamespace
  split
  next terminating =>
    refine ⟨storable, fun clean other listed => ?_⟩
    rcases List.mem_append.mp listed with early | last
    · exact attached clean other early
    · intro remains
      cases List.mem_singleton.mp last
      simp [remains] at terminating
  next present =>
    have here : Storable .netAttachDef (netAttachDef owner ns.key.name config) session.cluster :=
      storable ns member (by simpa using present)
    have outcome : AppliedOrFailed .netAttachDef sameSpec
        (netAttachDef owner ns.key.name config) session
        (applyOrUpdate .netAttachDef (netAttachDef owner ns.key.name config) client session).1
        (applyOrUpdate .netAttachDef (netAttachDef owner ns.key.name config) client session).2 :=
      applyOrUpdate_outcome rfl (sameSpec_netAttachDef owner owner _ _ config) here
    have makes : Makes (AppliesTo .netAttachDef (netAttachDef owner ns.key.name config).key) session
        (applyOrUpdate .netAttachDef (netAttachDef owner ns.key.name config) client session).2 :=
      applyObject_makes client session
    have hereThen : Storable .netAttachDef (netAttachDef owner ns.key.name config)
        (applyOrUpdate .netAttachDef (netAttachDef owner ns.key.name config) client
          session).2.cluster :=
      applyOrUpdate_storable rfl (sameSpec_netAttachDef owner owner _ _ config) here
    simp only [Program.bind_apply]
    generalize applyOrUpdate .netAttachDef (netAttachDef owner ns.key.name config) client session =
      applied at outcome makes hereThen
    obtain ⟨result, after⟩ := applied
    have elsewhere : ∀ name, name ≠ ns.key.name →
        (after.cluster .netAttachDef).get? (netAttachDef owner name config).key =
          (session.cluster .netAttachDef).get? (netAttachDef owner name config).key := by
      refine fun name other => makes.unchanged fun call applies => ?_
      have apart : (netAttachDef owner ns.key.name config).key ≠
          (netAttachDef owner name config).key := fun same =>
        other (congrArg ObjectKey.ns same).symm
      rcases applies with rfl | rfl | rfl <;> simp [Call.target, apart]
    have storableThen : ∀ other ∈ items, other.metadata.deletionTimestamp = none →
        Storable .netAttachDef (netAttachDef owner other.key.name config) after.cluster := by
      intro other listed remains
      by_cases same : other.key.name = ns.key.name
      · rw [same]
        exact hereThen
      · exact (storable_congr (elsewhere _ same)).mpr (storable other listed remains)
    cases result with
    | error error => exact ⟨storableThen, fun clean => by simp at clean⟩
    | ok _ =>
        refine ⟨storableThen, fun clean other listed remains => ?_⟩
        by_cases same : other.key.name = ns.key.name
        · rw [same]
          exact outcome
        · have early : other ∈ done := by
            rcases List.mem_append.mp listed with early | last
            · exact early
            · exact absurd (congrArg (·.key.name) (List.mem_singleton.mp last)) same
          exact (storedSpec_congr (elsewhere _ same).symm).mp (attached clean other early remains)

/-- The NetworkAttachmentDefinition under a key has the configuration. -/
def HasConfig (key : ObjectKey) (config : String) (cluster : Cluster) : Prop :=
  ∃ nad, (cluster .netAttachDef).get? key = some nad ∧
    nestedString nad.body ["spec", "config"] = some config

theorem hasConfig_congr {key : ObjectKey} {config : String} {cluster other : Cluster}
    (same : (cluster .netAttachDef).get? key = (other .netAttachDef).get? key) :
    HasConfig key config cluster ↔ HasConfig key config other := by
  rw [HasConfig, HasConfig, same]

/-- The NetworkAttachmentDefinitions that a successful outcome stands for. -/
def AttachedEverywhere (mtu : String) (ifaceName : String) (cluster after : Cluster) : Prop :=
  ∃ mtuInt, parseMTU mtu = some mtuInt ∧ ∀ ns ∈ (cluster .namespace).list,
    ns.metadata.deletionTimestamp = none →
      HasConfig ⟨ns.key.name, owner.key.name⟩ (cniConfig owner ifaceName mtuInt) after

theorem reconcileNetAttachDef_attached (mtu ifaceName : String) (cluster : Cluster) :
    Program.Triple (faults : Client)
      (fun session => (session.cluster .namespace).list = (cluster .namespace).list ∧
        AllStorable (desiredAttachments cluster owner ifaceName mtu) session.cluster)
      (reconcileNetAttachDef owner ifaceName mtu)
      fun outcome session => outcome = .ok () →
        AttachedEverywhere owner mtu ifaceName cluster session.cluster := by
  rintro session ⟨namespaces, storable⟩
  unfold reconcileNetAttachDef
  cases parsed : parseMTU mtu with
  | none => nofun
  | some mtuInt =>
      have read := list_cluster .namespace none [] faults session
      simp only [Program.bind_apply]
      cases outcome : (list .namespace none [] faults session).1 with
      | error error => nofun
      | ok items =>
          have listing := list_ok outcome
          rw [listed_all, namespaces] at listing
          subst listing
          set config := cniConfig owner ifaceName mtuInt
          have start : Attaching owner config (cluster .namespace).list [] []
              (list .namespace none [] faults session).2 := by
            refine ⟨fun ns listed remains => ?_, fun _ _ listed => by cases listed⟩
            rw [read]
            exact storable _ (mem_desiredAttachments parsed listed remains)
          have turns : Program.Triple (faults : Client)
              (Attaching owner config (cluster .namespace).list [] [])
              ((cluster .namespace).list.foldlM (applyInNamespace owner config) [])
              (Attaching owner config (cluster .namespace).list (cluster .namespace).list) :=
            .foldlM _ (fun done ns rest whole applyErrors =>
              applyInNamespace_attaching owner config (whole ▸ by simp) done applyErrors) []
          have loop := turns _ start
          simp only [Program.bind_apply, Program.pure_apply]
          intro succeeded
          split at succeeded
          next clean =>
            refine ⟨mtuInt, parsed, fun ns listed remains => ?_⟩
            obtain ⟨nad, stored, same⟩ := loop.attached clean ns listed remains
            exact ⟨nad, stored, config_of_sameSpec same⟩
          next => cases succeeded

end Attaching

theorem attachNetwork_spares {spared : Kind} (other : spared ≠ .netAttachDef)
    (owner : Unstructured) (ifaceName mtu : String) :
    (attachNetwork owner ifaceName mtu).Guarantees (Makes (Call.Spares spared)) := by
  unfold attachNetwork reconcileNetAttachDef
  split
  · exact .pure _
  · split
    · exact .pure _
    · refine .bind (list_makes fun _ => by simp [Call.target]) fun outcome => ?_
      split
      · exact .pure _
      · refine .bind (.foldlM _ (fun ns _ applyErrors => ?_) _) fun _ => .pure _
        unfold applyInNamespace
        split
        · exact .pure _
        · refine .bind (applyOrUpdate_spares other) fun outcome => ?_
          split <;> exact .pure _

/-- The NetworkAttachmentDefinitions do not get in the way of the MetalLB objects. -/
theorem attachNetwork_storable (owner : Unstructured) (ifaceName mtu : String) (client : Client)
    {session : Session} (storable : AllStorable (desiredPool owner ifaceName) session.cluster) :
    AllStorable (desiredPool owner ifaceName)
      (attachNetwork owner ifaceName mtu client session).2.cluster := by
  refine storable.congr fun child listed => ?_
  have other : Kind.custom child.1 ≠ .netAttachDef := by
    rcases desiredPool_kind listed with kind | kind <;> simp [kind]
  exact (attachNetwork_spares other owner ifaceName mtu client session).unchanged
    fun call spares => spares _

section Pooling

variable {client : Client} (owner : Unstructured)

def Pooled (vipList : List String) (ifaceName : String) (after : Cluster) : Prop :=
  StoredSpec .ipAddressPool (ipAddressPool owner vipList) after ∧
    StoredSpec .l2Advertisement (l2Advertisement owner ifaceName) after

theorem reconcileMetalLB_pooled (vipList : List String) (ifaceName : String) :
    Program.Triple client
      (fun session => Storable .ipAddressPool (ipAddressPool owner vipList) session.cluster ∧
        Storable .l2Advertisement (l2Advertisement owner ifaceName) session.cluster)
      (reconcileMetalLB owner vipList ifaceName)
      fun outcome session => outcome = .ok () → Pooled owner vipList ifaceName session.cluster := by
  rintro session ⟨poolStorable, l2Storable⟩
  have sparing : Makes (Call.Spares .l2Advertisement) session
      (applyOrUpdate .ipAddressPool (ipAddressPool owner vipList) client session).2 :=
    applyOrUpdate_spares (by decide) client session
  have l2Then : Storable .l2Advertisement (l2Advertisement owner ifaceName)
      (applyOrUpdate .ipAddressPool (ipAddressPool owner vipList) client session).2.cluster :=
    (storable_congr (sparing.unchanged fun call spares => spares _)).mpr l2Storable
  have first : AppliedOrFailed .ipAddressPool sameSpec (ipAddressPool owner vipList) session
      (applyOrUpdate .ipAddressPool (ipAddressPool owner vipList) client session).1
      (applyOrUpdate .ipAddressPool (ipAddressPool owner vipList) client session).2 :=
    applyOrUpdate_outcome rfl (sameSpec_ipAddressPool owner vipList) poolStorable
  simp only [reconcileMetalLB, Program.bind_apply]
  generalize applyOrUpdate .ipAddressPool (ipAddressPool owner vipList) client session = applied
    at first l2Then
  obtain ⟨result, middle⟩ := applied
  cases result with
  | error error =>
      intro succeeded
      cases succeeded
  | ok _ =>
      have second : AppliedOrFailed .l2Advertisement sameSpec
          (l2Advertisement owner ifaceName) middle
          (applyOrUpdate .l2Advertisement (l2Advertisement owner ifaceName) client middle).1
          (applyOrUpdate .l2Advertisement (l2Advertisement owner ifaceName) client middle).2 :=
        applyOrUpdate_outcome rfl (sameSpec_l2Advertisement owner ifaceName) l2Then
      have makes : Makes (AppliesTo .l2Advertisement (l2Advertisement owner ifaceName).key) middle
          (applyOrUpdate .l2Advertisement (l2Advertisement owner ifaceName) client middle).2 :=
        applyObject_makes client middle
      simp only [Program.bind_apply]
      generalize applyOrUpdate .l2Advertisement (l2Advertisement owner ifaceName) client middle =
        applied at second makes
      obtain ⟨result, after⟩ := applied
      cases result with
      | error error =>
          intro succeeded
          cases succeeded
      | ok _ =>
          refine fun _ => ⟨(storedSpec_congr ?_).mp first, second⟩
          exact (makes.unchanged fun call applies => by
            rcases applies with rfl | rfl | rfl <;> simp [Call.target]).symm

theorem reconcileVIPPool_pooled (ifaceName : String) :
    Program.Triple client
      (fun session => AllStorable (desiredPool owner ifaceName) session.cluster)
      (reconcileVIPPool owner ifaceName)
      fun outcome session => outcome.2 = .ok () → ∀ vipList,
        unmarshalStrict decodeTexts [] (annotationOf owner annotationLBServiceVIPs) = some vipList →
          vipList ≠ [] → Pooled owner vipList ifaceName session.cluster := by
  unfold reconcileVIPPool
  dsimp only
  split
  next empty =>
    refine .pure fun session _ _ vipList decoded => ?_
    rw [empty] at decoded
    cases decoded
  next =>
    split
    next invalid => exact .pure fun _ _ => nofun
    next nothing =>
      refine .pure fun session _ _ vipList decoded nonempty => ?_
      cases nothing.symm.trans decoded
      exact absurd rfl nonempty
    next vipList nonempty listed =>
      refine .bind (.consequence (reconcileMetalLB_pooled owner vipList ifaceName)
        (fun session storable => storable.pool listed nonempty) fun _ _ pooled => pooled)
        fun outcome => ?_
      refine .pure fun session pooled succeeded vipList' decoded _ => ?_
      cases listed.symm.trans decoded
      exact pooled succeeded

end Pooling

section Binding

variable {faults : Faults} {client : Client} (texts : LibraryTexts) (netObj : Unstructured)

/-- The Service under the key carries the pool if it asks for the Network and may. -/
def BoundAt (key : ObjectKey) (cluster : Cluster) : Prop :=
  ∀ svc, (cluster .service).get? key = some svc → Requests svc netObj.key.name →
    namespaceAllowedForNetwork netObj key.ns = true →
      annotationOf svc annotationAddressPool = poolName netObj.key.name

structure Binding (before : Cluster) (done : List Service)
    (updateErrors : List (ObjectKey × ApiError))
    (session : Session) : Prop where
  rest : ∀ key, (∀ svc ∈ done, svc.key ≠ key) →
    (session.cluster .service).get? key = (before .service).get? key
  bound : updateErrors = [] → ∀ svc ∈ done, BoundAt netObj svc.key session.cluster

theorem annotationOf_withPool (svc : Service) (pool : String) :
    annotationOf (withPool svc pool) annotationAddressPool = pool := by
  simp [annotationOf, withPool]

theorem update_bound {svc result : Service} {session : Session}
    (succeeded : (update .service (withPool svc (poolName netObj.key.name)) client session).1 =
      .ok result) :
    BoundAt netObj svc.key
      (update .service (withPool svc (poolName netObj.key.name)) client session).2.cluster := by
  obtain ⟨stored, -, settled⟩ := update_stores succeeded
  have key : (updated .service stored (withPool svc (poolName netObj.key.name))).key =
      svc.key := rfl
  intro after found _ _
  rw [settled, settle] at found
  split at found
  · rw [key, Cluster.remove_self, Store.get?_remove, if_pos rfl] at found
    cases found
  · rw [Cluster.put_self, Store.get?_put, if_pos key.symm] at found
    cases found
    exact annotationOf_withPool svc _

theorem listed_once {before : Cluster} {services front rest : List Service} {svc : Service}
    (listing : services.Perm (before .service).list) (whole : services = front ++ svc :: rest) :
    (before .service).get? svc.key = some svc ∧ ∀ other ∈ front, other.key ≠ svc.key := by
  have isStored : ∀ other ∈ services, (before .service).get? other.key = some other :=
    fun other listed => Store.mem_list.mp (listing.mem_iff.mp listed)
  have stored := isStored svc (whole ▸ by simp)
  refine ⟨stored, fun other early same => ?_⟩
  have storedOther := isStored other (whole ▸ by simp [early])
  rw [same, stored] at storedOther
  cases storedOther
  have distinct := whole ▸ listing.nodup_iff.mpr (before .service).nodup_list
  exact List.disjoint_of_nodup_append distinct early List.mem_cons_self

theorem bindService_binding {before : Cluster} {services front rest : List Service} {svc : Service}
    (listing : services.Perm (before .service).list) (whole : services = front ++ svc :: rest)
    (updateErrors : List (ObjectKey × ApiError)) :
    Program.Triple client (Binding netObj before front updateErrors)
      (bindService texts netObj updateErrors svc) (Binding netObj before (front ++ [svc])) := by
  rintro session ⟨untouched, bound⟩
  obtain ⟨stored, first⟩ := listed_once listing whole
  have present : (session.cluster .service).get? svc.key = some svc :=
    (untouched _ first).trans stored
  -- A turn that leaves the Services alone.
  have skip : ∀ session' : Session, session'.cluster = session.cluster →
      BoundAt netObj svc.key session.cluster →
        Binding netObj before (front ++ [svc]) updateErrors session' := by
    intro session' same here
    refine ⟨fun key other => ?_, fun clean other listed => ?_⟩
    · rw [same]
      exact untouched key fun svc' early => other svc' (List.mem_append_left _ early)
    · rw [same]
      rcases List.mem_append.mp listed with early | last
      · exact bound clean other early
      · cases List.mem_singleton.mp last
        exact here
  unfold bindService
  split
  next requests =>
    split
    next denied =>
      refine skip _ rfl fun svc' found _ allowed => ?_
      simp [denied] at allowed
    next =>
      split
      next carried =>
        apply skip _ rfl
        intro svc' found _ _
        cases present.symm.trans found
        exact carried
      next =>
        have makes : Makes (Eq (.update .service svc.key)) session
            (update .service (withPool svc (poolName netObj.key.name)) client session).2 :=
          update_makes .service rfl client session
        have others : ∀ key, svc.key ≠ key →
            ((update .service (withPool svc (poolName netObj.key.name)) client
              session).2.cluster .service).get? key = (session.cluster .service).get? key := by
          intro key apart
          apply makes.unchanged
          rintro call rfl
          simpa [Call.target] using apart
        have restThen : ∀ key, (∀ svc' ∈ front ++ [svc], svc'.key ≠ key) →
            ((update .service (withPool svc (poolName netObj.key.name)) client
              session).2.cluster .service).get? key = (before .service).get? key := by
          intro key other
          rw [others key (other svc (by simp))]
          exact untouched key fun svc' early => other svc' (List.mem_append_left _ early)
        simp only [Program.bind_apply]
        cases outcome : (update .service (withPool svc (poolName netObj.key.name)) client
            session).1 with
        | error error => exact ⟨restThen, fun clean => by simp at clean⟩
        | ok result =>
            refine ⟨restThen, fun clean other listed => ?_⟩
            rcases List.mem_append.mp listed with early | last
            · have unchanged := others other.key (first other early).symm
              intro svc' found
              exact bound clean other early svc' (unchanged ▸ found)
            · cases List.mem_singleton.mp last
              exact update_bound netObj outcome
  next silent =>
    apply skip _ rfl
    intro svc' found requests _
    cases present.symm.trans found
    exact absurd requests silent

/-- Once all Services are bound without errors, every allowed one carries the pool. -/
theorem reconcileServices_bound :
    Program.Triple (faults : Client) (fun _ => True) (reconcileServices texts netObj)
      fun outcome session => outcome = .ok () → ∀ key, BoundAt netObj key session.cluster := by
  intro session _
  have read := list_cluster .service none [] faults session
  simp only [reconcileServices, Program.bind_apply]
  cases outcome : (list .service none [] faults session).1 with
  | error error =>
      intro succeeded
      cases succeeded
  | ok services =>
      have listing := list_ok outcome
      rw [listed_all] at listing
      subst listing
      have start : Binding netObj session.cluster [] [] (list .service none [] faults session).2 :=
        ⟨fun key _ => by rw [read], fun _ _ listed => by cases listed⟩
      have turns : Program.Triple (faults : Client) (Binding netObj session.cluster [] [])
          ((session.cluster .service).list.foldlM (bindService texts netObj) [])
          (Binding netObj session.cluster (session.cluster .service).list) :=
        .foldlM _ (fun front svc rest whole updateErrors =>
          bindService_binding texts netObj (.refl _) whole updateErrors) []
      have loop := turns _ start
      simp only [Program.bind_apply, Program.pure_apply]
      intro succeeded key svc found
      split at succeeded
      next clean =>
        by_cases listed : ∃ other ∈ (session.cluster .service).list, other.key = key
        · obtain ⟨other, listed, rfl⟩ := listed
          exact loop.bound clean other listed svc found
        · have same := loop.rest key fun other inList same => listed ⟨other, inList, same⟩
          rw [same] at found
          have filed := Store.key_of_get? found
          exact absurd ⟨svc, Store.mem_list.mpr (filed ▸ found), filed⟩ listed
      next => cases succeeded

end Binding

/-- The conditions that the part of `Reconcile` for a Network with its finalizer
computes. -/
def networkConditions (texts : LibraryTexts) (netObj : Unstructured) : Api (List Condition) := do
  let vlanID := annotationOf netObj annotationVLANID
  let vlanMTU := annotationOf netObj annotationVLANMTU
  let ifaceName := interfaceNameOf netObj vlanID
  let provisioned ← isProvisioned netObj vlanID ifaceName
  warnUnlessProvisioned netObj provisioned
  let childErrors ← reconcileChildren texts netObj ifaceName
    (if vlanMTU = "" then defaultVLANMTU else vlanMTU)
  let active ← isCoreDNSGatewayRuleActive
  pure [readyCondition provisioned childErrors, coreDNSCondition active]

theorem reconcilePresentNetwork_conditions (texts : LibraryTexts) (netObj : Unstructured) :
    reconcilePresentNetwork texts netObj = (do
      let conditions ← networkConditions texts netObj
      let _ ← updateUnstructuredStatusIfChanged .network netObj none conditions
      pure ()) := rfl

/-- The Network with its finalizer and the conditions that a `Reconcile` computes for
it, if it comes to that. -/
def computedConditions (texts : LibraryTexts) (name : String) :
    Api (Option (Unstructured × List Condition)) := do
  match ← get .network ⟨"", name⟩ with
  | .error _ => pure none
  | .ok netObj =>
      if netObj.metadata.deletionTimestamp.isSome then pure none
      else
        match ← ensureFinalizer .network networkFinalizer netObj with
        | .error _ => pure none
        | .ok netObj =>
            let conditions ← networkConditions texts netObj
            pure (some (netObj, conditions))

/-- A `Reconcile` that computes conditions ends with writing them to the status. -/
theorem reconcileNetwork_computes {texts : LibraryTexts} {name : String} {faults : Faults}
    {session : Session} {netObj : Unstructured} {conditions : List Condition}
    (computed : (computedConditions texts name faults session).1 = some (netObj, conditions)) :
    (reconcileNetwork texts name faults session).2 =
      (updateUnstructuredStatusIfChanged .network netObj none conditions faults
        (computedConditions texts name faults session).2).2 := by
  simp only [computedConditions, reconcileNetwork, Program.bind_apply] at computed ⊢
  cases outcome : (get .network ⟨"", name⟩ faults session).1 with
  | error error => simp [outcome] at computed
  | ok found =>
      simp only [outcome] at computed ⊢
      split at computed
      next => cases computed
      next present =>
        rw [if_neg present, if_neg present]
        simp only [Program.bind_apply] at computed ⊢
        cases ensured : (ensureFinalizer .network networkFinalizer found faults
            (get .network ⟨"", name⟩ faults session).2).1 with
        | error error => simp [ensured] at computed
        | ok netObj' =>
            simp only [ensured, Program.bind_apply, Program.pure_apply, Option.some.injEq,
              Prod.mk.injEq] at computed ⊢
            obtain ⟨rfl, rfl⟩ := computed
            rfl

def ReportsReady (conditions : List Condition) : Prop :=
  ∃ condition ∈ conditions, condition.type = "Ready" ∧ condition.status = "True"

/-- What a Ready condition with status True stands for. -/
structure ReadySound (netObj : Unstructured) (before after : Cluster) : Prop where
  provisioned :
    isPrimaryNetwork netObj (annotationOf netObj annotationVLANID)
        (interfaceNameOf netObj (annotationOf netObj annotationVLANID)) = true ∨
      ∀ now, (isHostInterfaceProvisioned (annotationOf netObj annotationVLANID)
        (interfaceNameOf netObj (annotationOf netObj annotationVLANID)) noFaults
          { cluster := before, now }).1 = true
  attached : interfaceNameOf netObj (annotationOf netObj annotationVLANID) ≠ "" →
    AttachedEverywhere netObj
      (if annotationOf netObj annotationVLANMTU = "" then defaultVLANMTU
        else annotationOf netObj annotationVLANMTU)
      (interfaceNameOf netObj (annotationOf netObj annotationVLANID)) before after
  pooled : ∀ vipList,
    unmarshalStrict decodeTexts [] (annotationOf netObj annotationLBServiceVIPs) = some vipList →
      vipList ≠ [] →
        Pooled netObj vipList (interfaceNameOf netObj (annotationOf netObj annotationVLANID)) after
  bound : ∀ key, BoundAt netObj key after

theorem readyCondition_true {provisioned : Bool} {childErrors : List String}
    (ready : (readyCondition provisioned childErrors).status = "True") :
    provisioned = true ∧ childErrors = [] := by
  unfold readyCondition at ready
  split at ready
  next => simp at ready
  next isProvisioned =>
    split at ready
    next => simp at ready
    next clean => exact ⟨Bool.eq_true_of_not_eq_false isProvisioned, not_not.mp clean⟩

theorem of_reportsReady {provisioned active : Bool} {childErrors : List String} :
    ReportsReady [readyCondition provisioned childErrors, coreDNSCondition active] →
      provisioned = true ∧ childErrors = [] := by
  rintro ⟨condition, listed, type, status⟩
  simp only [List.mem_cons, List.not_mem_nil, or_false] at listed
  rcases listed with rfl | rfl
  · exact readyCondition_true status
  · cases active <;> simp [coreDNSCondition] at type

theorem childError_nil {texts : LibraryTexts} {child : String} {outcome : Except NetworkError Unit}
    (clean : childError texts child outcome = []) : outcome = .ok () := by
  cases outcome with
  | ok _ => rfl
  | error error => simp [childError] at clean

section Conditions

variable {texts : LibraryTexts} {netObj : Unstructured} {before : Cluster} {faults : Faults}
  {session : Session}

theorem isProvisioned_cluster {client : Client} (vlanID ifaceName : String) :
    (isProvisioned netObj vlanID ifaceName client session).2.cluster = session.cluster := by
  have read := get_cluster .configMap ⟨"kube-system", provisionedNetworksConfigMap⟩ client session
  unfold isProvisioned
  split
  · rfl
  · rw [isHostInterfaceProvisioned, Program.bind_apply]
    cases (get .configMap ⟨"kube-system", provisionedNetworksConfigMap⟩ client session).1 <;>
      exact read

theorem isProvisioned_held {vlanID ifaceName : String}
    (configMaps : ∀ key, (session.cluster .configMap).get? key = (before .configMap).get? key)
    (held : (isProvisioned netObj vlanID ifaceName faults session).1 = true) :
    isPrimaryNetwork netObj vlanID ifaceName = true ∨
      ∀ now, (isHostInterfaceProvisioned vlanID ifaceName noFaults
        { cluster := before, now }).1 = true := by
  unfold isProvisioned at held
  split at held
  next primary => exact .inl primary
  next =>
    refine .inr fun now => ?_
    simp only [isHostInterfaceProvisioned, Program.bind_apply, get_noFaults] at held ⊢
    cases outcome : (get .configMap ⟨"kube-system", provisionedNetworksConfigMap⟩ faults
        session).1 with
    | error error => simp [outcome] at held
    | ok cm =>
        rw [← configMaps, get_ok outcome]
        rw [outcome] at held
        exact held

theorem warnUnlessProvisioned_cluster {client : Client} (provisioned : Bool) :
    (warnUnlessProvisioned netObj provisioned client session).2.cluster = session.cluster := by
  unfold warnUnlessProvisioned
  split <;> rfl

theorem isCoreDNSGatewayRuleActive_cluster {client : Client} :
    (isCoreDNSGatewayRuleActive client session).2.cluster = session.cluster := by
  have read := get_cluster .configMap ⟨"kube-system", "coredns-config"⟩ client session
  rw [isCoreDNSGatewayRuleActive, Program.bind_apply]
  cases (get .configMap ⟨"kube-system", "coredns-config"⟩ client session).1 <;> exact read

theorem reconcileVIPPool_spares (ifaceName : String) :
    (reconcileVIPPool netObj ifaceName).Guarantees (Makes (Call.Spares .netAttachDef)) := by
  unfold reconcileVIPPool
  dsimp only
  split
  · exact .pure _
  · split
    · exact .pure _
    · exact .pure _
    · refine .bind (.bind (applyOrUpdate_spares (by decide)) fun outcome => ?_) fun _ => .pure _
      split
      · exact .pure _
      · refine .bind (applyOrUpdate_spares (by decide)) fun outcome => ?_
        split <;> exact .pure _

/-- Conditions that report a ready Network are sound. -/
theorem networkConditions_sound
    (namespaces : (session.cluster .namespace).list = (before .namespace).list)
    (configMaps : ∀ key, (session.cluster .configMap).get? key = (before .configMap).get? key)
    (storable : AllStorable (desiredChildren before netObj) session.cluster)
    (ready : ReportsReady (networkConditions texts netObj faults session).1) :
    ReadySound netObj before (networkConditions texts netObj faults session).2.cluster := by
  set vlanID := annotationOf netObj annotationVLANID with vlanIDEq
  set ifaceName := interfaceNameOf netObj vlanID with ifaceNameEq
  set vlanMTU := if annotationOf netObj annotationVLANMTU = "" then defaultVLANMTU
    else annotationOf netObj annotationVLANMTU with vlanMTUEq
  -- The sessions between the steps.
  set probed := isProvisioned netObj vlanID ifaceName faults session with probedEq
  set warned := (warnUnlessProvisioned netObj probed.1 faults probed.2).2 with warnedEq
  set attached := attachNetwork netObj ifaceName vlanMTU faults warned with attachedEq
  set pooled := reconcileVIPPool netObj ifaceName faults attached.2 with pooledEq
  set bound := reconcileServices texts netObj faults pooled.2 with boundEq
  set checked := isCoreDNSGatewayRuleActive faults bound.2 with checkedEq
  have run : networkConditions texts netObj faults session =
      ([readyCondition probed.1 (childError texts "NetworkAttachmentDefinition" attached.1 ++
        childError texts pooled.1.1 pooled.1.2 ++ childError texts "Service binding" bound.1),
        coreDNSCondition checked.1], checked.2) := rfl
  rw [run] at ready ⊢
  obtain ⟨provisioned, clean⟩ := of_reportsReady ready
  simp only [List.append_eq_nil_iff] at clean
  obtain ⟨⟨attachClean, poolClean⟩, bindClean⟩ := clean
  have warnedCluster : warned.cluster = session.cluster :=
    (warnUnlessProvisioned_cluster probed.1).trans (isProvisioned_cluster vlanID ifaceName)
  have checkedCluster : checked.2.cluster = bound.2.cluster := isCoreDNSGatewayRuleActive_cluster
  have servicing := reconcileServices_makes texts netObj faults pooled.2
  have childServices : ∀ {kind : Kind}, kind ≠ .service → ∀ key,
      (bound.2.cluster kind).get? key = (pooled.2.cluster kind).get? key := fun other key =>
    servicing.unchanged fun call service target => other (service _ _ target)
  rw [← warnedCluster] at namespaces storable
  refine ⟨isProvisioned_held configMaps provisioned, fun named => ?_,
    fun vipList decoded nonempty => ?_, ?_⟩
  · have attaching : attachNetwork netObj ifaceName vlanMTU =
        reconcileNetAttachDef netObj ifaceName vlanMTU := if_neg named
    have outcome := childError_nil attachClean
    rw [attachedEq, attaching] at outcome
    have attaches : Program.Triple (faults : Client) _
        (reconcileNetAttachDef netObj ifaceName vlanMTU) _ :=
      reconcileNetAttachDef_attached netObj vlanMTU ifaceName before
    obtain ⟨mtuInt, parsed, everywhere⟩ := attaches warned
      ⟨namespaces, fun child listed => storable child (desiredAttachments_subset named listed)⟩
      outcome
    rw [← attaching, ← attachedEq] at everywhere
    refine ⟨mtuInt, parsed, fun ns listed remains => ?_⟩
    refine (hasConfig_congr ?_).mp (everywhere ns listed remains)
    rw [checkedCluster, childServices (by decide)]
    exact ((reconcileVIPPool_spares ifaceName faults attached.2).unchanged
      fun call spares => spares _).symm
  · have poolStorable : AllStorable (desiredPool netObj ifaceName) attached.2.cluster :=
      attachNetwork_storable netObj ifaceName vlanMTU faults fun child listed =>
        storable child (desiredPool_subset before netObj listed)
    have pools : Program.Triple (faults : Client) _ (reconcileVIPPool netObj ifaceName) _ :=
      reconcileVIPPool_pooled netObj ifaceName
    obtain ⟨pool, l2⟩ :=
      pools attached.2 poolStorable (childError_nil poolClean) vipList decoded nonempty
    rw [Pooled, checkedCluster]
    exact ⟨(storedSpec_congr (childServices (by decide) _).symm).mp pool,
      (storedSpec_congr (childServices (by decide) _).symm).mp l2⟩
  · rw [checkedCluster]
    exact reconcileServices_bound texts netObj pooled.2 trivial (childError_nil bindClean)

end Conditions

theorem storedSpec_of_body {kind : CustomKind} {obj other : Unstructured} {cluster : Cluster}
    (key : obj.key = other.key) (body : obj.body = other.body) :
    StoredSpec kind obj cluster ↔ StoredSpec kind other cluster := by
  simp only [StoredSpec, sameSpec, key, body]

theorem SameNetwork.nested {netObj other : Unstructured} (same : SameNetwork netObj other)
    (path : List String) :
    nestedField netObj.body ("spec" :: path) = nestedField other.body ("spec" :: path) := by
  simp only [nestedField, Value.nested, same.spec]

theorem SameNetwork.annotationOf_eq {netObj other : Unstructured} (same : SameNetwork netObj other)
    (name : String) : annotationOf netObj name = annotationOf other name := by
  rw [annotationOf, annotationOf, same.annotations]

theorem SameNetwork.hostInterface_eq {netObj other : Unstructured}
    (same : SameNetwork netObj other) : hostInterface netObj = hostInterface other := by
  rw [hostInterface, hostInterface, same.annotationOf_eq, interfaceNameOf, interfaceNameOf,
    nestedString, nestedString, same.nested]

theorem SameNetwork.vlanMTUOf_eq {netObj other : Unstructured} (same : SameNetwork netObj other) :
    vlanMTUOf netObj = vlanMTUOf other := by
  rw [vlanMTUOf, vlanMTUOf, same.annotationOf_eq]

theorem SameNetwork.cniConfig_eq {netObj other : Unstructured} (same : SameNetwork netObj other)
    (ifaceName : String) (mtu : Int) :
    cniConfig netObj ifaceName mtu = cniConfig other ifaceName mtu := by
  have gateway : gateway4Of netObj = gateway4Of other := by
    rw [gateway4Of, gateway4Of, nestedString, nestedString, same.nested]
  have length : prefixLength netObj = prefixLength other := by
    rw [prefixLength, prefixLength, nestedInt64, nestedInt64, same.nested]
  rw [cniConfig, cniConfig, cniIPAM, cniIPAM, gateway, length]

theorem desiredChildren_congr {finalized netObj : Unstructured}
    (same : SameNetwork finalized netObj) (uid : finalized.metadata.uid = netObj.metadata.uid)
    (cluster : Cluster) :
    desiredChildren cluster finalized = desiredChildren cluster netObj := by
  have iface : ∀ vlanID, interfaceNameOf finalized vlanID = interfaceNameOf netObj vlanID :=
    fun vlanID => by
      rw [interfaceNameOf, interfaceNameOf, nestedString, nestedString, same.nested]
  have child : ∀ key spec, childObject finalized key spec = childObject netObj key spec :=
    fun key spec => by simp only [childObject, networkOwnerReference, same.key, uid]
  simp only [desiredChildren, desiredAttachments, desiredPool, vlanMTUOf, netAttachDef,
    ipAddressPool, l2Advertisement, same.annotationOf_eq, iface, child, same.key, same.cniConfig_eq]

theorem ReadySound.congr {netObj other : Unstructured} {before after : Cluster}
    (sound : ReadySound netObj before after) (same : SameNetwork netObj other) :
    ReadySound other before after := by
  have iface : ∀ vlanID, interfaceNameOf netObj vlanID = interfaceNameOf other vlanID :=
    fun vlanID => by
      rw [interfaceNameOf, interfaceNameOf, nestedString, nestedString, same.nested]
  obtain ⟨provisioned, attached, pooled, bound⟩ := sound
  simp only [same.annotationOf_eq, iface] at provisioned attached pooled
  refine ⟨?_, fun named => ?_, fun vipList decoded nonempty => ?_, fun key svc found => ?_⟩
  · simpa only [isPrimaryNetwork, same.key] using provisioned
  · obtain ⟨mtuInt, parsed, everywhere⟩ := attached named
    refine ⟨mtuInt, parsed, fun ns listed remains => ?_⟩
    rw [← same.key, ← same.cniConfig_eq]
    exact everywhere ns listed remains
  · obtain ⟨pool, l2⟩ := pooled vipList decoded nonempty
    have samePool : StoredSpec .ipAddressPool (ipAddressPool netObj vipList) after ↔
        StoredSpec .ipAddressPool (ipAddressPool other vipList) after :=
      storedSpec_of_body (by simp [ipAddressPool, childObject, same.key]) rfl
    have sameL2 : ∀ ifaceName,
        (StoredSpec .l2Advertisement (l2Advertisement netObj ifaceName) after ↔
        StoredSpec .l2Advertisement (l2Advertisement other ifaceName) after) := fun ifaceName =>
      storedSpec_of_body (by simp [l2Advertisement, childObject, same.key])
        (by simp [l2Advertisement, childObject, same.key])
    exact ⟨samePool.mp pool, (sameL2 _).mp l2⟩
  · have carries := bound key svc found
    rwa [same.key, namespaceAllowedForNetwork, same.annotations] at carries

theorem ReadySound.of_makes {netObj : Unstructured} {before : Cluster} {session after : Session}
    {allowed : Call → Prop} (sound : ReadySound netObj before session.cluster)
    (makes : Makes allowed session after)
    (networks : ∀ call, allowed call → ∀ kind key, call.target = some (kind, key) →
      kind = .network) : ReadySound netObj before after.cluster := by
  have same : ∀ kind, kind ≠ .network → ∀ key,
      (session.cluster kind).get? key = (after.cluster kind).get? key := fun kind other key =>
    (makes.unchanged fun call permitted target => other (networks call permitted _ _ target)).symm
  obtain ⟨provisioned, attached, pooled, bound⟩ := sound
  refine ⟨provisioned, fun named => ?_, fun vipList decoded nonempty => ?_, fun key svc found => ?_⟩
  · obtain ⟨mtuInt, parsed, everywhere⟩ := attached named
    exact ⟨mtuInt, parsed, fun ns listed remains =>
      (hasConfig_congr (same _ (by decide) _)).mp (everywhere ns listed remains)⟩
  · obtain ⟨pool, l2⟩ := pooled vipList decoded nonempty
    exact ⟨(storedSpec_congr (same _ (by decide) _)).mp pool,
      (storedSpec_congr (same _ (by decide) _)).mp l2⟩
  · exact bound key svc ((same _ (by decide) _).trans found)

theorem ensureFinalizer_sameNetwork {netObj finalized : Unstructured} {client : Client}
    {session : Session}
    (ensured : (ensureFinalizer .network networkFinalizer netObj client session).1 =
      .ok finalized) : SameNetwork finalized netObj := by
  obtain ⟨key, annotations⟩ := ensureFinalizer_ok ensured
  refine ⟨key, annotations, ?_⟩
  unfold ensureFinalizer at ensured
  split at ensured
  · cases ensured
    rfl
  next absent =>
    obtain ⟨stored, -, rfl⟩ := update_ok ensured
    have body : (addFinalizer netObj networkFinalizer).body = netObj.body := by
      simp [addFinalizer, absent]
    simp only [updated, updatedBody, CustomKind.hasStatus, if_true, body]
    exact lookupEntry_withStatus _ _ (by decide)

theorem ensureFinalizer_uid {kind : Kind} {finalizer : String} {object result : Object kind.Body}
    {client : Client} {session : Session}
    (found : (session.cluster kind).get? object.key = some object)
    (succeeded : (ensureFinalizer kind finalizer object client session).1 = .ok result) :
    result.metadata.uid = object.metadata.uid := by
  unfold ensureFinalizer at succeeded
  split at succeeded
  · cases succeeded
    rfl
  · obtain ⟨stored, present, rfl⟩ := update_ok succeeded
    rw [addFinalizer_key, found] at present
    cases present
    rfl

/-- If a Reconcile computes that a Network is ready, it is: the host interface, the
NetworkAttachmentDefinitions, the MetalLB objects and the Services are as the Network
asks. -/
theorem reconcileNetwork_readySound {texts : LibraryTexts} {name now : String} {faults : Faults}
    {cluster : Cluster} {netObj finalized : Unstructured} {conditions : List Condition}
    (found : (cluster .network).get? ⟨"", name⟩ = some netObj)
    (storable : AllStorable (desiredChildren cluster netObj) cluster)
    (computed : (computedConditions texts name faults { cluster, now }).1 =
      some (finalized, conditions))
    (ready : ReportsReady conditions) :
    ReadySound netObj cluster (reconcileNetwork texts name faults { cluster, now }).2.cluster := by
  have filed : netObj.key = ⟨"", name⟩ := Store.key_of_get? found
  rw [reconcileNetwork_computes computed]
  have statusWrites : Makes (fun call => call = .updateStatus .network finalized.key ∨
      call = .update .network finalized.key)
      (computedConditions texts name faults { cluster, now }).2
      (updateUnstructuredStatusIfChanged .network finalized none conditions faults
        (computedConditions texts name faults { cluster, now }).2).2 :=
    updateUnstructuredStatusIfChanged_makes ⟨.inl rfl, .inr rfl⟩ faults _
  refine ReadySound.of_makes ?_ statusWrites (by
    rintro call (rfl | rfl) kind key target <;> cases target <;> rfl)
  have unchanged := get_cluster .network ⟨"", name⟩ faults { cluster, now }
  simp only [computedConditions, Program.bind_apply] at computed ⊢
  set read := (get .network ⟨"", name⟩ faults { cluster, now }).2
  cases outcome : (get .network ⟨"", name⟩ faults { cluster, now }).1 with
  | error error => simp [outcome] at computed
  | ok object =>
      cases found.symm.trans (get_ok outcome)
      simp only [outcome] at computed ⊢
      split at computed
      next => cases computed
      next present =>
        rw [if_neg present]
        simp only [Program.bind_apply] at computed ⊢
        have makes : Makes (Eq (.update .network netObj.key)) read
            (ensureFinalizer .network networkFinalizer netObj faults read).2 :=
          ensureFinalizer_makes rfl faults read
        cases ensured : (ensureFinalizer .network networkFinalizer netObj faults read).1 with
        | error error => simp [ensured] at computed
        | ok object =>
            simp only [ensured, Program.bind_apply, Program.pure_apply, Option.some.injEq,
              Prod.mk.injEq] at computed ⊢
            obtain ⟨rfl, rfl⟩ := computed
            have same := ensureFinalizer_sameNetwork ensured
            set middle := (ensureFinalizer .network networkFinalizer netObj faults read).2
            have others : ∀ kind, kind ≠ .network → ∀ key,
                (middle.cluster kind).get? key = (cluster kind).get? key := by
              intro kind other key
              rw [makes.unchanged (by
                rintro call rfl target
                cases target
                exact other rfl), unchanged]
            have uid := ensureFinalizer_uid (by rw [unchanged, filed]; exact found) ensured
            have storableThen : AllStorable (desiredChildren cluster object) middle.cluster := by
              rw [desiredChildren_congr same uid]
              exact storable.congr fun child listed =>
                others _ (desiredChildren_ne_network listed) _
            exact (networkConditions_sound (Store.list_congr (others _ (by decide)))
              (others _ (by decide)) storableThen ready).congr same

def vlanNetwork : Unstructured where
  metadata := {
    key := ⟨"", "n"⟩
    annotations := (Dict.singleton annotationVLANID "7").set annotationLBServiceVIPs
      "[\"10.0.0.100-10.0.0.110\"]" }
  body := [("spec", .map [("gateway4", .string "10.0.0.1")])]

/-- The Network with its host interface, a namespace, and a Service that asks for it. -/
def vlanCluster : Cluster :=
  (((Cluster.put ∅ .network vlanNetwork).put .configMap
    ⟨{ key := ⟨"kube-system", provisionedNetworksConfigMap⟩ }, ⟨.singleton "7" "gdcenet0.7"⟩⟩).put
      .namespace ⟨{ key := ⟨"", "default"⟩ }, ()⟩).put .service
        { gatewayService ⟨"default", "web"⟩ "10.0.0.5" [80] with metadata := {
          key := ⟨"default", "web"⟩
          annotations := .singleton annotationNetwork "n" } }

theorem vlanCluster_storable :
    AllStorable (desiredChildren vlanCluster vlanNetwork) vlanCluster := by
  intro child listed stored present
  obtain ⟨kind, obj⟩ := child
  rcases desiredChildren_kind listed with same | same | same <;> cases same <;> cases present

theorem reconcileNetwork_readySound_vlan :
    ReadySound vlanNetwork vlanCluster
      (reconcileNetwork noTexts "n" noFaults { cluster := vlanCluster, now := "" }).2.cluster := by
  have check : ((computedConditions noTexts "n" noFaults
      { cluster := vlanCluster, now := "" }).1.any fun pair => pair.2.any fun condition =>
        decide (condition.type = "Ready" ∧ condition.status = "True")) = true := by
    decide +kernel
  obtain ⟨⟨finalized, conditions⟩, computed, reported⟩ := (Option.any_eq_true _ _).mp check
  obtain ⟨condition, listed, ready⟩ := List.any_eq_true.mp reported
  have found : (vlanCluster .network).get? ⟨"", "n"⟩ = some vlanNetwork := rfl
  exact reconcileNetwork_readySound found vlanCluster_storable computed
    ⟨condition, listed, of_decide_eq_true ready⟩

end GemEmulation.Operator
