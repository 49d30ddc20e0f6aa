import GemEmulation.Kube.Value
import Mathlib.Data.List.Sort
import Mathlib.Data.String.Basic

/-!
# API objects and the cluster

The kinds of objects that the operator reads and writes, each with the fields
it uses, and the cluster as one store of objects for each kind.  A store files
every object under its own namespace and name and lists its objects in that
order.
-/

namespace GemEmulation.Kube

open Foundations

/-- `client.ObjectKey`; cluster-scoped objects have the empty namespace. -/
structure ObjectKey where
  ns : String
  name : String
  deriving DecidableEq, Repr

def ObjectKey.precedes (first second : ObjectKey) : Prop :=
  first.ns < second.ns ∨ first.ns = second.ns ∧ first.name ≤ second.name

instance : DecidableRel ObjectKey.precedes := fun _ _ =>
  inferInstanceAs (Decidable (_ ∨ _ ∧ _))

theorem ObjectKey.precedes_antisymm {first second : ObjectKey}
    (forward : first.precedes second) (backward : second.precedes first) : first = second := by
  obtain ⟨ns, name⟩ := first
  obtain ⟨ns', name'⟩ := second
  rcases forward with before | ⟨rfl, before⟩
  · rcases backward with after | ⟨rfl, -⟩
    · exact absurd (lt_trans before after) (lt_irrefl _)
    · exact absurd before (lt_irrefl _)
  · rcases backward with after | ⟨-, after⟩
    · exact absurd after (lt_irrefl _)
    · have same : name = name' := le_antisymm before after
      rw [same]

theorem ObjectKey.precedes_total (first second : ObjectKey) :
    first.precedes second ∨ second.precedes first := by
  rcases lt_trichotomy first.ns second.ns with before | same | after
  · exact .inl (.inl before)
  · rcases le_total first.name second.name with before | after
    · exact .inl (.inr ⟨same, before⟩)
    · exact .inr (.inr ⟨same.symm, after⟩)
  · exact .inr (.inl after)

theorem ObjectKey.precedes_trans {first second third : ObjectKey}
    (forward : first.precedes second) (further : second.precedes third) :
    first.precedes third := by
  rcases forward with before | ⟨same, before⟩
  · rcases further with after | ⟨same', -⟩
    · exact .inl (lt_trans before after)
    · exact .inl (same' ▸ before)
  · rcases further with after | ⟨same', after⟩
    · exact .inl (same ▸ after)
    · exact .inr ⟨same.trans same', le_trans before after⟩

structure OwnerReference where
  apiVersion : String
  kind : String
  name : String
  uid : String
  controller : Bool
  deriving DecidableEq, Repr

structure ObjectMeta where
  key : ObjectKey
  uid : String := ""
  labels : Dict String String := ∅
  annotations : Dict String String := ∅
  finalizers : List String := []
  ownerReferences : List OwnerReference := []
  deletionTimestamp : Option String := none
  deriving DecidableEq

/-- The kinds of custom resources, which are handled as unstructured objects. -/
inductive CustomKind where
  | network
  | gateway
  | gkeGatewayCIDR
  | gkeL4Route
  | gkeEndpointSelector
  | netAttachDef
  | ipAddressPool
  | l2Advertisement
  deriving DecidableEq, Repr

inductive Kind where
  | custom (kind : CustomKind)
  | pod
  | service
  | endpointSlice
  | configMap
  | namespace
  deriving DecidableEq, Repr

namespace Kind

abbrev network : Kind := custom .network

abbrev gateway : Kind := custom .gateway

abbrev gkeGatewayCIDR : Kind := custom .gkeGatewayCIDR

abbrev gkeL4Route : Kind := custom .gkeL4Route

abbrev gkeEndpointSelector : Kind := custom .gkeEndpointSelector

abbrev netAttachDef : Kind := custom .netAttachDef

abbrev ipAddressPool : Kind := custom .ipAddressPool

abbrev l2Advertisement : Kind := custom .l2Advertisement

end Kind

/-- `corev1.PodPhase`; `unset` is the empty phase of a Pod without a status. -/
inductive PodPhase where
  | unset
  | pending
  | running
  | succeeded
  | failed
  | unknown
  deriving DecidableEq, Repr

inductive ConditionStatus where
  | true
  | false
  | unknown
  deriving DecidableEq, Repr

structure PodCondition where
  type : String
  status : ConditionStatus
  deriving DecidableEq, Repr

structure PodBody where
  phase : PodPhase := .unset
  conditions : List PodCondition := []
  deriving DecidableEq, Repr

structure ServicePort where
  name : String
  port : Int
  targetPort : Int
  protocol : String
  deriving DecidableEq, Repr

structure ServiceBody where
  clusterIP : String
  externalIPs : List String
  ports : List ServicePort
  deriving DecidableEq, Repr

structure Endpoint where
  addresses : List String
  ready : Option Bool
  deriving DecidableEq, Repr

structure EndpointPort where
  name : Option String
  port : Option Int
  protocol : Option String
  deriving DecidableEq, Repr

structure EndpointSliceBody where
  addressType : String
  endpoints : List Endpoint
  ports : List EndpointPort
  deriving DecidableEq, Repr

structure ConfigMapBody where
  data : Dict String String
  deriving DecidableEq

/-- What an object of a kind holds besides its metadata: the fields beside
`metadata` of an unstructured object. -/
abbrev Kind.Body : Kind → Type
  | .custom _ => Fields
  | .pod => PodBody
  | .service => ServiceBody
  | .endpointSlice => EndpointSliceBody
  | .configMap => ConfigMapBody
  | .namespace => Unit

structure Object (Body : Type) where
  metadata : ObjectMeta
  body : Body

abbrev Object.key {Body : Type} (object : Object Body) : ObjectKey := object.metadata.key

abbrev Unstructured := Object Fields

abbrev Pod := Object PodBody

abbrev Service := Object ServiceBody

abbrev EndpointSlice := Object EndpointSliceBody

abbrev ConfigMap := Object ConfigMapBody

/-- The stored objects of one kind. -/
structure Store (Body : Type) where
  objects : Dict ObjectKey (Object Body)
  filed : ∀ key object, objects.get? key = some object → object.key = key

namespace Store

variable {Body : Type}

instance : EmptyCollection (Store Body) := ⟨⟨∅, by simp⟩⟩

instance : Inhabited (Store Body) := ⟨∅⟩

def get? (store : Store Body) (key : ObjectKey) : Option (Object Body) :=
  store.objects.get? key

def put (store : Store Body) (object : Object Body) : Store Body where
  objects := store.objects.set object.key object
  filed key other found := by
    rw [Dict.get?_set] at found
    split at found
    next equality =>
      cases found
      exact equality.symm
    next => exact store.filed key other found

def remove (store : Store Body) (key : ObjectKey) : Store Body where
  objects := store.objects.erase key
  filed other object found := by
    rw [Dict.get?_erase] at found
    split at found
    next => contradiction
    next => exact store.filed other object found

def listedBefore (first second : Object Body) : Prop := first.key.precedes second.key

instance : DecidableRel (@listedBefore Body) := fun _ _ =>
  inferInstanceAs (Decidable (ObjectKey.precedes _ _))

instance : Std.Total (@listedBefore Body) :=
  ⟨fun _ _ => ObjectKey.precedes_total _ _⟩

instance : IsTrans (Object Body) listedBefore := ⟨fun _ _ _ => ObjectKey.precedes_trans⟩

def list (store : Store Body) : List (Object Body) :=
  store.objects.values.insertionSort listedBefore

@[simp]
theorem get?_empty (key : ObjectKey) : (∅ : Store Body).get? key = none := rfl

theorem list_singleton (object : Object Body) : ((∅ : Store Body).put object).list = [object] :=
  rfl

@[simp]
theorem get?_put (store : Store Body) (object : Object Body) (key : ObjectKey) :
    (store.put object).get? key =
      if key = object.key then some object else store.get? key :=
  store.objects.get?_set object.key key object

theorem get?_put_self (store : Store Body) (object : Object Body) :
    (store.put object).get? object.key = some object := by simp

@[simp]
theorem get?_remove (store : Store Body) (removed key : ObjectKey) :
    (store.remove removed).get? key = if key = removed then none else store.get? key :=
  store.objects.get?_erase removed key

theorem key_of_get? {store : Store Body} {key : ObjectKey} {object : Object Body}
    (found : store.get? key = some object) : object.key = key :=
  store.filed key object found

theorem mem_list {store : Store Body} {object : Object Body} :
    object ∈ store.list ↔ store.get? object.key = some object := by
  rw [list, List.mem_insertionSort, Dict.mem_values_iff]
  constructor
  · rintro ⟨key, found⟩
    have filed := store.filed key object found
    subst filed
    exact found
  · exact fun found => ⟨_, found⟩

theorem nodup_list (store : Store Body) : store.list.Nodup := by
  have keys : store.objects.values.map Object.key = store.objects.entries.map Prod.fst := by
    rw [Dict.values, List.map_map]
    apply List.map_congr_left
    intro entry listed
    exact store.filed entry.1 entry.2 ((Dict.mem_entries_iff _ _ _).mp listed)
  have distinct : store.objects.values.Nodup := by
    apply List.Nodup.of_map Object.key
    rw [keys]
    exact store.objects.nodup
  exact (List.perm_insertionSort _ _).nodup_iff.mpr distinct

theorem get?_of_list_nil {store : Store Body} (nothing : store.list = []) (key : ObjectKey) :
    store.get? key = none := by
  cases found : store.get? key with
  | none => rfl
  | some object =>
      have listed : object ∈ store.list := mem_list.mpr (key_of_get? found ▸ found)
      simp [nothing] at listed

theorem list_congr {first second : Store Body}
    (same : ∀ key, first.get? key = second.get? key) : first.list = second.list := by
  have permuted : first.list.Perm second.list := by
    refine (List.perm_insertionSort _ _).trans
      (List.Perm.trans ?_ (List.perm_insertionSort _ _).symm)
    refine List.Perm.map Prod.snd ((List.perm_ext_iff_of_nodup first.objects.nodup.of_map
      second.objects.nodup.of_map).mpr fun entry => ?_)
    rw [Dict.mem_entries_iff, Dict.mem_entries_iff]
    exact iff_of_eq (congrArg (· = some entry.2) (same entry.1))
  have antisymmetric : ∀ object other, object ∈ first.list → other ∈ second.list →
      listedBefore object other → listedBefore other object → object = other := by
    intro object other listed listed' forward backward
    have key : object.key = other.key := ObjectKey.precedes_antisymm forward backward
    have stored := mem_list.mp listed
    rw [same, key, mem_list.mp listed'] at stored
    exact (Option.some.inj stored).symm
  exact permuted.eq_of_pairwise antisymmetric (List.pairwise_insertionSort _ _)
    (List.pairwise_insertionSort _ _)

end Store

/-- The stored objects of every kind. -/
def Cluster := (kind : Kind) → Store kind.Body

namespace Cluster

instance : EmptyCollection Cluster := ⟨fun _ => ∅⟩

def withStore (cluster : Cluster) (kind : Kind) (store : Store kind.Body) : Cluster :=
  fun other => if same : other = kind then same ▸ store else cluster other

def put (cluster : Cluster) (kind : Kind) (object : Object kind.Body) : Cluster :=
  cluster.withStore kind ((cluster kind).put object)

def remove (cluster : Cluster) (kind : Kind) (key : ObjectKey) : Cluster :=
  cluster.withStore kind ((cluster kind).remove key)

@[simp]
theorem withStore_self (cluster : Cluster) (kind : Kind) (store : Store kind.Body) :
    cluster.withStore kind store kind = store := by
  simp [withStore]

theorem withStore_of_ne (cluster : Cluster) {kind other : Kind} (store : Store kind.Body)
    (different : other ≠ kind) : cluster.withStore kind store other = cluster other := by
  simp [withStore, different]

@[simp]
theorem put_self (cluster : Cluster) (kind : Kind) (object : Object kind.Body) :
    cluster.put kind object kind = (cluster kind).put object :=
  cluster.withStore_self kind _

theorem put_of_ne (cluster : Cluster) {kind other : Kind} (object : Object kind.Body)
    (different : other ≠ kind) : cluster.put kind object other = cluster other :=
  cluster.withStore_of_ne _ different

@[simp]
theorem remove_self (cluster : Cluster) (kind : Kind) (key : ObjectKey) :
    cluster.remove kind key kind = (cluster kind).remove key :=
  cluster.withStore_self kind _

theorem remove_of_ne (cluster : Cluster) {kind other : Kind} (key : ObjectKey)
    (different : other ≠ kind) : cluster.remove kind key other = cluster other :=
  cluster.withStore_of_ne _ different

end Cluster

end GemEmulation.Kube
