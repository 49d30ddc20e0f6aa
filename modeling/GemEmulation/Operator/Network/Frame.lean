import GemEmulation.Kube.Metadata
import GemEmulation.Operator.Network.Reconcile

/-!
# What a Network's Reconcile does to Services and Networks

It changes a Service only by binding it, and it leaves the annotations of every
Network alone.
-/

namespace GemEmulation.Operator

open Foundations Kube

def hostInterface (netObj : Unstructured) : String :=
  interfaceNameOf netObj (annotationOf netObj annotationVLANID)

def vlanMTUOf (netObj : Unstructured) : String :=
  if annotationOf netObj annotationVLANMTU = "" then defaultVLANMTU
  else annotationOf netObj annotationVLANMTU

/-- Binding the Service under a key respects a property of its metadata. -/
def Bindable (property : ObjectMeta → Prop) (netObj : Unstructured) (key : ObjectKey)
    (cluster : Cluster) : Prop :=
  ∀ svc, (cluster .service).get? key = some svc → Requests svc netObj.key.name →
    namespaceAllowedForNetwork netObj svc.key.ns = true → ∀ stored, property stored →
      property (refreshed (withPool svc (poolName netObj.key.name)).metadata stored)

theorem childCall_spares {kind : Kind} (parent : kind = .service ∨ kind = .network) (call : Call)
    (child : ChildCall call) : call.Spares kind := by
  intro key writes
  rcases parent with rfl | rfl <;>
    rcases child _ _ writes with same | same | same <;> cases same

theorem serviceCall_spares (call : Call) (service : ServiceCall call) : call.Spares .network := by
  intro key writes
  cases service _ _ writes

theorem get_spares (spared kind : Kind) (key : ObjectKey) :
    (get kind key).Guarantees (Makes (Call.Spares spared)) :=
  get_makes fun _ => by simp [Call.target]

theorem isProvisioned_makes (spared : Kind) (netObj : Unstructured) (vlanID ifaceName : String) :
    (isProvisioned netObj vlanID ifaceName).Guarantees (Makes (Call.Spares spared)) := by
  unfold isProvisioned
  split
  · exact .pure _
  · refine .bind (get_spares _ _ _) fun outcome => ?_
    split <;> exact .pure _

theorem isCoreDNSGatewayRuleActive_makes (spared : Kind) :
    isCoreDNSGatewayRuleActive.Guarantees (Makes (Call.Spares spared)) := by
  refine .bind (get_spares _ _ _) fun outcome => ?_
  split <;> exact .pure _

theorem warnUnlessProvisioned_makes (spared : Kind) (netObj : Unstructured) (provisioned : Bool) :
    (warnUnlessProvisioned netObj provisioned).Guarantees (Makes (Call.Spares spared)) := by
  unfold warnUnlessProvisioned
  split
  · exact .pure _
  · exact recordEvent_makes _

theorem attachNetwork_makes (netObj : Unstructured) (ifaceName vlanMTU : String) :
    (attachNetwork netObj ifaceName vlanMTU).Guarantees (Makes ChildCall) := by
  unfold attachNetwork
  split
  · exact .pure _
  · exact reconcileNetAttachDef_makes _ _ _

theorem reconcileVIPPool_makes (netObj : Unstructured) (ifaceName : String) :
    (reconcileVIPPool netObj ifaceName).Guarantees (Makes ChildCall) := by
  unfold reconcileVIPPool
  dsimp only
  split
  · exact .pure _
  · split
    · exact .pure _
    · exact .pure _
    · exact .bind (reconcileMetalLB_makes _ _ _) fun _ => .pure _

theorem spares_of_children {kind : Kind} (parent : kind = .service ∨ kind = .network)
    {Result : Type} {program : Api Result} (makes : program.Guarantees (Makes ChildCall)) :
    program.Guarantees (Makes (Call.Spares kind)) :=
  makes.weaken fun _ _ makes => makes.weaken (childCall_spares parent)

section Services

variable {property : ObjectMeta → Prop} {key : ObjectKey} {netObj : Unstructured}

/-- The Service under the key has the property and keeps it when it is bound. -/
def Guarded (property : ObjectMeta → Prop) (netObj : Unstructured) (key : ObjectKey)
    (session : Session) : Prop :=
  StoredWith property .service key session.cluster ∧ Bindable property netObj key session.cluster

theorem guarded_of_makes {Result : Type} {program : Api Result}
    (makes : program.Guarantees (Makes (Call.Spares .service))) :
    program.Guarantees (Program.Keeps (Guarded property netObj key)) := by
  intro client session guarded
  have same : ((program client session).2.cluster .service).get? key =
      (session.cluster .service).get? key :=
    (makes client session).unchanged fun _ off => off key
  rw [Guarded, StoredWith, Bindable, same]
  exact guarded

theorem keepsStored_of_spares {Result : Type} {program : Api Result}
    (makes : program.Guarantees (Makes (Call.Spares .service))) :
    program.Guarantees (KeepsStored property .service key) :=
  keepsStored_of_makes makes fun _ off => off key

theorem reconcileServices_guarded (texts : LibraryTexts) (client : Client) :
    Program.Triple client (Guarded property netObj key) (reconcileServices texts netObj)
      fun _ session => StoredWith property .service key session.cluster := by
  rintro session ⟨held, bindable⟩
  have cluster := list_cluster .service none [] client session
  simp only [reconcileServices, Program.bind_apply]
  cases outcome : (list .service none [] client session).1 with
  | error error => exact cluster ▸ held
  | ok services =>
      have listed := list_arranged outcome
      rw [listed_all] at listed
      have loop : (services.foldlM (bindService texts netObj) []).Guarantees
          (KeepsStored property .service key) := by
        refine .foldlM _ (fun svc membership updateErrors => ?_) _
        rw [listed, (arranged_perm _ _).mem_iff] at membership
        have stored := Store.mem_list.mp membership
        unfold bindService
        split
        next requests =>
          split
          · exact .bind (keepsStored_of_spares (recordEvent_makes _)) fun _ => .pure _
          next allowed =>
            split
            · exact .pure _
            · refine .bind (update_keepsStored fun _ sameKey => ?_) fun outcome => ?_
              · have svcKey : svc.key = key := sameKey
                exact bindable svc (svcKey ▸ stored) requests (Bool.eq_true_of_not_eq_false allowed)
              · split <;> exact .pure _
        next => exact .pure _
      have before : StoredWith property .service key
          (list .service none [] client session).2.cluster := by
        rw [cluster]
        exact held
      exact loop client _ before

theorem reconcileChildren_guarded (texts : LibraryTexts) (ifaceName vlanMTU : String)
    (client : Client) :
    Program.Triple client (Guarded property netObj key)
      (reconcileChildren texts netObj ifaceName vlanMTU)
      fun _ session => StoredWith property .service key session.cluster := by
  have attaching := spares_of_children (.inl rfl) (attachNetwork_makes netObj ifaceName vlanMTU)
  have pooling := spares_of_children (.inl rfl) (reconcileVIPPool_makes netObj ifaceName)
  refine .bind ((guarded_of_makes attaching).keeps client) fun attached => ?_
  refine .bind ((guarded_of_makes pooling).keeps client) fun pooled => ?_
  refine .bind (reconcileServices_guarded texts client) fun bound => ?_
  exact Program.Triple.pure fun _ held => held

theorem reconcilePresentNetwork_guarded (texts : LibraryTexts) (client : Client) :
    Program.Triple client (Guarded property netObj key) (reconcilePresentNetwork texts netObj)
      fun _ session => StoredWith property .service key session.cluster := by
  refine .bind ((guarded_of_makes (isProvisioned_makes .service _ _ _)).keeps
    client) fun provisioned => ?_
  refine .bind ((guarded_of_makes (warnUnlessProvisioned_makes .service _ _)).keeps
    client) fun _ => ?_
  refine .bind (reconcileChildren_guarded texts _ _ client) fun childErrors => ?_
  have permitted : Call.Spares .service (.updateStatus .network netObj.key) ∧
      Call.Spares .service (.update .network netObj.key) :=
    ⟨fun _ => by simp [Call.target], fun _ => by simp [Call.target]⟩
  exact Program.Guarantees.keeps (keepsStored_of_spares <|
    .bind (isCoreDNSGatewayRuleActive_makes .service) fun active =>
      .bind (updateUnstructuredStatusIfChanged_makes permitted) fun _ => .pure _) client

theorem bindable_congr {other : Unstructured} {cluster : Cluster} (sameKey : other.key = netObj.key)
    (sameAnnotations : other.metadata.annotations = netObj.metadata.annotations)
    (bindable : Bindable property netObj key cluster) : Bindable property other key cluster := by
  intro svc found requests allowed
  rw [sameKey] at requests ⊢
  rw [namespaceAllowedForNetwork, sameAnnotations] at allowed
  exact bindable svc found requests allowed

/-- A property of a Service's metadata survives a Network's Reconcile if binding the
Service respects it. -/
theorem reconcileNetwork_service {texts : LibraryTexts} {name : String} {client : Client}
    {session : Session}
    (bindable : ∀ netObj, (session.cluster .network).get? ⟨"", name⟩ = some netObj →
      Bindable property netObj key session.cluster)
    (held : StoredWith property .service key session.cluster) :
    StoredWith property .service key (reconcileNetwork texts name client session).2.cluster := by
  have cluster := get_cluster .network ⟨"", name⟩ client session
  have heldThen := keepsStored_of_spares (get_spares .service .network ⟨"", name⟩) client
    session held
  simp only [reconcileNetwork, Program.bind_apply]
  cases outcome : (get .network ⟨"", name⟩ client session).1 with
  | error error =>
      dsimp only
      cases ignoreNotFound error <;> exact heldThen
  | ok netObj =>
      have ready : Guarded property netObj key (get .network ⟨"", name⟩ client session).2 := by
        refine ⟨heldThen, ?_⟩
        rw [cluster]
        exact bindable netObj (get_ok outcome)
      set read := (get .network ⟨"", name⟩ client session).2
      dsimp only
      split
      · unfold reconcileDeletedNetwork
        split
        · have updating : (update .network (removeFinalizer netObj networkFinalizer)).Guarantees
              (Makes (Call.Spares .service)) := update_makes .network fun _ => by simp [Call.target]
          refine Program.Guarantees.bind (keepsStored_of_spares (spares_of_children (.inl rfl)
            (cleanupNetworkChildren_makes netObj))) (fun _ =>
              .bind (keepsStored_of_spares updating) fun outcome => ?_) client read heldThen
          split <;> exact .pure _
        · exact heldThen
      · have finalizing : (ensureFinalizer .network networkFinalizer netObj).Guarantees
            (Makes (Call.Spares .service)) :=
          ensureFinalizer_makes fun _ => by simp [Call.target]
        have readyThen : Guarded property netObj key _ :=
          guarded_of_makes finalizing client read ready
        simp only [Program.bind_apply]
        cases ensured : (ensureFinalizer .network networkFinalizer netObj client read).1 with
        | error error => exact readyThen.1
        | ok netObj' =>
            obtain ⟨sameKey, sameAnnotations⟩ := ensureFinalizer_ok ensured
            exact reconcilePresentNetwork_guarded texts client _
              ⟨readyThen.1, bindable_congr sameKey sameAnnotations readyThen.2⟩

end Services

theorem updateUnstructuredStatusIfChanged_keepsStored {property : ObjectMeta → Prop} {kind : Kind}
    {key : ObjectKey} {status : CustomKind} {obj : Unstructured} {addresses : Option (List Value)}
    {desiredConds : List Condition}
    (held : .custom status = kind → obj.key = key → ∀ stored, property stored →
      property (refreshed obj.metadata stored)) :
    (updateUnstructuredStatusIfChanged status obj addresses desiredConds).Guarantees
      (KeepsStored property kind key) := by
  have timing : now.Guarantees (Makes fun _ => False) := now_makes
  refine .bind (keepsStored_of_makes timing fun _ never => never.elim) fun now => ?_
  dsimp only
  split
  · exact .pure _
  · refine .bind updateStatus_keepsStored fun outcome => ?_
    split
    · exact .pure _
    · refine .bind (update_keepsStored held) fun outcome => ?_
      split <;> exact .pure _

theorem reconcileNetwork_sparesSlices (texts : LibraryTexts) (name : String) :
    (reconcileNetwork texts name).Guarantees (Makes (Call.Spares .endpointSlice)) := by
  have children : ∀ {Result : Type} {program : Api Result}, program.Guarantees (Makes ChildCall) →
      program.Guarantees (Makes (Call.Spares .endpointSlice)) := fun makes =>
    makes.weaken fun _ _ makes => makes.weaken fun call child key writes => by
      rcases child _ _ writes with same | same | same <;> cases same
  have services : ∀ netObj, (reconcileServices texts netObj).Guarantees
      (Makes (Call.Spares .endpointSlice)) := fun netObj =>
    (reconcileServices_makes texts netObj).weaken fun _ _ makes =>
      makes.weaken fun call service key writes => by cases service _ _ writes
  refine .bind (get_spares _ _ _) fun outcome => ?_
  split
  · split <;> exact .pure _
  next netObj =>
    split
    · unfold reconcileDeletedNetwork
      split
      · refine .bind (children (cleanupNetworkChildren_makes netObj)) fun _ =>
          .bind (update_makes .network fun _ => by simp [Call.target]) fun outcome => ?_
        split <;> exact .pure _
      · exact .pure _
    · refine .bind (ensureFinalizer_makes fun _ => by simp [Call.target]) fun outcome => ?_
      split
      · exact .pure _
      next netObj' =>
        refine .bind (.bind (isProvisioned_makes _ _ _ _) fun provisioned =>
          .bind (warnUnlessProvisioned_makes _ _ _) fun _ => .bind ?_ fun childErrors =>
            .bind (isCoreDNSGatewayRuleActive_makes _) fun active =>
              .bind (updateUnstructuredStatusIfChanged_makes
                ⟨fun _ => by simp [Call.target], fun _ => by simp [Call.target]⟩)
                  fun _ => .pure _) fun _ => .pure _
        exact .bind (children (attachNetwork_makes _ _ _)) fun _ =>
          .bind (children (reconcileVIPPool_makes _ _)) fun _ =>
            .bind (services netObj') fun _ => .pure _

def Inherits (before : Cluster) (kind : Kind) (key : ObjectKey) (metadata : ObjectMeta) : Prop :=
  ∃ object, (before kind).get? key = some object ∧
    object.metadata.annotations = metadata.annotations

theorem keepsStored_network {property : ObjectMeta → Prop} {key : ObjectKey} {Result : Type}
    {program : Api Result} (makes : program.Guarantees (Makes (Call.Spares .network))) :
    program.Guarantees (KeepsStored property .network key) :=
  keepsStored_of_makes makes fun _ spares => spares key

/-- A Network that is stored after a Network's Reconcile was stored before, with the
same annotations. -/
theorem reconcileNetwork_networks (texts : LibraryTexts) (name : String) (client : Client)
    (session : Session) (key : ObjectKey) :
    StoredWith (Inherits session.cluster .network key) .network key
      (reconcileNetwork texts name client session).2.cluster := by
  have held : StoredWith (Inherits session.cluster .network key) .network key session.cluster :=
    fun stored found => ⟨stored, found, rfl⟩
  have heldThen := keepsStored_network (get_spares .network .network ⟨"", name⟩) client session held
  -- An update that sends the annotations of the Network that was read.
  have sent : ∀ netObj, (session.cluster .network).get? ⟨"", name⟩ = some netObj →
      ∀ obj : Unstructured, obj.key = netObj.key →
        obj.metadata.annotations = netObj.metadata.annotations → obj.key = key →
          ∀ stored, Inherits session.cluster .network key stored →
            Inherits session.cluster .network key (refreshed obj.metadata stored) := by
    intro netObj found obj sameKey annotations objKey stored _
    rw [← objKey, sameKey, Store.key_of_get? found]
    exact ⟨netObj, found, annotations.symm⟩
  simp only [reconcileNetwork, Program.bind_apply]
  cases outcome : (get .network ⟨"", name⟩ client session).1 with
  | error error =>
      dsimp only
      cases ignoreNotFound error <;> exact heldThen
  | ok netObj =>
      have found := get_ok outcome
      set read := (get .network ⟨"", name⟩ client session).2
      dsimp only
      split
      · unfold reconcileDeletedNetwork
        split
        · have releasing : (update .network (removeFinalizer netObj networkFinalizer)).Guarantees
              (KeepsStored (Inherits session.cluster .network key) .network key) :=
            update_keepsStored fun _ => sent netObj found (removeFinalizer netObj networkFinalizer)
              rfl rfl
          refine Program.Guarantees.bind (keepsStored_network (spares_of_children (.inr rfl)
            (cleanupNetworkChildren_makes netObj))) (fun _ => .bind releasing fun outcome => ?_)
              client read heldThen
          split <;> exact .pure _
        · exact heldThen
      · have ensuring : (ensureFinalizer .network networkFinalizer netObj).Guarantees
            (KeepsStored (Inherits session.cluster .network key) .network key) := by
          unfold ensureFinalizer
          split
          · exact .pure _
          next absent =>
            refine update_keepsStored fun _ => sent netObj found _ (addFinalizer_key _ _) ?_
            simp [addFinalizer, absent]
        have ensuredHeld := ensuring client read heldThen
        simp only [Program.bind_apply]
        cases ensured : (ensureFinalizer .network networkFinalizer netObj client read).1 with
        | error error => exact ensuredHeld
        | ok netObj' =>
            obtain ⟨sameKey, sameAnnotations⟩ := ensureFinalizer_ok ensured
            have children : (reconcileChildren texts netObj' (interfaceNameOf netObj'
                (annotationOf netObj' annotationVLANID))
                (if annotationOf netObj' annotationVLANMTU = "" then defaultVLANMTU
                  else annotationOf netObj' annotationVLANMTU)).Guarantees
                (Makes (Call.Spares .network)) :=
              .bind (spares_of_children (.inr rfl) (attachNetwork_makes _ _ _)) fun _ =>
                .bind (spares_of_children (.inr rfl) (reconcileVIPPool_makes _ _)) fun _ =>
                  .bind ((reconcileServices_makes _ _).weaken fun _ _ makes =>
                    makes.weaken serviceCall_spares) fun _ => .pure _
            have present : (reconcilePresentNetwork texts netObj').Guarantees
                (KeepsStored (Inherits session.cluster .network key) .network key) :=
              .bind (keepsStored_network (isProvisioned_makes _ _ _ _)) fun provisioned =>
                .bind (keepsStored_network (warnUnlessProvisioned_makes _ _ _)) fun _ =>
                  .bind (keepsStored_network children) fun childErrors =>
                    .bind (keepsStored_network (isCoreDNSGatewayRuleActive_makes _)) fun active =>
                      .bind (updateUnstructuredStatusIfChanged_keepsStored
                        fun _ => sent netObj found netObj' sameKey sameAnnotations) fun _ => .pure _
            exact present client _ ensuredHeld

end GemEmulation.Operator
