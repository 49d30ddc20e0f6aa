import GemEmulation.Operator.Gateway.Convergence

/-!
# What a Reconcile leaves alone

A Reconcile of a Gateway that it does not manage touches no dynamic object, and
no Reconcile makes a dynamic object hard to remove.
-/

namespace GemEmulation.Operator

open Foundations Kube Net

theorem get_aside (kind : Kind) (key : ObjectKey) : (get kind key).Guarantees (Makes Aside) :=
  get_makes (aside_of_read rfl)

theorem ensureFinalizer_aside {finalizer : String} {gw : Unstructured} :
    (ensureFinalizer .gateway finalizer gw).Guarantees (Makes Aside) :=
  ensureFinalizer_makes (aside_update _ (by decide))

theorem determineGatewayIP_aside (gw : Unstructured) (networkName : String) :
    (determineGatewayIP gw networkName).Guarantees (Makes Aside) :=
  (determineGatewayIP_makes gw networkName).weaken fun _ _ makes => makes.weaken (by
    rintro call rfl
    exact aside_of_read rfl)

theorem determineGatewayIP_unoffered {gw : Unstructured} {networkName : String} {client : Client}
    {session : Session} (nothing : gatewayVIP session.cluster gw networkName = "") :
    (determineGatewayIP gw networkName client session).1 = "" := by
  unfold gatewayVIP at nothing
  unfold determineGatewayIP
  cases static : staticAddress gw with
  | some value =>
      rw [static] at nothing
      exact nothing
  | none =>
      rw [static, Option.getD_none] at nothing
      have unoffered : (session.cluster .gkeGatewayCIDR).list.findSome? (offeredVIP networkName) =
          none := by
        cases offered : (session.cluster .gkeGatewayCIDR).list.findSome?
          (offeredVIP networkName) with
        | none => rfl
        | some vip =>
            rw [offered] at nothing
            exact absurd nothing (dottedQuad_ne_empty vip)
      dsimp only
      split
      · rfl
      simp only [Program.bind_apply]
      cases listing : (list .gkeGatewayCIDR none [] client session).1 with
      | error error => rfl
      | ok items =>
          have everywhere : items.findSome? (offeredVIP networkName) = none := by
            rw [List.findSome?_eq_none_iff] at unoffered ⊢
            intro item membership
            rw [list_arranged listing, (arranged_perm _ _).mem_iff, listed_all] at membership
            exact unoffered item membership
          simp [everywhere]

theorem reconcilePresent_idle {gw : Unstructured} {client : Client} {session : Session}
    (idle : annotationOf gw annotationNetwork = "" ∨
      gatewayVIP session.cluster gw (annotationOf gw annotationNetwork) = "") :
    Makes Aside session (reconcilePresent gw client session).2 := by
  unfold reconcilePresent
  by_cases network : annotationOf gw annotationNetwork = ""
  · simp only [network, if_true]
    exact Std.Refl.refl session
  · have vip := idle.resolve_left network
    simp only [network, if_false, Program.bind_apply, determineGatewayIP_unoffered vip, if_true]
    exact determineGatewayIP_aside gw _ client session

theorem ensureFinalizer_spec {gw gw' : Unstructured} {finalizer : String} {client : Client}
    {session : Session}
    (ensured : (ensureFinalizer .gateway finalizer gw client session).1 = .ok gw') :
    lookupEntry "spec" gw'.body = lookupEntry "spec" gw.body := by
  unfold ensureFinalizer at ensured
  split at ensured
  · cases ensured
    rfl
  next absent =>
    obtain ⟨stored, -, rfl⟩ := update_ok ensured
    have body : (addFinalizer gw finalizer).body = gw.body := by simp [addFinalizer, absent]
    simp only [updated, updatedBody, CustomKind.hasStatus, if_true, body]
    exact lookupEntry_withStatus _ _ (by decide)

/-- A Reconcile touches no dynamic object unless it manages the Gateway. -/
theorem reconcileGateway_idle {key : ObjectKey} {client : Client} {session : Session}
    (unmanaged : ∀ gw, (session.cluster .gateway).get? key = some gw →
      ¬ Managed session.cluster gw) :
    Makes Aside session (reconcileGateway key client session).2 := by
  have cluster := get_cluster .gateway key client session
  have read := get_aside .gateway key client session
  simp only [reconcileGateway, Program.bind_apply]
  set after := (get .gateway key client session).2
  cases reading : (get .gateway key client session).1 with
  | error error =>
      dsimp only
      cases ignoreNotFound error <;> exact read
  | ok gw =>
      have notManaged := unmanaged gw (get_ok reading)
      unfold Managed at notManaged
      dsimp only
      split
      next deleted =>
        simp only [deleted, if_true, Bool.not_eq_true] at notManaged
        simp only [reconcileDeleted, notManaged, Bool.false_eq_true, if_false]
        exact read
      next present =>
        simp only [present, if_false, Bool.false_eq_true] at notManaged
        have makes : Makes (Eq (.update .gateway gw.key)) after
            (ensureFinalizer .gateway gatewayFinalizer gw client after).2 :=
          ensureFinalizer_makes rfl client after
        have sources := sameSources_of_makes makes (by
          rintro call rfl kind key target
          cases target
          rfl)
        have finalized : Makes Aside after
            (ensureFinalizer .gateway gatewayFinalizer gw client after).2 := makes.weaken (by
          rintro call rfl
          exact aside_update _ (by decide))
        simp only [Program.bind_apply]
        cases ensured : (ensureFinalizer .gateway gatewayFinalizer gw client after).1 with
        | error error => exact IsTrans.trans _ _ _ read finalized
        | ok gw' =>
            obtain ⟨-, annotations⟩ := ensureFinalizer_ok ensured
            set middle := (ensureFinalizer .gateway gatewayFinalizer gw client after).2
            have sameNetwork : annotationOf gw' annotationNetwork =
                annotationOf gw annotationNetwork := by
              rw [annotationOf, annotationOf, annotations]
            have idle : Makes Aside middle (reconcilePresent gw' client middle).2 :=
                reconcilePresent_idle (by
              rw [sameNetwork, gatewayVIP_congr sources (ensureFinalizer_spec ensured), cluster]
              by_contra busy
              exact notManaged (not_or.mp busy))
            exact IsTrans.trans _ _ _ read (IsTrans.trans _ _ _ finalized idle)

section Guarantees

variable {relation : Session → Session → Prop} [Std.Refl relation] [IsTrans Session relation]

/-- What the parts of the Reconcile of the Gateway under a key guarantee. -/
structure PartsGuarantee (key : ObjectKey) (relation : Session → Session → Prop) : Prop where
  aside : ∀ {Result : Type} {program : Api Result}, program.Guarantees (Makes Aside) →
    program.Guarantees relation
  write : ∀ gw : Unstructured, gw.key = key → ∀ gwIP ports backendAddresses,
    (writeServiceAndEndpointSlice gw gwIP ports backendAddresses).Guarantees relation
  cleanup : ∀ gw : Unstructured, gw.key = key → (cleanupDynamicResources gw).Guarantees relation

theorem PartsGuarantee.reconcileRoutes {gw : Unstructured} (parts : PartsGuarantee gw.key relation)
    (gwIP targetNetwork : String) :
    (reconcileRoutesAndEndpoints gw gwIP targetNetwork).Guarantees relation := by
  refine .bind (parts.aside (list_makes (aside_of_read rfl))) fun outcome => ?_
  split
  · exact .pure _
  next routes =>
    have gathering : (routes.foldlM (addRoute gw targetNetwork) {}).Guarantees (Makes Aside) :=
      .foldlM routes (fun route _ backends =>
        (addRoute_makes gw targetNetwork backends route).weaken
        fun _ _ makes => makes.weaken gatheringCall_aside) {}
    refine .bind (parts.aside gathering) fun backends => ?_
    split
    · exact .bind (parts.write gw rfl gwIP _ _) fun _ => .pure _
    · exact .bind (parts.cleanup gw rfl) fun _ => .pure _

theorem PartsGuarantee.program {gw : Unstructured} (parts : PartsGuarantee gw.key relation)
    (gwIP targetNetwork : String) :
    (programGateway gw gwIP targetNetwork).Guarantees relation := by
  have permitted : Aside (.updateStatus .gateway gw.key) ∧ Aside (.update .gateway gw.key) :=
    ⟨aside_updateStatus _ (by decide), aside_update _ (by decide)⟩
  exact .bind (parts.reconcileRoutes _ _) fun backendCount =>
    .bind (parts.aside (updateUnstructuredStatusIfChanged_makes permitted)) fun _ =>
      parts.aside (reconcileCoreDNS_makes.weaken fun _ _ makes => makes.weaken coreDNSCall_aside)

theorem PartsGuarantee.present {gw : Unstructured} (parts : PartsGuarantee gw.key relation) :
    (reconcilePresent gw).Guarantees relation := by
  unfold reconcilePresent
  dsimp only
  split
  · exact .pure _
  · refine .bind (parts.aside (determineGatewayIP_aside _ _)) fun gwIP => ?_
    split
    · exact .pure _
    · exact .bind (parts.program _ _) fun _ => .pure _

theorem PartsGuarantee.deleted {gw : Unstructured} (parts : PartsGuarantee gw.key relation) :
    (reconcileDeleted gw).Guarantees relation := by
  unfold reconcileDeleted
  split
  · refine .bind (parts.cleanup gw rfl) fun _ => .bind (parts.aside (update_makes .gateway
      (aside_update (removeFinalizer gw gatewayFinalizer).key (by decide)))) fun outcome => ?_
    split <;> exact .pure _
  · exact .pure _

theorem PartsGuarantee.reconcileGateway {key : ObjectKey} (parts : PartsGuarantee key relation) :
    (reconcileGateway key).Guarantees relation := by
  refine .bind_known (fun outcome => ∀ gw, outcome = .ok gw → gw.key = key)
    (parts.aside (get_aside _ _)) (fun _ _ gw found => Store.key_of_get? (get_ok found))
    fun outcome filed => ?_
  split
  · split <;> exact .pure _
  next gw =>
    obtain rfl : gw.key = key := filed gw rfl
    split
    · exact parts.deleted
    · refine .bind_known (fun outcome => ∀ gw', outcome = .ok gw' → gw'.key = gw.key)
        (parts.aside ensureFinalizer_aside) (fun _ _ gw' ensured => (ensureFinalizer_ok ensured).1)
        fun outcome kept => ?_
      split
      · exact .pure _
      next gw' =>
        have same : gw'.key = gw.key := kept gw' rfl
        exact .bind (PartsGuarantee.present (same ▸ parts)) fun _ => .pure _

end Guarantees

/-- A call that writes the dynamic objects of the Gateway under a key, or none. -/
def OwnCall (key : ObjectKey) (call : Call) : Prop :=
  Aside call ∨ call.target = some (.service, key) ∨
    call.target = some (.endpointSlice, sliceKey key)

theorem OwnCall.spares {key : ObjectKey} {call : Call} (own : OwnCall key call) {kind : Kind}
    (service : kind ≠ .service) (slice : kind ≠ .endpointSlice) (other : kind ∉ asideKinds) :
    call.Spares kind := by
  intro written target
  rcases own with aside | same | same
  · exact aside.spares other written target
  · exact service (congrArg Prod.fst (Option.some.inj (target.symm.trans same)))
  · exact slice (congrArg Prod.fst (Option.some.inj (target.symm.trans same)))

theorem reconcileGateway_makes (key : ObjectKey) :
    (reconcileGateway key).Guarantees (Makes (OwnCall key)) := by
  have applies : ∀ kind own call, AppliesTo kind own call →
      (kind, own) = (.service, key) ∨ (kind, own) = (.endpointSlice, sliceKey key) →
        OwnCall key call := by
    intro kind own call forms same
    rcases forms with rfl | rfl | rfl
    · exact .inl (aside_of_read rfl)
    · exact .inr (same.imp (congrArg some) (congrArg some))
    · exact .inr (same.imp (congrArg some) (congrArg some))
  have parts : PartsGuarantee key (Makes (OwnCall key)) := {
    aside := fun makes => makes.weaken fun _ _ makes => makes.weaken fun call aside => .inl aside
    write := by
      rintro gw rfl gwIP ports backendAddresses
      exact .bind ((applyService_makes _).weaken fun _ _ makes => makes.weaken
        fun call forms => applies _ _ call forms (.inl rfl)) fun _ =>
          .bind ((applyEndpointSlice_makes _).weaken fun _ _ makes => makes.weaken
            fun call forms => applies _ _ call forms (.inr rfl)) fun _ => .pure _
    cleanup := by
      rintro gw rfl
      exact .bind (delete_makes (.inr (.inl rfl))) fun _ =>
        .bind (delete_makes (.inr (.inr rfl))) fun _ => .pure _ }
  exact parts.reconcileGateway

/-- A property of metadata that the writes of dynamic objects respect. -/
structure Respected (property : ObjectMeta → Prop) : Prop where
  created : ∀ metadata : ObjectMeta, metadata.annotations = ∅ → Loose metadata →
    property metadata
  refreshed : ∀ metadata stored : ObjectMeta, metadata.annotations = ∅ → Loose metadata →
    property stored → property (refreshed metadata stored)
  marked : ∀ (stored : ObjectMeta) now, property stored → stored.finalizers ≠ [] →
    property { stored with deletionTimestamp := stored.deletionTimestamp.getD now }

theorem respected_loose : Respected Loose where
  created _ _ loose := loose
  refreshed _ _ _ loose before := ⟨loose.1, before.2⟩
  marked _ _ loose finalizers := absurd loose.1 finalizers

section Respected

variable {property : ObjectMeta → Prop} {kind : Kind} {key : ObjectKey}

theorem Respected.apply (respected : Respected property) {other : Kind}
    {same : Object other.Body → Object other.Body → Bool} {object : Object other.Body}
    (bare : object.metadata.annotations = ∅) (loose : Loose object.metadata) :
    (applyObject other same object).Guarantees (KeepsStored property kind key) :=
  applyObject_keepsStored (fun _ _ => respected.created _ bare loose)
    fun _ _ _ held => respected.refreshed _ _ bare loose held

/-- A respected property of a dynamic object's metadata survives every Reconcile of
a Gateway. -/
theorem Respected.reconcileGateway (respected : Respected property) (dynamic : kind ∉ asideKinds)
    (reconciled : ObjectKey) :
    (reconcileGateway reconciled).Guarantees (KeepsStored property kind key) := by
  have parts : PartsGuarantee reconciled (KeepsStored property kind key) := {
    aside := fun makes => keepsStored_of_makes makes fun _ aside => aside.spares dynamic key
    write := fun gw _ gwIP ports backendAddresses =>
      .bind (respected.apply rfl ⟨rfl, rfl⟩) fun _ =>
        .bind (respected.apply rfl ⟨rfl, rfl⟩) fun _ => .pure _
    cleanup := fun gw _ =>
      .bind (delete_keepsStored (by decide) fun _ _ => respected.marked) fun _ =>
        .bind (delete_keepsStored (by decide) fun _ _ => respected.marked) fun _ => .pure _ }
  exact parts.reconcileGateway

end Respected

end GemEmulation.Operator
