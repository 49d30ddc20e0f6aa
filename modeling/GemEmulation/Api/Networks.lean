import GemEmulation.Api.K8s
import Mathlib.Data.List.ReduceOption

/-!
# The secondary networks of a cluster

Which live objects are converted to secondary networks, which ones fail to be,
and when the response mixes live and configured networks.
-/

namespace GemEmulation.Api.K8s

open Foundations Python Net

section Fields

variable {Result : Type}

theorem escapes_get_bind {datum default : Datum} {name : String}
    {next : Datum → Except Exception Result} :
    Escapes caught (datum.get name default >>= next) ↔
      ¬ datum.IsDict ∨ Escapes caught (next (datum.field name default)) :=
  Datum.escapes_get_bind rfl

theorem escapes_iterate_bind {datum : Datum} {next : List Datum → Except Exception Result} :
    Escapes caught (datum.iterate >>= next) ↔
      datum.IsIterable ∧ Escapes caught (next datum.elements) :=
  Datum.escapes_iterate_bind rfl

theorem escapes_validText_bind {datum : Datum} {next : String → Except Exception Result} :
    Escapes caught (validText datum >>= next) ↔
      ∃ text, datum = .str text ∧ Escapes caught (next text) := by
  cases datum <;> simp [validText, escapes_bind, caught]

theorem returns_validText_bind {datum : Datum} {next : String → Except Exception Result} :
    Returns (validText datum >>= next) ↔ ∃ text, datum = .str text ∧ Returns (next text) := by
  cases datum <;> simp [validText, returns_bind]

theorem escapes_validOptionalText_bind {datum : Datum}
    {next : Option String → Except Exception Result} :
    Escapes caught (validOptionalText datum >>= next) ↔
      (datum = .none ∧ Escapes caught (next none)) ∨
        ∃ text, datum = .str text ∧ Escapes caught (next (some text)) := by
  cases datum <;> simp [validOptionalText, escapes_bind, caught]

theorem returns_validOptionalText_bind {datum : Datum}
    {next : Option String → Except Exception Result} :
    Returns (validOptionalText datum >>= next) ↔
      (datum = .none ∧ Returns (next none)) ∨
        ∃ text, datum = .str text ∧ Returns (next (some text)) := by
  cases datum <;> simp [validOptionalText, returns_bind]

end Fields

def IsText (datum : Datum) : Prop := ∃ text, datum = .str text

/-- The object is a text or `None`. -/
def IsOptionalText (datum : Datum) : Prop := datum = .none ∨ IsText datum

def metadataOf (item : Datum) : Datum := item.field "metadata" emptyDict

def nameOf (item : Datum) : Datum := (metadataOf item).field "name" emptyText

def annotationsOf (item : Datum) : Datum :=
  ((metadataOf item).field "annotations" .none).orElse emptyDict

def specOf (item : Datum) : Datum := (item.field "spec" .none).orElse emptyDict

def vlanOf (item : Datum) : Datum :=
  ((annotationsOf item).field "networking.gke.io/gdce-vlan-id" .none).orElse
    ((specOf item).field "vlanId" (.int 0))

def gatewayOf (item : Datum) : Datum :=
  ((specOf item).field "gateway4" .none).orElse
    ((annotationsOf item).field "networking.gke.io/gdce-gateway" emptyText)

def subnetOf (item : Datum) : Datum :=
  (annotationsOf item).field "networking.gke.io/gdce-subnet" emptyText

def l2NetworkConfigOf (item : Datum) : Datum :=
  ((specOf item).field "l2NetworkConfig" .none).orElse emptyDict

def vipPoolOf (item : Datum) : Datum :=
  (annotationsOf item).field "networking.gke.io/gdce-lb-service-vip-cidrs" emptyText

def Named (item : Datum) : Prop :=
  (nameOf item).truth = true ∧ (nameOf item).isText "pod-network" = false ∧
    (nameOf item).isText "default" = false

def IsL3 (item : Datum) : Prop := ((specOf item).field "type" .none).isText "L3" = true

def DerivesSubnet (item : Datum) : Prop :=
  (subnetOf item).truth = false ∧ (gatewayOf item).truth = true

/-- The number is too large for an `int`. -/
def IsInfinite (datum : Datum) : Prop := ∃ negative, datum = .float (.infinite negative)

/-- The conversion of a live object raises an exception that is not caught. -/
def NetworkBreaks (item : Datum) : Prop :=
  ¬ item.IsDict ∨ ¬ (metadataOf item).IsDict ∨
    (Named item ∧ (¬ (specOf item).IsDict ∨
      (¬ IsL3 item ∧ (¬ (annotationsOf item).IsDict ∨ IsInfinite (vlanOf item) ∨
        (DerivesSubnet item ∧ ¬ (l2NetworkConfigOf item).IsDict)))))

/-- The fields of a secondary Network are what the response needs. -/
structure NetworkFields (item : Datum) : Prop where
  annotations : (annotationsOf item).IsDict
  vlan : ¬ IsInfinite (vlanOf item)
  l2NetworkConfig : DerivesSubnet item → (l2NetworkConfigOf item).IsDict
  name : IsText (nameOf item)
  subnet : DerivesSubnet item ∨ IsText (subnetOf item)
  gateway : IsOptionalText (gatewayOf item)
  vipPool : IsOptionalText (vipPoolOf item)

/-- A live object is converted, or passed over. -/
def NetworkFits (item : Datum) : Prop :=
  item.IsDict ∧ (metadataOf item).IsDict ∧
    (Named item → (specOf item).IsDict ∧ (¬ IsL3 item → NetworkFields item))

section Live

variable {builtins : Builtins} {Result : Type}

theorem vlanNumber_cases (builtins : Builtins) (datum : Datum) :
    (IsInfinite datum ∧ vlanNumber builtins datum = .error .overflowError) ∨
      (¬ IsInfinite datum ∧ Returns (vlanNumber builtins datum)) := by
  have finite : (∀ negative, datum ≠ .float (.infinite negative)) →
      Returns (vlanNumber builtins datum) → ¬ IsInfinite datum ∧
        Returns (vlanNumber builtins datum) :=
    fun other returns => ⟨fun ⟨negative, isFloat⟩ => other negative isFloat, returns⟩
  cases datum with
  | float value =>
      cases value with
      | infinite negative => exact .inl ⟨⟨negative, rfl⟩, rfl⟩
      | nan => exact .inr (finite (by simp) ⟨0, rfl⟩)
      | finite value => exact .inr (finite (by simp) ⟨value.num.tdiv value.den, rfl⟩)
  | str value =>
      refine .inr (finite (by simp) ?_)
      cases parsed : builtins.intOfText value <;> simp [vlanNumber, Builtins.int, parsed]
  | none | bool _ | int _ | list _ | dict _ =>
      exact .inr (finite (by simp) ⟨_, rfl⟩)

theorem escapes_vlanNumber_bind {datum : Datum} {next : Int → Except Exception Result}
    {breaks : Prop}
    (same : ∀ vlanId, Escapes caught (next vlanId) ↔ breaks) :
    Escapes caught (vlanNumber builtins datum >>= next) ↔ IsInfinite datum ∨ breaks := by
  rw [escapes_bind]
  rcases vlanNumber_cases builtins datum with ⟨infinite, raises⟩ | ⟨other, vlanId, isOk⟩
  · simp [raises, infinite, caught]
  · simp [isOk, other, same]

theorem returns_vlanNumber_bind {datum : Datum} {next : Int → Except Exception Result} {fits : Prop}
    (same : ∀ vlanId, Returns (next vlanId) ↔ fits) :
    Returns (vlanNumber builtins datum >>= next) ↔ ¬ IsInfinite datum ∧ fits := by
  rw [returns_bind]
  rcases vlanNumber_cases builtins datum with ⟨infinite, raises⟩ | ⟨other, vlanId, isOk⟩
  · simp [raises, infinite]
  · simp [isOk, other, same]

theorem escapes_secondaryNetwork (vlanId : Datum) (interfaceName : String)
    (name subnet gateway vipPool : Datum) :
    ¬ Escapes caught (secondaryNetwork vlanId interfaceName name subnet gateway vipPool) := by
  simp [-bind_pure_comp, secondaryNetwork, escapes_validText_bind, escapes_validOptionalText_bind]

theorem returns_secondaryNetwork (vlanId : Datum) (interfaceName : String)
    (name subnet gateway vipPool : Datum) :
    Returns (secondaryNetwork vlanId interfaceName name subnet gateway vipPool) ↔
      IsText name ∧ IsText subnet ∧ IsOptionalText gateway ∧ IsOptionalText vipPool := by
  simp [-bind_pure_comp, secondaryNetwork, returns_validText_bind, returns_validOptionalText_bind,
    IsText, IsOptionalText, or_and_right]

theorem escapes_derivedSubnet_bind {gateway spec : Datum} {next : Datum → Except Exception Result}
    (never : ∀ subnet, ¬ Escapes caught (next subnet)) :
    Escapes caught (derivedSubnet builtins gateway spec >>= next) ↔
      ¬ spec.IsDict ∨ ¬ ((spec.field "l2NetworkConfig" .none).orElse emptyDict).IsDict := by
  simp only [derivedSubnet, bind_assoc, pure_bind, escapes_get_bind, never, or_false]

theorem returns_derivedSubnet_bind {gateway spec : Datum} {next : Datum → Except Exception Result}
    {fits : Prop} (same : ∀ text, Returns (next (.str text)) ↔ fits) :
    Returns (derivedSubnet builtins gateway spec >>= next) ↔
      spec.IsDict ∧ ((spec.field "l2NetworkConfig" .none).orElse emptyDict).IsDict ∧ fits := by
  simp only [derivedSubnet, bind_assoc, pure_bind, Datum.returns_get_bind, same]

theorem escapes_subnetFor_bind {annotatedSubnet gateway spec : Datum} (isDict : spec.IsDict)
    {next : Datum → Except Exception Result} (never : ∀ subnet, ¬ Escapes caught (next subnet)) :
    Escapes caught (subnetFor builtins annotatedSubnet gateway spec >>= next) ↔
      (annotatedSubnet.truth = false ∧ gateway.truth = true) ∧
        ¬ ((spec.field "l2NetworkConfig" .none).orElse emptyDict).IsDict := by
  rw [subnetFor]
  split
  next derives =>
    simp only [Bool.and_eq_true, Bool.not_eq_true'] at derives
    rw [escapes_derivedSubnet_bind never, and_iff_right derives]
    exact or_iff_right (not_not_intro isDict)
  next annotated =>
    simp only [Bool.and_eq_true, Bool.not_eq_true'] at annotated
    rw [pure_bind]
    exact iff_of_false (never _) fun both => annotated both.1

theorem returns_subnetFor_bind {annotatedSubnet gateway spec : Datum} (isDict : spec.IsDict)
    {next : Datum → Except Exception Result} {fits : Prop}
    (same : ∀ subnet, Returns (next subnet) ↔ IsText subnet ∧ fits) :
    Returns (subnetFor builtins annotatedSubnet gateway spec >>= next) ↔
      ((annotatedSubnet.truth = false ∧ gateway.truth = true →
        ((spec.field "l2NetworkConfig" .none).orElse emptyDict).IsDict) ∧
        ((annotatedSubnet.truth = false ∧ gateway.truth = true) ∨ IsText annotatedSubnet)) ∧
          fits := by
  rw [subnetFor]
  split
  next derives =>
    simp only [Bool.and_eq_true, Bool.not_eq_true'] at derives
    have texts : ∀ text, Returns (next (.str text)) ↔ fits :=
      fun text => (same _).trans (and_iff_right ⟨text, rfl⟩)
    simp [returns_derivedSubnet_bind texts, derives, isDict]
  next annotated =>
    simp only [Bool.and_eq_true, Bool.not_eq_true'] at annotated
    simp [pure_bind, same, annotated]

/-- What remains for a secondary Network whose fields are in dictionaries. -/
theorem liveNetwork_eq {name annotations spec : Datum} (annotated : annotations.IsDict)
    (isDict : spec.IsDict) {vlan gateway : Datum}
    (isVLAN : vlan = (annotations.field "networking.gke.io/gdce-vlan-id" .none).orElse
      (spec.field "vlanId" (.int 0)))
    (isGateway : gateway = (spec.field "gateway4" .none).orElse
      (annotations.field "networking.gke.io/gdce-gateway" emptyText)) :
    liveNetwork builtins name annotations spec =
      vlanNumber builtins vlan >>= fun vlanId =>
        subnetFor builtins (annotations.field "networking.gke.io/gdce-subnet" emptyText) gateway
          spec >>= fun subnet =>
            secondaryNetwork (.int vlanId) ("gdcenet0." ++ toString vlanId) name subnet gateway
              (annotations.field "networking.gke.io/gdce-lb-service-vip-cidrs" emptyText) := by
  simp only [liveNetwork, Datum.get_of_isDict annotated, Datum.get_of_isDict isDict,
    Datum.orEval_pure, pure_bind, isVLAN, isGateway]

/-- The loop passes over a name that is not that of a secondary Network. -/
theorem isSecondary_of_not_named {item : Datum} (other : ¬ Named item) (spec : Datum) :
    isSecondary (nameOf item) spec = pure false := by
  apply if_pos
  simp only [Named, not_and, Bool.not_eq_false] at other
  simp only [Bool.or_eq_true, Bool.not_eq_true']
  cases named : (nameOf item).truth with
  | false => exact .inl (.inl rfl)
  | true =>
      cases podNetwork : (nameOf item).isText "pod-network" with
      | false => exact .inr (other named podNetwork)
      | true => exact .inl (.inr rfl)

theorem isSecondary_of_named {item : Datum} (named : Named item) (spec : Datum) :
    isSecondary (nameOf item) spec =
      spec.get "type" .none >>= fun type => pure (!type.isText "L3") := by
  obtain ⟨truth, podNetwork, default⟩ := named
  apply if_neg
  simp [truth, podNetwork, default]

theorem liveNetworkItem_eq {item : Datum} (isDict : item.IsDict)
    (metadata : (metadataOf item).IsDict) :
    liveNetworkItem builtins item =
      isSecondary (nameOf item) (specOf item) >>= fun secondary =>
        if secondary = true then
          liveNetwork builtins (nameOf item) (annotationsOf item) (specOf item) >>= fun network =>
            pure (some network)
        else pure none := by
  simp only [liveNetworkItem, Datum.get_of_isDict isDict, pure_bind]
  rw [metadataOf] at metadata
  simp only [Datum.get_of_isDict metadata, pure_bind]
  rfl

theorem liveNetworkItem_skipped {item : Datum} (isDict : item.IsDict)
    (metadata : (metadataOf item).IsDict)
    (skipped : ¬ Named item ∨ ((specOf item).IsDict ∧ IsL3 item)) :
    liveNetworkItem builtins item = pure none := by
  rw [liveNetworkItem_eq isDict metadata]
  by_cases named : Named item
  · obtain ⟨spec, isL3⟩ := skipped.resolve_left (not_not_intro named)
    rw [isSecondary_of_named named, Datum.get_of_isDict spec]
    rw [IsL3] at isL3
    simp [isL3]
  · rw [isSecondary_of_not_named named]
    rfl

theorem liveNetworkItem_secondary {item : Datum} (isDict : item.IsDict)
    (metadata : (metadataOf item).IsDict) (named : Named item) (spec : (specOf item).IsDict)
    (other : ¬ IsL3 item) :
    liveNetworkItem builtins item =
      liveNetwork builtins (nameOf item) (annotationsOf item) (specOf item) >>= fun network =>
        pure (some network) := by
  rw [liveNetworkItem_eq isDict metadata, isSecondary_of_named named, Datum.get_of_isDict spec]
  rw [IsL3, Bool.not_eq_true] at other
  simp only [pure_bind, other, Bool.not_false, if_true]

theorem escapes_liveNetworkItem (item : Datum) :
    Escapes caught (liveNetworkItem builtins item) ↔ NetworkBreaks item := by
  rw [NetworkBreaks]
  by_cases isDict : item.IsDict
  swap
  · rw [liveNetworkItem, escapes_get_bind]
    exact iff_of_true (.inl isDict) (.inl isDict)
  by_cases metadata : (metadataOf item).IsDict
  swap
  · rw [liveNetworkItem, escapes_get_bind, escapes_get_bind]
    exact iff_of_true (.inr (.inl metadata)) (.inr (.inl metadata))
  by_cases named : Named item
  swap
  · rw [liveNetworkItem_skipped isDict metadata (.inl named)]
    simp [isDict, metadata, named]
  by_cases spec : (specOf item).IsDict
  swap
  · rw [liveNetworkItem_eq isDict metadata, isSecondary_of_named named, bind_assoc,
      escapes_get_bind]
    simp [isDict, metadata, named, spec]
  by_cases isL3 : IsL3 item
  · rw [liveNetworkItem_skipped isDict metadata (.inr ⟨spec, isL3⟩)]
    simp [isDict, metadata, spec, isL3]
  simp only [isDict, metadata, named, spec, isL3, not_true, not_false_iff, false_or, true_and]
  rw [liveNetworkItem_secondary isDict metadata named spec isL3]
  by_cases annotated : (annotationsOf item).IsDict
  swap
  · rw [liveNetwork, bind_assoc, escapes_get_bind]
    exact iff_of_true (.inl annotated) (.inl annotated)
  rw [liveNetwork_eq annotated spec rfl rfl, bind_assoc, escapes_vlanNumber_bind]
  · rw [or_iff_right (not_not_intro annotated)]
    rfl
  · intro vlanId
    rw [bind_assoc, escapes_subnetFor_bind spec]
    · rfl
    · intro subnet
      rw [escapes_bind_pure]
      exact escapes_secondaryNetwork _ _ _ _ _ _

theorem returns_liveNetworkItem (item : Datum) :
    Returns (liveNetworkItem builtins item) ↔ NetworkFits item := by
  rw [NetworkFits]
  by_cases isDict : item.IsDict
  swap
  · rw [liveNetworkItem, Datum.returns_get_bind]
    exact iff_of_false (fun both => isDict both.1) fun both => isDict both.1
  by_cases metadata : (metadataOf item).IsDict
  swap
  · rw [liveNetworkItem, Datum.returns_get_bind, Datum.returns_get_bind]
    exact iff_of_false (fun both => metadata both.2.1) fun both => metadata both.2.1
  by_cases named : Named item
  swap
  · rw [liveNetworkItem_skipped isDict metadata (.inl named)]
    simp [isDict, metadata, named]
  by_cases spec : (specOf item).IsDict
  swap
  · rw [liveNetworkItem_eq isDict metadata, isSecondary_of_named named, bind_assoc,
      Datum.returns_get_bind]
    simp [named, spec]
  by_cases isL3 : IsL3 item
  · rw [liveNetworkItem_skipped isDict metadata (.inr ⟨spec, isL3⟩)]
    simp [isDict, metadata, spec, isL3]
  simp only [isDict, metadata, named, spec, isL3, not_false_iff, true_and, forall_const]
  rw [liveNetworkItem_secondary isDict metadata named spec isL3]
  by_cases annotated : (annotationsOf item).IsDict
  swap
  · rw [liveNetwork, bind_assoc, Datum.returns_get_bind]
    exact iff_of_false (fun both => annotated both.1) fun fields => annotated fields.annotations
  have last : ∀ (vlanId : Int) (subnet : Datum),
      Returns (secondaryNetwork (.int vlanId) ("gdcenet0." ++ toString vlanId) (nameOf item) subnet
        (gatewayOf item) (vipPoolOf item) >>= fun network => pure (some network)) ↔
      IsText subnet ∧ IsText (nameOf item) ∧ IsOptionalText (gatewayOf item) ∧
        IsOptionalText (vipPoolOf item) := by
    intro vlanId subnet
    rw [returns_bind_pure, returns_secondaryNetwork, and_left_comm]
  rw [liveNetwork_eq annotated spec rfl rfl, bind_assoc]
  simp only [bind_assoc]
  refine (returns_vlanNumber_bind fun vlanId =>
    returns_subnetFor_bind spec (last vlanId)).trans ?_
  constructor
  · rintro ⟨vlan, ⟨l2NetworkConfig, subnet⟩, name, gateway, vipPool⟩
    exact ⟨annotated, vlan, l2NetworkConfig, name, subnet, gateway, vipPool⟩
  · rintro ⟨-, vlan, l2NetworkConfig, name, subnet, gateway, vipPool⟩
    exact ⟨vlan, ⟨l2NetworkConfig, subnet⟩, name, gateway, vipPool⟩

theorem liveNetworkItem_isSome {item : Datum} {converted : Option SecondaryNetworkItem}
    (isOk : liveNetworkItem builtins item = .ok converted) :
    converted.isSome = true ↔ Named item ∧ ¬ IsL3 item := by
  obtain ⟨isDict, metadata, fields⟩ := (returns_liveNetworkItem item).mp ⟨converted, isOk⟩
  by_cases secondary : Named item ∧ ¬ IsL3 item
  · obtain ⟨named, isL3⟩ := secondary
    rw [liveNetworkItem_secondary isDict metadata named (fields named).1 isL3] at isOk
    obtain ⟨network, -, made⟩ := bind_ok_iff.mp isOk
    cases made
    exact iff_of_true rfl ⟨named, isL3⟩
  · have skipped : ¬ Named item ∨ ((specOf item).IsDict ∧ IsL3 item) := by
      by_cases named : Named item
      · exact .inr ⟨(fields named).1, not_not.mp fun other => secondary ⟨named, other⟩⟩
      · exact .inl named
    rw [liveNetworkItem_skipped isDict metadata skipped] at isOk
    cases isOk
    exact iff_of_false Bool.false_ne_true secondary

theorem secondaryNetwork_ok {vlanId : Datum} {interfaceName : String}
    {name subnet gateway vipPool : Datum} {network : SecondaryNetworkItem}
    (isOk : secondaryNetwork vlanId interfaceName name subnet gateway vipPool = .ok network) :
    name = .str network.name ∧ subnet = .str network.subnet := by
  have text_ok : ∀ {datum : Datum} {text : String},
      validText datum = .ok text → datum = .str text := by
    intro datum text valid
    cases datum <;> simp_all [validText]
  obtain ⟨nameText, nameOk, rest⟩ := bind_ok_iff.mp isOk
  obtain ⟨subnetText, subnetOk, rest⟩ := bind_ok_iff.mp rest
  obtain ⟨_, -, rest⟩ := bind_ok_iff.mp rest
  obtain ⟨_, -, made⟩ := bind_ok_iff.mp rest
  cases made
  exact ⟨text_ok nameOk, text_ok subnetOk⟩

theorem liveNetworkItem_ok {item : Datum} {network : SecondaryNetworkItem}
    (isOk : liveNetworkItem builtins item = .ok (some network)) :
    nameOf item = .str network.name ∧ (DerivesSubnet item →
      network.subnet = (interfaceNetwork builtins (builtins.formatted (gatewayOf item) ++ "/" ++
        builtins.formatted ((l2NetworkConfigOf item).field "prefixLength4" (.int 24)))).getD
          "") := by
  obtain ⟨isDict, metadata, fields⟩ := (returns_liveNetworkItem item).mp ⟨_, isOk⟩
  obtain ⟨named, isL3⟩ := (liveNetworkItem_isSome isOk).mp rfl
  obtain ⟨spec, fields⟩ := fields named
  have fields := fields isL3
  rw [liveNetworkItem_secondary isDict metadata named spec isL3] at isOk
  obtain ⟨_, isOk, made⟩ := bind_ok_iff.mp isOk
  cases made
  rw [liveNetwork_eq fields.annotations spec rfl rfl] at isOk
  obtain ⟨vlanId, -, isOk⟩ := bind_ok_iff.mp isOk
  obtain ⟨subnet, subnetOk, isOk⟩ := bind_ok_iff.mp isOk
  obtain ⟨name, isSubnet⟩ := secondaryNetwork_ok isOk
  refine ⟨name, fun derives => ?_⟩
  have condition : (!(subnetOf item).truth && (gatewayOf item).truth) = true := by
    simp [derives.1, derives.2]
  have derived : subnetFor builtins (subnetOf item) (gatewayOf item) (specOf item) =
      pure (.str ((interfaceNetwork builtins (builtins.formatted (gatewayOf item) ++ "/" ++
        builtins.formatted ((l2NetworkConfigOf item).field "prefixLength4" (.int 24)))).getD
          "")) := by
    rw [subnetFor, if_pos condition, derivedSubnet, Datum.get_of_isDict spec, pure_bind,
      ← l2NetworkConfigOf, Datum.get_of_isDict (fields.l2NetworkConfig derives), pure_bind]
  cases derived.symm.trans subnetOk
  exact (Datum.str.inj isSubnet).symm

end Live

section Collect

variable {Item : Type} {convert : Datum → Except Exception (Option Item)} {items : List Datum}
  {networks : List Item}

theorem mapM_cons_ok {item : Datum} {converted : List (Option Item)} :
    (item :: items).mapM convert = .ok converted ↔
      ∃ first others, convert item = .ok first ∧ items.mapM convert = .ok others ∧
        converted = first :: others := by
  rw [List.mapM_cons]
  simp only [bind_ok_iff]
  constructor
  · rintro ⟨first, isOk, others, restOk, made⟩
    cases made
    exact ⟨first, others, isOk, restOk, rfl⟩
  · rintro ⟨first, others, isOk, restOk, rfl⟩
    exact ⟨first, isOk, others, restOk, rfl⟩

theorem reduceOption_cons (first : Option Item) (others : List (Option Item)) :
    (first :: others).reduceOption = first.toList ++ others.reduceOption := by
  cases first <;> rfl

theorem collect_complete : collect convert items = (networks, none) ↔
    ∃ converted, items.mapM convert = .ok converted ∧ networks = converted.reduceOption := by
  induction items generalizing networks with
  | nil =>
      simp only [collect, List.mapM_nil, Prod.mk.injEq, and_true]
      constructor
      · rintro rfl
        exact ⟨[], rfl, rfl⟩
      · rintro ⟨_, isOk, rfl⟩
        cases isOk
        rfl
  | cons item rest inductionHypothesis =>
      simp only [collect, mapM_cons_ok]
      cases outcome : convert item with
      | error raised => simp
      | ok first =>
          constructor
          · intro collected
            obtain ⟨rfl, complete⟩ := Prod.mk.inj collected
            obtain ⟨others, restOk, same⟩ := inductionHypothesis.mp (Prod.ext rfl complete)
            refine ⟨first :: others, ⟨first, others, rfl, restOk, rfl⟩, ?_⟩
            exact (congrArg (first.toList ++ ·) same).trans (reduceOption_cons first others).symm
          · rintro ⟨_, ⟨_, others, isOk, restOk, rfl⟩, rfl⟩
            cases isOk
            rw [inductionHypothesis.mpr ⟨others, restOk, rfl⟩, reduceOption_cons]

theorem collect_interrupted {raised : Exception} : collect convert items = (networks, some raised) ↔
    ∃ front item back converted, items = front ++ item :: back ∧
      front.mapM convert = .ok converted ∧ convert item = .error raised ∧
        networks = converted.reduceOption := by
  induction items generalizing networks with
  | nil => simp [collect]
  | cons item rest inductionHypothesis =>
      simp only [collect]
      cases outcome : convert item with
      | error other =>
          constructor
          · rintro ⟨⟩
            exact ⟨[], item, rest, [], rfl, rfl, outcome, rfl⟩
          · rintro ⟨front, failed, back, converted, split, frontOk, failure, rfl⟩
            cases front with
            | nil =>
                cases split
                cases frontOk
                rw [outcome] at failure
                cases failure
                rfl
            | cons head front =>
                cases split
                obtain ⟨first, -, isOk, -⟩ := mapM_cons_ok.mp frontOk
                rw [outcome] at isOk
                cases isOk
      | ok first =>
          constructor
          · intro collected
            obtain ⟨rfl, interrupted⟩ := Prod.mk.inj collected
            obtain ⟨front, failed, back, converted, rfl, frontOk, failure, same⟩ :=
              inductionHypothesis.mp (Prod.ext rfl interrupted)
            refine ⟨item :: front, failed, back, first :: converted, rfl,
              mapM_cons_ok.mpr ⟨first, converted, outcome, frontOk, rfl⟩, failure, ?_⟩
            exact (congrArg (first.toList ++ ·) same).trans (reduceOption_cons first converted).symm
          · rintro ⟨front, failed, back, converted, split, frontOk, failure, rfl⟩
            cases front with
            | nil =>
                cases split
                rw [outcome] at failure
                cases failure
            | cons head front =>
                cases split
                obtain ⟨_, others, isOk, othersOk, rfl⟩ := mapM_cons_ok.mp frontOk
                rw [outcome] at isOk
                cases isOk
                rw [inductionHypothesis.mpr
                  ⟨front, failed, back, others, rfl, othersOk, failure, rfl⟩,
                  reduceOption_cons]

theorem mem_collected {converted : List (Option Item)} (isOk : items.mapM convert = .ok converted)
    (network : Item) :
    network ∈ converted.reduceOption ↔ ∃ item ∈ items, convert item = .ok (some network) := by
  induction items generalizing converted with
  | nil =>
      cases isOk
      simp [List.reduceOption_nil]
  | cons item rest inductionHypothesis =>
      obtain ⟨first, others, firstOk, othersOk, rfl⟩ := mapM_cons_ok.mp isOk
      rw [reduceOption_cons, List.mem_append, List.exists_mem_cons_iff,
        inductionHypothesis othersOk, firstOk, Option.mem_toList]
      simp

end Collect

/-- The objects that a call prints. -/
def LiveItems (builtins : Builtins) (stdout : String) (items : List Datum) : Prop :=
  ∃ data, builtins.loads stdout = .ok data ∧ data.IsDict ∧
    (data.field "items" emptyList).IsIterable ∧ items = (data.field "items" emptyList).elements

def FromLive (builtins : Builtins) (stdout : String) (networks : List SecondaryNetworkItem) :
    Prop :=
  ∃ items converted, LiveItems builtins stdout items ∧
    items.mapM (liveNetworkItem builtins) = .ok converted ∧ networks = converted.reduceOption

def FromConfigured (builtins : Builtins) (configured : List Datum)
    (networks : List SecondaryNetworkItem) : Prop :=
  configured.mapM (configuredNetwork builtins) = .ok networks

/-- A response has only the live networks, without an object that is not
converted, or only the configured ones. -/
def AllOrNothing (builtins : Builtins) (configured : List Datum) (returncode : Int)
    (stdout : String) : Prop :=
  ∀ networks, listSecondaryNetworks builtins configured returncode stdout = .ok networks →
    FromLive builtins stdout networks ∨ FromConfigured builtins configured networks

/-- A live object that is not converted comes after one that is a secondary Network. -/
def Interrupted (builtins : Builtins) (stdout : String) : Prop :=
  ∃ front item back, LiveItems builtins stdout (front ++ item :: back) ∧
    (∀ before ∈ front, NetworkFits before) ∧ (∃ before ∈ front, Named before ∧ ¬ IsL3 before) ∧
      ¬ NetworkFits item ∧ ¬ NetworkBreaks item

structure ConfiguredFits (net : Datum) : Prop where
  isDict : net.IsDict
  vlan : Returns (configuredNetwork.validVLAN (net.field "vlan_id" (.int 0)))
  name : IsText (net.field "name" emptyText)
  subnet : IsText (net.field "subnet" emptyText)
  gateway : IsOptionalText (net.field "gateway" emptyText)
  vipPool : IsOptionalText (net.field "vip_pool" emptyText)

section Response

variable {builtins : Builtins} {configured : List Datum} {returncode : Int} {stdout : String}

theorem liveItems_iff {items : List Datum} :
    (builtins.loads stdout >>= itemsOf) = .ok items ↔ LiveItems builtins stdout items := by
  simp only [LiveItems, bind_ok_iff, itemsOf, Datum.get_ok_iff, Datum.iterate_ok_iff]
  constructor
  · rintro ⟨data, isOk, _, ⟨isDict, rfl⟩, isIterable, rfl⟩
    exact ⟨data, isOk, isDict, isIterable, rfl⟩
  · rintro ⟨data, isOk, isDict, isIterable, rfl⟩
    exact ⟨data, isOk, _, ⟨isDict, rfl⟩, isIterable, rfl⟩

theorem returns_configuredNetwork (net : Datum) :
    Returns (configuredNetwork builtins net) ↔ ConfiguredFits net := by
  rw [configuredNetwork, Datum.returns_get_bind, Datum.returns_get_bind, Datum.returns_get_bind,
    Datum.returns_get_bind, Datum.returns_get_bind, returns_bind]
  simp only [returns_secondaryNetwork]
  constructor
  · rintro ⟨isDict, -, -, -, -, vlanId, isOk, name, subnet, gateway, vipPool⟩
    exact ⟨isDict, ⟨vlanId, isOk⟩, name, subnet, gateway, vipPool⟩
  · rintro ⟨isDict, ⟨vlanId, isOk⟩, name, subnet, gateway, vipPool⟩
    exact ⟨isDict, isDict, isDict, isDict, isDict, vlanId, isOk, name, subnet, gateway, vipPool⟩

theorem liveNetworks_ok {items : List Datum} (live : LiveItems builtins stdout items) :
    liveNetworks builtins stdout = collect (liveNetworkItem builtins) items := by
  rw [liveNetworks, liveItems_iff.mpr live]

/-- The networks that are collected are there unless no object is a secondary Network. -/
theorem reduceOption_ne_nil {items : List Datum} {converted : List (Option SecondaryNetworkItem)}
    (isOk : items.mapM (liveNetworkItem builtins) = .ok converted) :
    converted.reduceOption ≠ [] ↔ ∃ item ∈ items, Named item ∧ ¬ IsL3 item := by
  induction items generalizing converted with
  | nil =>
      cases isOk
      simp [List.reduceOption_nil]
  | cons item rest inductionHypothesis =>
      obtain ⟨first, others, firstOk, othersOk, rfl⟩ := mapM_cons_ok.mp isOk
      rw [List.exists_mem_cons_iff, ← inductionHypothesis othersOk, reduceOption_cons,
        ← liveNetworkItem_isSome firstOk]
      cases first <;> simp

/-- The loop collects networks before an exception that is caught, exactly when a
live object that is not converted comes after a secondary Network. -/
theorem interrupted_iff : Interrupted builtins stdout ↔
    ∃ networks raised, liveNetworks builtins stdout = (networks, some raised) ∧
      networks ≠ [] ∧ caught raised = true := by
  constructor
  · rintro ⟨front, item, back, live, fits, secondary, unfit, unbroken⟩
    obtain ⟨converted, frontOk⟩ : Returns (front.mapM (liveNetworkItem builtins)) :=
      returns_mapM.mpr fun before member =>
        (returns_liveNetworkItem before).mpr (fits before member)
    have fails : ∃ raised, liveNetworkItem builtins item = .error raised := by
      cases outcome : liveNetworkItem builtins item with
      | error raised => exact ⟨raised, rfl⟩
      | ok network => exact absurd ((returns_liveNetworkItem item).mp ⟨network, outcome⟩) unfit
    obtain ⟨raised, failure⟩ := fails
    refine ⟨converted.reduceOption, raised, ?_, (reduceOption_ne_nil frontOk).mpr secondary, ?_⟩
    · rw [liveNetworks_ok live]
      exact collect_interrupted.mpr ⟨front, item, back, converted, rfl, frontOk, failure, rfl⟩
    · by_contra escapes
      exact unbroken ((escapes_liveNetworkItem item).mp ⟨raised, failure, by simpa using escapes⟩)
  · rintro ⟨networks, raised, collected, nonempty, isCaught⟩
    cases read : builtins.loads stdout >>= itemsOf with
    | error other =>
        rw [liveNetworks, read] at collected
        cases collected
        exact absurd rfl nonempty
    | ok items =>
        have live := liveItems_iff.mp read
        rw [liveNetworks_ok live] at collected
        obtain ⟨front, item, back, converted, rfl, frontOk, failure, rfl⟩ :=
          collect_interrupted.mp collected
        refine ⟨front, item, back, live, fun before member => ?_,
          (reduceOption_ne_nil frontOk).mp nonempty, fun fits => ?_, fun breaks => ?_⟩
        · exact (returns_liveNetworkItem before).mp
            (returns_mapM.mp ⟨converted, frontOk⟩ before member)
        · obtain ⟨network, isOk⟩ : Returns (liveNetworkItem builtins item) :=
            (returns_liveNetworkItem item).mpr fits
          rw [failure] at isOk
          cases isOk
        · obtain ⟨other, isError, escapes⟩ := (escapes_liveNetworkItem item).mpr breaks
          rw [failure] at isError
          cases isError
          rw [isCaught] at escapes
          cases escapes

theorem withConfigured_ok {collected networks : List SecondaryNetworkItem} :
    withConfigured builtins configured collected = .ok networks ↔
      ∃ more, FromConfigured builtins configured more ∧ networks = collected ++ more := by
  rw [withConfigured, bind_ok_iff]
  refine exists_congr fun more => and_congr_right fun _ => ?_
  constructor
  · rintro ⟨⟩
    rfl
  · rintro rfl
    rfl

theorem liveNetworks_complete {networks : List SecondaryNetworkItem} :
    liveNetworks builtins stdout = (networks, none) ↔ FromLive builtins stdout networks := by
  constructor
  · intro collected
    cases read : builtins.loads stdout >>= itemsOf with
    | error raised =>
        rw [liveNetworks, read] at collected
        cases collected
    | ok items =>
        have live := liveItems_iff.mp read
        rw [liveNetworks_ok live] at collected
        obtain ⟨converted, isOk, same⟩ := collect_complete.mp collected
        exact ⟨items, converted, live, isOk, same⟩
  · rintro ⟨items, converted, live, isOk, same⟩
    rw [liveNetworks_ok live]
    exact collect_complete.mpr ⟨converted, isOk, same⟩

theorem configuredFits_iff : (∀ net ∈ configured, ConfiguredFits net) ↔
    ∃ networks, FromConfigured builtins configured networks :=
  (forall₂_congr fun net _ => (returns_configuredNetwork net).symm).trans returns_mapM.symm

/-- The response is all or nothing, exactly when no live object that is not
converted comes after a secondary Network, or when nothing is read from the
cluster or the configuration. -/
theorem listSecondaryNetworks_allOrNothing_iff :
    AllOrNothing builtins configured returncode stdout ↔
      ¬ (returncode = 0 ∧ stdout ≠ "" ∧ Interrupted builtins stdout ∧
        ∀ net ∈ configured, ConfiguredFits net) := by
  constructor
  · rintro whole ⟨success, printed, interrupted, fits⟩
    obtain ⟨networks, raised, collected, nonempty, isCaught⟩ := interrupted_iff.mp interrupted
    obtain ⟨more, moreOk⟩ := configuredFits_iff.mp fits
    have response : listSecondaryNetworks builtins configured returncode stdout =
        .ok (networks ++ more) := by
      rw [listSecondaryNetworks, if_pos ⟨success, printed⟩, collected]
      simp only [isCaught, if_true]
      exact withConfigured_ok.mpr ⟨more, moreOk, rfl⟩
    rcases whole _ response with live | isConfigured
    · rw [← liveNetworks_complete, collected] at live
      cases congrArg Prod.snd live
    · have same := Except.ok.inj (moreOk.symm.trans isConfigured)
      exact nonempty (List.self_eq_append_left.mp same)
  · intro safe networks response
    rw [listSecondaryNetworks] at response
    split at response
    next live =>
      split at response
      next =>
        obtain ⟨more, moreOk, rfl⟩ := withConfigured_ok.mp response
        exact .inr moreOk
      next collected _ complete =>
        cases response
        exact .inl (liveNetworks_complete.mp complete)
      next collected raised interrupted =>
        split at response
        next isCaught =>
          obtain ⟨more, moreOk, rfl⟩ := withConfigured_ok.mp response
          by_cases nonempty : collected = []
          · rw [nonempty]
            exact .inr moreOk
          · exact absurd ⟨live.1, live.2,
              interrupted_iff.mpr ⟨collected, raised, interrupted, nonempty, isCaught⟩,
              configuredFits_iff.mpr ⟨more, moreOk⟩⟩ safe
        next => cases response
    next =>
      obtain ⟨more, moreOk, rfl⟩ := withConfigured_ok.mp response
      exact .inr moreOk

end Response

def liveObject (name : String) (gateway4 : Datum) : Datum :=
  .dict [("metadata", .dict [("name", .str name)]), ("spec", .dict [("gateway4", gateway4)])]

def mixedOutput : String :=
  "\x7b\"items\": [" ++
    "\x7b\"metadata\": \x7b\"name\": \"net-a\"\x7d, " ++
    "\"spec\": \x7b\"gateway4\": \"10.0.0.1\"\x7d\x7d, " ++
    "\x7b\"metadata\": \x7b\"name\": \"net-b\"\x7d, \"spec\": \x7b\"gateway4\": 7\x7d\x7d]\x7d"

def mixedBuiltins : Builtins where
  loads text :=
    if text = mixedOutput then
      .ok (.dict [("items", .list [liveObject "net-a" (.str "10.0.0.1"),
        liveObject "net-b" (.int 7)])])
    else .error .valueError
  format _ := ""
  intOfText _ := none
  sumFloats _ := .error .valueError
  ipv6Network _ := none

/-- A network of `all.yaml`. -/
def configuredObject : Datum := .dict [("name", .str "vlan-123"), ("vlan_id", .int 123),
  ("subnet", .str "172.16.12.0/24"), ("gateway", .str "172.16.12.1"),
  ("vip_pool", .str "172.16.12.200-172.16.12.250")]

/-- The live network that was converted stays in the response with the configured one. -/
theorem mixedOutput_mixed :
    (listSecondaryNetworks mixedBuiltins [configuredObject] 0 mixedOutput).map
        (List.map SecondaryNetworkItem.name) = .ok ["net-a", "vlan-123"] ∧
      ¬ AllOrNothing mixedBuiltins [configuredObject] 0 mixedOutput := by
  have interrupted : (liveNetworks mixedBuiltins mixedOutput).2 = some .valueError := rfl
  refine ⟨rfl, fun whole => ?_⟩
  rcases whole _ rfl with live | isConfigured
  · rw [liveNetworks_complete.mpr live] at interrupted
    cases interrupted
  · have lengths := congrArg (fun outcome => (outcome.map List.length).toOption) isConfigured
    cases lengths

end GemEmulation.Api.K8s
