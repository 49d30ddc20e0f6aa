import GemEmulation.Operator.Network.Frame

/-!
# The provisioning guardrail

A Network counts as provisioned when the ConfigMap that Ansible renders has an
entry for its VLAN or lists its interface.  Its NetworkAttachmentDefinitions and
its L2Advertisement name the interface only.
-/

namespace GemEmulation.Operator

open Foundations Kube

def NamesInterface (ifaceName : String) : (kind : Kind) → kind.Body → Prop
  | .custom .netAttachDef, body => ∃ owner mtu,
      body = [("spec", .map [("config", .string (cniConfig owner ifaceName mtu))])]
  | .custom .l2Advertisement, body => ∃ owner, body = (l2Advertisement owner ifaceName).body
  | _, _ => True

def WritesInterface (ifaceName : String) (before after : Session) : Prop :=
  ∀ kind key object, (after.cluster kind).get? key = some object →
    NamesInterface ifaceName kind object.body ∨
      ∃ old, (before.cluster kind).get? key = some old ∧ old.body = object.body

instance (ifaceName : String) : Std.Refl (WritesInterface ifaceName) :=
  ⟨fun _ _ _ object found => .inr ⟨object, found, rfl⟩⟩

instance (ifaceName : String) : IsTrans Session (WritesInterface ifaceName) where
  trans _ _ _ first second kind key object found := by
    rcases second kind key object found with named | ⟨middle, foundThen, same⟩
    · exact .inl named
    · exact same ▸ first kind key middle foundThen

section Writes

variable {ifaceName : String}

theorem writesInterface_of_spares {Result : Type} {program : Api Result}
    (spares : ∀ kind, kind = .netAttachDef ∨ kind = .l2Advertisement →
      program.Guarantees (Makes (Call.Spares kind))) :
    program.Guarantees (WritesInterface ifaceName) := by
  intro client session kind key object found
  by_cases naming : kind = .netAttachDef ∨ kind = .l2Advertisement
  · rw [(spares kind naming client session).unchanged fun _ off => off key] at found
    exact .inr ⟨object, found, rfl⟩
  left
  unfold NamesInterface
  split
  · exact absurd (.inl rfl) naming
  · exact absurd (.inr rfl) naming
  · trivial

theorem writesInterface_put {session : Session} {kind : Kind} {object : Object kind.Body}
    (named : NamesInterface ifaceName kind object.body) {other : Kind} {key : ObjectKey}
    {stored : Object other.Body}
    (found : ((session.cluster.put kind object) other).get? key = some stored) :
    NamesInterface ifaceName other stored.body ∨
      ∃ old, (session.cluster other).get? key = some old ∧ old.body = stored.body := by
  by_cases same : (kind, object.key) = (other, key)
  · obtain ⟨rfl, rfl⟩ := Prod.mk.inj same
    rw [Cluster.put_self, Store.get?_put_self] at found
    cases found
    exact .inl named
  · rw [session.cluster.get?_put_of_ne object same] at found
    exact .inr ⟨stored, found, rfl⟩

theorem create_writes {kind : Kind} {object : Object kind.Body}
    (named : NamesInterface ifaceName kind object.body) :
    (create kind object).Guarantees (WritesInterface ifaceName) := by
  intro client session
  simp only [create, request]
  split
  · exact fun _ _ object found => .inr ⟨object, found, rfl⟩
  next result cluster outcome =>
    split at outcome
    · contradiction
    · split at outcome <;> cases outcome
      exact fun other key stored found => writesInterface_put named found

theorem update_writes {kind : CustomKind} {obj : Unstructured} (bare : kind.hasStatus = false)
    (named : NamesInterface ifaceName (.custom kind) obj.body) :
    (update (.custom kind) obj).Guarantees (WritesInterface ifaceName) := by
  intro client session
  simp only [update, request]
  split
  · exact fun _ _ object found => .inr ⟨object, found, rfl⟩
  next result cluster outcome =>
    split at outcome
    · contradiction
    · split at outcome <;> cases outcome
      next stored _ =>
        have body : (updated (.custom kind) stored obj).body = obj.body := by
          simp [updated, updatedBody, bare]
        intro other key object found
        unfold settle at found
        split at found
        · by_cases same : (Kind.custom kind, (updated (.custom kind) stored obj).key) = (other, key)
          · obtain ⟨rfl, rfl⟩ := Prod.mk.inj same
            simp at found
          · rw [session.cluster.get?_remove_of_ne same] at found
            exact .inr ⟨object, found, rfl⟩
        · exact writesInterface_put (body ▸ named) found

theorem applyOrUpdate_writes {kind : CustomKind} {obj : Unstructured}
    (bare : kind.hasStatus = false) (named : NamesInterface ifaceName (.custom kind) obj.body) :
    (applyOrUpdate kind obj).Guarantees (WritesInterface ifaceName) :=
  applyObject_guarantees
    (writesInterface_of_spares fun _ _ => get_spares _ _ _)
    (create_writes named) (update_writes bare named)

theorem listing_writes {kind : Kind} {ns : Option String} {labels : List (String × String)} :
    (list kind ns labels).Guarantees (WritesInterface ifaceName) :=
  writesInterface_of_spares fun _ _ => list_makes fun _ => by simp [Call.target]

theorem attachNetwork_writes (owner : Unstructured) (mtu : String) :
    (attachNetwork owner ifaceName mtu).Guarantees (WritesInterface ifaceName) := by
  unfold attachNetwork reconcileNetAttachDef
  split
  · exact .pure _
  split
  · exact .pure _
  next mtuInt _ =>
    refine .bind listing_writes fun outcome => ?_
    split
    · exact .pure _
    · refine .bind (.foldlM _ (fun ns _ applyErrors => ?_) _) fun _ => .pure _
      unfold applyInNamespace
      split
      · exact .pure _
      · refine .bind (applyOrUpdate_writes rfl ⟨owner, mtuInt, rfl⟩) fun outcome => ?_
        split <;> exact .pure _

theorem reconcileVIPPool_writes (owner : Unstructured) :
    (reconcileVIPPool owner ifaceName).Guarantees (WritesInterface ifaceName) := by
  unfold reconcileVIPPool
  dsimp only
  split
  · exact .pure _
  split
  · exact .pure _
  · exact .pure _
  · refine .bind ?_ fun _ => .pure _
    refine .bind (applyOrUpdate_writes rfl trivial) fun outcome => ?_
    split
    · exact .pure _
    · refine .bind (applyOrUpdate_writes rfl ⟨owner, rfl⟩) fun outcome => ?_
      split <;> exact .pure _

/-- Whatever a Network's Reconcile writes names the Network's interface. -/
theorem reconcilePresentNetwork_writes (texts : LibraryTexts) (netObj : Unstructured) :
    (reconcilePresentNetwork texts netObj).Guarantees
      (WritesInterface (hostInterface netObj)) := by
  have spared {kind : Kind} (naming : kind = .netAttachDef ∨ kind = .l2Advertisement) :
      Call.Spares kind (.updateStatus .network netObj.key) ∧
        Call.Spares kind (.update .network netObj.key) := by
    rcases naming with rfl | rfl <;>
      exact ⟨fun _ => by simp [Call.target], fun _ => by simp [Call.target]⟩
  have services : (reconcileServices texts netObj).Guarantees
      (WritesInterface (hostInterface netObj)) := by
    refine writesInterface_of_spares fun kind naming =>
      (reconcileServices_makes texts netObj).weaken fun _ _ makes =>
        makes.weaken fun call service key writes => ?_
    rcases naming with rfl | rfl <;> cases service _ _ writes
  refine .bind (writesInterface_of_spares fun _ _ => isProvisioned_makes _ _ _ _) fun provisioned =>
    .bind (writesInterface_of_spares fun _ _ => warnUnlessProvisioned_makes _ _ _) fun _ =>
      .bind ?_ fun childErrors =>
        .bind (writesInterface_of_spares fun _ _ =>
          isCoreDNSGatewayRuleActive_makes _) fun active =>
          .bind (writesInterface_of_spares fun _ naming =>
            updateUnstructuredStatusIfChanged_makes (spared naming)) fun _ => .pure _
  exact .bind (attachNetwork_writes _ _) fun _ => .bind (reconcileVIPPool_writes _) fun _ =>
    .bind services fun _ => .pure _

end Writes

/-- The data of the ConfigMap that Ansible renders for some VLANs. -/
def renderedNetworks (vlanIDs : List Nat) : Dict String String :=
  vlanIDs.foldl (fun data vlanID => data.set (toString vlanID) ("gdcenet0." ++ toString vlanID)) ∅

theorem get?_renderedNetworks (vlanIDs : List Nat) (key : String) :
    (renderedNetworks vlanIDs).get? key =
      if key ∈ vlanIDs.map toString then some ("gdcenet0." ++ key) else none := by
  unfold renderedNetworks
  induction vlanIDs using List.reverseRecOn with
  | nil => simp
  | append_singleton front vlanID inductionHypothesis =>
      rw [List.foldl_append, List.foldl_cons, List.foldl_nil, Dict.get?_set, inductionHypothesis]
      by_cases same : key = toString vlanID
      · subst same
        simp
      · simp only [List.map_append, List.map_cons, List.map_nil, List.mem_append,
          List.mem_singleton, same, or_false, if_false]

theorem mem_renderedNetworks {vlanIDs : List Nat} {key : String}
    (rendered : key ∈ vlanIDs.map toString) :
    "gdcenet0." ++ key ∈ (renderedNetworks vlanIDs).values :=
  (Dict.mem_values_iff _ _).mpr ⟨key, by rw [get?_renderedNetworks, if_pos rendered]⟩

/-- The ConfigMap of the provisioned networks is the one rendered for some VLANs. -/
def Rendered (vlanIDs : List Nat) (cluster : Cluster) : Prop :=
  ∃ cm, (cluster .configMap).get? ⟨"kube-system", provisionedNetworksConfigMap⟩ = some cm ∧
    cm.body.data = renderedNetworks vlanIDs

/-- The Network's Reconcile never takes it for provisioned unless the interface that
it writes is listed. -/
def GuardrailSound (netObj : Unstructured) (vlanIDs : List Nat) : Prop :=
  ∀ client session, Rendered vlanIDs session.cluster →
    (isProvisioned netObj (annotationOf netObj annotationVLANID) (hostInterface netObj)
      client session).1 = true →
    hostInterface netObj ∈ (renderedNetworks vlanIDs).values

def specInterface (netObj : Unstructured) : String :=
  (nestedString netObj.body ["spec", "nodeInterfaceMatcher", "interfaceName"]).getD ""

/-- The Network's VLAN is not rendered, or its spec names no interface or a listed
one. -/
def InterfaceMatchesVLAN (netObj : Unstructured) (vlanIDs : List Nat) : Prop :=
  annotationOf netObj annotationVLANID ∉ vlanIDs.map toString ∨ specInterface netObj = "" ∨
    specInterface netObj ∈ (renderedNetworks vlanIDs).values

theorem isHostInterfaceProvisioned_iff {vlanIDs : List Nat} {client : Client} {session : Session}
    (rendered : Rendered vlanIDs session.cluster) {vlanID ifaceName : String}
    (provisioned : (isHostInterfaceProvisioned vlanID ifaceName client session).1 = true) :
    vlanID ∈ vlanIDs.map toString ∨ ifaceName ∈ (renderedNetworks vlanIDs).values := by
  obtain ⟨cm, found, data⟩ := rendered
  simp only [isHostInterfaceProvisioned, Program.bind_apply] at provisioned
  cases reading :
      (get .configMap ⟨"kube-system", provisionedNetworksConfigMap⟩ client session).1 with
  | error error => simp [reading] at provisioned
  | ok read =>
      obtain rfl : cm = read := Option.some.inj (found.symm.trans (get_ok reading))
      simp only [reading, Program.pure_apply, data, get?_renderedNetworks, Bool.or_eq_true,
        Bool.and_eq_true, decide_eq_true_eq] at provisioned
      rcases provisioned with ⟨-, present⟩ | ⟨-, listed⟩
      · left
        by_contra absent
        simp [absent] at present
      · exact .inr listed

theorem isHostInterfaceProvisioned_of_vlan {vlanIDs : List Nat} {session : Session}
    (rendered : Rendered vlanIDs session.cluster) {vlanID : String} (ifaceName : String)
    (listed : vlanID ∈ vlanIDs.map toString) :
    (isHostInterfaceProvisioned vlanID ifaceName noFaults session).1 = true := by
  obtain ⟨cm, found, data⟩ := rendered
  have nonempty : vlanID ≠ "" := by
    obtain ⟨number, -, rfl⟩ := List.mem_map.mp listed
    exact Nat.repr_ne_empty
  simp only [isHostInterfaceProvisioned, Program.bind_apply, get_noFaults, found,
    Program.pure_apply, data, get?_renderedNetworks, if_pos listed]
  simp [nonempty]

/-- The cluster that holds nothing but the ConfigMap of the provisioned networks. -/
def renderedCluster (vlanIDs : List Nat) : Cluster :=
  (∅ : Cluster).put .configMap {
    metadata := { key := ⟨"kube-system", provisionedNetworksConfigMap⟩ }
    body := { data := renderedNetworks vlanIDs } }

theorem renderedCluster_rendered (vlanIDs : List Nat) :
    Rendered vlanIDs (renderedCluster vlanIDs) :=
  ⟨_, by rw [renderedCluster, Cluster.put_self]; exact Store.get?_put_self _ _, rfl⟩

theorem hostInterface_of_named {netObj : Unstructured} (named : specInterface netObj ≠ "") :
    hostInterface netObj = specInterface netObj := by
  unfold hostInterface interfaceNameOf
  exact if_neg fun nameless => named nameless.1

theorem hostInterface_of_nameless {netObj : Unstructured} (nameless : specInterface netObj = "")
    (tagged : annotationOf netObj annotationVLANID ≠ "") :
    hostInterface netObj = "gdcenet0." ++ annotationOf netObj annotationVLANID := by
  unfold hostInterface interfaceNameOf
  exact if_pos ⟨nameless, tagged⟩

theorem guardrailSound_of_matches {netObj : Unstructured} {vlanIDs : List Nat}
    (secondary : isPrimaryNetwork netObj (annotationOf netObj annotationVLANID)
      (hostInterface netObj) = false)
    (matching : InterfaceMatchesVLAN netObj vlanIDs) : GuardrailSound netObj vlanIDs := by
  intro client session rendered provisioned
  rw [isProvisioned, if_neg (by simp [secondary])] at provisioned
  rcases isHostInterfaceProvisioned_iff rendered provisioned with vlan | listed
  · by_cases nameless : specInterface netObj = ""
    · have tagged : annotationOf netObj annotationVLANID ≠ "" := by
        obtain ⟨number, -, shown⟩ := List.mem_map.mp vlan
        exact shown ▸ Nat.repr_ne_empty
      rw [hostInterface_of_nameless nameless tagged]
      exact mem_renderedNetworks vlan
    · rw [hostInterface_of_named nameless]
      exact (matching.resolve_left (not_not_intro vlan)).resolve_left nameless
  · exact listed

theorem matches_of_guardrailSound {netObj : Unstructured} {vlanIDs : List Nat}
    (secondary : isPrimaryNetwork netObj (annotationOf netObj annotationVLANID)
      (hostInterface netObj) = false)
    (sound : GuardrailSound netObj vlanIDs) : InterfaceMatchesVLAN netObj vlanIDs := by
  by_contra mismatch
  obtain ⟨listed, named, unlisted⟩ : annotationOf netObj annotationVLANID ∈ vlanIDs.map toString ∧
      specInterface netObj ≠ "" ∧ specInterface netObj ∉ (renderedNetworks vlanIDs).values := by
    simpa only [InterfaceMatchesVLAN, not_or, not_not] using mismatch
  let session : Session := { cluster := renderedCluster vlanIDs, now := "" }
  have rendered : Rendered vlanIDs session.cluster := renderedCluster_rendered vlanIDs
  have accepted : (isProvisioned netObj (annotationOf netObj annotationVLANID)
      (hostInterface netObj) noFaults session).1 = true := by
    rw [isProvisioned, if_neg (by simp [secondary])]
    exact isHostInterfaceProvisioned_of_vlan rendered _ listed
  exact unlisted (hostInterface_of_named named ▸ sound noFaults session rendered accepted)

/-- Whatever a Network's Reconcile writes names the Network's interface, and the
guardrail lists that interface if and only if a Network with a rendered VLAN names
no other interface than a listed one. -/
theorem guardrailSound_iff (texts : LibraryTexts) (netObj : Unstructured) (vlanIDs : List Nat)
    (secondary : isPrimaryNetwork netObj (annotationOf netObj annotationVLANID)
      (hostInterface netObj) = false) :
    (reconcilePresentNetwork texts netObj).Guarantees (WritesInterface (hostInterface netObj)) ∧
      (GuardrailSound netObj vlanIDs ↔ InterfaceMatchesVLAN netObj vlanIDs) :=
  ⟨reconcilePresentNetwork_writes texts netObj, matches_of_guardrailSound secondary,
    guardrailSound_of_matches secondary⟩

def strayNetwork : Unstructured where
  metadata := {
    key := ⟨"", "n"⟩
    annotations := (Dict.singleton annotationVLANID "7").set annotationLBServiceVIPs
      "[\"10.0.0.100-10.0.0.110\"]" }
  body := [("spec", .map [("nodeInterfaceMatcher", .map [("interfaceName", .string "eth9")])])]

def strayCluster : Cluster :=
  ((renderedCluster [7]).put .network strayNetwork).put .namespace ⟨{ key := ⟨"", "default"⟩ }, ()⟩

theorem guardrailSound_iff_stray :
    (reconcilePresentNetwork ⟨fun _ => "", id, id⟩ strayNetwork).Guarantees
        (WritesInterface (hostInterface strayNetwork)) ∧
      (GuardrailSound strayNetwork [7] ↔ InterfaceMatchesVLAN strayNetwork [7]) :=
  guardrailSound_iff _ strayNetwork [7] (by decide)

def advertised (adv : Unstructured) : List String :=
  ((nestedSlice adv.body ["spec", "interfaces"]).getD []).filterMap Value.asString

/-- The Reconcile reports nothing and writes the interface, which is not listed. -/
theorem strayInterface_passes :
    let after := (reconcileNetwork ⟨fun _ => "", id, id⟩ "n" noFaults
      { cluster := strayCluster, now := "" }).2
    isPrimaryNetwork strayNetwork (annotationOf strayNetwork annotationVLANID)
        (hostInterface strayNetwork) = false ∧
      ¬ GuardrailSound strayNetwork [7] ∧ after.events = [] ∧
      ((after.cluster .netAttachDef).get? ⟨"default", "n"⟩).any (fun nad =>
        nestedString nad.body ["spec", "config"] = some (cniConfig strayNetwork "eth9" 1410)) ∧
      ((after.cluster .l2Advertisement).get? ⟨"kube-system", "l2advertise-n"⟩).map advertised =
        some ["eth9"] ∧
      "eth9" ∉ (renderedNetworks [7]).values := by
  have secondary : isPrimaryNetwork strayNetwork (annotationOf strayNetwork annotationVLANID)
      (hostInterface strayNetwork) = false := by decide
  have mismatch : ¬ InterfaceMatchesVLAN strayNetwork [7] := by
    unfold InterfaceMatchesVLAN
    decide
  refine ⟨secondary, fun sound => mismatch (matches_of_guardrailSound secondary sound),
    by decide +kernel, by decide +kernel, by decide +kernel, by decide⟩

end GemEmulation.Operator
