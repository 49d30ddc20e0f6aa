import GemEmulation.Api.Networks
import GemEmulation.Operator.PrefixLength

/-!
# Subnets that are reported and configured

The REST API derives the subnet of a Network from the object that `kubectl`
prints, and the operator from the object it reconciles.
-/

namespace GemEmulation.Api.K8s

open Foundations Python Net Operator

mutual

/-- The object that a field's value is read as, given the value of a
floating-point literal. -/
def printedValue (float : String → Rat) : Kube.Value → Datum
  | .nil => .none
  | .bool value => .bool value
  | .int64 value => .int value
  | .float64 literal => .float (.finite (float literal))
  | .string value => .str value
  | .slice items => .list (printedItems float items)
  | .map fields => .dict (printedFields float fields)

def printedItems (float : String → Rat) : List Kube.Value → List Datum
  | [] => []
  | item :: rest => printedValue float item :: printedItems float rest

def printedFields (float : String → Rat) : Kube.Fields → List (String × Datum)
  | [] => []
  | (name, value) :: rest => (name, printedValue float value) :: printedFields float rest

end

theorem lookup_printedFields (float : String → Rat) (fields : Kube.Fields) (name : String) :
    lookupEntry name (printedFields float fields) =
      (lookupEntry name fields).map (printedValue float) := by
  induction fields with
  | nil => rfl
  | cons field rest inductionHypothesis =>
      obtain ⟨key, value⟩ := field
      rw [printedFields, lookupEntry, lookupEntry]
      split
      · rfl
      · exact inductionHypothesis

/-- The object that `kubectl` prints for a Network. -/
structure Printed (float : String → Rat) (netObj : Kube.Unstructured) (item : Datum) : Prop where
  isDict : item.IsDict
  metadata : (metadataOf item).IsDict
  name : nameOf item = .str netObj.key.name
  annotations : (annotationsOf item).IsDict
  annotation : ∀ name default, (annotationsOf item).field name default =
    ((netObj.metadata.annotations.get? name).map Datum.str).getD default
  spec : item.field "spec" .none =
    ((lookupEntry "spec" netObj.body).map (printedValue float)).getD .none

/-- What the definition of the custom resource says of the fields that are read. -/
structure Accepted (netObj : Kube.Unstructured) : Prop where
  spec : ∀ value, Kube.nestedField netObj.body ["spec"] = some value →
    ∃ fields, value = .map fields
  type : ∀ value, Kube.nestedField netObj.body ["spec", "type"] = some value →
    ∃ text, value = .string text
  gateway4 : ∀ value, Kube.nestedField netObj.body ["spec", "gateway4"] = some value →
    ∃ text, value = .string text
  l2NetworkConfig : ∀ value, Kube.nestedField netObj.body ["spec", "l2NetworkConfig"] = some value →
    ∃ fields, value = .map fields
  prefixLength4 : ∀ value,
    Kube.nestedField netObj.body ["spec", "l2NetworkConfig", "prefixLength4"] = some value →
      (∃ number, value = .int64 number) ∨ ∃ text, value = .string text

/-- A Network that is neither the primary one nor of layer 3. -/
structure Secondary (netObj : Kube.Unstructured) : Prop where
  name : netObj.key.name ≠ "" ∧ netObj.key.name ≠ "pod-network" ∧ netObj.key.name ≠ "default"
  type : Kube.nestedField netObj.body ["spec", "type"] ≠ some (.string "L3")

theorem nestedField_cons (fields : Kube.Fields) (name : String) (path : List String) :
    Kube.nestedField fields (name :: path) =
      (lookupEntry name fields).bind fun value => value.nested path := by
  rw [Kube.nestedField, Kube.Value.nested]

theorem nestedField_singleton (fields : Kube.Fields) (name : String) :
    Kube.nestedField fields [name] = lookupEntry name fields := by
  rw [nestedField_cons]
  cases lookupEntry name fields <;> rfl

section Reading

variable {float : String → Rat} {netObj : Kube.Unstructured} {item : Datum}
  (printed : Printed float netObj item) (accepted : Accepted netObj)

include printed accepted

theorem specOf_printed : ∃ fields : Kube.Fields, specOf item = .dict (printedFields float fields) ∧
    ∀ name path, Kube.nestedField netObj.body ("spec" :: name :: path) =
      Kube.nestedField fields (name :: path) := by
  rw [specOf, printed.spec]
  cases found : lookupEntry "spec" netObj.body with
  | none =>
      refine ⟨[], rfl, fun name path => ?_⟩
      rw [nestedField_cons, found]
      rfl
  | some value =>
      obtain ⟨fields, rfl⟩ := accepted.spec value (by
        rw [nestedField_cons, found]
        rfl)
      refine ⟨fields, ?_, fun name path => ?_⟩
      · cases fields <;> rfl
      · rw [nestedField_cons, found]
        rfl

theorem specOf_isDict : (specOf item).IsDict := by
  obtain ⟨fields, isSpec, -⟩ := specOf_printed printed accepted
  exact ⟨_, isSpec⟩

theorem specOf_field (name : String) (default : Datum) :
    (specOf item).field name default =
      ((Kube.nestedField netObj.body ["spec", name]).map (printedValue float)).getD default := by
  obtain ⟨fields, isSpec, nested⟩ := specOf_printed printed accepted
  rw [isSpec, nested, nestedField_singleton, ← lookup_printedFields]
  rfl

theorem l2NetworkConfigOf_field (default : Datum) :
    (l2NetworkConfigOf item).IsDict ∧ (l2NetworkConfigOf item).field "prefixLength4" default =
      ((Kube.nestedField netObj.body ["spec", "l2NetworkConfig", "prefixLength4"]).map
        (printedValue float)).getD default := by
  obtain ⟨fields, -, nested⟩ := specOf_printed printed accepted
  have isMap := accepted.l2NetworkConfig
  rw [l2NetworkConfigOf, specOf_field printed accepted]
  rw [nested, nestedField_singleton] at isMap ⊢
  rw [nested, nestedField_cons]
  cases found : lookupEntry "l2NetworkConfig" fields with
  | none => exact ⟨⟨[], rfl⟩, rfl⟩
  | some value =>
      obtain ⟨inner, rfl⟩ := isMap value found
      have same : (printedValue float (.map inner)).orElse emptyDict =
          .dict (printedFields float inner) := by
        cases inner <;> rfl
      rw [Option.map_some, Option.getD_some, same, Option.bind_some]
      refine ⟨⟨_, rfl⟩, ?_⟩
      have prefixLen : (Kube.Value.map inner).nested ["prefixLength4"] =
          lookupEntry "prefixLength4" inner := nestedField_singleton inner _
      rw [prefixLen, ← lookup_printedFields]
      rfl

omit accepted in
theorem annotationsOf_field (name : String) :
    (annotationsOf item).field name emptyText =
      .str ((netObj.metadata.annotations.get? name).getD "") := by
  rw [printed.annotation]
  cases netObj.metadata.annotations.get? name <;> rfl

theorem vlanOf_finite : ¬ IsInfinite (vlanOf item) := by
  rintro ⟨negative, infinite⟩
  rw [vlanOf, printed.annotation, specOf_field printed accepted, Datum.orElse] at infinite
  split at infinite
  next =>
    cases annotated : netObj.metadata.annotations.get? "networking.gke.io/gdce-vlan-id" with
    | none => simp [annotated] at infinite
    | some text => simp [annotated] at infinite
  next =>
    cases field : Kube.nestedField netObj.body ["spec", "vlanId"] with
    | none => simp [field] at infinite
    | some value => cases value <;> simp [field, printedValue] at infinite

theorem gatewayOf_text : ∃ text, gatewayOf item = .str text ∧
    (gateway4Of netObj ≠ "" → text = gateway4Of netObj) := by
  rw [gatewayOf, specOf_field printed accepted, annotationsOf_field printed, gateway4Of,
    Kube.nestedString]
  cases field : Kube.nestedField netObj.body ["spec", "gateway4"] with
  | none => exact ⟨_, rfl, fun nonempty => absurd rfl nonempty⟩
  | some value =>
      obtain ⟨text, rfl⟩ := accepted.gateway4 value field
      rw [Option.map_some, Option.getD_some, Datum.orElse]
      split
      next => exact ⟨text, rfl, fun _ => rfl⟩
      next empty =>
        refine ⟨_, rfl, fun nonempty => ?_⟩
        simp only [printedValue, Datum.truth, decide_eq_true_eq, not_not] at empty
        exact absurd empty nonempty

theorem networkFields_printed : NetworkFields item where
  annotations := printed.annotations
  vlan := vlanOf_finite printed accepted
  l2NetworkConfig _ := (l2NetworkConfigOf_field printed accepted .none).1
  name := ⟨_, printed.name⟩
  subnet := .inr ⟨_, annotationsOf_field printed _⟩
  gateway :=
    have ⟨text, isText, _⟩ := gatewayOf_text printed accepted
    .inr ⟨text, isText⟩
  vipPool := .inr ⟨_, annotationsOf_field printed _⟩

theorem networkFits_printed : NetworkFits item :=
  ⟨printed.isDict, printed.metadata, fun _ =>
    ⟨specOf_isDict printed accepted, fun _ => networkFields_printed printed accepted⟩⟩

omit accepted in
theorem named_printed : Named item ↔ netObj.key.name ≠ "" ∧ netObj.key.name ≠ "pod-network" ∧
    netObj.key.name ≠ "default" := by
  simp [Named, printed.name, Datum.truth, Datum.isText]

theorem isL3_printed :
    IsL3 item ↔ Kube.nestedField netObj.body ["spec", "type"] = some (.string "L3") := by
  rw [IsL3, specOf_field printed accepted]
  cases field : Kube.nestedField netObj.body ["spec", "type"] with
  | none => simp [Datum.isText]
  | some value =>
      obtain ⟨text, rfl⟩ := accepted.type value field
      simp [Datum.isText, printedValue]

end Reading

section Derived

variable {builtins : Builtins}

/-- A dotted quad with a mask after it is an interface when the mask is one. -/
theorem interfaceNetwork_eq_some {gw : IPv4} {mask text : String} :
    interfaceNetwork builtins (dottedQuad gw ++ "/" ++ mask) = some text ↔
      ∃ prefixlen, Ipaddress.makeNetmask mask = some prefixlen ∧ prefixlen ≤ 32 ∧
        text = dottedQuad (gw &&& cidrMask prefixlen 32) ++ "/" ++ toString prefixlen := by
  have plain : '/' ∉ (dottedQuad gw).toList := fun slash => (mem_dottedQuad slash).2.1 rfl
  have shape : dottedQuad gw ++ "/" ++ mask = dottedQuad gw ++ .ofList ('/' :: mask.toList) := by
    rw [← String.toList_inj]
    simp
  have parts : Text.split (dottedQuad gw ++ "/" ++ mask) '/' =
      dottedQuad gw :: Text.split mask '/' := by
    rw [shape, Text.split_append_separator plain]
  have noColon : Text.split (dottedQuad gw) ':' = [dottedQuad gw] :=
    Text.split_eq_singleton fun colon => (mem_dottedQuad colon).2.2.2.1 rfl
  rw [interfaceNetwork, parts]
  constructor
  · intro isNetwork
    split at isNetwork
    next network parsed =>
      obtain ⟨written, address, form⟩ := IPv4Network.parse_some parsed
      rw [parts] at form
      rcases form with ⟨alone, -⟩ | ⟨last, pair, prefixlen⟩
      · simp [Text.split] at alone
      · cases isNetwork
        obtain ⟨isWritten, rest⟩ := List.cons.inj pair
        have isLast : last = mask := by
          rw [← Text.join_split mask '/', rest]
          simp [Text.join]
        rw [← isWritten, Ipaddress.parseAddress_dottedQuad] at address
        cases address
        rw [isLast] at prefixlen
        exact ⟨network.prefixlen, prefixlen, network.prefixlen_le, rfl⟩
    next =>
      simp [noColon] at isNetwork
  · rintro ⟨prefixlen, isMask, bound, rfl⟩
    have whole : Text.split mask '/' = [mask] :=
      Text.split_eq_singleton (Ipaddress.makeNetmask_absent isMask)
    have parsed : IPv4Network.parse (dottedQuad gw ++ "/" ++ mask) =
        some ⟨gw, prefixlen, bound⟩ := by
      simp [IPv4Network.parse, parts, whole, Ipaddress.parseAddress_dottedQuad, isMask,
        IPv4Network.ofPrefix, bound]
    rw [parsed]

/-- The subnet of a mask is the one of a prefix length when the mask is the prefix length. -/
theorem subnet_eq_iff {gw : IPv4} {mask : String} {prefixLen : Nat} (bound : prefixLen ≤ 32) :
    some (dottedQuad (gw &&& cidrMask prefixLen 32) ++ "/" ++ toString prefixLen) =
        some ((interfaceNetwork builtins (dottedQuad gw ++ "/" ++ mask)).getD "") ↔
      Ipaddress.makeNetmask mask = some prefixLen := by
  rw [Option.some.injEq]
  constructor
  · intro same
    cases network : interfaceNetwork builtins (dottedQuad gw ++ "/" ++ mask) with
    | none => simp [network] at same
    | some text =>
        obtain ⟨prefixlen, isMask, -, rfl⟩ := interfaceNetwork_eq_some.mp network
        rw [network, Option.getD_some] at same
        rw [withPrefix_inj same]
        exact isMask
  · intro isMask
    rw [interfaceNetwork_eq_some.mpr ⟨prefixLen, isMask, bound, rfl⟩, Option.getD_some]

theorem makeNetmask_int (number : Int) :
    Ipaddress.makeNetmask (toString number) =
      if 0 ≤ number ∧ number ≤ 32 then some number.toNat else none := by
  cases number with
  | ofNat number =>
      have isText : toString (Int.ofNat number) = number.repr := rfl
      rw [isText, Ipaddress.makeNetmask_repr]
      simp
  | negSucc number =>
      have isText : toString (Int.negSucc number) = "-" ++ (number + 1).repr := rfl
      rw [isText, Ipaddress.makeNetmask_negative, if_neg]
      omega

/-- The prefix length that both implementations read. -/
def PrefixAgrees (netObj : Kube.Unstructured) : Prop :=
  match Kube.nestedField netObj.body ["spec", "l2NetworkConfig", "prefixLength4"] with
  | none => True
  | some (.int64 number) => 1 ≤ number ∧ number ≤ 32
  | some (.string text) => Ipaddress.makeNetmask text = some 24
  | some _ => False

/-- The subnet that follows from the printed gateway and prefix length is that of
the CNI configuration. -/
theorem derivedSubnet_iff {float : String → Rat} {netObj : Kube.Unstructured} {item : Datum}
    (printed : Printed float netObj item) (accepted : Accepted netObj) {gw : IPv4}
    (quad : gateway4Of netObj = dottedQuad gw) :
    ipamSubnet netObj = some ((interfaceNetwork builtins (dottedQuad gw ++ "/" ++
        builtins.formatted ((l2NetworkConfigOf item).field "prefixLength4" (.int 24)))).getD "") ↔
      PrefixAgrees netObj := by
  rw [(l2NetworkConfigOf_field printed accepted _).2]
  have isPrefix := accepted.prefixLength4
  rw [ipamSubnet_eq_subnetText, quad, subnetText, parseIP4_dottedQuad, PrefixAgrees, prefixLength,
    Kube.nestedInt64]
  cases field : Kube.nestedField netObj.body ["spec", "l2NetworkConfig", "prefixLength4"] with
  | none =>
      refine iff_of_true ((subnet_eq_iff (by decide)).mpr ?_) trivial
      exact (makeNetmask_int 24).trans rfl
  | some value =>
      rcases isPrefix value field with ⟨number, rfl⟩ | ⟨text, rfl⟩
      · simp only [Option.bind_some, Kube.Value.asInt64, Option.map_some, Option.getD_some,
          printedValue, Builtins.formatted]
        split
        next outside =>
          rw [subnet_eq_iff (by decide), makeNetmask_int]
          refine iff_of_false ?_ (by omega)
          split
          next => simp only [defaultPrefixLength, Option.some.injEq]; omega
          next => simp
        next inside =>
          rw [subnet_eq_iff (by omega), makeNetmask_int, if_pos (by omega)]
          exact iff_of_true rfl (by omega)
      · have default : 24 ≤ 32 := by decide
        exact subnet_eq_iff default

end Derived

/-- The response has one subnet for a Network, that of its CNI configuration. -/
def ReportsSubnet (builtins : Builtins) (configured : List Datum) (stdout : String)
    (netObj : Kube.Unstructured) : Prop :=
  ∃ networks, listSecondaryNetworks builtins configured 0 stdout = .ok networks ∧
    (∃ network ∈ networks, network.name = netObj.key.name) ∧
      ∀ network ∈ networks, network.name = netObj.key.name →
        ipamSubnet netObj = some network.subnet

section Report

variable {builtins : Builtins} {stdout : String} {float : String → Rat}
  {pairs : List (Kube.Unstructured × Datum)}

theorem listSecondaryNetworks_printed (configured : List Datum)
    (printed : ∀ pair ∈ pairs, Printed float pair.1 pair.2)
    (accepted : ∀ pair ∈ pairs, Accepted pair.1) (nonempty : stdout ≠ "")
    (live : LiveItems builtins stdout (pairs.map Prod.snd))
    (secondary : ∃ pair ∈ pairs, Secondary pair.1) :
    ∃ networks, listSecondaryNetworks builtins configured 0 stdout = .ok networks ∧
      ∀ network, network ∈ networks ↔
        ∃ pair ∈ pairs, liveNetworkItem builtins pair.2 = .ok (some network) := by
  have fits : ∀ item ∈ pairs.map Prod.snd, Returns (liveNetworkItem builtins item) := by
    intro item member
    obtain ⟨pair, listed, rfl⟩ := List.mem_map.mp member
    exact (returns_liveNetworkItem _).mpr
      (networkFits_printed (printed pair listed) (accepted pair listed))
  obtain ⟨converted, isOk⟩ := returns_mapM.mpr fits
  have members : ∀ network, network ∈ converted.reduceOption ↔
      ∃ pair ∈ pairs, liveNetworkItem builtins pair.2 = .ok (some network) := by
    intro network
    rw [mem_collected isOk]
    simp only [List.mem_map, exists_exists_and_eq_and]
  have collected : converted.reduceOption ≠ [] := by
    obtain ⟨pair, listed, secondary⟩ := secondary
    refine (reduceOption_ne_nil isOk).mpr ⟨pair.2, List.mem_map_of_mem listed, ?_, ?_⟩
    · exact (named_printed (printed pair listed)).mpr secondary.name
    · exact fun isL3 => secondary.type
        ((isL3_printed (printed pair listed) (accepted pair listed)).mp isL3)
  refine ⟨converted.reduceOption, ?_, members⟩
  have complete : liveNetworks builtins stdout = (converted.reduceOption, none) :=
    liveNetworks_complete.mpr ⟨_, converted, live, isOk, rfl⟩
  rw [listSecondaryNetworks, if_pos ⟨rfl, nonempty⟩, complete]
  split
  next empty => exact absurd (congrArg Prod.fst empty) collected
  next networks _ isNone =>
    cases isNone
    rfl
  next networks raised isSome => cases congrArg Prod.snd isSome

/-- The subnets agree exactly when the prefix length is absent, an integer between 1
and 32, or a text that denotes the default mask. -/
theorem reportsSubnet_iff (configured : List Datum)
    (printed : ∀ pair ∈ pairs, Printed float pair.1 pair.2)
    (accepted : ∀ pair ∈ pairs, Accepted pair.1)
    (distinct : (pairs.map fun pair => pair.1.key.name).Nodup) (nonempty : stdout ≠ "")
    (live : LiveItems builtins stdout (pairs.map Prod.snd))
    {netObj : Kube.Unstructured} {item : Datum} (listed : (netObj, item) ∈ pairs)
    (secondary : Secondary netObj) {gw : IPv4} (quad : gateway4Of netObj = dottedQuad gw)
    (unannotated : netObj.metadata.annotations.get? "networking.gke.io/gdce-subnet" = none) :
    ReportsSubnet builtins configured stdout netObj ↔ PrefixAgrees netObj := by
  have isPrinted := printed _ listed
  have isAccepted := accepted _ listed
  obtain ⟨networks, response, members⟩ := listSecondaryNetworks_printed configured printed
    accepted nonempty live ⟨_, listed, secondary⟩
  obtain ⟨gateway, isGateway, isSpec⟩ := gatewayOf_text isPrinted isAccepted
  rw [quad] at isSpec
  have isQuad := isSpec (dottedQuad_ne_empty gw)
  rw [isQuad] at isGateway
  have derives : DerivesSubnet item := by
    rw [DerivesSubnet, subnetOf, annotationsOf_field isPrinted, unannotated, isGateway]
    exact ⟨rfl, decide_eq_true (dottedQuad_ne_empty gw)⟩
  have agrees : ∀ network, liveNetworkItem builtins item = .ok (some network) →
      (ipamSubnet netObj = some network.subnet ↔ PrefixAgrees netObj) := by
    intro network isOk
    rw [(liveNetworkItem_ok isOk).2 derives, isGateway]
    exact derivedSubnet_iff isPrinted isAccepted quad
  have named : ∀ pair ∈ pairs, ∀ network, liveNetworkItem builtins pair.2 = .ok (some network) →
      network.name = pair.1.key.name := by
    intro pair member network isOk
    exact (Datum.str.inj ((printed pair member).name.symm.trans (liveNetworkItem_ok isOk).1)).symm
  have owned : ∀ network ∈ networks, network.name = netObj.key.name →
      liveNetworkItem builtins item = .ok (some network) := by
    intro network member same
    obtain ⟨pair, pairMember, isOk⟩ := (members network).mp member
    have equality := List.inj_on_of_nodup_map distinct pairMember listed
      ((named pair pairMember network isOk).symm.trans same)
    rwa [equality] at isOk
  constructor
  · rintro ⟨others, other, ⟨network, member, same⟩, subnets⟩
    cases response.symm.trans other
    exact (agrees network (owned network member same)).mp (subnets network member same)
  · intro prefixAgrees
    have returns : Returns (liveNetworkItem builtins item) :=
      (returns_liveNetworkItem item).mpr (networkFits_printed isPrinted isAccepted)
    obtain ⟨converted, isOk⟩ := returns
    have isSome := (liveNetworkItem_isSome isOk).mpr ⟨(named_printed isPrinted).mpr secondary.name,
      fun isL3 => secondary.type ((isL3_printed isPrinted isAccepted).mp isL3)⟩
    obtain ⟨network, rfl⟩ := Option.isSome_iff_exists.mp isSome
    refine ⟨networks, response, ⟨network, (members network).mpr ⟨_, listed, isOk⟩,
      named _ listed network isOk⟩, fun other member same => ?_⟩
    exact (agrees other (owned other member same)).mpr prefixAgrees

end Report

def maskedNetwork (prefixLen : Kube.Value) : Kube.Unstructured where
  metadata := { key := ⟨"", "net-a"⟩ }
  body := [("spec", .map [("gateway4", .string "10.0.0.1"),
    ("l2NetworkConfig", .map [("prefixLength4", prefixLen)])])]

def maskedItem (prefixLen : Kube.Value) : Datum :=
  .dict [("metadata", .dict [("name", .str "net-a")]),
    ("spec", .dict [("gateway4", .str "10.0.0.1"),
    ("l2NetworkConfig", .dict [("prefixLength4", printedValue (fun _ => 0) prefixLen)])])]

def maskedOutput (prefixLen : String) : String :=
  "\x7b\"items\": [\x7b\"metadata\": \x7b\"name\": \"net-a\"\x7d, \"spec\": \x7b" ++
    "\"gateway4\": \"10.0.0.1\", \"l2NetworkConfig\": \x7b\"prefixLength4\": " ++ prefixLen ++
      "\x7d\x7d\x7d]\x7d"

def maskedBuiltins : Builtins where
  loads text :=
    if text = maskedOutput "\"16\"" then .ok (.dict [("items", .list [maskedItem (.string "16")])])
    else if text = maskedOutput "16" then .ok (.dict [("items", .list [maskedItem (.int64 16)])])
    else .error .valueError
  format _ := ""
  intOfText _ := none
  sumFloats _ := .error .valueError
  ipv6Network _ := none

theorem maskedItem_printed (prefixLen : Kube.Value) :
    Printed (fun _ => 0) (maskedNetwork prefixLen) (maskedItem prefixLen) where
  isDict := ⟨_, rfl⟩
  metadata := ⟨_, rfl⟩
  name := rfl
  annotations := ⟨_, rfl⟩
  annotation _ _ := rfl
  spec := rfl

theorem maskedNetwork_accepted {prefixLen : Kube.Value}
    (isPrefix : (∃ number, prefixLen = .int64 number) ∨ ∃ text, prefixLen = .string text) :
    Accepted (maskedNetwork prefixLen) where
  spec _ found := ⟨_, (Option.some.inj found).symm⟩
  type _ found := by cases found
  gateway4 _ found := ⟨_, (Option.some.inj found).symm⟩
  l2NetworkConfig _ found := ⟨_, (Option.some.inj found).symm⟩
  prefixLength4 value found := by
    cases found
    exact isPrefix

theorem maskedNetwork_secondary (prefixLen : Kube.Value) : Secondary (maskedNetwork prefixLen) where
  name := by
    simp only [maskedNetwork, Kube.Object.key]
    decide
  type found := by cases found

/-- For the text `16` the response has another subnet than the CNI configuration. -/
theorem textPrefix_disagrees :
    Printed (fun _ => 0) (maskedNetwork (.string "16")) (maskedItem (.string "16")) ∧
      Accepted (maskedNetwork (.string "16")) ∧
        ¬ ReportsSubnet maskedBuiltins [] (maskedOutput "\"16\"")
          (maskedNetwork (.string "16")) := by
  refine ⟨maskedItem_printed _, maskedNetwork_accepted (.inr ⟨_, rfl⟩), ?_⟩
  rintro ⟨networks, response, -, subnets⟩
  have computed : (listSecondaryNetworks maskedBuiltins [] 0 (maskedOutput "\"16\"")).map
      (List.map fun network => (network.name, network.subnet)) =
        .ok [("net-a", "10.0.0.0/16")] := rfl
  rw [response] at computed
  have listed : ("net-a", "10.0.0.0/16") ∈ networks.map fun network =>
      (network.name, network.subnet) := by
    rw [Except.ok.inj computed]
    exact List.mem_cons_self
  obtain ⟨network, member, fields⟩ := List.mem_map.mp listed
  have subnet := subnets network member (Prod.mk.inj fields).1
  rw [(Prod.mk.inj fields).2] at subnet
  revert subnet
  decide +kernel

theorem maskedOutput_live :
    LiveItems maskedBuiltins (maskedOutput "16") [maskedItem (.int64 16)] :=
  ⟨_, rfl, ⟨_, rfl⟩, trivial, rfl⟩

theorem reportsSubnet_number :
    ReportsSubnet maskedBuiltins [] (maskedOutput "16") (maskedNetwork (.int64 16)) ↔
      PrefixAgrees (maskedNetwork (.int64 16)) := by
  have gateway : gateway4Of (maskedNetwork (.int64 16)) = dottedQuad (ofOctets 10 0 0 1) := by
    decide +kernel
  have nonempty : maskedOutput "16" ≠ "" := by decide +kernel
  have printed : ∀ pair ∈ [(maskedNetwork (.int64 16), maskedItem (.int64 16))],
      Printed (fun _ => 0) pair.1 pair.2 := by
    intro pair listed
    rw [List.mem_singleton.mp listed]
    exact maskedItem_printed _
  have accepted : ∀ pair ∈ [(maskedNetwork (.int64 16), maskedItem (.int64 16))],
      Accepted pair.1 := by
    intro pair listed
    rw [List.mem_singleton.mp listed]
    exact maskedNetwork_accepted (.inl ⟨16, rfl⟩)
  exact reportsSubnet_iff [] printed accepted (List.nodup_singleton _) nonempty maskedOutput_live
    List.mem_cons_self (maskedNetwork_secondary _) gateway rfl

end GemEmulation.Api.K8s
