import GemEmulation.Operator.SubnetAgreement

/-!
# Prefix lengths as integers and as strings

`prefixLength4` of a Network is an integer or a string.  `NestedInt64` reads no
string, so a decimal string gives the default prefix length.
-/

namespace GemEmulation.Operator

open Foundations Kube Net

/-- `SetNestedField`: a value on the path that is no map makes way for one. -/
def setNested (value : Value) : List String → Fields → Fields
  | [], fields => fields
  | [name], fields => setEntry name value fields
  | name :: path, fields =>
      setEntry name (.map (setNested value path
        (((lookupEntry name fields).bind Value.asMap).getD [])))
        fields

/-- A Network with a value for `prefixLength4`. -/
def withPrefixLength4 (value : Value) (netObj : Unstructured) : Unstructured :=
  { netObj with
    body := setNested value ["spec", "l2NetworkConfig", "prefixLength4"] netObj.body }

/-- An integer and a decimal string of the same value. -/
def prefixSpellings (prefixLen : Nat) : List Value :=
  [.int64 prefixLen, .string (toString prefixLen)]

/-- The subnet for a gateway and a prefix length. -/
def subnetText (gateway4 : String) (prefixLen : Nat) : String :=
  match parseIP4 gateway4 with
  | none => "usePodCidr"
  | some gwIP => dottedQuad (gwIP &&& cidrMask prefixLen 32) ++ "/" ++ toString prefixLen

def allocationFor (prefixLen : Nat) (netName : String) (inUseSet : List String) (cluster : Cluster)
    (netObj : Unstructured) : Except AllocationError (String × List String) :=
  let gateway4 := gateway4Of netObj
  if gateway4 = "" then .error (.noGateway netName)
  else
    match parseIP4 gateway4 with
    | none => .error (.invalidGateway netName gateway4)
    | some gwIP =>
        let subnet : Subnet := ⟨gateway4, gwIP, prefixLen⟩
        takeFirst netName subnet inUseSet (exclusions cluster netName netObj subnet)

def storingNetwork (netObj : Unstructured) (session : Session) : Session :=
  { session with cluster := session.cluster.put .network netObj }

/-- Both spellings of a prefix length give the subnet of that prefix length, the same
NetworkAttachmentDefinitions, and the same allocations. -/
structure TakesPrefix (session : Session) (netName : String) (netObj : Unstructured)
    (prefixLen : Nat) : Prop where
  subnet : ∀ value ∈ prefixSpellings prefixLen,
    ipamSubnet (withPrefixLength4 value netObj) = some (subnetText (gateway4Of netObj) prefixLen)
  definitions : ∀ value ∈ prefixSpellings prefixLen, ∀ ifaceName mtu (client : Client),
    reconcileNetAttachDef (withPrefixLength4 value netObj) ifaceName mtu client session =
      reconcileNetAttachDef (withPrefixLength4 (.int64 prefixLen) netObj) ifaceName mtu client
        session
  allocations : ∀ value ∈ prefixSpellings prefixLen, ∀ inUseSet,
    (allocateSecondaryIP netName inUseSet noFaults
        (storingNetwork (withPrefixLength4 value netObj) session)).1 =
      allocationFor prefixLen netName inUseSet session.cluster netObj

theorem nestedField_setNested (value : Value) {path : List String} (nonempty : path ≠ [])
    (fields : Fields) : nestedField (setNested value path fields) path = some value := by
  induction path generalizing fields with
  | nil => exact absurd rfl nonempty
  | cons name path inductionHypothesis =>
      cases path with
      | nil => simp [nestedField, setNested, Value.nested, lookupEntry_setEntry]
      | cons next path =>
          have inner := inductionHypothesis (List.cons_ne_nil next path)
            (((lookupEntry name fields).bind Value.asMap).getD [])
          rw [setNested.eq_3 _ _ _ _ (List.cons_ne_nil next path), nestedField, Value.nested,
            lookupEntry_setEntry, if_pos rfl, Option.bind_some]
          exact inner

section WithPrefixLength4

variable (value : Value) (netObj : Unstructured)

@[simp] theorem withPrefixLength4_key : (withPrefixLength4 value netObj).key = netObj.key := rfl

@[simp] theorem withPrefixLength4_metadata :
    (withPrefixLength4 value netObj).metadata = netObj.metadata := rfl

/-- The gateway is another field of the spec. -/
@[simp] theorem gateway4Of_withPrefixLength4 :
    gateway4Of (withPrefixLength4 value netObj) = gateway4Of netObj := by
  simp only [gateway4Of, nestedString, nestedField, withPrefixLength4, setNested, Value.nested,
    lookupEntry_setEntry, if_true, Option.bind_some]
  rw [if_neg (by decide)]
  cases lookupEntry "spec" netObj.body with
  | none => rfl
  | some spec => cases spec <;> rfl

theorem nestedInt64_withPrefixLength4 :
    nestedInt64 (withPrefixLength4 value netObj).body ["spec", "l2NetworkConfig", "prefixLength4"] =
      value.asInt64 := by
  rw [nestedInt64, withPrefixLength4, nestedField_setNested value (by simp), Option.bind_some]

end WithPrefixLength4

theorem prefixLength_int64 (netObj : Unstructured) {prefixLen : Nat} (positive : 1 ≤ prefixLen)
    (bounded : prefixLen ≤ 32) :
    prefixLength (withPrefixLength4 (.int64 prefixLen) netObj) = prefixLen := by
  rw [prefixLength, nestedInt64_withPrefixLength4]
  simp only [Value.asInt64]
  rw [if_neg (by omega), Int.toNat_natCast]

theorem prefixLength_string (netObj : Unstructured) (text : String) :
    prefixLength (withPrefixLength4 (.string text) netObj) = 24 := by
  simp [prefixLength, nestedInt64_withPrefixLength4, Value.asInt64, defaultPrefixLength]

theorem ipamSubnet_eq_subnetText (netObj : Unstructured) :
    ipamSubnet netObj = some (subnetText (gateway4Of netObj) (prefixLength netObj)) := by
  cases parsed : parseIP4 (gateway4Of netObj) with
  | none =>
      simp only [ipamSubnet, cniIPAM, subnetText, parsed, ite_self]
      rfl
  | some gwIP => rw [ipamSubnet_eq parsed, subnetText, parsed]

/-- The definitions of a Network depend on its prefix length by way of its subnet
alone. -/
theorem reconcileNetAttachDef_congr {netObj other : Unstructured}
    (metadata : netObj.metadata = other.metadata) (gateway : gateway4Of netObj = gateway4Of other)
    (same : parseIP4 (gateway4Of other) = none ∨ prefixLength netObj = prefixLength other) :
    reconcileNetAttachDef netObj = reconcileNetAttachDef other := by
  have ipam : cniIPAM netObj = cniIPAM other := by
    simp only [cniIPAM, gateway]
    rcases same with unparsed | equal
    · simp [unparsed]
    · rw [equal]
  have config : cniConfig netObj = cniConfig other := by
    funext ifaceName mtu
    rw [cniConfig, ipam, cniConfig]
  have definition : netAttachDef netObj = netAttachDef other := by
    funext ns text
    simp only [netAttachDef, childObject, networkOwnerReference, Object.key, metadata]
  have applying : applyInNamespace netObj = applyInNamespace other := by
    funext text applyErrors ns
    rw [applyInNamespace, applyInNamespace, definition]
  funext ifaceName mtu
  rw [reconcileNetAttachDef, reconcileNetAttachDef, config, applying]

theorem allocationFor_congr {netName : String} {netObj : Unstructured}
    (unparsed : parseIP4 (gateway4Of netObj) = none) (first second : Nat) (inUseSet : List String)
    (cluster : Cluster) :
    allocationFor first netName inUseSet cluster netObj =
      allocationFor second netName inUseSet cluster netObj := by
  simp only [allocationFor, unparsed]

section Stored

variable {session : Session} {netName : String} {netObj : Unstructured}

theorem storingNetwork_network
    (found : (session.cluster .network).get? ⟨"", netName⟩ = some netObj) (value : Value) :
    ((storingNetwork (withPrefixLength4 value netObj) session).cluster .network).get?
        ⟨"", netName⟩ = some (withPrefixLength4 value netObj) := by
  have filed := Store.key_of_get? found
  rw [← withPrefixLength4_key value] at filed
  simp only [storingNetwork, Cluster.put_self, ← filed, Store.get?_put_self]

theorem exclusions_storingNetwork (value : Value) (subnet : Subnet) :
    exclusions (storingNetwork (withPrefixLength4 value netObj) session).cluster netName
        (withPrefixLength4 value netObj) subnet =
      exclusions session.cluster netName netObj subnet := rfl

theorem allocateSecondaryIP_withPrefixLength4
    (found : (session.cluster .network).get? ⟨"", netName⟩ = some netObj) (value : Value)
    (inUseSet : List String) :
    (allocateSecondaryIP netName inUseSet noFaults
        (storingNetwork (withPrefixLength4 value netObj) session)).1 =
      allocationFor (prefixLength (withPrefixLength4 value netObj)) netName inUseSet session.cluster
        netObj := by
  rw [allocateSecondaryIP_noFaults, storingNetwork_network found]
  simp only [subnetOf, allocationFor, gateway4Of_withPrefixLength4]
  split
  · rfl
  · cases parseIP4 (gateway4Of netObj) with
    | none => rfl
    | some gwIP => simp only [Except.bind, exclusions_storingNetwork]

end Stored

theorem withPrefix_inj {first second : IPv4} {prefixLen prefixLen' : Nat}
    (same : dottedQuad first ++ "/" ++ toString prefixLen =
      dottedQuad second ++ "/" ++ toString prefixLen') : prefixLen = prefixLen' := by
  have address := congrArg cleanIP same
  rw [cleanIP_allocated, cleanIP_allocated] at address
  rw [address, String.append_right_inj] at same
  exact Text.repr_injective same

theorem takeFirst_prefixLen {netName : String} {subnet other : Subnet}
    {inUseSet excluded excluded' : List String}
    (same : takeFirst netName subnet inUseSet excluded =
      takeFirst netName other inUseSet excluded') : subnet.prefixLen = other.prefixLen := by
  unfold takeFirst at same
  split at same <;> split at same
  next => exact withPrefix_inj (Prod.mk.inj (Except.ok.inj same)).1
  next => cases same
  next => cases same
  next => exact (AllocationError.exhausted.inj (Except.error.inj same)).2.2

/-- Both spellings of a prefix length have its effect exactly when it is the default
one, or no IPv4 gateway asks for a subnet. -/
theorem takesPrefix_iff {session : Session} {netName : String} {netObj : Unstructured}
    (found : (session.cluster .network).get? ⟨"", netName⟩ = some netObj) {prefixLen : Nat}
    (positive : 1 ≤ prefixLen) (bounded : prefixLen ≤ 32) :
    TakesPrefix session netName netObj prefixLen ↔
      prefixLen = 24 ∨ parseIP4 (gateway4Of netObj) = none := by
  have spelled : .string (toString prefixLen) ∈ prefixSpellings prefixLen := by
    simp [prefixSpellings]
  constructor
  · intro takes
    cases parsed : parseIP4 (gateway4Of netObj) with
    | none => exact .inr rfl
    | some gwIP =>
        have allocated := takes.allocations _ spelled []
        have nonempty : gateway4Of netObj ≠ "" := by
          intro empty
          simp [empty] at parsed
        rw [allocateSecondaryIP_withPrefixLength4 found, prefixLength_string] at allocated
        simp only [allocationFor, nonempty, if_false, parsed] at allocated
        exact .inl (takeFirst_prefixLen allocated).symm
  · intro indifferent
    have same : ∀ value ∈ prefixSpellings prefixLen, parseIP4 (gateway4Of netObj) = none ∨
        prefixLength (withPrefixLength4 value netObj) = prefixLen := by
      intro value listed
      rcases List.mem_pair.mp listed with rfl | rfl
      · exact .inr (prefixLength_int64 netObj positive bounded)
      · rw [prefixLength_string]
        exact indifferent.symm.imp_right Eq.symm
    refine ⟨fun value listed => ?_, fun value listed ifaceName mtu client => ?_,
      fun value listed inUseSet => ?_⟩
    · rw [ipamSubnet_eq_subnetText, gateway4Of_withPrefixLength4]
      rcases same value listed with unparsed | equal
      · simp only [subnetText, unparsed]
      · rw [equal]
    · have congruent : parseIP4 (gateway4Of netObj) = none ∨
          prefixLength (withPrefixLength4 value netObj) =
            prefixLength (withPrefixLength4 (.int64 prefixLen) netObj) := by
        rw [prefixLength_int64 netObj positive bounded]
        exact same value listed
      have reconciles : reconcileNetAttachDef (withPrefixLength4 value netObj) =
          reconcileNetAttachDef (withPrefixLength4 (.int64 prefixLen) netObj) :=
        reconcileNetAttachDef_congr rfl (by simp) (by simpa using congruent)
      rw [reconciles]
    · rw [allocateSecondaryIP_withPrefixLength4 found]
      rcases same value listed with unparsed | equal
      · exact allocationFor_congr unparsed _ _ _ _
      · rw [equal]

/-- With the gateway `10.0.0.1`, the string `16` gives the prefix length 24. -/
theorem stringPrefix_ignored :
    ¬ TakesPrefix (plainSession "10.0.0.1") "n" (plainNetwork "10.0.0.1") 16 := by
  intro takes
  have subnet := takes.subnet (.string "16") (by simp [prefixSpellings]; rfl)
  exact absurd subnet (by decide +kernel)

theorem takesPrefix_plain :
    TakesPrefix (plainSession "10.0.0.1") "n" (plainNetwork "10.0.0.1") 24 ↔
      24 = 24 ∨ parseIP4 (gateway4Of (plainNetwork "10.0.0.1")) = none :=
  takesPrefix_iff (plainSession_network "10.0.0.1") (by decide) (by decide)

end GemEmulation.Operator
