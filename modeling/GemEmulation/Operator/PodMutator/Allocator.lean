import GemEmulation.Operator.Resources
import GemEmulation.Net.Block
import GemEmulation.Operator.PodMutator.Annotations

/-!
# Allocating secondary addresses

`allocateSecondaryIP`: the subnet of a Network, the texts of the addresses
that are not available on it, and the first host address whose text is not
among them.  Go's map of excluded texts is the list of its keys.
-/

namespace GemEmulation.Operator

open Foundations Foundations.Json Kube Net

def annotationLBServiceVIPs : String := "networking.gke.io/gdce-lb-service-vip-cidrs"

def defaultPrefixLength : Nat := 24

inductive AllocationError where
  | fetchNetwork (netName : String) (error : ApiError)
  | noGateway (netName : String)
  | invalidGateway (netName gateway4 : String)
  | listPods (error : ApiError)
  | exhausted (netName netIP : String) (prefixLen : Nat)
  deriving DecidableEq, Repr

def AllocationError.message (text : ApiError → String) : AllocationError → String
  | fetchNetwork netName error => "failed to fetch Network " ++ netName ++ ": " ++ text error
  | noGateway netName => "network " ++ netName ++ " has no gateway4 defined"
  | invalidGateway netName gateway4 =>
      "network " ++ netName ++ " has invalid gateway4: " ++ gateway4
  | listPods error => "failed to list Pods for IPAM allocation: " ++ text error
  | exhausted netName netIP prefixLen =>
      "IP pool exhausted for secondary network " ++ netName ++ " (subnet " ++ netIP ++ "/" ++
        toString prefixLen ++ ")"

/-- The prefix length that a Network's spec gives, or the default one. -/
def prefixLength (netObj : Unstructured) : Nat :=
  match nestedInt64 netObj.body ["spec", "l2NetworkConfig", "prefixLength4"] with
  | some prefixLen =>
      if prefixLen ≤ 0 ∨ 32 < prefixLen then defaultPrefixLength else prefixLen.toNat
  | none => defaultPrefixLength

structure Subnet where
  gateway4 : String
  gwIP : IPv4
  prefixLen : Nat
  deriving DecidableEq

namespace Subnet

def mask (subnet : Subnet) : IPv4 := cidrMask subnet.prefixLen 32

def netIP (subnet : Subnet) : IPv4 := subnet.gwIP &&& subnet.mask

def broadcast (subnet : Subnet) : IPv4 := Net.broadcast subnet.netIP subnet.mask

end Subnet

def gateway4Of (netObj : Unstructured) : String :=
  (nestedString netObj.body ["spec", "gateway4"]).getD ""

def subnetOf (netName : String) (netObj : Unstructured) : Except AllocationError Subnet :=
  let gateway4 := gateway4Of netObj
  if gateway4 = "" then .error (.noGateway netName)
  else
    match parseIP4 gateway4 with
    | none => .error (.invalidGateway netName gateway4)
    | some gwIP => .ok ⟨gateway4, gwIP, prefixLength netObj⟩

/-- `excludeIPRangeOrCIDR`, the texts it adds. -/
def excludeIPRangeOrCIDR (val : String) : List String :=
  let val := Text.trimSpace val
  if val = "" then []
  else if Text.containsChar val '-' then
    match Text.split val '-' with
    | [first, last] =>
        match parseIP4 (Text.trimSpace first), parseIP4 (Text.trimSpace last) with
        | some start, some stop =>
            if start ≤ stop then (wordsThrough start stop).map dottedQuad else []
        | _, _ => []
    | _ => []
  else if Text.containsChar val '/' then
    match parseCIDR val with
    | some ipNet =>
        match ipNet.to4 with
        | some start =>
            (wordsThrough start (Net.broadcast start ipNet.maskWord)).map dottedQuad
        | none => []
    | none => []
  else
    match parseIP4 val with
    | some address => [dottedQuad address]
    | none => []

def cleanIP (ipStr : String) : String :=
  (Text.split (Text.trimSpace ipStr) '/').headD ""

/-- The offsets of the cluster nodes' addresses. -/
def hostOffsets : List IPv4 := wordsThrough 2 9

/-- The network, broadcast and gateway addresses and those of the hosts. -/
def excludeInfrastructure (subnet : Subnet) : List String :=
  [dottedQuad subnet.netIP, dottedQuad subnet.broadcast, subnet.gateway4] ++
    ((hostOffsets.takeWhile fun offset =>
      decide (subnet.netIP + offset < subnet.broadcast)).map fun offset =>
        dottedQuad (subnet.netIP + offset))

def excludeVIPs (netObj : Unstructured) : List String :=
  match netObj.metadata.annotations.get? annotationLBServiceVIPs with
  | some rawVIPs =>
      if rawVIPs = "" then []
      else ((unmarshalStrict decodeTexts [] rawVIPs).getD []).flatMap excludeIPRangeOrCIDR
  | none => []

def excludeGatewayCIDR (netName : String) (item : Unstructured) : List String :=
  if specNetwork item = netName then
    if specIP4CIDR item = "" then [] else excludeIPRangeOrCIDR (specIP4CIDR item)
  else []

def isLive (pod : Pod) : Bool :=
  decide (pod.body.phase ≠ .succeeded ∧ pod.body.phase ≠ .failed ∧
    pod.metadata.deletionTimestamp = none)

def excludeIPs (ips : List String) : List String :=
  (ips.map cleanIP).filter fun text => decide (text ≠ "")

def annotationEntries {Entry : Type} (decode : Decoder (List Entry)) (pod : Pod)
    (key : String) : List Entry :=
  match pod.metadata.annotations.get? key with
  | some raw => if raw = "" then [] else (unmarshalStrict decode [] raw).getD []
  | none => []

def statusNames (netName : String) (status : NetworkStatus) : Bool :=
  decide (status.name = netName) || Text.hasSuffix status.name ("/" ++ netName)

def claimedIPs (netName : String) (pod : Pod) : List String :=
  ((annotationEntries decodeMultusNetworks pod annotationMultusNetworks).filter fun entry =>
      decide (entry.name = netName)).flatMap MultusNetworkSpec.ips ++
    statusKeys.flatMap fun statusKey =>
      ((annotationEntries decodeNetworkStatuses pod statusKey).filter
        (statusNames netName)).flatMap NetworkStatus.ips

def excludePod (netName : String) (pod : Pod) : List String :=
  if isLive pod then excludeIPs (claimedIPs netName pod) else []

/-- The first host address whose text is not excluded. -/
def firstFree (subnet : Subnet) (excluded : List String) : Option IPv4 :=
  (wordsBelow (subnet.netIP + 1) subnet.broadcast).find? fun u =>
    !(excluded.contains (dottedQuad u))

/-- The address and the set of addresses in use, or the exhausted error. -/
def takeFirst (netName : String) (subnet : Subnet) (inUseSet excluded : List String) :
    Except AllocationError (String × List String) :=
  match firstFree subnet (excluded ++ inUseSet.map cleanIP) with
  | some u =>
      .ok (dottedQuad u ++ "/" ++ toString subnet.prefixLen, inUseSet ++ [dottedQuad u])
  | none => .error (.exhausted netName (dottedQuad subnet.netIP) subnet.prefixLen)

def allocateSecondaryIP (netName : String) (inUseSet : List String) :
    Api (Except AllocationError (String × List String)) := do
  match ← get .network ⟨"", netName⟩ with
  | .error error => pure (.error (.fetchNetwork netName error))
  | .ok netObj =>
      match subnetOf netName netObj with
      | .error error => pure (.error error)
      | .ok subnet =>
          -- A failing list of GKEGatewayCIDRs excludes nothing.
          let gatewayKeys := match ← list .gkeGatewayCIDR with
            | .ok items => items.flatMap (excludeGatewayCIDR netName)
            | .error _ => []
          match ← list .pod with
          | .error error => pure (.error (.listPods error))
          | .ok pods =>
              let excluded := excludeInfrastructure subnet ++ excludeVIPs netObj ++
                gatewayKeys ++ pods.flatMap (excludePod netName)
              pure (takeFirst netName subnet inUseSet excluded)

def exclusions (cluster : Cluster) (netName : String) (netObj : Unstructured)
    (subnet : Subnet) : List String :=
  excludeInfrastructure subnet ++ excludeVIPs netObj ++
    (cluster .gkeGatewayCIDR).list.flatMap (excludeGatewayCIDR netName) ++
      (cluster .pod).list.flatMap (excludePod netName)

theorem cleanIP_allocated (u : IPv4) (prefixLen : Nat) :
    cleanIP (dottedQuad u ++ "/" ++ toString prefixLen) = dottedQuad u := by
  have visible : ∀ c ∈ (dottedQuad u ++ "/" ++ toString prefixLen).toList,
      Text.isSpace c = false := by
    intro c membership
    simp only [String.toList_append, List.mem_append, Nat.toString_eq_repr,
      Nat.toList_repr] at membership
    rcases membership with (address | slash) | digit
    · exact (mem_dottedQuad address).1
    · rw [show "/".toList = ['/'] from rfl, List.mem_singleton] at slash
      subst slash
      decide
    · exact Text.isSpace_of_isDigit (Nat.isDigit_of_mem_toDigits (by decide) (by decide) digit)
  have absent : '/' ∉ (dottedQuad u).toList := fun slash => (mem_dottedQuad slash).2.1 rfl
  have shape : dottedQuad u ++ "/" ++ toString prefixLen =
      dottedQuad u ++ .ofList ('/' :: (toString prefixLen).toList) := by
    rw [← String.toList_inj]
    simp
  rw [cleanIP, Text.trimSpace_eq_self visible, shape, Text.split_append_separator absent]
  rfl

theorem takeFirst_ok {netName : String} {subnet : Subnet} {inUseSet excluded : List String}
    {ipWithPrefix : String} {inUse : List String} :
    takeFirst netName subnet inUseSet excluded = .ok (ipWithPrefix, inUse) ↔
      ∃ u, firstFree subnet (excluded ++ inUseSet.map cleanIP) = some u ∧
        ipWithPrefix = dottedQuad u ++ "/" ++ toString subnet.prefixLen ∧
          inUse = inUseSet ++ [dottedQuad u] := by
  unfold takeFirst
  cases firstFree subnet (excluded ++ inUseSet.map cleanIP) with
  | none => simp
  | some u => simp [eq_comm]

/-- The first free address is the least host address whose text is not
excluded. -/
theorem firstFree_eq_some {subnet : Subnet} {excluded : List String} {u : IPv4} :
    firstFree subnet excluded = some u ↔
      (subnet.netIP + 1 ≤ u ∧ u < subnet.broadcast) ∧ dottedQuad u ∉ excluded ∧
        ∀ other, subnet.netIP + 1 ≤ other → other < u → dottedQuad other ∈ excluded := by
  simp [firstFree, find?_wordsBelow_eq_some]

theorem firstFree_eq_none {subnet : Subnet} {excluded : List String} :
    firstFree subnet excluded = none ↔
      ∀ u, subnet.netIP + 1 ≤ u → u < subnet.broadcast → dottedQuad u ∈ excluded := by
  simp [firstFree, mem_wordsBelow]

theorem allocateSecondaryIP_noFaults (netName : String) (inUseSet : List String)
    (session : Session) :
    (allocateSecondaryIP netName inUseSet noFaults session).1 =
      match (session.cluster .network).get? ⟨"", netName⟩ with
      | none => .error (.fetchNetwork netName .notFound)
      | some netObj =>
          (subnetOf netName netObj).bind fun subnet =>
            takeFirst netName subnet inUseSet
              (exclusions session.cluster netName netObj subnet) := by
  have kept := get_cluster .network ⟨"", netName⟩ noFaults session
  simp only [allocateSecondaryIP, Program.bind_apply, get_noFaults]
  cases (session.cluster .network).get? ⟨"", netName⟩ with
  | none => rfl
  | some netObj =>
      cases subnet : subnetOf netName netObj with
      | error error => simp [subnet, Except.bind]
      | ok subnet =>
          simp only [subnet, Except.bind, Program.bind_apply, list_noFaults, Program.pure_apply,
            listed_all, list_cluster, kept, exclusions]

theorem allocateSecondaryIP_onSubnet {netName : String} {session : Session}
    {netObj : Unstructured} {subnet : Subnet}
    (found : (session.cluster .network).get? ⟨"", netName⟩ = some netObj)
    (isSubnet : subnetOf netName netObj = .ok subnet) (inUseSet : List String) :
    (allocateSecondaryIP netName inUseSet noFaults session).1 =
      takeFirst netName subnet inUseSet (exclusions session.cluster netName netObj subnet) := by
  rw [allocateSecondaryIP_noFaults, found]
  simp only [isSubnet, Except.bind]

/-- A successful allocation takes the first free address of the Network's subnet,
whatever other reads failed. -/
theorem allocateSecondaryIP_takes {netName : String} {inUseSet inUse : List String}
    {client : Client} {session : Session} {ipWithPrefix : String}
    (allocated : (allocateSecondaryIP netName inUseSet client session).1 =
      .ok (ipWithPrefix, inUse)) :
    ∃ netObj subnet excluded, (session.cluster .network).get? ⟨"", netName⟩ = some netObj ∧
      subnetOf netName netObj = .ok subnet ∧
        takeFirst netName subnet inUseSet excluded = .ok (ipWithPrefix, inUse) ∧
          ∀ pod ∈ (session.cluster .pod).list, excludePod netName pod ⊆ excluded := by
  simp only [allocateSecondaryIP, Program.bind_apply] at allocated
  cases read : (get .network ⟨"", netName⟩ client session).1 with
  | error error =>
      rw [read] at allocated
      contradiction
  | ok netObj =>
      simp only [read] at allocated
      cases parsed : subnetOf netName netObj with
      | error error =>
          rw [parsed] at allocated
          contradiction
      | ok subnet =>
          simp only [parsed, Program.bind_apply] at allocated
          generalize listing : list Kind.pod none [] client _ = outcome at allocated
          obtain ⟨pods | pods, after⟩ := outcome
          · contradiction
          · have seen := list_arranged (congrArg Prod.fst listing)
            rw [list_cluster, get_cluster, listed_all] at seen
            refine ⟨netObj, subnet, _, get_ok read, parsed, allocated, ?_⟩
            intro pod membership text excluded
            have listed : pod ∈ pods := seen ▸ (arranged_perm _ _).mem_iff.mpr membership
            exact List.mem_append_right _ (List.mem_flatMap.mpr ⟨pod, listed, excluded⟩)

theorem allocateSecondaryIP_ok {netName : String} {inUseSet inUse : List String}
    {client : Client} {session : Session} {ipWithPrefix : String}
    (allocated : (allocateSecondaryIP netName inUseSet client session).1 =
      .ok (ipWithPrefix, inUse)) :
    ∃ u, ∃ prefixLen : Nat, ipWithPrefix = dottedQuad u ++ "/" ++ toString prefixLen ∧
      inUse = inUseSet ++ [dottedQuad u] ∧
        dottedQuad u ∉ inUseSet.map cleanIP ∧
          ∀ pod ∈ (session.cluster .pod).list, dottedQuad u ∉ excludePod netName pod := by
  obtain ⟨netObj, subnet, excluded, -, -, taken, claims⟩ := allocateSecondaryIP_takes allocated
  obtain ⟨u, free, written, kept⟩ := takeFirst_ok.mp taken
  have fresh := (firstFree_eq_some.mp free).2.1
  rw [List.mem_append, not_or] at fresh
  exact ⟨u, _, written, kept, fresh.2, fun pod membership claimed =>
    fresh.1 (claims pod membership claimed)⟩

end GemEmulation.Operator
