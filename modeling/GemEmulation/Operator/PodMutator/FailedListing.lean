import GemEmulation.Operator.VipExclusion

/-!
# Allocating when a read fails

A failed read of the Network or of the Pods ends an allocation.  A failed list of
GKEGatewayCIDRs does not: the address is then that of a run in which all reads
succeed, unless some address was reserved by a GKEGatewayCIDR only.
-/

namespace GemEmulation.Operator

open Foundations Kube Net

def networkRead (netName : String) : Call := .get .network ⟨"", netName⟩

def gatewayListing : Call := .list .gkeGatewayCIDR none []

def podListing : Call := .list .pod none []

def Refused (client : Client) (session : Session) (call : Call) : Prop :=
  client.faults (session.times call) call ≠ none

instance (client : Client) (session : Session) (call : Call) :
    Decidable (Refused client session call) :=
  inferInstanceAs (Decidable (_ ≠ _))

/-- A successful allocation is the one in which all reads succeed. -/
def FailsClosed (netName : String) (inUseSet : List String) (client : Client) (session : Session) :
    Prop :=
  ∀ taken, (allocateSecondaryIP netName inUseSet client session).1 = .ok taken →
    (allocateSecondaryIP netName inUseSet noFaults session).1 = .ok taken

section Reservations

variable (cluster : Cluster) (netName : String) (netObj : Unstructured) (subnet : Subnet)
  (inUseSet : List String)

def gatewayTexts : List String :=
  (cluster .gkeGatewayCIDR).list.flatMap (excludeGatewayCIDR netName)

def otherTexts : List String :=
  excludeInfrastructure subnet ++ excludeVIPs netObj ++
    (cluster .pod).list.flatMap (excludePod netName) ++ inUseSet.map cleanIP

/-- A host address that a GKEGatewayCIDR reserves and nothing else. -/
structure OnlyGateway (u : IPv4) : Prop where
  isHost : subnet.netIP + 1 ≤ u ∧ u < subnet.broadcast
  gateway : dottedQuad u ∈ gatewayTexts cluster netName
  unreserved : dottedQuad u ∉ otherTexts cluster netName netObj subnet inUseSet

def FreeBelow (u : IPv4) : Prop :=
  ∃ other, subnet.netIP + 1 ≤ other ∧ other < u ∧ dottedQuad other ∉ gatewayTexts cluster netName ∧
    dottedQuad other ∉ otherTexts cluster netName netObj subnet inUseSet

end Reservations

/-- The Network has an address that only its GKEGatewayCIDRs keep from being taken. -/
def GatewayKeeps (cluster : Cluster) (netName : String) (inUseSet : List String) : Prop :=
  ∃ netObj subnet, (cluster .network).get? ⟨"", netName⟩ = some netObj ∧
    subnetOf netName netObj = .ok subnet ∧
      ∃ u, OnlyGateway cluster netName netObj subnet inUseSet u ∧
        ¬ FreeBelow cluster netName netObj subnet inUseSet u

section Search

variable {cluster : Cluster} {netName : String} {netObj : Unstructured} {subnet : Subnet}
  {inUseSet excluded others : List String}

theorem firstFree_congr (same : ∀ text, text ∈ excluded ↔ text ∈ others) :
    firstFree subnet excluded = firstFree subnet others := by
  have sameTest : ∀ u, excluded.contains (dottedQuad u) = others.contains (dottedQuad u) := by
    intro u
    rw [Bool.eq_iff_iff, List.contains_iff_mem, List.contains_iff_mem]
    exact same _
  simp only [firstFree, sameTest]

theorem takeFirst_congr (same : ∀ text, text ∈ excluded ↔ text ∈ others) :
    takeFirst netName subnet inUseSet excluded = takeFirst netName subnet inUseSet others := by
  have free : firstFree subnet (excluded ++ inUseSet.map cleanIP) =
      firstFree subnet (others ++ inUseSet.map cleanIP) := by
    apply firstFree_congr
    intro text
    rw [List.mem_append, List.mem_append, same]
  rw [takeFirst, takeFirst, free]

theorem mem_exclusions_append (text : String) :
    text ∈ exclusions cluster netName netObj subnet ++ inUseSet.map cleanIP ↔
      text ∈ gatewayTexts cluster netName ∨
        text ∈ otherTexts cluster netName netObj subnet inUseSet := by
  simp only [exclusions, gatewayTexts, otherTexts, List.mem_append]
  tauto

/-- Without the GKEGatewayCIDRs the search ends at the same address, unless an address
that is only reserved by them comes before the free ones. -/
theorem firstFree_otherTexts {u : IPv4}
    (free : firstFree subnet (otherTexts cluster netName netObj subnet inUseSet) = some u) :
    firstFree subnet (exclusions cluster netName netObj subnet ++ inUseSet.map cleanIP) = some u ↔
      ¬ ∃ kept, OnlyGateway cluster netName netObj subnet inUseSet kept ∧
        ¬ FreeBelow cluster netName netObj subnet inUseSet kept := by
  obtain ⟨isHost, unreserved, earlier⟩ := firstFree_eq_some.mp free
  rw [firstFree_eq_some]
  simp only [mem_exclusions_append, not_or]
  constructor
  · rintro ⟨-, ⟨notGateway, -⟩, -⟩ ⟨kept, only, noneBelow⟩
    have smaller : u < kept := by
      by_contra notBelow
      by_cases same : kept = u
      · subst same
        exact notGateway only.gateway
      · have below := BitVec.lt_of_le_ne (BitVec.not_lt.mp notBelow) same
        exact only.unreserved (earlier kept only.isHost.1 below)
    exact noneBelow ⟨u, isHost.1, smaller, notGateway, unreserved⟩
  · intro safe
    refine ⟨isHost, ⟨fun gateway => safe ⟨u, ⟨isHost, gateway, unreserved⟩, ?_⟩, unreserved⟩,
      fun other above below => .inr (earlier other above below)⟩
    rintro ⟨other, above, below, -, free⟩
    exact free (earlier other above below)

end Search

section Run

variable {netName : String} {inUseSet : List String} {client : Client} {session : Session}

/-- A list that the environment lets through shows the objects in some order. -/
theorem mem_flatMap_list {Entry : Type} (kind : Kind) (entries : Object kind.Body → List Entry)
    (granted : ¬ Refused client session (.list kind none [])) :
    ∃ objects, (list kind none [] client session).1 = .ok objects ∧
      ∀ entry, entry ∈ objects.flatMap entries ↔
        entry ∈ (session.cluster kind).list.flatMap entries := by
  have isGranted := not_not.mp granted
  refine ⟨_, by simp only [list, request, isGranted]; rfl, fun entry => ?_⟩
  rw [listed_all]
  exact ((arranged_perm _ _).flatMap_right entries).mem_iff

theorem refused_after_get {kind : Kind} {key : ObjectKey} {call : Call}
    (other : call ≠ .get kind key) :
    Refused client (get kind key client session).2 call ↔ Refused client session call := by
  rw [Refused, Refused, get_times, List.count_eq_zero_of_not_mem (by simpa using other)]
  rfl

theorem refused_after_list {kind : Kind} {ns : Option String} {labels : List (String × String)}
    {call : Call} (other : call ≠ .list kind ns labels) :
    Refused client (list kind ns labels client session).2 call ↔ Refused client session call := by
  rw [Refused, Refused, list_times, List.count_eq_zero_of_not_mem (by simpa using other)]
  rfl

theorem allocateSecondaryIP_networkRefused (inUseSet : List String)
    (refused : Refused client session (networkRead netName)) :
    ∃ error, (allocateSecondaryIP netName inUseSet client session).1 = .error error := by
  obtain ⟨error, fails⟩ := Option.ne_none_iff_exists'.mp refused
  refine ⟨.fetchNetwork netName error, ?_⟩
  simp only [allocateSecondaryIP, Program.bind_apply]
  rw [get_refused fails]
  rfl

theorem gatewayListing_after (netName : String) :
    Refused client (get .network ⟨"", netName⟩ client session).2 gatewayListing ↔
      Refused client session gatewayListing :=
  refused_after_get (by simp [gatewayListing])

theorem podListing_after (netName : String) : Refused client (list .gkeGatewayCIDR none [] client
      (get .network ⟨"", netName⟩ client session).2).2 podListing ↔
    Refused client session podListing := by
  rw [refused_after_list (by simp [podListing]), refused_after_get (by simp [podListing])]

theorem allocateSecondaryIP_podsRefused (netName : String) (inUseSet : List String)
    (refused : Refused client session podListing) :
    ∃ error, (allocateSecondaryIP netName inUseSet client session).1 = .error error := by
  simp only [allocateSecondaryIP, Program.bind_apply]
  cases (get .network ⟨"", netName⟩ client session).1 with
  | error error => exact ⟨_, rfl⟩
  | ok netObj =>
      cases parsed : subnetOf netName netObj with
      | error error =>
          simp only [parsed]
          exact ⟨_, rfl⟩
      | ok subnet =>
          simp only [parsed, Program.bind_apply]
          rw [← podListing_after netName] at refused
          obtain ⟨error, fails⟩ := Option.ne_none_iff_exists'.mp refused
          refine ⟨.listPods error, ?_⟩
          rw [podListing] at fails
          rw [list_refused fails]
          rfl

/-- An allocation that reads the Network and the Pods, whether or not the list of
GKEGatewayCIDRs fails. -/
theorem allocateSecondaryIP_granted (network : ¬ Refused client session (networkRead netName))
    (pods : ¬ Refused client session podListing) :
    (allocateSecondaryIP netName inUseSet client session).1 =
      match (session.cluster .network).get? ⟨"", netName⟩ with
      | none => .error (.fetchNetwork netName .notFound)
      | some netObj =>
          (subnetOf netName netObj).bind fun subnet =>
            takeFirst netName subnet inUseSet (excludeInfrastructure subnet ++ excludeVIPs netObj ++
              (if Refused client session gatewayListing then []
                else gatewayTexts session.cluster netName) ++
              (session.cluster .pod).list.flatMap (excludePod netName)) := by
  have granted := not_not.mp network
  rw [networkRead] at granted
  simp only [allocateSecondaryIP, Program.bind_apply, get_granted granted]
  cases (session.cluster .network).get? ⟨"", netName⟩ with
  | none => rfl
  | some netObj =>
      cases parsed : subnetOf netName netObj with
      | error error =>
          simp only [parsed, Except.bind]
          rfl
      | ok subnet =>
          rw [← podListing_after netName] at pods
          obtain ⟨seenPods, podsRead, samePods⟩ := mem_flatMap_list .pod (excludePod netName) pods
          rw [list_cluster, get_cluster] at samePods
          simp only [parsed, Except.bind, Program.bind_apply]
          rw [podsRead]
          apply takeFirst_congr
          intro text
          by_cases refused : Refused client session gatewayListing
          · rw [if_pos refused]
            rw [← gatewayListing_after netName] at refused
            obtain ⟨error, fails⟩ := Option.ne_none_iff_exists'.mp refused
            rw [gatewayListing] at fails
            rw [list_refused fails]
            simp only [List.mem_append, samePods]
          · rw [if_neg refused]
            rw [← gatewayListing_after netName] at refused
            obtain ⟨items, itemsRead, sameItems⟩ :=
              mem_flatMap_list .gkeGatewayCIDR (excludeGatewayCIDR netName) refused
            rw [get_cluster] at sameItems
            rw [itemsRead]
            simp only [List.mem_append, samePods, sameItems, gatewayTexts]

/-- On a subnet, an allocation without the list of GKEGatewayCIDRs fails closed when they
alone keep no address that would be taken. -/
theorem failsClosed_onSubnet {netObj : Unstructured} {subnet : Subnet}
    (found : (session.cluster .network).get? ⟨"", netName⟩ = some netObj)
    (isSubnet : subnetOf netName netObj = .ok subnet)
    (network : ¬ Refused client session (networkRead netName))
    (pods : ¬ Refused client session podListing) (refused : Refused client session gatewayListing) :
    FailsClosed netName inUseSet client session ↔
      ¬ ∃ u, OnlyGateway session.cluster netName netObj subnet inUseSet u ∧
        ¬ FreeBelow session.cluster netName netObj subnet inUseSet u := by
  have run : (allocateSecondaryIP netName inUseSet client session).1 =
      takeFirst netName subnet inUseSet (excludeInfrastructure subnet ++ excludeVIPs netObj ++
        (session.cluster .pod).list.flatMap (excludePod netName)) := by
    rw [allocateSecondaryIP_granted network pods, found]
    simp only [isSubnet, Except.bind, if_pos refused, List.append_nil]
  rw [FailsClosed, run, allocateSecondaryIP_onSubnet found isSubnet]
  constructor
  · intro closed keeps
    have ⟨u, only, _⟩ := keeps
    cases free : firstFree subnet (otherTexts session.cluster netName netObj subnet inUseSet) with
    | none => exact only.unreserved (firstFree_eq_none.mp free u only.isHost.1 only.isHost.2)
    | some first =>
        obtain ⟨second, free', -, same⟩ :=
          takeFirst_ok.mp (closed _ (takeFirst_ok.mpr ⟨first, free, rfl, rfl⟩))
        have equal : first = second := by simpa [dottedQuad_inj] using same
        subst equal
        exact (firstFree_otherTexts free).mp free' keeps
  · rintro safe ⟨ipWithPrefix, inUse⟩ isOk
    obtain ⟨u, free, written, kept⟩ := takeFirst_ok.mp isOk
    exact takeFirst_ok.mpr ⟨u, (firstFree_otherTexts free).mpr safe, written, kept⟩

/-- Every failure ends the allocation or does not change the address, except that a
failed list of GKEGatewayCIDRs gives away an address that only they kept. -/
theorem allocateSecondaryIP_failsClosed_iff (netName : String) (inUseSet : List String)
    (client : Client) (session : Session) :
    FailsClosed netName inUseSet client session ↔
      ¬ (Refused client session gatewayListing ∧ ¬ Refused client session (networkRead netName) ∧
        ¬ Refused client session podListing ∧ GatewayKeeps session.cluster netName inUseSet) := by
  by_cases network : Refused client session (networkRead netName)
  · refine iff_of_true (fun taken isOk => ?_) fun all => all.2.1 network
    obtain ⟨error, fails⟩ := allocateSecondaryIP_networkRefused inUseSet network
    rw [fails] at isOk
    cases isOk
  by_cases pods : Refused client session podListing
  · refine iff_of_true (fun taken isOk => ?_) fun all => all.2.2.1 pods
    obtain ⟨error, fails⟩ := allocateSecondaryIP_podsRefused netName inUseSet pods
    rw [fails] at isOk
    cases isOk
  by_cases refused : Refused client session gatewayListing
  · cases found : (session.cluster .network).get? ⟨"", netName⟩ with
    | none =>
        refine iff_of_true (fun taken isOk => ?_) ?_
        · rw [allocateSecondaryIP_granted network pods, found] at isOk
          cases isOk
        · rintro ⟨-, -, -, netObj, subnet, stored, -⟩
          rw [found] at stored
          cases stored
    | some netObj =>
        cases isSubnet : subnetOf netName netObj with
        | error error =>
            refine iff_of_true (fun taken isOk => ?_) ?_
            · rw [allocateSecondaryIP_granted network pods, found] at isOk
              simp only [isSubnet, Except.bind] at isOk
              cases isOk
            · rintro ⟨-, -, -, netObj', subnet, stored, parsed, -⟩
              rw [found, Option.some.injEq] at stored
              rw [← stored, isSubnet] at parsed
              cases parsed
        | ok subnet =>
            rw [failsClosed_onSubnet found isSubnet network pods refused]
            refine not_congr ⟨fun keeps => ?_, ?_⟩
            · exact ⟨refused, network, pods, netObj, subnet, found, isSubnet, keeps⟩
            · rintro ⟨-, -, -, netObj', subnet', stored, parsed, keeps⟩
              rw [found, Option.some.injEq] at stored
              subst stored
              rw [isSubnet, Except.ok.injEq] at parsed
              subst parsed
              exact keeps
  · refine iff_of_true (fun taken isOk => ?_) fun all => refused all.1
    rw [allocateSecondaryIP_granted network pods] at isOk
    rw [allocateSecondaryIP_noFaults]
    simp only [if_neg refused] at isOk
    exact isOk

end Run

def noGatewayListing : Faults := fun _ call =>
  if call = gatewayListing then some (.other "timeout") else none

/-- A Pod gets an address of the GKEGatewayCIDR, which no Pod gets otherwise. -/
theorem allocateSecondaryIP_failsOpen :
    (allocateSecondaryIP "n" [] noGatewayListing (vipSession "n")).1 =
        .ok ("10.0.0.10/24", ["10.0.0.10"]) ∧
      (allocateSecondaryIP "n" [] noFaults (vipSession "n")).1 =
        .ok ("10.0.0.12/24", ["10.0.0.12"]) ∧
      ¬ FailsClosed "n" [] noGatewayListing (vipSession "n") := by
  have given : (allocateSecondaryIP "n" [] noGatewayListing (vipSession "n")).1 =
      .ok ("10.0.0.10/24", ["10.0.0.10"]) := by decide +kernel
  have whole : (allocateSecondaryIP "n" [] noFaults (vipSession "n")).1 =
      .ok ("10.0.0.12/24", ["10.0.0.12"]) := by decide +kernel
  refine ⟨given, whole, fun closed => ?_⟩
  have same := closed _ given
  rw [whole] at same
  exact absurd same (by decide)

end GemEmulation.Operator
