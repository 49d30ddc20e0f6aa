import GemEmulation.Operator.PodMutator.FirstFit

/-!
# Addresses kept from Pods

When an address is never handed out on a Network, however many addresses are in
use.  What the testbed's own hosts have and what live Pods have should be kept;
the allocator forgets the admin workstation and the edge router, and it compares
texts where it should compare addresses.
-/

namespace GemEmulation.Operator

open Foundations Foundations.Json Kube Net

/-- Reasons for which an address is not handed out on a Network anyway. -/
inductive KeptFromPods (cluster : Cluster) (netName : String) (address : IPv4) : Prop where
  | noNetwork : (cluster .network).get? ⟨"", netName⟩ = none →
      KeptFromPods cluster netName address
  | noSubnet {netObj : Unstructured} {error : AllocationError} :
      (cluster .network).get? ⟨"", netName⟩ = some netObj →
      subnetOf netName netObj = .error error → KeptFromPods cluster netName address
  | outside {netObj : Unstructured} {subnet : Subnet} :
      (cluster .network).get? ⟨"", netName⟩ = some netObj →
      subnetOf netName netObj = .ok subnet →
      ¬ (subnet.netIP + 1 ≤ address ∧ address < subnet.broadcast) →
      KeptFromPods cluster netName address
  | infrastructure {netObj : Unstructured} {subnet : Subnet} :
      (cluster .network).get? ⟨"", netName⟩ = some netObj →
      subnetOf netName netObj = .ok subnet →
      dottedQuad address ∈ excludeInfrastructure subnet → KeptFromPods cluster netName address
  | pool {netObj : Unstructured} :
      (cluster .network).get? ⟨"", netName⟩ = some netObj →
      dottedQuad address ∈ excludeVIPs netObj → KeptFromPods cluster netName address
  | block {item : Unstructured} : item ∈ (cluster .gkeGatewayCIDR).list →
      dottedQuad address ∈ excludeGatewayCIDR netName item →
      KeptFromPods cluster netName address
  | pod {pod : Pod} : pod ∈ (cluster .pod).list →
      dottedQuad address ∈ excludePod netName pod → KeptFromPods cluster netName address

theorem cleanIP_dottedQuad (address : IPv4) :
    cleanIP (dottedQuad address) = dottedQuad address := by
  have visible : ∀ c ∈ (dottedQuad address).toList, Text.isSpace c = false := fun _ membership =>
    (mem_dottedQuad membership).1
  have absent : '/' ∉ (dottedQuad address).toList := fun slash => (mem_dottedQuad slash).2.1 rfl
  rw [cleanIP, Text.trimSpace_eq_self visible, Text.split_eq_singleton absent]
  rfl

/-- An address is never handed out exactly when one of the reasons applies. -/
theorem neverAllocated_iff (netName : String) (session : Session) (address : IPv4) :
    (∀ inUseSet ipWithPrefix inUse,
      (allocateSecondaryIP netName inUseSet noFaults session).1 = .ok (ipWithPrefix, inUse) →
        cleanIP ipWithPrefix ≠ dottedQuad address) ↔
      KeptFromPods session.cluster netName address := by
  simp only [allocateSecondaryIP_noFaults]
  cases stored : (session.cluster .network).get? ⟨"", netName⟩ with
  | none => exact iff_of_true (fun _ _ _ failed => nomatch failed) (.noNetwork stored)
  | some netObj =>
      cases parsed : subnetOf netName netObj with
      | error error =>
          exact iff_of_true (fun _ _ _ failed => by simp [Except.bind, parsed] at failed)
            (.noSubnet stored parsed)
      | ok subnet =>
          simp only [parsed, Except.bind]
          constructor
          · intro never
            by_contra available
            have inside : subnet.netIP + 1 ≤ address ∧ address < subnet.broadcast := by
              by_contra outside
              exact available (.outside stored parsed outside)
            have free : dottedQuad address ∉
                exclusions session.cluster netName netObj subnet := by
              simp only [exclusions, List.mem_append, List.mem_flatMap, not_or, not_exists, not_and]
              exact ⟨⟨⟨fun excluded => available (.infrastructure stored parsed excluded),
                fun excluded => available (.pool stored excluded)⟩,
                  fun item listed excluded => available (.block listed excluded)⟩,
                    fun pod listed excluded => available (.pod listed excluded)⟩
            -- With all smaller addresses in use this one is next.
            let smaller := (wordsBelow (subnet.netIP + 1) address).map dottedQuad
            have clean : smaller.map cleanIP = smaller := by
              simp [smaller, cleanIP_dottedQuad]
            have next : firstFree subnet (exclusions session.cluster netName netObj subnet ++
                smaller.map cleanIP) = some address := by
              rw [firstFree_eq_some, clean]
              refine ⟨inside, ?_, fun other above below => ?_⟩
              · rw [List.mem_append, not_or]
                refine ⟨free, fun listed => ?_⟩
                obtain ⟨other, below, same⟩ := List.mem_map.mp listed
                cases dottedQuad_injective same
                exact BitVec.lt_irrefl _ ((mem_wordsBelow _ _ _).mp below).2
              · exact List.mem_append_right _
                  (List.mem_map_of_mem ((mem_wordsBelow _ _ _).mpr ⟨above, below⟩))
            exact never smaller _ _ (takeFirst_ok.mpr ⟨address, next, rfl, rfl⟩)
              (cleanIP_allocated _ _)
          · intro kept inUseSet ipWithPrefix inUse allocated same
            obtain ⟨u, found, written, -⟩ := takeFirst_ok.mp allocated
            rw [written, cleanIP_allocated, dottedQuad_inj] at same
            subst same
            obtain ⟨inside, fresh, -⟩ := firstFree_eq_some.mp found
            simp only [exclusions, List.mem_append, List.mem_flatMap, not_or, not_exists,
              not_and] at fresh
            obtain ⟨⟨⟨⟨notInfrastructure, notPool⟩, notBlock⟩, notPod⟩, -⟩ := fresh
            cases kept with
            | noNetwork missing => simp [stored] at missing
            | noSubnet found failed =>
                cases stored.symm.trans found
                simp [parsed] at failed
            | outside found parsed' outside =>
                cases stored.symm.trans found
                cases parsed.symm.trans parsed'
                exact outside inside
            | infrastructure found parsed' excluded =>
                cases stored.symm.trans found
                cases parsed.symm.trans parsed'
                exact notInfrastructure excluded
            | pool found excluded =>
                cases stored.symm.trans found
                exact notPool excluded
            | block listed excluded => exact notBlock _ listed excluded
            | pod listed excluded => exact notPod _ listed excluded

/-- No allocation on a Network returns the address. -/
def NeverAllocated (session : Session) (netName : String) (address : IPv4) : Prop :=
  ∀ inUseSet ipWithPrefix inUse,
    (allocateSecondaryIP netName inUseSet noFaults session).1 = .ok (ipWithPrefix, inUse) →
      cleanIP ipWithPrefix ≠ dottedQuad address

/-- An address is never handed out exactly when it is no host address of the
subnet or its text is excluded. -/
theorem neverAllocated_iff_exclusions {netName : String} {session : Session}
    {netObj : Unstructured} {subnet : Subnet}
    (stored : (session.cluster .network).get? ⟨"", netName⟩ = some netObj)
    (parsed : subnetOf netName netObj = .ok subnet) (address : IPv4) :
    NeverAllocated session netName address ↔
      (subnet.netIP + 1 ≤ address → address < subnet.broadcast →
        dottedQuad address ∈ exclusions session.cluster netName netObj subnet) := by
  rw [NeverAllocated, neverAllocated_iff]
  simp only [exclusions, List.mem_append, List.mem_flatMap]
  constructor
  · intro kept above below
    cases kept with
    | noNetwork missing => simp [stored] at missing
    | noSubnet found failed =>
        cases stored.symm.trans found
        simp [parsed] at failed
    | outside found parsed' outside =>
        cases stored.symm.trans found
        cases parsed.symm.trans parsed'
        exact absurd ⟨above, below⟩ outside
    | infrastructure found parsed' excluded =>
        cases stored.symm.trans found
        cases parsed.symm.trans parsed'
        exact .inl (.inl (.inl excluded))
    | pool found excluded =>
        cases stored.symm.trans found
        exact .inl (.inl (.inr excluded))
    | block listed excluded => exact .inl (.inr ⟨_, listed, excluded⟩)
    | pod listed excluded => exact .inr ⟨_, listed, excluded⟩
  · intro excluded
    by_cases inside : subnet.netIP + 1 ≤ address ∧ address < subnet.broadcast
    · rcases excluded inside.1 inside.2 with
        ((reserved | pooled) | ⟨item, listed, blocked⟩) | ⟨pod, listed, claimed⟩
      · exact .infrastructure stored parsed reserved
      · exact .pool stored pooled
      · exact .block listed blocked
      · exact .pod listed claimed
    · exact .outside stored parsed inside

/-- The host offsets of the cluster nodes, the admin workstation and the edge
router. -/
def reservedOffsets : List Nat := [2, 3, 4, 5, 6, 7, 8, 9, 100, 254]

/-- The addresses that the testbed's own hosts have on a subnet. -/
inductive Infrastructure (subnet : Subnet) : IPv4 → Prop where
  | gateway : Infrastructure subnet subnet.gwIP
  | host {offset : Nat} : offset ∈ reservedOffsets →
      Infrastructure subnet (subnet.netIP + .ofNat 32 offset)

/-- An address is the gateway's, or is excluded for the VIPs, the GKEGatewayCIDRs
or the Pods of a Network. -/
def KeptAnyway (cluster : Cluster) (netName : String) (netObj : Unstructured) (gw address : IPv4) :
    Prop :=
  address = gw ∨ dottedQuad address ∈ excludeVIPs netObj ∨
    (∃ item ∈ (cluster .gkeGatewayCIDR).list,
      dottedQuad address ∈ excludeGatewayCIDR netName item) ∨
      ∃ pod ∈ (cluster .pod).list, dottedQuad address ∈ excludePod netName pod

theorem toNat_hostOffset {subnet : Subnet} (wide : subnet.prefixLen ≤ 24) {offset : Nat}
    (small : offset ≤ 254) :
    (subnet.netIP + .ofNat 32 offset).toNat = subnet.netIP.toNat + offset ∧
      subnet.netIP + .ofNat 32 offset < subnet.broadcast := by
  have size : 2 ^ 8 ≤ 2 ^ (32 - subnet.prefixLen) :=
    Nat.pow_le_pow_right (by decide) (by omega)
  have last : subnet.broadcast.toNat = subnet.netIP.toNat + (2 ^ (32 - subnet.prefixLen) - 1) :=
    toNat_broadcast subnet.gwIP subnet.prefixLen
  have bound := subnet.broadcast.isLt
  have word : (BitVec.ofNat 32 offset).toNat = offset := Nat.mod_eq_of_lt (by omega)
  have sum : (subnet.netIP + .ofNat 32 offset).toNat = subnet.netIP.toNat + offset := by
    rw [BitVec.toNat_add, word]
    omega
  refine ⟨sum, ?_⟩
  rw [BitVec.lt_def, sum]
  omega

/-- The addresses of the testbed's hosts are host addresses of such a subnet. -/
theorem hostOffset_bounds {subnet : Subnet} (wide : subnet.prefixLen ≤ 24) {offset : Nat}
    (positive : 0 < offset) (small : offset ≤ 254) :
    subnet.netIP < subnet.netIP + .ofNat 32 offset ∧
      subnet.netIP + 1 ≤ subnet.netIP + .ofNat 32 offset ∧
        subnet.netIP + .ofNat 32 offset < subnet.broadcast := by
  obtain ⟨sum, below⟩ := toNat_hostOffset wide small
  have bound := (subnet.netIP + .ofNat 32 offset).isLt
  have above : subnet.netIP < subnet.netIP + .ofNat 32 offset := by
    rw [BitVec.lt_def, sum]
    omega
  exact ⟨above, (above_netIP (by omega) _).mpr above, below⟩

/-- The excluded texts of a host address beyond the cluster nodes' offsets. -/
theorem mem_exclusions_beyond {cluster : Cluster} {netName : String} {netObj : Unstructured}
    {gw : IPv4} (wide : prefixLength netObj ≤ 24) {offset : Nat} (beyond : 9 < offset)
    (small : offset ≤ 254) :
    dottedQuad ((dottedSubnet netObj gw).netIP + .ofNat 32 offset) ∈
        exclusions cluster netName netObj (dottedSubnet netObj gw) ↔
      KeptAnyway cluster netName netObj gw ((dottedSubnet netObj gw).netIP + .ofNat 32 offset) := by
  obtain ⟨above, -, below⟩ :=
    @hostOffset_bounds (dottedSubnet netObj gw) wide offset (by omega) small
  have sum := (@toNat_hostOffset (dottedSubnet netObj gw) wide offset small).1
  have notNetwork := BitVec.ne_of_lt above
  have notBroadcast := BitVec.ne_of_lt below
  have notNode : ¬ ∃ node, 2 ≤ node ∧ node ≤ 9 ∧
      ((dottedSubnet netObj gw).netIP + .ofNat 32 offset).toNat =
        (dottedSubnet netObj gw).netIP.toNat + node ∧
      (dottedSubnet netObj gw).netIP + .ofNat 32 offset < (dottedSubnet netObj gw).broadcast := by
    rintro ⟨node, -, upper, equality, -⟩
    omega
  have spelled : (dottedSubnet netObj gw).gateway4 = dottedQuad gw := rfl
  simp only [exclusions, excludeInfrastructure, List.mem_append, List.mem_flatMap,
    mem_hostAddresses above, List.mem_cons, List.not_mem_nil, or_false, dottedQuad_inj, spelled,
    notNetwork.symm, notBroadcast, false_or, notNode, KeptAnyway, or_assoc]

/-- The allocator never hands out an address of the testbed's own hosts exactly
when it keeps the admin workstation and the edge router for some other reason. -/
theorem infrastructure_neverAllocated_iff {netName : String} {session : Session}
    {netObj : Unstructured} {gw : IPv4}
    (stored : (session.cluster .network).get? ⟨"", netName⟩ = some netObj)
    (gateway : gateway4Of netObj = dottedQuad gw) (wide : prefixLength netObj ≤ 24) :
    (∀ address, Infrastructure (dottedSubnet netObj gw) address →
        NeverAllocated session netName address) ↔
      ∀ offset ∈ [100, 254], KeptAnyway session.cluster netName netObj gw
        ((dottedSubnet netObj gw).netIP + .ofNat 32 offset) := by
  have kept := neverAllocated_iff_exclusions stored (subnetOf_dotted netName gateway)
  have widePrefix : (dottedSubnet netObj gw).prefixLen ≤ 24 := wide
  constructor
  · intro never offset forgotten
    have range : 9 < offset ∧ offset ≤ 254 ∧ offset ∈ reservedOffsets := by
      simp only [List.mem_cons, List.not_mem_nil, or_false] at forgotten
      rcases forgotten with rfl | rfl <;> decide
    obtain ⟨beyond, small, reserved⟩ := range
    obtain ⟨-, above, below⟩ := hostOffset_bounds widePrefix (by omega) small
    exact (mem_exclusions_beyond wide beyond small).mp
      ((kept _).mp (never _ (.host reserved)) above below)
  · intro anyway address infrastructure
    apply (kept address).mpr
    intro above below
    cases infrastructure with
    | gateway => simp [exclusions, excludeInfrastructure, dottedSubnet]
    | @host offset reserved =>
        by_cases forgotten : offset ∈ [100, 254]
        · have range : 9 < offset ∧ offset ≤ 254 := by
            simp only [List.mem_cons, List.not_mem_nil, or_false] at forgotten
            omega
          exact (mem_exclusions_beyond wide range.1 range.2).mpr (anyway offset forgotten)
        · have node : 2 ≤ offset ∧ offset ≤ 9 := by
            simp only [reservedOffsets, List.mem_cons, List.not_mem_nil, or_false] at *
            omega
          have bounds := @hostOffset_bounds _ widePrefix offset (by omega) (by omega)
          have sum := (@toNat_hostOffset _ widePrefix offset (by omega)).1
          have listed := (mem_hostAddresses bounds.1).mpr ⟨offset, node.1, node.2, sum, below⟩
          simp only [exclusions, excludeInfrastructure, List.mem_append]
          exact .inl (.inl (.inl (.inr listed)))

def plainNetwork (gateway4 : String) : Unstructured where
  metadata := { key := ⟨"", "n"⟩ }
  body := [("spec", .map [("gateway4", .string gateway4)])]

def plainSession (gateway4 : String) : Session where
  cluster := (∅ : Cluster).put .network (plainNetwork gateway4)
  now := ""

theorem plainSession_network (gateway4 : String) :
    ((plainSession gateway4).cluster .network).get? ⟨"", "n"⟩ = some (plainNetwork gateway4) := rfl

theorem plainSession_exclusions (gateway4 : String) (subnet : Subnet) :
    exclusions (plainSession gateway4).cluster "n" (plainNetwork gateway4) subnet =
      excludeInfrastructure subnet := by
  have noVIPs : excludeVIPs (plainNetwork gateway4) = [] := rfl
  have noBlocks : ((plainSession gateway4).cluster .gkeGatewayCIDR).list = [] := rfl
  have noPods : ((plainSession gateway4).cluster .pod).list = [] := rfl
  simp [exclusions, noVIPs, noBlocks, noPods]

theorem map_cleanIP_dottedQuad (words : List IPv4) :
    (words.map dottedQuad).map cleanIP = words.map dottedQuad := by
  simp [cleanIP_dottedQuad]

def lowerAddresses : List String :=
  (wordsBelow (ofOctets 10 0 0 1) (ofOctets 10 0 0 100)).map dottedQuad

theorem mem_lowerAddresses {address : IPv4} :
    dottedQuad address ∈ lowerAddresses ↔
      ofOctets 10 0 0 1 ≤ address ∧ address < ofOctets 10 0 0 100 := by
  rw [lowerAddresses, List.mem_map_of_injective dottedQuad_injective, mem_wordsBelow]

theorem adminWorkstation_allocated :
    gateway4Of (plainNetwork "10.0.0.1") = dottedQuad (ofOctets 10 0 0 1) ∧
      prefixLength (plainNetwork "10.0.0.1") = 24 ∧
        Infrastructure (dottedSubnet (plainNetwork "10.0.0.1") (ofOctets 10 0 0 1))
          (ofOctets 10 0 0 100) ∧
          (allocateSecondaryIP "n" lowerAddresses noFaults (plainSession "10.0.0.1")).1 =
            .ok ("10.0.0.100/24", lowerAddresses ++ ["10.0.0.100"]) := by
  have gateway : gateway4Of (plainNetwork "10.0.0.1") = dottedQuad (ofOctets 10 0 0 1) := by rfl
  refine ⟨gateway, by rfl, @Infrastructure.host _ 100 (by decide), ?_⟩
  have clean : lowerAddresses.map cleanIP = lowerAddresses := map_cleanIP_dottedQuad _
  rw [allocateSecondaryIP_onSubnet (plainSession_network "10.0.0.1") (subnetOf_dotted "n" gateway),
    takeFirst_ok, plainSession_exclusions, clean]
  have written : dottedQuad (ofOctets 10 0 0 100) = "10.0.0.100" := by rfl
  refine ⟨ofOctets 10 0 0 100, firstFree_eq_some.mpr ⟨by decide, ?_, ?_⟩, by rfl, by rw [written]⟩
  · rw [List.mem_append, not_or]
    refine ⟨by decide, fun listed => ?_⟩
    exact BitVec.lt_irrefl _ (mem_lowerAddresses.mp listed).2
  · intro other above below
    have start : (dottedSubnet (plainNetwork "10.0.0.1") (ofOctets 10 0 0 1)).netIP + 1 =
        ofOctets 10 0 0 1 := by decide
    rw [start] at above
    exact List.mem_append_right _ (mem_lowerAddresses.mpr ⟨above, below⟩)

theorem infrastructure_neverAllocated_plain :
    (∀ address, Infrastructure (dottedSubnet (plainNetwork "10.0.0.1") (ofOctets 10 0 0 1))
      address →
        NeverAllocated (plainSession "10.0.0.1") "n" address) ↔
      ∀ offset ∈ [100, 254], KeptAnyway (plainSession "10.0.0.1").cluster "n"
        (plainNetwork "10.0.0.1") (ofOctets 10 0 0 1)
          ((dottedSubnet (plainNetwork "10.0.0.1") (ofOctets 10 0 0 1)).netIP + .ofNat 32 offset) :=
  infrastructure_neverAllocated_iff (plainSession_network "10.0.0.1") (by rfl) (by decide)

/-- The addresses that the gateway and the live Pods of a Network have, however
they are written. -/
inductive Taken (cluster : Cluster) (netName : String) (netObj : Unstructured) (address : IPv4) :
    Prop where
  | gateway : parseIP4 (gateway4Of netObj) = some address → Taken cluster netName netObj address
  | pod {pod : Pod} {ip : String} : pod ∈ (cluster .pod).list → isLive pod = true →
      Claims netName pod ip → parseIP4 (cleanIP ip) = some address →
      Taken cluster netName netObj address

/-- Some source of the excluded texts writes the address as a dotted quad. -/
inductive Spelled (cluster : Cluster) (netName : String) (netObj : Unstructured) (subnet : Subnet)
    (address : IPv4) : Prop where
  | infrastructure : dottedQuad address ∈ excludeInfrastructure subnet →
      Spelled cluster netName netObj subnet address
  | pool : dottedQuad address ∈ excludeVIPs netObj → Spelled cluster netName netObj subnet address
  | block {item : Unstructured} : item ∈ (cluster .gkeGatewayCIDR).list →
      dottedQuad address ∈ excludeGatewayCIDR netName item →
      Spelled cluster netName netObj subnet address
  | pod {pod : Pod} {ip : String} : pod ∈ (cluster .pod).list → isLive pod = true →
      Claims netName pod ip → cleanIP ip = dottedQuad address →
      Spelled cluster netName netObj subnet address

theorem mem_exclusions_iff_spelled {cluster : Cluster} {netName : String} {netObj : Unstructured}
    {subnet : Subnet} {address : IPv4} :
    dottedQuad address ∈ exclusions cluster netName netObj subnet ↔
      Spelled cluster netName netObj subnet address := by
  simp only [exclusions, List.mem_append, List.mem_flatMap, mem_excludePod]
  constructor
  · rintro (((reserved | pooled) | ⟨item, listed, blocked⟩) |
      ⟨pod, listed, live, -, ip, claimed, written⟩)
    · exact .infrastructure reserved
    · exact .pool pooled
    · exact .block listed blocked
    · exact .pod listed live claimed written
  · rintro (reserved | pooled | ⟨listed, blocked⟩ | ⟨listed, live, claimed, written⟩)
    · exact .inl (.inl (.inl reserved))
    · exact .inl (.inl (.inr pooled))
    · exact .inl (.inr ⟨_, listed, blocked⟩)
    · exact .inr ⟨_, listed, live, dottedQuad_ne_empty _, _, claimed, written⟩

/-- No allocation returns a taken address exactly when each one that is a host
address of the subnet is also written as a dotted quad somewhere. -/
theorem taken_neverAllocated_iff {netName : String} {session : Session} {netObj : Unstructured}
    (stored : (session.cluster .network).get? ⟨"", netName⟩ = some netObj) :
    (∀ address, Taken session.cluster netName netObj address →
        NeverAllocated session netName address) ↔
      ∀ subnet, subnetOf netName netObj = .ok subnet → ∀ address,
        Taken session.cluster netName netObj address → subnet.netIP + 1 ≤ address →
          address < subnet.broadcast → Spelled session.cluster netName netObj subnet address := by
  cases parsed : subnetOf netName netObj with
  | error error =>
      refine iff_of_true (fun address _ => ?_) nofun
      exact (neverAllocated_iff netName session address).mpr (.noSubnet stored parsed)
  | ok subnet =>
      simp only [neverAllocated_iff_exclusions stored parsed, mem_exclusions_iff_spelled,
        Except.ok.injEq, forall_eq']

theorem mappedGateway_allocated :
    Taken (plainSession "::ffff:10.0.0.1").cluster "n" (plainNetwork "::ffff:10.0.0.1")
        (ofOctets 10 0 0 1) ∧
      (allocateSecondaryIP "n" [] noFaults (plainSession "::ffff:10.0.0.1")).1 =
        .ok ("10.0.0.1/24", ["10.0.0.1"]) :=
  ⟨.gateway (by rfl), by decide⟩

theorem taken_neverAllocated_plain :
    (∀ address, Taken (plainSession "10.0.0.1").cluster "n" (plainNetwork "10.0.0.1") address →
        NeverAllocated (plainSession "10.0.0.1") "n" address) ↔
      ∀ subnet, subnetOf "n" (plainNetwork "10.0.0.1") = .ok subnet → ∀ address,
        Taken (plainSession "10.0.0.1").cluster "n" (plainNetwork "10.0.0.1") address →
          subnet.netIP + 1 ≤ address → address < subnet.broadcast →
            Spelled (plainSession "10.0.0.1").cluster "n" (plainNetwork "10.0.0.1") subnet
              address :=
  taken_neverAllocated_iff (plainSession_network "10.0.0.1")

end GemEmulation.Operator
