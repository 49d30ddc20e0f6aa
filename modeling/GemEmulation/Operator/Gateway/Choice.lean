import GemEmulation.Operator.Gateway.Vip

/-!
# The choice of a Gateway's address

What `determineGatewayIP` returns, described by the fields of the Gateway and of the
GKEGatewayCIDRs.  The network address of a block with host addresses is even, so adding
one to its last byte neither carries nor leaves the block.
-/

namespace GemEmulation.Net

theorem network_even {network : IPv4} {ones : Nat} (masked : network &&& cidrMask ones 32 = network)
    (hosts : ones ≤ 31) : network.toNat % 2 = 0 := by
  have multiple := toNat_and_cidrMask network ones
  have size : 2 ^ (32 - ones) = 2 ^ (31 - ones) * 2 := by
    rw [← Nat.pow_succ]
    congr 1
    omega
  rw [masked, size, ← Nat.mul_assoc] at multiple
  rw [multiple]
  exact Nat.mul_mod_left _ _

theorem toNat_incrementLastByte (address : IPv4) :
    (incrementLastByte address).toNat =
      address.toNat / 256 * 256 + (address.toNat + 1) % 256 := by
  have high : (address &&& 0xffffff00#32).toNat = address.toNat / 256 * 256 :=
    toNat_and_cidrMask address 24
  have low : ((address + 1) &&& 0xff#32).toNat = (address.toNat + 1) % 256 := by
    have masked : (address + 1).toNat &&& 255 = (address + 1).toNat % 256 :=
      Nat.and_two_pow_sub_one_eq_mod _ 8
    have wrapped : (address + 1).toNat = (address.toNat + 1) % 2 ^ 32 := BitVec.toNat_add address 1
    rw [BitVec.toNat_and]
    exact masked.trans (by omega)
  have disjoint : address &&& 0xffffff00#32 &&& ((address + 1) &&& 0xff#32) = 0#32 := by
    rw [BitVec.and_comm (address + 1), BitVec.and_assoc, ← BitVec.and_assoc 0xffffff00#32]
    simp
  rw [incrementLastByte, ← BitVec.add_eq_or_of_and_eq_zero _ _ disjoint,
    BitVec.toNat_add_of_and_eq_zero disjoint, high, low]

theorem incrementLastByte_even {address : IPv4} (even : address.toNat % 2 = 0) :
    octet address 0 + 1 < 256 ∧ incrementLastByte address = address + 1 := by
  have bound := address.isLt
  have sum : (address + 1).toNat = address.toNat + 1 := toNat_succ address (by omega)
  refine ⟨by simp only [octet]; omega, BitVec.eq_of_toNat_eq ?_⟩
  rw [toNat_incrementLastByte, sum]
  omega

theorem incrementLastByte_ne (address : IPv4) : incrementLastByte address ≠ address := by
  intro same
  have values := congrArg BitVec.toNat same
  rw [toNat_incrementLastByte] at values
  omega

theorem contains_firstHost_iff {network : IPv4} {ones : Nat}
    (masked : network &&& cidrMask ones 32 = network) (short : ones ≤ 32) :
    (IPNet.v4 network ones).contains (incrementLastByte network) = true ↔ ones ≤ 31 := by
  constructor
  · intro inside
    by_contra long
    obtain rfl : ones = 32 := by omega
    rw [IPNet.contains, decide_eq_true_eq, masked] at inside
    exact incrementLastByte_ne network (inside.trans (BitVec.and_allOnes)).symm
  · intro hosts
    have even := network_even masked hosts
    have bound := network.isLt
    rw [(incrementLastByte_even even).2, IPNet.contains, decide_eq_true_eq, eq_comm,
      and_cidrMask_eq_iff, masked, BitVec.le_def, BitVec.le_def,
      toNat_succ network (by omega)]
    have last := toNat_broadcast network ones
    rw [masked] at last
    have size : 2 ^ 1 ≤ 2 ^ (32 - ones) := Nat.pow_le_pow_right (by decide) (by omega)
    omega

end GemEmulation.Net

namespace GemEmulation.Operator

open Foundations Kube Net

/-- The first of `spec.addresses` has a value that is not empty. -/
def FirstAddress (gw : Unstructured) (value : String) : Prop :=
  ∃ fields rest, nestedSlice gw.body ["spec", "addresses"] = some (.map fields :: rest) ∧
    lookupEntry "value" fields = some (.string value) ∧ value ≠ ""

/-- The GKEGatewayCIDR is for the Network, and its `ip4cidr` is an IPv4 block with host
addresses. -/
structure OffersBlock (networkName : String) (item : Unstructured) (network : IPv4) (ones : Nat) :
    Prop where
  matching : specNetwork item = networkName ∨ item.key.name = networkName
  block : parseCIDR (specIP4CIDR item) = some (.v4 network ones)
  hosts : ones ≤ 31

/-- The text is a block of IPv6 addresses that stand for IPv4 addresses. -/
def IsMapped (text : String) : Prop :=
  ∃ ip ones, parseCIDR text = some (.v6 ip ones) ∧ to4 ip ≠ none

/-- The first GKEGatewayCIDR that offers an address gives its first host address. -/
inductive Chosen (networkName : String) (items : List Unstructured) : String → Prop where
  | first {front back : List Unstructured} {item : Unstructured} {network : IPv4} {ones : Nat} :
      items = front ++ item :: back →
      (∀ other ∈ front, ∀ network ones, ¬ OffersBlock networkName other network ones) →
      OffersBlock networkName item network ones →
      Chosen networkName items (dottedQuad (network + 1))
  | nothing : (∀ item ∈ items, ∀ network ones, ¬ OffersBlock networkName item network ones) →
      Chosen networkName items ""

theorem staticAddress_eq_some {gw : Unstructured} {value : String} :
    staticAddress gw = some value ↔ FirstAddress gw value := by
  constructor
  · intro static
    unfold staticAddress at static
    split at static
    next address rest listed =>
      obtain ⟨fields, isMap, static⟩ := Option.bind_eq_some_iff.mp static
      obtain ⟨text, written, static⟩ := Option.bind_eq_some_iff.mp static
      obtain ⟨found, stored, isString⟩ := Option.bind_eq_some_iff.mp written
      split at static
      next => cases static
      next nonempty =>
        cases static
        cases address <;> cases isMap
        cases found <;> cases isString
        exact ⟨fields, rest, listed, stored, nonempty⟩
    next => cases static
  · rintro ⟨fields, rest, listed, stored, nonempty⟩
    simp [staticAddress, listed, Value.asMap, textField, stored, Value.asString, nonempty]

theorem offeredVIP_eq_some {networkName : String} {item : Unstructured}
    (plain : ¬ IsMapped (specIP4CIDR item)) {vip : IPv4} :
    offeredVIP networkName item = some vip ↔
      ∃ network ones, OffersBlock networkName item network ones ∧ vip = network + 1 := by
  constructor
  · intro offered
    unfold offeredVIP at offered
    split at offered
    next matching =>
      unfold blockVIP at offered
      split at offered
      next => cases offered
      next =>
        obtain ⟨ipNet, parsed, offered⟩ := Option.bind_eq_some_iff.mp offered
        obtain ⟨base, isIPv4, offered⟩ := Option.bind_eq_some_iff.mp offered
        dsimp only at offered
        split at offered
        next inside =>
          cases offered
          cases ipNet with
          | v6 ip ones => exact absurd ⟨ip, ones, parsed,
              Option.ne_none_iff_exists'.mpr ⟨base, isIPv4⟩⟩ plain
          | v4 network ones =>
              obtain rfl : network = base := Option.some.inj isIPv4
              obtain ⟨masked, short⟩ := parseCIDR_v4 parsed
              have hosts := (contains_firstHost_iff masked short).mp inside
              exact ⟨network, ones, ⟨matching, parsed, hosts⟩,
                (incrementLastByte_even (network_even masked hosts)).2⟩
        next => cases offered
    next => cases offered
  · rintro ⟨network, ones, ⟨matching, parsed, hosts⟩, rfl⟩
    obtain ⟨masked, short⟩ := parseCIDR_v4 parsed
    have nonempty : specIP4CIDR item ≠ "" := by
      intro empty
      rw [empty] at parsed
      revert parsed
      simp [parseCIDR]
    have inside := (contains_firstHost_iff masked short).mpr hosts
    have first := (incrementLastByte_even (network_even masked hosts)).2
    rw [first] at inside
    simp only [offeredVIP, matching, if_true, blockVIP, nonempty, if_false, parsed, IPNet.to4,
      Option.bind_eq_bind, Option.bind_some, first, inside]

theorem offeredVIP_eq_none {networkName : String} {item : Unstructured}
    (plain : ¬ IsMapped (specIP4CIDR item)) :
    offeredVIP networkName item = none ↔ ∀ network ones,
      ¬ OffersBlock networkName item network ones := by
  rw [Option.eq_none_iff_forall_ne_some]
  simp only [ne_eq, offeredVIP_eq_some plain, not_exists, not_and]
  exact ⟨fun never network ones offers => never _ network ones offers rfl,
    fun never vip network ones offers _ => never network ones offers⟩

theorem OffersBlock.firstHost {networkName : String} {item : Unstructured} {network : IPv4}
    {ones : Nat}
    (offers : OffersBlock networkName item network ones) :
    (IPNet.v4 network ones).contains (network + 1) = true ∧ network + 1 ≠ network ∧
      octet network 0 + 1 < 256 ∧ incrementLastByte network = network + 1 := by
  obtain ⟨masked, short⟩ := parseCIDR_v4 offers.block
  obtain ⟨noCarry, first⟩ := incrementLastByte_even (network_even masked offers.hosts)
  rw [← first]
  exact ⟨(contains_firstHost_iff masked short).mpr offers.hosts, incrementLastByte_ne network,
    noCarry, rfl⟩

/-- `determineGatewayIP` returns the first static address, or else the first host address
of the first block that the Network is offered. -/
theorem determineGatewayIP_chosen {gw : Unstructured} {networkName : String}
    (named : networkName ≠ "") {client : Client} {session : Session} {items : List Unstructured}
    (listing : (list .gkeGatewayCIDR none [] client session).1 = .ok items)
    (plain : ∀ item ∈ items, ¬ IsMapped (specIP4CIDR item)) :
    (∀ value, FirstAddress gw value →
        (determineGatewayIP gw networkName client session).1 = value) ∧
      ((∀ value, ¬ FirstAddress gw value) →
        Chosen networkName items (determineGatewayIP gw networkName client session).1 ∧
          ((determineGatewayIP gw networkName client session).1 = "" ↔
            ∀ item ∈ items, ∀ network ones, ¬ OffersBlock networkName item network ones)) ∧
      ∀ item ∈ items, ∀ network ones, OffersBlock networkName item network ones →
        (IPNet.v4 network ones).contains (network + 1) = true ∧ network + 1 ≠ network ∧
          octet network 0 + 1 < 256 ∧ incrementLastByte network = network + 1 := by
  have unnamed : ∀ value, staticAddress gw ≠ some value ↔ ¬ FirstAddress gw value := fun value =>
    not_congr staticAddress_eq_some
  refine ⟨fun value first => ?_, fun dynamic => ?_, fun item _ network ones offers =>
    offers.firstHost⟩
  · rw [determineGatewayIP, staticAddress_eq_some.mpr first]
    rfl
  · have notStatic : staticAddress gw = none :=
      Option.eq_none_iff_forall_ne_some.mpr fun value => (unnamed value).mpr (dynamic value)
    have result : (determineGatewayIP gw networkName client session).1 =
        ((items.findSome? (offeredVIP networkName)).map dottedQuad).getD "" := by
      rw [determineGatewayIP, notStatic]
      simp only [named, if_false, Program.bind_apply]
      generalize list Kind.gkeGatewayCIDR none [] client session = outcome at listing ⊢
      obtain ⟨answer, after⟩ := outcome
      dsimp only at listing
      subst listing
      rfl
    rw [result]
    cases found : items.findSome? (offeredVIP networkName) with
    | none =>
        have never : ∀ item ∈ items, ∀ network ones, ¬ OffersBlock networkName item network ones :=
          fun item listed => (offeredVIP_eq_none (plain item listed)).mp
            (List.findSome?_eq_none_iff.mp found item listed)
        exact ⟨.nothing never, iff_of_true rfl never⟩
    | some vip =>
        obtain ⟨front, item, back, rfl, offered, before⟩ := List.findSome?_eq_some_iff.mp found
        have listed : item ∈ front ++ item :: back := by simp
        obtain ⟨network, ones, offers, rfl⟩ := (offeredVIP_eq_some (plain item listed)).mp offered
        refine ⟨.first rfl (fun other early => ?_) offers, ?_⟩
        · exact (offeredVIP_eq_none (plain other (by simp [early]))).mp (before other early)
        · exact iff_of_false (dottedQuad_ne_empty _) fun never =>
            never item listed network ones offers

/-- A GKEGatewayCIDR with one host address more than its network address. -/
def pairCIDR : Unstructured where
  metadata := { key := ⟨"", "pair"⟩ }
  body := [("spec", .map [("network", .string "n"), ("ip4cidr", .string "10.0.0.8/31")])]

def pairSession : Session where
  cluster := (∅ : Cluster).put .gkeGatewayCIDR pairCIDR
  now := ""

theorem determineGatewayIP_pair :
    (∀ value, FirstAddress pairCIDR value →
        (determineGatewayIP pairCIDR "n" noFaults pairSession).1 = value) ∧
      ((∀ value, ¬ FirstAddress pairCIDR value) →
        Chosen "n" [pairCIDR] (determineGatewayIP pairCIDR "n" noFaults pairSession).1 ∧
          ((determineGatewayIP pairCIDR "n" noFaults pairSession).1 = "" ↔
            ∀ item ∈ [pairCIDR], ∀ network ones, ¬ OffersBlock "n" item network ones)) ∧
      ∀ item ∈ [pairCIDR], ∀ network ones, OffersBlock "n" item network ones →
        (IPNet.v4 network ones).contains (network + 1) = true ∧ network + 1 ≠ network ∧
          octet network 0 + 1 < 256 ∧ incrementLastByte network = network + 1 := by
  apply determineGatewayIP_chosen (by decide) ((list_noFaults _ _ _ _).trans (by rfl))
  intro item listed
  obtain rfl := List.mem_singleton.mp listed
  have parsed : parseCIDR (specIP4CIDR pairCIDR) = some (.v4 (ofOctets 10 0 0 8) 31) := by decide
  rintro ⟨ip, ones, mapped, -⟩
  cases parsed.symm.trans mapped

end GemEmulation.Operator
