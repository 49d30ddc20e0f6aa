import GemEmulation.Operator.Gateway.Vip
import GemEmulation.Operator.PodMutator.Kept

/-!
# Gateway VIPs and Pod addresses

The Gateway controller and the Pod allocator choose the relevant
GKEGatewayCIDRs on their own.  The controller also accepts one that is merely
named like the Network, and an IPv4-mapped block of which the allocator
excludes the first address only; a VIP from those may be given to a Pod.
-/

namespace GemEmulation.Operator

open Foundations Foundations.Json Kube Net

/-- The allocator recognises a GKEGatewayCIDR: its spec names the Network, and
its block is written in IPv4 notation. -/
def Recognised (networkName : String) (item : Unstructured) : Prop :=
  specNetwork item = networkName ∧ ∃ network ones,
    parseCIDR (specIP4CIDR item) = some (.v4 network ones)

theorem blockVIP_excluded {ip4cidr : String} {vip network : IPv4} {ones : Nat}
    (offered : blockVIP ip4cidr = some vip)
    (parsed : parseCIDR ip4cidr = some (.v4 network ones)) :
    dottedQuad vip ∈ excludeIPRangeOrCIDR ip4cidr := by
  have numeric := parseCIDR_numeric parsed
  have trimmed := Text.trimSpace_eq_self fun c membership => (numeric c membership).visible
  have noDash : '-' ∉ ip4cidr.toList := fun dash => (numeric '-' dash).ne_dash rfl
  have dotted : DottedBlock ip4cidr := by
    intro ip ones isBlock
    rw [trimmed, parsed] at isBlock
    cases isBlock
  rw [mem_excludeIPRangeOrCIDR dotted, trimmed]
  have masked := (parseCIDR_v4 parsed).1
  unfold blockVIP at offered
  split at offered
  next => contradiction
  next =>
    simp only [parsed, IPNet.to4, Option.bind_eq_bind, Option.bind_some] at offered
    split at offered
    next inside =>
      cases offered
      rw [IPNet.contains, decide_eq_true_eq, masked] at inside
      exact .block noDash parsed inside.symm
    next => contradiction

/-- The allocator keeps the VIP of a recognised GKEGatewayCIDR from Pods. -/
theorem recognised_excludes {networkName : String} {item : Unstructured} {vip : IPv4}
    (recognised : Recognised networkName item) (offered : offeredVIP networkName item = some vip) :
    dottedQuad vip ∈ excludeGatewayCIDR networkName item := by
  obtain ⟨named, network, ones, parsed⟩ := recognised
  have block : blockVIP (specIP4CIDR item) = some vip := by
    simpa [offeredVIP, named] using offered
  have nonempty : specIP4CIDR item ≠ "" := by
    intro empty
    simp [blockVIP, empty] at block
  simpa [excludeGatewayCIDR, named, nonempty] using blockVIP_excluded block parsed

/-- A VIP drawn from a GKEGatewayCIDR is never given to a Pod exactly when the
allocator keeps the address, which it does when it recognises that GKEGatewayCIDR. -/
theorem vip_neverAllocated_iff {gw : Unstructured} {netName : String} {session : Session}
    {vip : IPv4} (notStatic : staticAddress gw = none)
    (picked : (determineGatewayIP gw netName noFaults session).1 = dottedQuad vip) :
    ∃ item, drawnFrom session.cluster netName = some item ∧
      (Recognised netName item → KeptFromPods session.cluster netName vip) ∧
      ((∀ inUseSet ipWithPrefix inUse,
        (allocateSecondaryIP netName inUseSet noFaults session).1 = .ok (ipWithPrefix, inUse) →
          cleanIP ipWithPrefix ≠ dottedQuad vip) ↔
        KeptFromPods session.cluster netName vip) := by
  obtain ⟨item, drawn, offered⟩ := determineGatewayIP_drawn notStatic picked
  have listed : item ∈ (session.cluster .gkeGatewayCIDR).list := List.mem_of_find?_eq_some drawn
  exact ⟨item, drawn, fun recognised => .block listed (recognised_excludes recognised offered),
    neverAllocated_iff netName session vip⟩

/-- A GKEGatewayCIDR named like the Network `n` whose spec names another. -/
def misnamedGatewayCIDR (network : String) : Unstructured where
  metadata := { key := ⟨"", "n"⟩ }
  body := [("spec", .map [("network", .string network), ("ip4cidr", .string "10.0.0.10/31")])]

/-- The Network `n` with one GKEGatewayCIDR. -/
def vipSession (network : String) : Session where
  cluster := ((∅ : Cluster).put .network {
      metadata := { key := ⟨"", "n"⟩ }
      body := [("spec", .map [("gateway4", .string "10.0.0.1")])] }).put .gkeGatewayCIDR
    (misnamedGatewayCIDR network)
  now := ""

def plainGateway : Unstructured where
  metadata := { key := ⟨"default", "g"⟩ }
  body := []

theorem vip_allocated :
    staticAddress plainGateway = none ∧
      (determineGatewayIP plainGateway "n" noFaults (vipSession "m")).1 = "10.0.0.11" ∧
        (allocateSecondaryIP "n" ["10.0.0.10"] noFaults (vipSession "m")).1 =
          .ok ("10.0.0.11/24", ["10.0.0.10", "10.0.0.11"]) := by
  decide

theorem vip_neverAllocated_recognised :
    ∃ item, drawnFrom (vipSession "n").cluster "n" = some item ∧
      (Recognised "n" item → KeptFromPods (vipSession "n").cluster "n" (ofOctets 10 0 0 11)) ∧
      ((∀ inUseSet ipWithPrefix inUse,
        (allocateSecondaryIP "n" inUseSet noFaults (vipSession "n")).1 =
          .ok (ipWithPrefix, inUse) →
            cleanIP ipWithPrefix ≠ dottedQuad (ofOctets 10 0 0 11)) ↔
        KeptFromPods (vipSession "n").cluster "n" (ofOctets 10 0 0 11)) :=
  vip_neverAllocated_iff (show staticAddress plainGateway = none by decide)
    (by decide)

end GemEmulation.Operator
