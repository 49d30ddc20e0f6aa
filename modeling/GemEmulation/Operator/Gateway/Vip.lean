import GemEmulation.Net.Block
import GemEmulation.Operator.Resources

/-!
# The address of a Gateway

`determineGatewayIP`: a static address from the Gateway's spec, or the first
host address of a block among the GKEGatewayCIDRs.
-/

namespace GemEmulation.Operator

open Foundations Kube Net

/-- The first of `spec.addresses`, if it has a value. -/
def staticAddress (gw : Unstructured) : Option String :=
  match nestedSlice gw.body ["spec", "addresses"] with
  | some (address :: _) => do
      let fields ← address.asMap
      let value ← textField fields "value"
      if value = "" then none else some value
  | _ => none

def blockVIP (ip4cidr : String) : Option IPv4 := do
  if ip4cidr = "" then none
  else
    let ipNet ← parseCIDR ip4cidr
    let baseIP ← ipNet.to4
    let allocIP := incrementLastByte baseIP
    if ipNet.contains allocIP then some allocIP else none

/-- The VIP that a GKEGatewayCIDR offers to a Network, which it may name in its
spec or by its own name. -/
def offeredVIP (networkName : String) (item : Unstructured) : Option IPv4 :=
  if specNetwork item = networkName ∨ item.key.name = networkName then
    blockVIP (specIP4CIDR item)
  else none

def determineGatewayIP (gw : Unstructured) (networkName : String) : Api String := do
  match staticAddress gw with
  | some value => pure value
  | none =>
      if networkName = "" then pure ""
      else
        match ← list .gkeGatewayCIDR with
        | .ok items => pure (((items.findSome? (offeredVIP networkName)).map dottedQuad).getD "")
        | .error _ => pure ""

def drawnFrom (cluster : Cluster) (networkName : String) : Option Unstructured :=
  (cluster .gkeGatewayCIDR).list.find? fun item => (offeredVIP networkName item).isSome

theorem findSome?_eq_find?_bind {Item Result : Type} (choose : Item → Option Result)
    (items : List Item) :
    items.findSome? choose = (items.find? fun item => (choose item).isSome).bind choose := by
  induction items with
  | nil => rfl
  | cons item rest inductionHypothesis =>
      cases chosen : choose item <;> simp [chosen, inductionHypothesis]

theorem determineGatewayIP_drawn {gw : Unstructured} {networkName : String} {session : Session}
    {vip : IPv4} (notStatic : staticAddress gw = none)
    (picked : (determineGatewayIP gw networkName noFaults session).1 = dottedQuad vip) :
    ∃ item, drawnFrom session.cluster networkName = some item ∧
      offeredVIP networkName item = some vip := by
  unfold determineGatewayIP at picked
  simp only [notStatic] at picked
  split at picked
  next => exact absurd picked.symm (dottedQuad_ne_empty vip)
  next =>
    simp only [Program.bind_apply, list_noFaults, Program.pure_apply, listed_all,
      findSome?_eq_find?_bind] at picked
    rw [drawnFrom]
    cases found : (session.cluster .gkeGatewayCIDR).list.find? fun item =>
        (offeredVIP networkName item).isSome with
    | none =>
        simp only [found, Option.bind_none, Option.map_none, Option.getD_none] at picked
        exact absurd picked.symm (dottedQuad_ne_empty vip)
    | some item =>
        have offering := (List.find?_eq_some_iff_append.mp found).1
        obtain ⟨offered, offers⟩ := Option.isSome_iff_exists.mp offering
        simp only [found, Option.bind_some, offers, Option.map_some, Option.getD_some,
          dottedQuad_inj] at picked
        exact ⟨item, rfl, picked ▸ offers⟩

end GemEmulation.Operator
