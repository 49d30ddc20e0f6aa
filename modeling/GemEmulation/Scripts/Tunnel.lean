import GemEmulation.Foundations.Text
import GemEmulation.Scripts.Shell
import Mathlib.Data.List.Nodup
import Mathlib.Data.List.Perm.Basic

/-!
# Tunnels

How the tunnel script turns its forwarding specs into the forwards of one `ssh`
command.  A spec without a local port takes the next one of its protocol.
-/

namespace GemEmulation.Scripts.Tunnel

open Shell

/-- The end of the script before its command: its exit code and what it echoes. -/
structure Failure where
  code : Nat
  message : String
  deriving DecidableEq, Repr

/-- What `kubectl` prints about a service: its load balancer's address and the addresses of its
ready endpoints, empty when the call fails. -/
structure Kubectl where
  ingressIp : String → String → String
  readyEndpoints : String → String → String

structure Forward where
  localPort : String
  remoteIp : String
  remotePort : String
  deriving DecidableEq, Repr

/-- `REMOTE` and `LOCAL_PORT_OR_EMPTY`. -/
def parseSpec (spec : String) : String × String :=
  (beforeFirst '=' spec, if '=' ∈ spec.toList then afterFirst '=' spec else "")

/-- `^[0-9]+\.[0-9]+\.[0-9]+\.[0-9]+$`. -/
def isIpv4 (target : String) : Bool :=
  let parts := Text.split target '.'
  decide (parts.length = 4) && parts.all fun part =>
    !part.toList.isEmpty && part.toList.all fun c => (Text.decimalValue c).isSome

def resolveRemote (kubectl : Kubectl) (target : String) : Except Failure String :=
  if isIpv4 target then .ok (substitution (target ++ "\n"))
  else if '/' ∉ target.toList then
    .error ⟨2, s!"\n🚫 ERROR: Target '{target}' is invalid. Endpoint must be specified as an\n" ++
      "   IPv4 address or <namespace>/<service-name>\n"⟩
  else
    let ns := beforeFirst '/' target
    let svcName := afterLast '/' target
    let ip := substitution (kubectl.ingressIp svcName ns)
    if ip = "" ∨ ip = "null" then
      .error ⟨2, s!"\n🚫 ERROR: Could not resolve LoadBalancer VIP for K8s service '{target}' " ++
        "via kubectl.\n"⟩
    else
      let readyEndpoints := substitution (kubectl.readyEndpoints svcName ns)
      -- The warning's empty line goes to the output that the caller takes the address from.
      let warning := if readyEndpoints = "" then "\n" else ""
      .ok (substitution (warning ++ ip ++ "\n"))

def remoteEnd (defaultRemotePort remote spec : String) : Except Failure (String × String) :=
  if ':' ∈ remote.toList then .ok (beforeLast ':' remote, afterLast ':' remote)
  else if defaultRemotePort ≠ "" then .ok (remote, defaultRemotePort)
  else
    .error ⟨2, s!"🚫 ERROR: --tunnel expects <ip|ns/service>:<port>[=<localport>], got '{spec}'"⟩

/-- `${LOCAL_PORT_OR_EMPTY:-$((next_local_port++))}`, and the counter after it. -/
def assignPort (localPortOrEmpty : String) (nextLocalPort : Nat) : String × Nat :=
  if localPortOrEmpty = "" then (toString nextLocalPort, nextLocalPort + 1)
  else (localPortOrEmpty, nextLocalPort)

def processSpecs (kubectl : Kubectl) (defaultRemotePort : String) :
    Nat → List String → Except Failure (List Forward)
  | _, [] => .ok []
  | nextLocalPort, spec :: rest => do
      let parsed := parseSpec spec
      let (rawIp, remotePort) ← remoteEnd defaultRemotePort parsed.1 spec
      let remoteIp ← resolveRemote kubectl rawIp
      let assigned := assignPort parsed.2 nextLocalPort
      let others ← processSpecs kubectl defaultRemotePort assigned.2 rest
      .ok (⟨assigned.1, remoteIp, remotePort⟩ :: others)

structure Specs where
  http : List String
  rdp : List String
  ssh : List String
  vnc : List String
  tunnel : List String

structure Protocol where
  defaultRemotePort : String
  firstLocalPort : Nat
  specs : List String

def Specs.protocols (specs : Specs) : List Protocol :=
  [⟨"80", 8080, specs.http⟩,
    ⟨"3389", 13389, specs.rdp⟩,
    ⟨"22", 2222, specs.ssh⟩,
    ⟨"5900", 15900, specs.vnc⟩,
    ⟨"", 9000, specs.tunnel⟩]

def forwards (kubectl : Kubectl) : List Protocol → Except Failure (List Forward)
  | [] => .ok []
  | protocol :: rest => do
      let first ← processSpecs kubectl protocol.defaultRemotePort protocol.firstLocalPort
        protocol.specs
      let others ← forwards kubectl rest
      .ok (first ++ others)

def givenPort (spec : String) : String := (parseSpec spec).2

def explicitPorts (specs : List String) : List String :=
  (specs.map givenPort).filter fun port => decide (port ≠ "")

def automaticCount (specs : List String) : Nat :=
  specs.countP fun spec => decide (givenPort spec = "")

def Protocol.automatic (protocol : Protocol) : List Nat :=
  List.range' protocol.firstLocalPort (automaticCount protocol.specs)

theorem bind_eq_ok {First Result : Type} {first : Except Failure First}
    {rest : First → Except Failure Result} {result : Result}
    (ok : first >>= rest = .ok result) : ∃ value, first = .ok value ∧ rest value = .ok result := by
  cases first with
  | error failure => cases ok
  | ok value => exact ⟨value, rfl, ok⟩

/-- One protocol's forwards have the given ports and the next ones of its own. -/
theorem processSpecs_localPorts {kubectl : Kubectl} {defaultRemotePort : String}
    {next : Nat} {specs : List String} {result : List Forward}
    (processed : processSpecs kubectl defaultRemotePort next specs = .ok result) :
    (result.map Forward.localPort).Perm
      (explicitPorts specs ++ (List.range' next (automaticCount specs)).map toString) := by
  induction specs generalizing next result with
  | nil =>
      cases processed
      exact .nil
  | cons spec others inductionHypothesis =>
      obtain ⟨⟨rawIp, remotePort⟩, -, resolving⟩ := bind_eq_ok processed
      obtain ⟨remoteIp, -, assigning⟩ := bind_eq_ok resolving
      obtain ⟨rest, continued, made⟩ := bind_eq_ok assigning
      cases made
      have assigned := inductionHypothesis continued
      rw [List.map_cons]
      by_cases automatic : givenPort spec = ""
      · have port : assignPort (parseSpec spec).2 next = (toString next, next + 1) :=
          if_pos automatic
        have counted : automaticCount (spec :: others) = automaticCount others + 1 :=
          List.countP_cons_of_pos (by simpa using automatic)
        have explicit : explicitPorts (spec :: others) = explicitPorts others :=
          List.filter_cons_of_neg (by simpa using automatic)
        rw [port] at assigned
        rw [counted, explicit, List.range'_succ, List.map_cons, port]
        exact (assigned.cons _).trans List.perm_middle.symm
      · have port : assignPort (parseSpec spec).2 next = (givenPort spec, next) := if_neg automatic
        have counted : automaticCount (spec :: others) = automaticCount others :=
          List.countP_cons_of_neg (by simpa using automatic)
        have explicit : explicitPorts (spec :: others) = givenPort spec :: explicitPorts others :=
          List.filter_cons_of_pos (by simpa using automatic)
        rw [port] at assigned
        rw [counted, explicit, List.cons_append, port]
        exact assigned.cons _

/-- The forwards have the given ports and the next ones of each protocol. -/
theorem forwards_localPorts {kubectl : Kubectl} {protocols : List Protocol}
    {result : List Forward} (generated : forwards kubectl protocols = .ok result) :
    (result.map Forward.localPort).Perm
      (protocols.flatMap (fun protocol => explicitPorts protocol.specs) ++
        (protocols.flatMap Protocol.automatic).map toString) := by
  induction protocols generalizing result with
  | nil =>
      cases generated
      exact .nil
  | cons protocol rest inductionHypothesis =>
      obtain ⟨first, processed, continuing⟩ := bind_eq_ok generated
      obtain ⟨others, continued, made⟩ := bind_eq_ok continuing
      cases made
      rw [List.map_append, List.flatMap_cons, List.flatMap_cons, List.map_append]
      apply ((processSpecs_localPorts processed).append (inductionHypothesis continued)).trans
      rw [List.append_assoc, List.append_assoc]
      exact (List.perm_append_comm_assoc _ _ _).append_left _

def Apart (first second : Protocol) : Prop :=
  automaticCount first.specs = 0 ∨ automaticCount second.specs = 0 ∨
    first.firstLocalPort + automaticCount first.specs ≤ second.firstLocalPort ∨
      second.firstLocalPort + automaticCount second.specs ≤ first.firstLocalPort

theorem disjoint_automatic_iff (first second : Protocol) :
    List.Disjoint first.automatic second.automatic ↔ Apart first second := by
  rw [List.disjoint_left, Apart]
  simp only [Protocol.automatic, List.mem_range'_1, not_and, not_lt]
  constructor
  · intro disjoint
    by_contra overlap
    have shared := @disjoint (max first.firstLocalPort second.firstLocalPort)
    omega
  · intro apart port
    omega

theorem nodup_automatic_iff (protocols : List Protocol) :
    (protocols.flatMap Protocol.automatic).Nodup ↔ protocols.Pairwise Apart := by
  rw [List.nodup_flatMap]
  have ranges : ∀ protocol ∈ protocols, protocol.automatic.Nodup :=
    fun protocol _ => List.nodup_range'
  rw [and_iff_right ranges]
  exact List.Pairwise.iff fun {first second} => disjoint_automatic_iff first second

/-- When the given ports are distinct, all local ports are exactly when no given port is one that
a protocol hands out, and no two protocols hand out the same one. -/
theorem localPorts_nodup_iff {Port : Type} {read : String → Port}
    (readsNumbers : ∀ first second : Nat, read (toString first) = read (toString second) →
      first = second)
    {kubectl : Kubectl} {specs : Specs} {result : List Forward}
    (generated : forwards kubectl specs.protocols = .ok result)
    (distinct : ((specs.protocols.flatMap fun protocol =>
      explicitPorts protocol.specs).map read).Nodup) :
    ((result.map Forward.localPort).map read).Nodup ↔
      (∀ protocol ∈ specs.protocols, ∀ given ∈ explicitPorts protocol.specs,
        ∀ other ∈ specs.protocols, ∀ index < automaticCount other.specs,
          read given ≠ read (toString (other.firstLocalPort + index))) ∧
        specs.protocols.Pairwise Apart := by
  have injective : Function.Injective (read ∘ toString : Nat → Port) := readsNumbers
  have automatic : (((specs.protocols.flatMap Protocol.automatic).map toString).map read).Nodup ↔
      specs.protocols.Pairwise Apart := by
    rw [List.map_map, List.nodup_map_iff injective, nodup_automatic_iff]
  rw [((forwards_localPorts generated).map read).nodup_iff, List.map_append, List.nodup_append,
    and_iff_right distinct, automatic, and_comm]
  apply and_congr_left
  intro _
  simp only [List.mem_map, List.mem_flatMap, Protocol.automatic, List.mem_range']
  constructor
  · intro apart protocol listed given isGiven other otherListed index bound
    exact apart _ ⟨given, ⟨protocol, listed, isGiven⟩, rfl⟩ _
      ⟨_, ⟨_, ⟨other, otherListed, index, bound, by rw [Nat.one_mul]⟩, rfl⟩, rfl⟩
  · rintro apart _ ⟨given, ⟨protocol, listed, isGiven⟩, rfl⟩ _
      ⟨_, ⟨port, ⟨other, otherListed, index, bound, rfl⟩, rfl⟩, rfl⟩
    rw [Nat.one_mul]
    exact apart protocol listed given isGiven other otherListed index bound

/-- `--http 10.0.0.1 --tunnel 10.0.0.2:22=8080`. -/
def takenSpecs : Specs := ⟨["10.0.0.1"], [], [], [], ["10.0.0.2:22=8080"]⟩

def noServices : Kubectl := ⟨fun _ _ => "", fun _ _ => ""⟩

def takenForwards : List Forward :=
  [⟨"8080", "10.0.0.1", "80"⟩, ⟨"8080", "10.0.0.2", "22"⟩]

theorem takenPort_assigned :
    forwards noServices takenSpecs.protocols = .ok takenForwards ∧
      (takenSpecs.protocols.flatMap fun protocol => explicitPorts protocol.specs).Nodup ∧
      ¬ (takenForwards.map Forward.localPort).Nodup :=
  ⟨by rfl, by decide, by decide⟩

theorem localPorts_nodup_taken :
    ((takenForwards.map Forward.localPort).map id).Nodup ↔
      (∀ protocol ∈ takenSpecs.protocols, ∀ given ∈ explicitPorts protocol.specs,
        ∀ other ∈ takenSpecs.protocols, ∀ index < automaticCount other.specs,
          id given ≠ id (toString (other.firstLocalPort + index))) ∧
        takenSpecs.protocols.Pairwise Apart :=
  localPorts_nodup_iff (fun _ _ same => Text.repr_injective same)
    (show forwards noServices takenSpecs.protocols = .ok takenForwards by rfl) (by decide)

end GemEmulation.Scripts.Tunnel
