import GemEmulation.Api.Overlap

/-!
# Registrations that fail

`register_operation` inserts its record before it asks for the log file's path and
waits for the thread that writes it.  It leaves the table alone when it fails only
if what stops it is a conflict.
-/

namespace GemEmulation.Api

open Foundations

variable {env : Environment} {state next : State} {operationId targetResource : String}

def SameOperations (state next : State) : Prop :=
  next.operations = state.operations ∧ ∀ key, next.find? key = state.find? key

/-- `register_operation`, from the lock on; `interrupted` when the handler is cancelled
while it waits for the thread. -/
def registerOperation (env : Environment) (operationId : String)
    (operationType : OperationType) (targetResource initialStep initialMessage : String)
    (interrupted : Bool) (state : State) : State × Except Raised Nat :=
  match state.beginRegistration env operationId operationType targetResource initialStep
      initialMessage with
  | (failed, .error raised) => (failed, .error raised)
  | (inserted, .ok (id, line, call)) =>
      if interrupted then (inserted, .error ⟨"CancelledError", ""⟩)
      else (inserted.finishRegistration operationId id line call, .ok id)

def Completes (env : Environment) (operationId : String) (interrupted : Bool)
    (state : State) : Prop :=
  getLogFilePath operationId (env.logCall state.logCalls) = none ∧ interrupted = false

/-- A registration that fails without a conflict leaves its queued record in the table. -/
theorem registerOperation_queues (env : Environment) (operationType : OperationType)
    (initialStep initialMessage : String) {interrupted : Bool}
    (vacant : state.conflict? targetResource = none)
    (stopped : ¬Completes env operationId interrupted state) :
    ∃ raised, (registerOperation env operationId operationType targetResource initialStep
        initialMessage interrupted state).2 = .error raised ∧
      (registerOperation env operationId operationType targetResource initialStep
        initialMessage interrupted state).1.find? operationId =
        some (state.records.fresh, state.newRecord env operationId operationType
          targetResource initialStep initialMessage) := by
  have inserted : ({ state with
      records := state.records.alloc (state.newRecord env operationId operationType
        targetResource initialStep initialMessage)
      operations := state.operations.set operationId state.records.fresh
      logCalls := state.logCalls + 1 } : State).find? operationId =
      some (state.records.fresh, state.newRecord env operationId operationType
        targetResource initialStep initialMessage) :=
    State.find?_eq_some.mpr ⟨by simp, Heap.get?_alloc_fresh ..⟩
  unfold registerOperation State.beginRegistration
  rw [vacant]
  dsimp only
  cases path : getLogFilePath operationId (env.logCall state.logCalls) with
  | some raised => exact ⟨raised, rfl, inserted⟩
  | none =>
      cases interrupted with
      | true => exact ⟨_, rfl, inserted⟩
      | false => exact absurd ⟨path, rfl⟩ stopped

theorem registerOperation_blocks (operationType : OperationType)
    (initialStep initialMessage : String) {interrupted : Bool}
    (vacant : state.conflict? targetResource = none)
    (stopped : ¬Completes env operationId interrupted state) :
    ((registerOperation env operationId operationType targetResource initialStep
      initialMessage interrupted state).1.conflict? targetResource).isSome = true := by
  obtain ⟨_, _, found⟩ := registerOperation_queues env operationType initialStep initialMessage
    vacant stopped
  obtain ⟨listed, stored⟩ := State.find?_eq_some.mp found
  unfold State.conflict?
  rw [List.findSome?_isSome_iff]
  refine ⟨_, (Dict.mem_values_iff ..).mpr ⟨operationId, listed⟩, ?_⟩
  simp [stored, Option.filter, State.newRecord, OperationStatus.active]

/-- A registration that raises leaves the table as it was exactly when a conflict stops it
or nothing does. -/
theorem registerOperation_atomic_iff (env : Environment) (operationId : String)
    (operationType : OperationType) (targetResource initialStep initialMessage : String)
    (interrupted : Bool) (state : State) :
    (∀ raised, (registerOperation env operationId operationType targetResource initialStep
        initialMessage interrupted state).2 = .error raised →
      SameOperations state (registerOperation env operationId operationType targetResource
        initialStep initialMessage interrupted state).1) ↔
    (state.conflict? targetResource).isSome = true ∨
      Completes env operationId interrupted state := by
  constructor
  · intro atomic
    by_contra stopped
    simp only [not_or, Bool.not_eq_true, Option.isSome_eq_false_iff, Option.isNone_iff_eq_none]
      at stopped
    obtain ⟨raised, raises, found⟩ :=
      registerOperation_queues env operationType initialStep initialMessage stopped.1 stopped.2
    have before := (atomic raised raises).2 operationId
    rw [found] at before
    have stored := (State.find?_eq_some.mp before.symm).2
    simp [Heap.get?_fresh] at stored
  · rintro (conflict | ⟨path, uninterrupted⟩) raised raises
    · obtain ⟨active, found⟩ := Option.isSome_iff_exists.mp conflict
      unfold registerOperation State.beginRegistration
      rw [found]
      exact ⟨rfl, fun _ => rfl⟩
    · unfold registerOperation State.beginRegistration at raises ⊢
      cases conflict : state.conflict? targetResource with
      | some active => exact ⟨rfl, fun _ => rfl⟩
      | none => simp [conflict, path, uninterrupted] at raises

def unwritable : Environment :=
  ⟨false, 10, fun _ => ⟨some ⟨"PermissionError", "[Errno 13] Permission denied"⟩, true, true,
    true⟩⟩

/-- The first registration of the workstation fails on the log directory, and its record
is in the table afterwards. -/
theorem registerOperation_leavesRecord :
    ¬∀ raised, (registerOperation unwritable workstationId .workstationCreate workstationId
        "Terraform Provisioning (1/2)" "Starting Admin Workstation build..." false
        (.initial "")).2 = .error raised →
      SameOperations (.initial "") (registerOperation unwritable workstationId
        .workstationCreate workstationId "Terraform Provisioning (1/2)"
        "Starting Admin Workstation build..." false (.initial "")).1 := by
  intro atomic
  have same := (atomic ⟨"PermissionError", "[Errno 13] Permission denied"⟩
    (by decide)).1
  have listed : ((registerOperation unwritable workstationId .workstationCreate workstationId
      "Terraform Provisioning (1/2)" "Starting Admin Workstation build..." false
      (.initial "")).1.operations.get? workstationId) = some 0 := by
    decide
  rw [same] at listed
  simp [State.initial] at listed

end GemEmulation.Api
