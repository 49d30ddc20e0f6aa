import GemEmulation.Api.Turns

/-!
# Done-callbacks, cancellations and the life cycle

The two ways in which an operation ends outside its pipeline.
-/

namespace GemEmulation.Api

open Foundations

variable {env : Environment} {state next : State} {reference id : Nat} {operationId : String}

namespace State

theorem find?_eq_some {found : Nat × OperationRecord} :
    state.find? operationId = some found ↔
      state.operations.get? operationId = some found.1 ∧
        state.records.get? found.1 = some found.2 := by
  obtain ⟨id, record⟩ := found
  simp only [find?, Option.bind_eq_some_iff, Option.map_eq_some_iff, Prod.mk.injEq]
  constructor
  · rintro ⟨_, listed, _, stored, rfl, rfl⟩
    exact ⟨listed, stored⟩
  · rintro ⟨listed, stored⟩
    exact ⟨id, listed, record, stored, rfl, rfl⟩

theorem life_of_record {record : OperationRecord} (stored : state.records.get? id = some record) :
    state.life id = some record.life := by
  simp [life, stored]

end State

def Life.finish (status : OperationStatus) (life : Life) : Life :=
  { life with status, completed := true }

theorem lifeChange_overwrite {record final : OperationRecord} {status : OperationStatus}
    (stored : state.records.get? id = some record)
    (finished : final.life = record.life.finish status) :
    Lifecycle.LifeChange id (Life.finish status) state
      (state.modifyRecord id fun _ => final) where
  operations := rfl
  tasks := rfl
  handlers := rfl
  holder := rfl
  life other := by
    rw [State.life_modifyRecord, State.life_of_record stored]
    simp [stored, finished]

namespace Lifecycle

theorem finish {running : Option Nat} (lifecycle : Lifecycle running state)
    {record final : OperationRecord} {status : OperationStatus}
    (stored : state.records.get? id = some record)
    (finished : final.life = record.life.finish status) (terminal : status.terminal = true)
    (retired : ∀ reference task, record.task = some reference → running ≠ some reference →
      state.tasks.get? reference = some task → task.able = false)
    (settled : ∀ handler request line call,
      state.handlers.get? handler ≠ some (.initialising request id line call)) :
    Lifecycle running (state.modifyRecord id fun _ => final) := by
  have only : ∀ life, state.life id = some life → life = record.life := fun life found =>
    Option.some.inj (found.symm.trans (State.life_of_record stored))
  refine lifecycle.changeLife (lifeChange_overwrite stored finished) (fun _ => ⟨rfl, rfl, rfl⟩)
    ?_ (fun _ _ => by simp [Life.finish, terminal]) ?_ settled
  · intro life _ active
    have still : status.active = true := active
    rw [OperationStatus.terminal_eq_not_active, still] at terminal
    cases terminal
  · intro life reference task found owner exempted taskFound able
    obtain rfl := only life found
    simp [retired reference task owner exempted taskFound] at able

/-- The record of a task that is not terminal is the one that its callback finds. -/
theorem find?_of_active (lifecycle : Lifecycle none state) {task : Task} {life : Life}
    (found : state.tasks.get? reference = some task) (attachedTo : task.attachedTo = some id)
    (lifeFound : state.life id = some life) (active : life.status.active = true) :
    ∃ record, state.find? task.pipeline.operationId = some (id, record) ∧
      record.life = life := by
  obtain ⟨_, other, otherLife, otherTo, otherFound, _, same⟩ :=
    lifecycle.attached reference task found
  obtain rfl := Option.some.inj (attachedTo.symm.trans otherTo)
  obtain rfl := Option.some.inj (lifeFound.symm.trans otherFound)
  obtain ⟨record, stored, rfl⟩ := Option.map_eq_some_iff.mp lifeFound
  exact ⟨record, State.find?_eq_some.mpr ⟨same ▸ lifecycle.current id _ lifeFound active, stored⟩,
    rfl⟩

end Lifecycle

/-- The status that a done-callback gives an operation which is still active. -/
def Outcome.status : Outcome → OperationStatus
  | .cancelled => .cancelled
  | .returned | .raised _ => .failed

theorem life_finalizeRecord (operationId now : String) (outcome : Outcome)
    (record : OperationRecord) :
    (finalizeRecord operationId outcome now record).life =
      record.life.finish outcome.status := by
  cases outcome <;> rfl

/-- A done-callback ends the record of its task, or leaves everything as it is. -/
theorem finalizeTask_cases (env : Environment) (operationId : String) (reference : Nat)
    (outcome : Outcome) (state : State) :
    (state.finalizeTask env operationId reference outcome = state ∧
      ∀ id record, state.find? operationId = some (id, record) →
        record.task = some reference → record.status.terminal = true) ∨
    ∃ id record, state.find? operationId = some (id, record) ∧
      record.task = some reference ∧ record.status.terminal = false ∧
      (state.modifyRecord id fun _ =>
        finalizeRecord operationId outcome state.clock record).SameLife
        (state.finalizeTask env operationId reference outcome) := by
  unfold State.finalizeTask
  split
  next absent => exact .inl ⟨rfl, by simp [absent]⟩
  next id record found =>
    split
    next skipped =>
      refine .inl ⟨rfl, fun other otherRecord otherFound owner => ?_⟩
      obtain ⟨rfl, rfl⟩ := Prod.mk.inj (Option.some.inj (found.symm.trans otherFound))
      simpa [owner] using skipped
    next ended =>
      simp only [Bool.or_eq_true, decide_eq_true_eq, not_or, ne_eq, not_not,
        Bool.not_eq_true] at ended
      refine .inr ⟨id, record, found, ended.1, ended.2, ?_⟩
      have logged := State.sameLife_appendLog env
        (state.modifyRecord id fun _ => finalizeRecord operationId outcome state.clock record)
        operationId
        ((finalizeRecord operationId outcome state.clock record).message.getD "")
      dsimp only
      split
      next equality => rwa [equality] at logged
      next equality =>
        rw [equality] at logged
        exact logged.trans (State.sameLife_publish _ id none)

namespace Lifecycle

theorem runCallback {task : Task} (lifecycle : Lifecycle none state)
    (found : state.tasks.get? reference = some task)
    (ran : state.runCallback env reference task = some next) : Lifecycle none next := by
  unfold State.runCallback at ran
  split at ran
  next outcome isOver =>
    split at ran
    next =>
      cases ran
      have idle : task.able = false := by simp [Task.able, isOver, Point.isFinished]
      have closing {mid : State} (kept : Lifecycle none mid)
          (same : mid.tasks = state.tasks)
          (ended : ∀ id life, task.attachedTo = some id → mid.life id = some life →
            life.status.terminal = true) :
          Lifecycle none (mid.modifyTask reference fun task =>
            { task with callbackRan := true }) := by
        refine kept.changeTask ⟨rfl, rfl, rfl, rfl, rfl⟩ (fun _ => ⟨rfl, rfl⟩) (by simp) ?_ ?_
        · intro other id life otherFound attachedTo lifeFound _ able
          exact kept.able reference other id life (by simp) otherFound able attachedTo lifeFound
        · intro other id life otherFound attachedTo lifeFound _
          rw [same] at otherFound
          obtain rfl := Option.some.inj (found.symm.trans otherFound)
          exact ended id life attachedTo lifeFound
      obtain ⟨unchanged, already⟩ | ⟨id, record, listed, owner, active, same⟩ :=
        finalizeTask_cases env task.pipeline.operationId reference outcome state
      · rw [unchanged]
        apply closing lifecycle rfl
        intro id life attachedTo lifeFound
        by_contra notTerminal
        obtain ⟨record, listed, rfl⟩ := lifecycle.find?_of_active found attachedTo lifeFound
          (OperationStatus.active_of_not_terminal notTerminal)
        obtain ⟨_, other, otherLife, otherTo, otherFound, owner, _⟩ :=
          lifecycle.attached reference task found
        obtain rfl := Option.some.inj (attachedTo.symm.trans otherTo)
        obtain rfl := Option.some.inj (lifeFound.symm.trans otherFound)
        exact notTerminal (already id record listed owner)
      · obtain ⟨_, stored⟩ := State.find?_eq_some.mp listed
        have ending := life_finalizeRecord task.pipeline.operationId state.clock outcome record
        have terminal : outcome.status.terminal = true := by cases outcome <;> rfl
        have lifeFound := State.life_of_record stored
        have kept := (lifecycle.finish stored ending terminal
          (fun other otherTask otherOwner _ otherFound => by
            obtain rfl := Option.some.inj (owner.symm.trans otherOwner)
            obtain rfl := Option.some.inj (found.symm.trans otherFound)
            exact idle)
          (lifecycle.settled_of_task lifeFound owner)).of_sameLife same
        apply closing kept same.tasks
        intro other life attachedTo otherFound
        obtain ⟨owned, ownedFound, ownedTo⟩ := lifecycle.owned id _ reference lifeFound owner
        obtain rfl := Option.some.inj (found.symm.trans ownedFound)
        obtain rfl := Option.some.inj (attachedTo.symm.trans ownedTo)
        rw [same.life, (lifeChange_overwrite stored ending).life] at otherFound
        simp only [if_true, lifeFound, Option.map_some, Option.some.injEq] at otherFound
        rw [← otherFound]
        exact terminal
    next => contradiction
  next => contradiction

end Lifecycle

theorem sameLife_terminateProcess (process : Option Nat) (state : State) :
    state.SameLife (state.terminateProcess process) := by
  unfold State.terminateProcess
  split
  next => exact .refl state
  next =>
    split
    next => exact ⟨⟨rfl, rfl, rfl, rfl, rfl⟩, rfl⟩
    next => exact .refl state

/-- A cancellation ends the record of its operation and cancels the record's task, or
leaves everything as it is. -/
theorem cancelOperation_cases (env : Environment) (operationId : String) (state : State) :
    ((state.cancelOperation env operationId).1 = state ∧
      ∀ id record, state.find? operationId = some (id, record) →
        record.status.terminal = true) ∨
    ∃ id record, state.find? operationId = some (id, record) ∧
      record.status.terminal = false ∧
      (((state.modifyRecord id fun _ =>
        cancelRecord operationId state.clock record).terminateProcess
          record.process).cancelTask record.task).SameLife
        (state.cancelOperation env operationId).1 := by
  unfold State.cancelOperation
  split
  next absent => exact .inl ⟨rfl, by simp [absent]⟩
  next id record found =>
    split
    next terminal =>
      refine .inl ⟨rfl, fun other otherRecord otherFound => ?_⟩
      obtain ⟨rfl, rfl⟩ := Prod.mk.inj (Option.some.inj (found.symm.trans otherFound))
      exact terminal
    next goesOn =>
      refine .inr ⟨id, record, found, by simpa using goesOn, ?_⟩
      have logged := State.sameLife_appendLog env
        (((state.modifyRecord id fun _ =>
          cancelRecord operationId state.clock record).terminateProcess
            record.process).cancelTask record.task)
        operationId s!"[{state.clock}] Operation cancelled by user request."
      dsimp only
      split
      next equality => rwa [equality] at logged
      next equality =>
        rw [equality] at logged
        exact logged.trans (State.sameLife_publish _ id none)

theorem cancelTask_frame (task : Option Nat) (state : State) :
    (state.cancelTask task).operations = state.operations ∧
      (state.cancelTask task).handlers = state.handlers ∧
      (state.cancelTask task).life = state.life := by
  cases task <;> exact ⟨rfl, rfl, rfl⟩

/-- A cancellation keeps the table and the handlers, and ends one life at most. -/
theorem cancelOperation_change (env : Environment) (operationId : String) (state : State) :
    (state.cancelOperation env operationId).1.operations = state.operations ∧
    (state.cancelOperation env operationId).1.handlers = state.handlers ∧
    ((state.cancelOperation env operationId).1.life = state.life ∨
      ∃ id life, state.life id = some life ∧ life.status.terminal = false ∧
        ∀ other, (state.cancelOperation env operationId).1.life other =
          if other = id then some (life.finish .cancelled) else state.life other) := by
  obtain ⟨unchanged, _⟩ | ⟨id, record, found, goesOn, same⟩ :=
    cancelOperation_cases env operationId state
  · rw [unchanged]
    exact ⟨rfl, rfl, .inl rfl⟩
  · obtain ⟨_, stored⟩ := State.find?_eq_some.mp found
    have finished : (cancelRecord operationId state.clock record).life =
        record.life.finish .cancelled := rfl
    have changed := lifeChange_overwrite stored finished
    have stopped := sameLife_terminateProcess record.process
      (state.modifyRecord id fun _ => cancelRecord operationId state.clock record)
    have lifeFound := State.life_of_record stored
    obtain ⟨operations, handlers, life⟩ := cancelTask_frame record.task
      ((state.modifyRecord id fun _ =>
        cancelRecord operationId state.clock record).terminateProcess record.process)
    refine ⟨same.operations.trans (operations.trans stopped.operations),
      same.handlers.trans (handlers.trans stopped.handlers),
      .inr ⟨id, _, lifeFound, goesOn, fun other => ?_⟩⟩
    rw [same.life, life, stopped.life, changed.life, lifeFound]
    rfl

namespace Lifecycle

theorem cancelTask {task : Option Nat} (lifecycle : Lifecycle task state) :
    Lifecycle none (state.cancelTask task) := by
  cases task with
  | none => exact lifecycle
  | some reference =>
      refine lifecycle.changeTask ⟨rfl, rfl, rfl, rfl, rfl⟩ (fun _ => ⟨rfl, rfl⟩) ?_ ?_ ?_
      · intro other _ different same
        exact different (Option.some.inj same).symm
      · intro task id life _ _ _ _ able
        simp only [Task.able, Bool.and_eq_true, Bool.not_eq_true', Bool.or_eq_false_iff,
          Bool.not_eq_false'] at able
        simp [able.1.2] at able
      · exact fun task id life found attachedTo lifeFound ran =>
          lifecycle.ran reference task id life found ran attachedTo lifeFound

theorem cancelOperation (lifecycle : Lifecycle none state)
    (free : state.lock.holder = none) :
    Lifecycle none (state.cancelOperation env operationId).1 := by
  obtain ⟨unchanged, _⟩ | ⟨id, record, found, _, same⟩ :=
    cancelOperation_cases env operationId state
  · rwa [unchanged]
  · obtain ⟨_, stored⟩ := State.find?_eq_some.mp found
    have finished : (cancelRecord operationId state.clock record).life =
        record.life.finish .cancelled := rfl
    have ended := (lifecycle.exempt record.task).finish stored finished rfl
      (fun reference task owner exempted _ => absurd owner exempted)
      (lifecycle.settled_of_free free id)
    exact ((ended.of_sameLife (sameLife_terminateProcess record.process _)).cancelTask).of_sameLife
      same

end Lifecycle

end GemEmulation.Api
