import GemEmulation.Api.Lifecycle

/-!
# Turns of tasks and the life cycle

A task that may go on drives its record: the record is active and in the table.
Its turns keep the life cycle's invariant, provided that the line which
`run_cluster_create` logs after its success can be logged.
-/

namespace GemEmulation.Api

open Foundations

theorem getLogFilePath_eq_none {operationId : String} {call : LogCall} :
    getLogFilePath operationId call = none ↔
      validOperationId operationId = true ∧ call.directory = none ∧ call.contained = true := by
  unfold getLogFilePath
  cases valid : validOperationId operationId <;> cases found : call.directory <;>
    simp

def LogCall.findsPath (call : LogCall) : Bool := call.directory.isNone && call.contained

/-- `append_log` raises only when the path of the log file is not found. -/
theorem appendLog_raises_nothing {env : Environment} {operationId : String} {state : State}
    (valid : validOperationId operationId = true)
    (found : (env.logCall state.logCalls).findsPath = true) (line : String) :
    (state.appendLog env operationId line).2 = none := by
  have path : getLogFilePath operationId (env.logCall state.logCalls) = none := by
    simp only [LogCall.findsPath, Bool.and_eq_true, Option.isNone_iff_eq_none] at found
    exact getLogFilePath_eq_none.mpr ⟨valid, found⟩
  simp only [State.appendLog]
  split
  next => rfl
  next =>
    split
    next => rfl
    next => rw [path]

/-- A task drives a record: it is the record's task, and the record is active and in
the table. -/
structure Drives (reference id : Nat) (operationId : String) (state : State) : Prop where
  listed : state.operations.get? operationId = some id
  life : ∃ life, state.life id = some life ∧ life.task = some reference ∧
    life.status.active = true

variable {env : Environment} {state next : State} {reference id : Nat} {operationId : String}

theorem Drives.of_sameLife (drives : Drives reference id operationId state)
    (same : state.SameLife next) : Drives reference id operationId next where
  listed := same.operations ▸ drives.listed
  life := same.life ▸ drives.life

theorem lifeChange_updateOperation (change : Change)
    (listed : state.operations.get? operationId = some id) :
    Lifecycle.LifeChange id (Life.update change) state
      (state.updateOperation operationId change).1 := by
  have same := State.sameTable_updateOperation state operationId change
  exact ⟨same.operations, same.tasks, same.handlers, same.holder,
    State.life_updateOperation change listed⟩

/-- An update by the running task keeps the invariant, also when it ends the record. -/
theorem Lifecycle.updateOperation (lifecycle : Lifecycle (some reference) state)
    (drives : Drives reference id operationId state) (change : Change)
    (consistent : ∀ life, state.life id = some life → life.status.active = true →
      (life.update change).completed = (life.update change).status.terminal) :
    Lifecycle (some reference) (state.updateOperation operationId change).1 := by
  obtain ⟨life, found, owner, active⟩ := drives.life
  have only : ∀ other, state.life id = some other → other = life := fun other otherFound =>
    Option.some.inj (otherFound.symm.trans found)
  refine lifecycle.changeLife (lifeChange_updateOperation change drives.listed)
    (fun _ => ⟨rfl, rfl, rfl⟩) ?_ ?_ ?_ (lifecycle.settled_of_task found owner)
  · intro other otherFound _
    exact only other otherFound ▸ active
  · intro other otherFound
    obtain rfl := only other otherFound
    exact consistent other found active
  · intro other task _ otherFound otherOwner exempted
    obtain rfl := only other otherFound
    exact absurd (owner.symm.trans otherOwner) exempted

theorem Drives.updateOperation (drives : Drives reference id operationId state)
    (change : Change) (running : change.status = none ∨ change.status = some .running) :
    Drives reference id operationId (state.updateOperation operationId change).1 where
  listed := by
    rw [(lifeChange_updateOperation change drives.listed).operations]
    exact drives.listed
  life := by
    obtain ⟨life, found, owner, active⟩ := drives.life
    refine ⟨life.update change, ?_, owner, ?_⟩
    · simp [State.life_updateOperation change drives.listed, found]
    · rcases running with unset | set
      · simpa [Life.update, unset] using active
      · simp [Life.update, set, OperationStatus.active]

/-- The elementary actions of a task that drives a record keep the invariant. -/
theorem Works.keeps (works : Works env operationId state next)
    (lifecycle : Lifecycle (some reference) state)
    (drives : Drives reference id operationId state) :
    Lifecycle (some reference) next ∧ Drives reference id operationId next := by
  induction works with
  | refl => exact ⟨lifecycle, drives⟩
  | @log middle line _ inductionHypothesis =>
      have same := State.sameLife_appendLog env middle operationId line
      exact ⟨inductionHypothesis.1.of_sameLife same, inductionHypothesis.2.of_sameLife same⟩
  | update change early running _ inductionHypothesis =>
      obtain ⟨kept, driving⟩ := inductionHypothesis
      refine ⟨kept.updateOperation driving change fun life found active => ?_,
        driving.updateOperation change running⟩
      have consistent := kept.completed id life found
      rw [OperationStatus.terminal_eq_not_active, active] at consistent
      rcases running with unset | set
      · simp [Life.update, early, unset, consistent, OperationStatus.terminal_eq_not_active,
          active]
      · simp [Life.update, early, set, consistent, OperationStatus.terminal]
  | @spawn middle process _ inductionHypothesis =>
      have same : middle.SameLife
          { middle with processes := middle.processes.alloc process } :=
        ⟨⟨rfl, rfl, rfl, rfl, rfl⟩, rfl⟩
      exact ⟨inductionHypothesis.1.of_sameLife same, inductionHypothesis.2.of_sameLife same⟩
  | @connect middle record process _ inductionHypothesis =>
      have same := State.sameLife_modifyRecord middle record
        (fun record => { record with process := some process }) fun _ => rfl
      exact ⟨inductionHypothesis.1.of_sameLife same, inductionHypothesis.2.of_sameLife same⟩

theorem Lifecycle.drives (lifecycle : Lifecycle none state) {task : Task}
    (found : state.tasks.get? reference = some task) (able : task.able = true) :
    ∃ id, task.attachedTo = some id ∧
      Drives reference id task.pipeline.operationId state := by
  obtain ⟨_, id, life, attachedTo, lifeFound, owner, same⟩ :=
    lifecycle.attached reference task found
  have active := lifecycle.able reference task id life (by simp) found able attachedTo lifeFound
  exact ⟨id, attachedTo, same ▸ lifecycle.current id life lifeFound active,
    life, lifeFound, owner, active⟩

theorem taskChange_suspend (reference : Nat) (point : Point) (state : State) :
    Lifecycle.TaskChange reference (fun task => { task with point }) state
      (state.suspend reference point) := by
  unfold State.suspend
  dsimp only
  split
  next => exact ⟨rfl, rfl, rfl, rfl, rfl⟩
  next => exact ⟨rfl, rfl, rfl, rfl, rfl⟩

/-- The running task may be suspended wherever it drives its record, or for good. -/
theorem Lifecycle.suspend {running : Option Nat} (lifecycle : Lifecycle running state)
    (other : ∀ task, running = some task → task = reference) {point : Point}
    (goesOn : ∀ task, state.tasks.get? reference = some task →
      Task.able { task with point } = true → ∃ id operationId,
        Drives reference id operationId state) :
    Lifecycle none (state.suspend reference point) := by
  refine lifecycle.changeTask (taskChange_suspend reference point state)
    (fun _ => ⟨rfl, rfl⟩) ?_ ?_ ?_
  · intro task _ different same
    exact different (other task same)
  · intro task id life found attachedTo lifeFound _ able
    obtain ⟨driven, operationId, drives⟩ := goesOn task found able
    obtain ⟨drivenLife, drivenFound, owner, active⟩ := drives.life
    obtain ⟨owned, ownedFound, drivenTo⟩ :=
      lifecycle.owned driven drivenLife reference drivenFound owner
    obtain rfl := Option.some.inj (found.symm.trans ownedFound)
    obtain rfl := Option.some.inj (attachedTo.symm.trans drivenTo)
    obtain rfl := Option.some.inj (lifeFound.symm.trans drivenFound)
    exact active
  · exact fun task id life found attachedTo lifeFound hasRun =>
      lifecycle.ran reference task id life found hasRun attachedTo lifeFound

theorem logCalls_updateOperation (state : State) (operationId : String) (change : Change) :
    (state.updateOperation operationId change).1.logCalls = state.logCalls := by
  unfold State.updateOperation
  split
  next => rfl
  next =>
    dsimp only
    split
    next =>
      unfold State.publish
      split <;> rfl
    next => rfl

theorem succeedPipeline_eq {pipeline : Pipeline}
    (listed : state.operations.get? pipeline.operationId = some id)
    (logs : pipeline.logCompletion = true →
      validOperationId pipeline.operationId = true ∧
      (env.logCall state.logCalls).findsPath = true) :
    succeedPipeline env pipeline state =
      (if pipeline.logCompletion then
        ((state.updateOperation pipeline.operationId (succeededChange pipeline)).1.appendLog env
          pipeline.operationId (completionLine state.clock)).1
      else (state.updateOperation pipeline.operationId (succeededChange pipeline)).1,
      .finished .returned) := by
  have silent : (state.updateOperation pipeline.operationId (succeededChange pipeline)).2 =
      none := by
    rw [State.updateOperation_listed _ listed]
  have calls := logCalls_updateOperation state pipeline.operationId (succeededChange pipeline)
  unfold succeedPipeline
  generalize state.updateOperation pipeline.operationId (succeededChange pipeline) = outcome
    at silent calls ⊢
  obtain ⟨updated, raised⟩ := outcome
  obtain rfl : raised = none := silent
  dsimp only at calls ⊢
  by_cases logged : pipeline.logCompletion = true
  · obtain ⟨valid, found⟩ := logs logged
    rw [← calls] at found
    have quiet := appendLog_raises_nothing valid found (completionLine state.clock)
    rw [if_pos logged, if_pos logged]
    generalize updated.appendLog env pipeline.operationId (completionLine state.clock) = result
      at quiet ⊢
    obtain ⟨final, second⟩ := result
    obtain rfl : second = none := quiet
    rfl
  · rw [if_neg logged, if_neg logged]

theorem recordFailure_eq {pipeline : Pipeline} (raised : Raised)
    (listed : state.operations.get? pipeline.operationId = some id) :
    recordFailure pipeline raised state =
      ((state.updateOperation pipeline.operationId (failedChange pipeline raised)).1,
        .finished .returned) := by
  have silent : (state.updateOperation pipeline.operationId
      (failedChange pipeline raised)).2 = none := by
    rw [State.updateOperation_listed _ listed]
  unfold recordFailure
  generalize state.updateOperation pipeline.operationId (failedChange pipeline raised) = outcome
    at silent ⊢
  obtain ⟨updated, second⟩ := outcome
  obtain rfl : second = none := silent
  rfl

theorem turn_finished {task : Task} (isOver : task.point.isFinished = true) (answer : Answer) :
    turn env reference task answer state = none := by
  cases point : task.point with
  | finished outcome => simp [turn, point]
  | _ => simp [point, Point.isFinished] at isOver

theorem sameLife_leaveQueue (state : State) (party : Party) :
    state.SameLife (state.leaveQueue party) := ⟨⟨rfl, rfl, rfl, rfl, rfl⟩, rfl⟩

def CompletionLogged (env : Environment) (state : State) (task : Task) : Prop :=
  task.point = .succeeding → task.pipeline.logCompletion = true →
    (env.logCall state.logCalls).findsPath = true

/-- A turn of a task that drives its record ends with the task suspended where it still
drives it, or for good. -/
theorem turn_keeps {task : Task} {answer : Answer} {point : Point}
    (lifecycle : Lifecycle (some reference) state)
    (drives : Drives reference id task.pipeline.operationId state)
    (valid : validOperationId task.pipeline.operationId = true)
    (logged : CompletionLogged env state task)
    (turned : turn env reference task answer state = some (next, point)) :
    Lifecycle (some reference) next ∧
      (point.isFinished = false → Drives reference id task.pipeline.operationId next) := by
  have final (change : Change) (status : OperationStatus) (ends : change.status = some status)
      (terminal : status.terminal = true) (completes : change.completed = true) :
      Lifecycle (some reference)
        (state.updateOperation task.pipeline.operationId change).1 :=
    lifecycle.updateOperation drives change fun life _ _ => by
      simp [Life.update, ends, terminal, completes]
  cases early : task.point.completes with
  | false =>
      obtain ⟨kept, driving⟩ := (turn_works early turned).keeps lifecycle drives
      exact ⟨kept, fun _ => driving⟩
  | true =>
      cases waits : task.point with
      | succeeding =>
          cases answer <;> simp only [turn, waits, reduceCtorEq] at turned
          rw [succeedPipeline_eq drives.listed fun line => ⟨valid, logged waits line⟩] at turned
          cases turned
          have recorded := final (succeededChange task.pipeline) .succeeded rfl rfl rfl
          refine ⟨?_, by simp [Point.isFinished]⟩
          split
          next => exact recorded.of_sameLife (State.sameLife_appendLog ..)
          next => exact recorded
      | failing raised =>
          cases answer <;> simp only [turn, waits, reduceCtorEq] at turned
          rw [recordFailure_eq raised drives.listed] at turned
          cases turned
          exact ⟨final (failedChange task.pipeline raised) .failed rfl rfl rfl,
            by simp [Point.isFinished]⟩
      | _ => simp [waits, Point.completes] at early

theorem cancelledTurn_sameLife {task : Task} {party : Party} {point : Point}
    (run : cancelledTurn task (state.leaveQueue party) = some (next, point)) :
    state.SameLife next := by
  unfold cancelledTurn at run
  split at run
  next =>
    cases run
    exact ⟨⟨rfl, rfl, rfl, rfl, rfl⟩, rfl⟩
  next =>
    obtain ⟨_, _, equality⟩ := Option.map_eq_some_iff.mp run
    cases equality
    exact sameLife_leaveQueue state party
  next => contradiction
  next =>
    cases run
    exact sameLife_leaveQueue state party

namespace Lifecycle

theorem taskTurn {task : Task} {answer : Answer} (lifecycle : Lifecycle none state)
    (found : state.tasks.get? reference = some task) (logged : CompletionLogged env state task)
    (turned : state.taskTurn env reference task answer = some next) : Lifecycle none next := by
  unfold State.taskTurn at turned
  split at turned
  next => contradiction
  next uncancelled =>
    split at turned
    next => contradiction
    next =>
      obtain ⟨⟨mid, point⟩, run, rfl⟩ := Option.map_eq_some_iff.mp turned
      have able : task.able = true := by
        cases isOver : task.point.isFinished with
        | false => simp [Task.able, isOver, uncancelled]
        | true => simp [turn_finished isOver] at run
      obtain ⟨id, _, drives⟩ := lifecycle.drives found able
      have same := sameLife_leaveQueue state (.task reference)
      obtain ⟨kept, driving⟩ := turn_keeps ((lifecycle.of_sameLife same).exempt (some reference))
        (drives.of_sameLife same) (lifecycle.attached reference task found).1 logged run
      apply kept.suspend (fun _ equality => (Option.some.inj equality).symm)
      intro _ _ goesOn
      have unfinished : point.isFinished = false := by
        simp only [Task.able, Bool.and_eq_true, Bool.not_eq_true'] at goesOn
        exact goesOn.2
      exact ⟨id, _, driving unfinished⟩

theorem taskCancelledTurn {task : Task} (lifecycle : Lifecycle none state)
    (found : state.tasks.get? reference = some task)
    (turned : state.taskCancelledTurn reference task = some next) : Lifecycle none next := by
  unfold State.taskCancelledTurn at turned
  split at turned
  next cancelled =>
    obtain ⟨⟨mid, point⟩, run, rfl⟩ := Option.map_eq_some_iff.mp turned
    have same := cancelledTurn_sameLife run
    apply (lifecycle.of_sameLife same).suspend (by simp)
    intro other otherFound goesOn
    rw [same.tasks] at otherFound
    obtain rfl := Option.some.inj (found.symm.trans otherFound)
    simp [Task.able, cancelled] at goesOn
  next => contradiction

end Lifecycle

end GemEmulation.Api
