import GemEmulation.Api.Exclusive

/-!
# Terminal means final

A step changes the life of an active record only, so a terminal status stays.  A
pipeline whose operation was cancelled changes no record any more.
-/

namespace GemEmulation.Api

open Foundations Lifecycle

variable {env : Environment} {state middle next : State} {reference id : Nat}
  {operationId : String}

def LifeOnly (id : Nat) (state next : State) : Prop :=
  ∀ other, other ≠ id → next.life other = state.life other

theorem LifeOnly.of_sameLife (id : Nat) (same : state.SameLife next) : LifeOnly id state next :=
  fun other _ => congrFun same.life other

theorem LifeOnly.trans (first : LifeOnly id state middle) (second : LifeOnly id middle next) :
    LifeOnly id state next :=
  fun other different => (second other different).trans (first other different)

theorem LifeOnly.of_change {change : Life → Life}
    (changed : Lifecycle.LifeChange id change state next) : LifeOnly id state next :=
  fun other different => by rw [changed.life, if_neg different]

theorem Works.lifeOnly (works : Works env operationId state next)
    (listed : state.operations.get? operationId = some id) : LifeOnly id state next := by
  induction works with
  | refl => exact .of_sameLife id (.refl state)
  | @log middle line _ inductionHypothesis =>
      exact inductionHypothesis.trans
        (.of_sameLife id (State.sameLife_appendLog env middle operationId line))
  | @update middle change _ _ works inductionHypothesis =>
      have stillListed : middle.operations.get? operationId = some id := by
        rw [works.sameTable.operations, listed]
      exact inductionHypothesis.trans (.of_change (lifeChange_updateOperation change stillListed))
  | spawn process _ inductionHypothesis =>
      exact inductionHypothesis.trans
        (.of_sameLife id ⟨⟨rfl, rfl, rfl, rfl, rfl⟩, rfl⟩)
  | @connect middle record process _ inductionHypothesis =>
      exact inductionHypothesis.trans (.of_sameLife id
        (State.sameLife_modifyRecord middle record
          (fun record => { record with process := some process }) fun _ => rfl))

theorem turn_lifeOnly {task : Task} {answer : Answer} {point : Point}
    (listed : state.operations.get? task.pipeline.operationId = some id)
    (turned : turn env reference task answer state = some (next, point)) :
    LifeOnly id state next := by
  have updated (change : Change) : LifeOnly id state
      (state.updateOperation task.pipeline.operationId change).1 :=
    .of_change (lifeChange_updateOperation change listed)
  cases early : task.point.completes with
  | false => exact (turn_works early turned).lifeOnly listed
  | true =>
      cases waits : task.point with
      | succeeding =>
          cases answer <;> simp only [turn, waits, reduceCtorEq, Option.some.injEq] at turned
          have recorded := updated (succeededChange task.pipeline)
          unfold succeedPipeline at turned
          split at turned
          next equality =>
            cases turned
            rwa [equality] at recorded
          next completed equality =>
            rw [equality] at recorded
            have logged := recorded.trans (.of_sameLife id (State.sameLife_appendLog env
              completed task.pipeline.operationId (completionLine state.clock)))
            split at turned
            next =>
              split at turned
              next second =>
                cases turned
                rwa [second] at logged
              next second =>
                cases turned
                rwa [second] at logged
            next =>
              cases turned
              exact recorded
      | failing raised =>
          cases answer <;> simp only [turn, waits, reduceCtorEq, Option.some.injEq] at turned
          have recorded := updated (failedChange task.pipeline raised)
          unfold recordFailure at turned
          split at turned
          next equality =>
            cases turned
            rwa [equality] at recorded
          next equality =>
            cases turned
            rwa [equality] at recorded
      | _ => simp [waits, Point.completes] at early

theorem Lifecycle.handlerTurn_life {handler : Handler} {life : Life}
    (lifecycle : Lifecycle none state) (located : state.handlers.get? reference = some handler)
    (turned : state.handlerTurn env reference handler = some next)
    (found : state.life id = some life) (terminal : life.status.terminal = true) :
    next.life id = some life := by
  cases handler with
  | registering request =>
      simp only [State.handlerTurn] at turned
      split at turned
      next =>
        cases turned
        obtain ⟨record, stored, equality⟩ := Option.map_eq_some_iff.mp found
        have old : ∀ new, ((state.records.alloc new).get? id).map OperationRecord.life =
            some life := fun new => by
          rw [Heap.get?_alloc_of_get? new stored, Option.map_some, equality]
        unfold State.register State.beginRegistration
        cases (state.leaveQueue (.handler reference)).conflict? request.operationId with
        | some active => exact found
        | none =>
            dsimp only
            cases getLogFilePath request.operationId _ with
            | some raised => exact old _
            | none => exact old _
      next => contradiction
  | initialising request queued line call =>
      cases turned
      obtain ⟨queuedLife, queuedFound, _, active, _⟩ := lifecycle.initialising_life located
      have different : id ≠ queued := by
        rintro rfl
        obtain rfl := Option.some.inj (found.symm.trans queuedFound)
        simp [OperationStatus.terminal_eq_not_active, active] at terminal
      obtain ⟨reply, attachment⟩ := lifecycle.launch_attachment located
      have finished := sameLife_finishRegistration state request.operationId queued line call
      rw [attachment.life, if_neg different]
      exact (congrFun finished.life id).trans found
  | cancelling operationId =>
      simp only [State.handlerTurn] at turned
      split at turned
      next =>
        have kept : ((state.leaveQueue (.handler reference)).cancelOperation env
            operationId).1.life id = some life := by
          obtain ⟨_, _, unchanged | ⟨other, ended, endedFound, goesOn, lives⟩⟩ :=
            cancelOperation_change env operationId (state.leaveQueue (.handler reference))
          · rw [unchanged]
            exact found
          · have different : id ≠ other := by
              rintro rfl
              obtain rfl := Option.some.inj (found.symm.trans endedFound)
              simp [goesOn] at terminal
            rw [lives, if_neg different]
            exact found
        split at turned
        next equality =>
          cases turned
          rw [equality] at kept
          exact kept
        next equality =>
          cases turned
          rw [equality] at kept
          exact kept
      next => contradiction
  | answered reply => contradiction

theorem Lifecycle.taskTurn_drives {task : Task} {answer : Answer}
    (lifecycle : Lifecycle none state) (located : state.tasks.get? reference = some task)
    (turned : state.taskTurn env reference task answer = some next) :
    ∃ id mid point, task.attachedTo = some id ∧
      Drives reference id task.pipeline.operationId state ∧
      turn env reference task answer (state.leaveQueue (.task reference)) = some (mid, point) ∧
      next = mid.suspend reference point := by
  unfold State.taskTurn at turned
  split at turned
  next => contradiction
  next uncancelled =>
    split at turned
    next => contradiction
    next =>
      obtain ⟨⟨mid, point⟩, run, rfl⟩ := Option.map_eq_some_iff.mp turned
      have able : task.able = true := by
        cases isOver : task.point.isFinished with
        | false => simp [Task.able, isOver, uncancelled]
        | true => simp [turn_finished isOver] at run
      obtain ⟨id, attachedTo, drives⟩ := lifecycle.drives located able
      exact ⟨id, mid, point, attachedTo, drives, run, rfl⟩

theorem taskCancelledTurn_life {task : Task}
    (turned : state.taskCancelledTurn reference task = some next) : next.life = state.life := by
  unfold State.taskCancelledTurn at turned
  split at turned
  next =>
    obtain ⟨⟨mid, point⟩, run, rfl⟩ := Option.map_eq_some_iff.mp turned
    exact (taskChange_suspend reference point mid).life.trans (cancelledTurn_sameLife run).life
  next => contradiction

theorem runCallback_life {task : Task} {life : Life}
    (ran : state.runCallback env reference task = some next)
    (found : state.life id = some life) (terminal : life.status.terminal = true) :
    next.life id = some life := by
  unfold State.runCallback at ran
  split at ran
  next outcome _ =>
    split at ran
    next =>
      cases ran
      have kept : (state.finalizeTask env task.pipeline.operationId reference outcome).life id =
          some life := by
        obtain ⟨unchanged, _⟩ | ⟨other, record, otherFound, _, goesOn, same⟩ :=
          finalizeTask_cases env task.pipeline.operationId reference outcome state
        · rw [unchanged, found]
        · obtain ⟨_, stored⟩ := State.find?_eq_some.mp otherFound
          have different : id ≠ other := by
            rintro rfl
            obtain rfl := Option.some.inj (found.symm.trans (State.life_of_record stored))
            have contradictory : record.status.terminal = true := terminal
            simp [goesOn] at contradictory
          rw [same.life, State.life_modifyRecord, if_neg different, found]
      exact kept
    next => contradiction
  next => contradiction

theorem Lifecycle.apiStep_life {event : Event} {life : Life} (lifecycle : Lifecycle none state)
    (stepped : apiStep env state event = some next) (found : state.life id = some life)
    (terminal : life.status.terminal = true) : next.life id = some life := by
  have still (same : state.SameLife next) : next.life id = some life :=
    (congrFun same.life id).trans found
  cases event with
  | tick clock | request request | cancel operationId =>
      cases stepped
      exact found
  | handlerTurn reference =>
      obtain ⟨handler, located, turned⟩ := Option.bind_eq_some_iff.mp stepped
      exact lifecycle.handlerTurn_life located turned found terminal
  | interrupt reference =>
      obtain ⟨handler, _, interrupted⟩ := Option.bind_eq_some_iff.mp stepped
      cases handler <;> cases interrupted <;> exact found
  | taskTurn reference answer =>
      obtain ⟨task, located, turned⟩ := Option.bind_eq_some_iff.mp stepped
      obtain ⟨driven, mid, point, _, drives, run, rfl⟩ :=
        lifecycle.taskTurn_drives located turned
      obtain ⟨drivenLife, drivenFound, _, active⟩ := drives.life
      have different : id ≠ driven := by
        rintro rfl
        obtain rfl := Option.some.inj (found.symm.trans drivenFound)
        simp [OperationStatus.terminal_eq_not_active, active] at terminal
      have listed : (state.leaveQueue (.task reference)).operations.get?
          task.pipeline.operationId = some driven := drives.listed
      rw [(taskChange_suspend reference point mid).life,
        turn_lifeOnly listed run id different]
      exact found
  | cancelledTurn reference =>
      obtain ⟨task, _, turned⟩ := Option.bind_eq_some_iff.mp stepped
      rw [taskCancelledTurn_life turned, found]
  | callback reference =>
      obtain ⟨task, _, ran⟩ := Option.bind_eq_some_iff.mp stepped
      exact runCallback_life ran found terminal
  | processExit reference returnCode => exact still (sameLife_exitProcess stepped)
  | forceKill reference => exact still (sameLife_forceKillProcess stepped)
  | subscribe operationId =>
      obtain ⟨opened, openedFound, resumed⟩ := Option.bind_eq_some_iff.mp stepped
      exact still ((sameLife_openStream openedFound).trans (sameLife_resumeStream resumed))
  | pull reference => exact still (sameLife_resumeStream stepped)
  | closeStream reference => exact still (sameLife_closeStream stepped)

def Event.runs (reference : Nat) : Event → Prop
  | .taskTurn task _ | .cancelledTurn task | .callback task => task = reference
  | _ => False

theorem Lifecycle.records_of_terminal {event : Event} {task : Task} {life : Life}
    (lifecycle : Lifecycle none state) (stepped : apiStep env state event = some next)
    (runs : event.runs reference) (located : state.tasks.get? reference = some task)
    (attachedTo : task.attachedTo = some id) (found : state.life id = some life)
    (terminal : life.status.terminal = true) : next.records = state.records := by
  cases event with
  | taskTurn other answer =>
      obtain rfl : other = reference := runs
      obtain ⟨same, sameLocated, turned⟩ := Option.bind_eq_some_iff.mp stepped
      obtain rfl := Option.some.inj (located.symm.trans sameLocated)
      obtain ⟨driven, _, _, drivenTo, drives, _⟩ := lifecycle.taskTurn_drives located turned
      obtain rfl := Option.some.inj (attachedTo.symm.trans drivenTo)
      obtain ⟨drivenLife, drivenFound, _, active⟩ := drives.life
      obtain rfl := Option.some.inj (found.symm.trans drivenFound)
      simp [OperationStatus.terminal_eq_not_active, active] at terminal
  | cancelledTurn other =>
      obtain ⟨task, _, turned⟩ := Option.bind_eq_some_iff.mp stepped
      unfold State.taskCancelledTurn at turned
      split at turned
      next =>
        obtain ⟨⟨mid, point⟩, run, rfl⟩ := Option.map_eq_some_iff.mp turned
        have suspended : (mid.suspend other point).records = mid.records := by
          unfold State.suspend
          dsimp only
          split <;> rfl
        rw [suspended]
        unfold cancelledTurn at run
        split at run
        next =>
          cases run
          rfl
        next =>
          obtain ⟨_, _, equality⟩ := Option.map_eq_some_iff.mp run
          cases equality
          rfl
        next => contradiction
        next =>
          cases run
          rfl
      next => contradiction
  | callback other =>
      obtain rfl : other = reference := runs
      obtain ⟨same, sameLocated, ran⟩ := Option.bind_eq_some_iff.mp stepped
      obtain rfl := Option.some.inj (located.symm.trans sameLocated)
      unfold State.runCallback at ran
      split at ran
      next outcome _ =>
        split at ran
        next =>
          cases ran
          obtain ⟨unchanged, _⟩ | ⟨ended, record, endedFound, owner, goesOn, _⟩ :=
            finalizeTask_cases env task.pipeline.operationId other outcome state
          · have same : (state.finalizeTask env task.pipeline.operationId other
                outcome).records = state.records := by rw [unchanged]
            exact same
          · obtain ⟨_, stored⟩ := State.find?_eq_some.mp endedFound
            have endedLife := State.life_of_record stored
            obtain ⟨owned, ownedFound, ownedTo⟩ :=
              lifecycle.owned ended _ other endedLife owner
            obtain rfl := Option.some.inj (located.symm.trans ownedFound)
            obtain rfl := Option.some.inj (attachedTo.symm.trans ownedTo)
            obtain rfl := Option.some.inj (found.symm.trans endedLife)
            have contradictory : record.status.terminal = true := terminal
            simp [goesOn] at contradictory
        next => contradiction
      next => contradiction
  | _ => exact runs.elim

/-- A record has a life, in a state of the life cycle. -/
def Settled (id : Nat) (life : Life) (state : State) : Prop :=
  Lifecycle none state ∧ state.life id = some life

/-- In every reachable state a terminal status stays in all later states, `completed_at`
is set exactly with a terminal status, and a task whose operation was cancelled changes
no record, whichever operation has its id by then. -/
theorem terminal_final (mockEnabled : Bool) (maxLogBufferLines : Nat) (clock : String)
    {events : List Event} {state : State}
    (run : Run (apiStep (.working mockEnabled maxLogBufferLines)) Anything
      (State.initial clock) events state) :
    (∀ laterEvents later id record,
      Run (apiStep (.working mockEnabled maxLogBufferLines)) Anything state laterEvents later →
      state.records.get? id = some record → record.status.terminal = true →
      ∃ laterRecord, later.records.get? id = some laterRecord ∧
        laterRecord.status = record.status) ∧
    (∀ id record, state.records.get? id = some record →
      (record.completedAt.isSome = true ↔ record.status.terminal = true)) ∧
    ∀ event next reference task id record,
      apiStep (.working mockEnabled maxLogBufferLines) state event = some next →
      event.runs reference → state.tasks.get? reference = some task →
      task.attachedTo = some id → state.records.get? id = some record →
      record.status = .cancelled → next.records = state.records := by
  have lifecycle := lifecycle_of_run
    (run.weaken fun state event _ => completionsLogged_working mockEnabled maxLogBufferLines
      state event)
  refine ⟨?_, ?_, ?_⟩
  · intro laterEvents later id record laterRun stored terminal
    have kept : Settled id record.life later := by
      apply laterRun.invariant ⟨lifecycle, State.life_of_record stored⟩
      rintro before after event ⟨holds, found⟩ _ stepped
      exact ⟨apiStep_lifecycle holds (completionsLogged_working _ _ before event) stepped,
        holds.apiStep_life stepped found terminal⟩
    obtain ⟨laterRecord, laterStored, same⟩ := Option.map_eq_some_iff.mp kept.2
    exact ⟨laterRecord, laterStored, congrArg Life.status same⟩
  · intro id record stored
    have same : record.completedAt.isSome = record.status.terminal :=
      lifecycle.completed id _ (State.life_of_record stored)
    rw [same]
  · intro event next reference task id record stepped runs located attachedTo stored cancelled
    exact lifecycle.records_of_terminal stepped runs located attachedTo
      (State.life_of_record stored) (by simp [OperationRecord.life, cancelled,
        OperationStatus.terminal])

/-- A teardown that is cancelled before its task has started stays cancelled. -/
theorem terminal_final_cancelled :
    ∃ state, Run (apiStep (.working false 10)) Anything (.initial "")
        [.request workstationTeardown, .handlerTurn 0, .handlerTurn 0,
          .cancel workstationId, .handlerTurn 1] state ∧
      ∀ laterEvents later, Run (apiStep (.working false 10)) Anything state laterEvents later →
        ∃ record, later.records.get? 0 = some record ∧ record.status = .cancelled := by
  have check : ((execute (apiStep (.working false 10)) (.initial "")
      [.request workstationTeardown, .handlerTurn 0, .handlerTurn 0,
        .cancel workstationId, .handlerTurn 1]).bind fun state =>
          state.records.get? 0).any (fun record => decide (record.status = .cancelled)) =
      true := by
    decide
  obtain ⟨record, stored, cancelled⟩ := (Option.any_eq_true _ _).mp check
  obtain ⟨state, executed, stored⟩ := Option.bind_eq_some_iff.mp stored
  have isCancelled : record.status = .cancelled := of_decide_eq_true cancelled
  have run := run_of_execute executed
  refine ⟨state, run, fun laterEvents later laterRun => ?_⟩
  obtain ⟨laterRecord, laterStored, same⟩ := (terminal_final false 10 "" run).1 laterEvents later 0
    record laterRun stored (by rw [isCancelled]; rfl)
  exact ⟨laterRecord, laterStored, same.trans isCancelled⟩

end GemEmulation.Api
