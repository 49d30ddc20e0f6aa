import GemEmulation.Api.Reachable

/-!
# One active operation per target

At any time a target resource has at most one operation that is queued or
running, a registration commits only when it has none, and the table never
loses one.
-/

namespace GemEmulation.Api

open Foundations

variable {env : Environment} {state next : State} {reference id : Nat} {operationId : String}

def Vacant (targetResource : String) (state : State) : Prop :=
  ∀ id record, state.records.get? id = some record →
    record.targetResource = targetResource → record.status.active = false

/-- At most one record per target resource is queued or running. -/
def OneActive (state : State) : Prop :=
  ∀ first second firstRecord secondRecord,
    state.records.get? first = some firstRecord →
    state.records.get? second = some secondRecord →
    firstRecord.status.active = true → secondRecord.status.active = true →
    firstRecord.targetResource = secondRecord.targetResource → first = second

theorem Lifecycle.oneActive {running : Option Nat} (lifecycle : Lifecycle running state) :
    OneActive state := by
  intro first second firstRecord secondRecord firstStored secondStored firstActive secondActive
    same
  have firstLife := State.life_of_record firstStored
  have secondLife := State.life_of_record secondStored
  have firstListed := lifecycle.current first _ firstLife firstActive
  have secondListed := lifecycle.current second _ secondLife secondActive
  have sameId : firstRecord.life.operationId = secondRecord.life.operationId := by
    rw [← lifecycle.target first _ firstLife, ← lifecycle.target second _ secondLife]
    exact same
  rw [sameId] at firstListed
  exact Option.some.inj (firstListed.symm.trans secondListed)

theorem Lifecycle.vacant (lifecycle : Lifecycle none state)
    (noConflict : state.conflict? operationId = none) : Vacant operationId state := by
  intro id record stored same
  by_contra active
  have found := State.life_of_record stored
  have target := lifecycle.target id _ found
  obtain ⟨other, conflict⟩ := lifecycle.conflict?_of_active found (Bool.not_eq_false _ ▸ active)
  have sameId : record.life.operationId = operationId := target.symm.trans same
  simp [sameId, noConflict] at conflict

/-- The table is as it was, or a registration without conflict has inserted a record. -/
def TableStep (state next : State) : Prop :=
  next.operations = state.operations ∨
    ∃ request : Request, state.conflict? request.operationId = none ∧
      next.operations = state.operations.set request.operationId state.records.fresh

theorem register_conflict (env : Environment) (reference : Nat) {request : Request}
    {active : OperationRecord} (conflict : state.conflict? request.operationId = some active) :
    ∃ reply, state.register env reference request =
      state.setHandler reference (.answered reply) := by
  unfold State.register State.beginRegistration
  rw [conflict]
  exact ⟨_, rfl⟩

theorem register_table (env : Environment) (reference : Nat) (request : Request)
    (state : State) : TableStep state (state.register env reference request) := by
  unfold State.register State.beginRegistration
  cases conflict : state.conflict? request.operationId with
  | some active => exact .inl rfl
  | none =>
      dsimp only
      cases getLogFilePath request.operationId (env.logCall state.logCalls) with
      | some raised => exact .inr ⟨request, conflict, rfl⟩
      | none => exact .inr ⟨request, conflict, rfl⟩

theorem attachTask_operations (operationId : String) (task : Nat) (state : State) :
    (state.attachTask operationId task).operations = state.operations := by
  unfold State.attachTask
  split <;> rfl

theorem handlerTurn_table {handler : Handler}
    (turned : state.handlerTurn env reference handler = some next) : TableStep state next := by
  cases handler with
  | registering request =>
      simp only [State.handlerTurn] at turned
      split at turned
      next =>
        cases turned
        exact register_table env reference request (state.leaveQueue (.handler reference))
      next => contradiction
  | initialising request id line call =>
      cases turned
      refine .inl ((attachTask_operations ..).trans ?_)
      exact (State.sameLife_writeLogFile state request.operationId line [] call).operations
  | cancelling operationId =>
      simp only [State.handlerTurn] at turned
      split at turned
      next =>
        have cancelled := (cancelOperation_change env operationId
          (state.leaveQueue (.handler reference))).1
        split at turned
        next equality =>
          cases turned
          rw [equality] at cancelled
          exact .inl cancelled
        next equality =>
          cases turned
          rw [equality] at cancelled
          exact .inl cancelled
      next => contradiction
  | answered reply => contradiction

theorem suspend_operations (reference : Nat) (point : Point) (state : State) :
    (state.suspend reference point).operations = state.operations :=
  (taskChange_suspend reference point state).operations

theorem apiStep_table {event : Event} (stepped : apiStep env state event = some next) :
    TableStep state next := by
  cases event with
  | tick clock | request request | cancel operationId =>
      cases stepped
      exact .inl rfl
  | handlerTurn reference =>
      obtain ⟨handler, _, turned⟩ := Option.bind_eq_some_iff.mp stepped
      exact handlerTurn_table turned
  | interrupt reference =>
      obtain ⟨handler, _, interrupted⟩ := Option.bind_eq_some_iff.mp stepped
      cases handler <;> cases interrupted <;> exact .inl rfl
  | taskTurn reference answer =>
      obtain ⟨task, _, turned⟩ := Option.bind_eq_some_iff.mp stepped
      unfold State.taskTurn at turned
      split at turned
      next => contradiction
      next =>
        split at turned
        next => contradiction
        next =>
          obtain ⟨⟨mid, point⟩, run, rfl⟩ := Option.map_eq_some_iff.mp turned
          exact .inl ((suspend_operations ..).trans (turn_sameTable run).operations)
  | cancelledTurn reference =>
      obtain ⟨task, _, turned⟩ := Option.bind_eq_some_iff.mp stepped
      unfold State.taskCancelledTurn at turned
      split at turned
      next =>
        obtain ⟨⟨mid, point⟩, run, rfl⟩ := Option.map_eq_some_iff.mp turned
        exact .inl ((suspend_operations ..).trans (cancelledTurn_sameLife run).operations)
      next => contradiction
  | callback reference =>
      obtain ⟨task, _, ran⟩ := Option.bind_eq_some_iff.mp stepped
      unfold State.runCallback at ran
      split at ran
      next outcome _ =>
        split at ran
        next =>
          cases ran
          obtain ⟨unchanged, _⟩ | ⟨_, _, _, _, _, same⟩ :=
            finalizeTask_cases env task.pipeline.operationId reference outcome state
          · have same : (state.finalizeTask env task.pipeline.operationId reference
                outcome).operations = state.operations := by rw [unchanged]
            exact .inl same
          · exact .inl same.operations
        next => contradiction
      next => contradiction
  | processExit reference returnCode => exact .inl (sameLife_exitProcess stepped).operations
  | forceKill reference => exact .inl (sameLife_forceKillProcess stepped).operations
  | subscribe operationId =>
      obtain ⟨opened, openedFound, resumed⟩ := Option.bind_eq_some_iff.mp stepped
      exact .inl ((sameLife_resumeStream resumed).operations.trans
        (sameLife_openStream openedFound).operations)
  | pull reference => exact .inl (sameLife_resumeStream stepped).operations
  | closeStream reference => exact .inl (sameLife_closeStream stepped).operations

theorem Lifecycle.keepsActive (lifecycle : Lifecycle none state) {event : Event}
    {record : OperationRecord} (stepped : apiStep env state event = some next)
    (listed : state.operations.get? operationId = some id)
    (stored : state.records.get? id = some record) (active : record.status.active = true) :
    next.operations.get? operationId = some id := by
  obtain unchanged | ⟨request, noConflict, inserted⟩ := apiStep_table stepped
  · rw [unchanged, listed]
  · rw [inserted, Dict.get?_set]
    split
    next same =>
      obtain ⟨life, lifeFound, sameId⟩ := lifecycle.listed operationId id listed
      obtain rfl := Option.some.inj ((State.life_of_record stored).symm.trans lifeFound)
      have target := lifecycle.target id _ lifeFound
      have taken := lifecycle.vacant noConflict id record stored
        (target.trans (sameId.trans same))
      simp [active] at taken
    next => exact listed

def Commits (handler : Nat) (request : Request) (state next : State) : Prop :=
  state.handlers.get? handler = some (.registering request) ∧
    ∃ id line call, next.handlers.get? handler = some (.initialising request id line call)

theorem conflict?_of_commits {request : Request}
    (stepped : apiStep env state (.handlerTurn reference) = some next)
    (commits : Commits reference request state next) :
    state.conflict? request.operationId = none := by
  obtain ⟨registering, id, line, call, initialising⟩ := commits
  obtain ⟨handler, found, turned⟩ := Option.bind_eq_some_iff.mp stepped
  obtain rfl := Option.some.inj (registering.symm.trans found)
  simp only [State.handlerTurn] at turned
  split at turned
  next =>
    cases turned
    cases conflict : state.conflict? request.operationId with
    | none => rfl
    | some active =>
        have here : (state.leaveQueue (.handler reference)).conflict? request.operationId =
            some active := conflict
        obtain ⟨reply, refused⟩ := register_conflict env reference here
        rw [refused] at initialising
        simp [State.setHandler, State.leaveQueue, found] at initialising
  next => contradiction

/-- In every reachable state a target has at most one active operation, registrations
commit only on vacant targets, and no step replaces an active record. -/
theorem oneActive_registrations (mockEnabled : Bool) (maxLogBufferLines : Nat)
    (clock : String) {events : List Event} {state : State}
    (run : Run (apiStep (.working mockEnabled maxLogBufferLines)) Anything
      (State.initial clock) events state) :
    OneActive state ∧
      (∀ handler request next,
        apiStep (.working mockEnabled maxLogBufferLines) state (.handlerTurn handler) =
          some next →
        Commits handler request state next → Vacant request.operationId state) ∧
      ∀ event next operationId id record,
        apiStep (.working mockEnabled maxLogBufferLines) state event = some next →
        state.operations.get? operationId = some id →
        state.records.get? id = some record → record.status.active = true →
        next.operations.get? operationId = some id := by
  have lifecycle := lifecycle_of_run
    (run.weaken fun state event _ => completionsLogged_working mockEnabled maxLogBufferLines
      state event)
  refine ⟨lifecycle.oneActive, ?_, ?_⟩
  · intro handler request next stepped commits
    exact lifecycle.vacant (conflict?_of_commits stepped commits)
  · intro event next operationId id record stepped listed stored active
    exact lifecycle.keepsActive stepped listed stored active

def workstationTeardown : Request :=
  .workstationDelete ⟨["terraform", "init"], "/repo"⟩ ⟨["terraform", "destroy"], "/repo"⟩

/-- While the first teardown is queued, the second one waits for the lock. -/
theorem oneActive_registrations_twoRequests :
    ∃ state, Run (apiStep (.working false 10)) Anything (.initial "")
        [.request workstationTeardown, .request workstationTeardown, .handlerTurn 0,
          .handlerTurn 0] state ∧
      ¬ Vacant workstationId state ∧ OneActive state := by
  have check : ((execute (apiStep (.working false 10)) (.initial "")
      [.request workstationTeardown, .request workstationTeardown, .handlerTurn 0,
        .handlerTurn 0]).bind fun state => state.records.get? 0).any (fun record =>
          decide (record.targetResource = workstationId ∧ record.status.active = true)) =
      true := by
    decide
  obtain ⟨record, stored, queued⟩ := (Option.any_eq_true _ _).mp check
  obtain ⟨state, executed, stored⟩ := Option.bind_eq_some_iff.mp stored
  obtain ⟨target, active⟩ := of_decide_eq_true queued
  have run := run_of_execute executed
  refine ⟨state, run, fun vacant => ?_, (oneActive_registrations false 10 "" run).1⟩
  simp [vacant 0 record stored target] at active

end GemEmulation.Api
