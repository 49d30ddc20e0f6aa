import GemEmulation.Api.Sound

/-!
# Subprocesses of one target

A cancelled operation gives up its target at once, and its subprocess may live on.
As long as no operation is ended while a subprocess of it is running, a target has
at most one running subprocess and no registration meets one.
-/

namespace GemEmulation.Api

open Foundations Lifecycle

variable {env : Environment} {state next : State} {reference id : Nat} {operationId : String}

/-- The target resource of the operation for which a subprocess is running. -/
def State.runningTarget? (pid : Nat) (state : State) : Option String :=
  (state.processes.get? pid).bind fun process =>
    if process.state = .running then
      (state.tasks.get? process.task).bind fun task =>
        task.attachedTo.bind fun id =>
          (state.records.get? id).map OperationRecord.targetResource
    else none

/-- A subprocess is running for an operation on a target resource. -/
def RunsFor (targetResource : String) (pid : Nat) (state : State) : Prop :=
  state.runningTarget? pid = some targetResource

def Idle (reference : Nat) (state : State) : Prop :=
  ∀ pid process, state.processes.get? pid = some process → process.task = reference →
    process.state ≠ .running

/-- No operation is ended while a subprocess of it is running: it is not cancelled then,
and reading the output of the subprocess does not raise. -/
def EndsIdle (state : State) : Event → Prop
  | .handlerTurn handler => ∀ operationId id record reference,
      state.handlers.get? handler = some (.cancelling operationId) →
      state.find? operationId = some (id, record) → record.task = some reference →
      Idle reference state
  | .taskTurn reference (.readFailed _) => Idle reference state
  | _ => True

/-- Every running subprocess is the one that an able task is busy with. -/
def Supervised (state : State) : Prop :=
  ∀ pid process, state.processes.get? pid = some process → process.state = .running →
    ∃ task, state.tasks.get? process.task = some task ∧ task.able = true ∧
      task.point.process? = some pid

theorem Process.Ages.running {old process : Process} (ages : old.Ages process)
    (running : process.state = .running) : old.state = .running := by
  obtain same | older := ages.state
  · rw [← same, running]
  · exact older

theorem Moves.busy {pipeline : Pipeline} {mockEnabled : Bool} {disturbed : Prop}
    {point after : Point} {before processes : Heap Process} {pid : Nat}
    (moves : Moves pipeline mockEnabled disturbed reference id point before processes after)
    (calm : ¬disturbed) (busy : point.process? = some pid)
    (running : (before.get? pid).map Process.state = some .running) :
    after.process? = some pid ∧ after.isFinished = false := by
  cases moves with
  | crash | start | spawn | refuse | succeed | recordFailure => contradiction
  | fail _ _ raised _ harmless => exact absurd running (harmless calm pid busy)
  | mock _ _ _ mocks => cases point <;> simp [Point.mocks, Point.process?] at mocks busy
  | connect _ other => exact ⟨busy, rfl⟩
  | read _ _ _ other command rest begins ends =>
      have same : other = pid := by cases begins <;> exact Option.some.inj busy
      subst same
      obtain reads | rfl := ends
      · cases reads <;> exact ⟨rfl, rfl⟩
      · exact ⟨rfl, rfl⟩
  | exit _ other command rest exited =>
      obtain rfl := Option.some.inj busy
      rw [running] at exited
      contradiction

theorem Moves.starts {pipeline : Pipeline} {mockEnabled : Bool} {disturbed : Prop}
    {point after : Point} {before processes : Heap Process} {process : Process}
    (moves : Moves pipeline mockEnabled disturbed reference id point before processes after)
    (found : processes.get? before.fresh = some process) (running : process.state = .running) :
    after.process? = some before.fresh ∧ after.isFinished = false := by
  cases moves with
  | spawn => exact ⟨rfl, rfl⟩
  | refuse =>
      rw [Heap.get?_alloc_fresh] at found
      cases found
      contradiction
  | _ =>
      rw [Heap.get?_fresh] at found
      contradiction

theorem Advance.supervised {event : Event} (advance : Advance env state next event)
    (logs : ∀ call, (env.logCall call).findsPath = true) (idle : EndsIdle state event)
    (supervised : Supervised state) : Supervised next := by
  intro pid process found running
  have calm {answer : Answer} {old : Process} (turned : event = .taskTurn process.task answer)
      (oldFound : state.processes.get? pid = some old) (own : old.task = process.task)
      (stillRunning : old.state = .running) : ¬Disturbed env answer := by
    rintro (⟨raised, rfl⟩ | ⟨call, lost⟩)
    · subst turned
      exact idle pid old oldFound own stillRunning
    · simp [logs call] at lost
  obtain ⟨old, oldFound, ages⟩ | ⟨task, _, _, _, answer, new, turned, located, _⟩ :=
    advance.process found
  · have oldRunning := ages.running running
    obtain ⟨task, located, able, busy⟩ := supervised pid old oldFound oldRunning
    rw [← ages.task] at located
    obtain ⟨after, afterLocated, _⟩ := advance.keepsTask located
    refine ⟨after, afterLocated, ?_⟩
    cases advance.origin afterLocated with
    | @moved _ source answer sourceLocated _ _ _ moves same =>
        obtain rfl := Option.some.inj (located.symm.trans sourceLocated)
        obtain ⟨stillBusy, goesOn⟩ := moves.busy
          (calm rfl oldFound ages.task.symm oldRunning) busy
          (by rw [oldFound, Option.map_some, oldRunning])
        refine ⟨?_, stillBusy⟩
        simp only [Task.able, Bool.and_eq_true, Bool.not_eq_true'] at able ⊢
        exact ⟨by rw [same, able.1], goesOn⟩
    | @stopped _ source sourceLocated _ cancelled _ _ =>
        obtain rfl := Option.some.inj (located.symm.trans sourceLocated)
        simp [Task.able, cancelled] at able
    | @cancelled handler id operationId record source _ _ cancelling listed _ owner _ =>
        exact absurd oldRunning
          (idle operationId id record process.task cancelling listed owner pid old oldFound
            ages.task.symm)
    | @stays _ source sourceLocated _ same =>
        obtain rfl := Option.some.inj (located.symm.trans sourceLocated)
        rw [same]
        exact ⟨able, busy⟩
    | launched new => exact absurd new (Heap.ne_fresh_of_get? located)
  · obtain ⟨after, afterLocated, _⟩ := advance.keepsTask located
    refine ⟨after, afterLocated, ?_⟩
    subst new
    have grown (ages : Ages process.task state.processes next.processes) : False := by
      obtain ⟨old, oldFound, _⟩ := ages.older _ process found rfl
      simp [Heap.get?_fresh] at oldFound
    cases advance.origin afterLocated with
    | @moved _ source _ sourceLocated _ able _ moves same =>
        obtain ⟨busy, goesOn⟩ := moves.starts found running
        refine ⟨?_, busy⟩
        simp only [Task.able, Bool.and_eq_true, Bool.not_eq_true'] at able ⊢
        exact ⟨by rw [same, able.1], goesOn⟩
    | stopped _ ages => exact (grown ages).elim
    | stays _ ages => exact (grown ages).elim
    | cancelled _ ages => exact (grown ages).elim
    | launched _ same => exact (grown (Aged.of_eq same _)).elim

/-- The life cycle of runs in which every running subprocess is supervised. -/
structure Guarded (state : State) : Prop where
  lifecycle : Lifecycle none state
  held : Held state
  supervised : Supervised state

theorem Guarded.active (guarded : Guarded state) {targetResource : String} {pid : Nat}
    (runs : RunsFor targetResource pid state) :
    ∃ reference task id record, state.tasks.get? reference = some task ∧
      task.point.process? = some pid ∧ task.attachedTo = some id ∧
      state.records.get? id = some record ∧ record.targetResource = targetResource ∧
      record.status.active = true := by
  obtain ⟨process, found, runs⟩ := Option.bind_eq_some_iff.mp runs
  split at runs
  next running =>
    obtain ⟨task, located, runs⟩ := Option.bind_eq_some_iff.mp runs
    obtain ⟨id, attachedTo, runs⟩ := Option.bind_eq_some_iff.mp runs
    obtain ⟨record, stored, target⟩ := Option.map_eq_some_iff.mp runs
    obtain ⟨other, otherLocated, able, busy⟩ := guarded.supervised pid process found running
    obtain rfl := Option.some.inj (located.symm.trans otherLocated)
    exact ⟨process.task, task, id, record, located, busy, attachedTo, stored, target,
      guarded.lifecycle.able process.task task id _ (by simp) located able attachedTo
        (State.life_of_record stored)⟩
  next => contradiction

/-- In every run with a usable log directory in which no operation is ended while a
subprocess of it is running, a target has at most one running subprocess, and a
registration commits only when there is none. -/
theorem oneProcess_of_endsIdle (env : Environment)
    (logs : ∀ call, (env.logCall call).findsPath = true) (clock : String)
    {events : List Event} {state : State}
    (run : Run (apiStep env) EndsIdle (State.initial clock) events state) :
    (∀ targetResource first second, RunsFor targetResource first state →
      RunsFor targetResource second state → first = second) ∧
    ∀ handler request next pid, apiStep env state (.handlerTurn handler) = some next →
      Commits handler request state next → ¬RunsFor request.operationId pid state := by
  have logged (state : State) (event : Event) : CompletionsLogged env state event := by
    cases event with
    | taskTurn reference answer => exact fun _ _ _ _ => logs _
    | _ => trivial
  have start : Guarded (State.initial clock) := by
    refine ⟨lifecycle_initial clock, ?_, ?_⟩
    all_goals
      intro _ _
      simp [State.initial]
  have guarded : Guarded state := run.invariant start fun guarded idle stepped => by
    have advance := apiStep_advance guarded.lifecycle guarded.held (logged _ _) stepped
    exact ⟨apiStep_lifecycle guarded.lifecycle (logged _ _) stepped, advance.held guarded.held,
      advance.supervised logs idle guarded.supervised⟩
  refine ⟨?_, ?_⟩
  · intro targetResource first second firstRuns secondRuns
    obtain ⟨_, firstTask, firstId, firstRecord, firstLocated, firstBusy, firstTo, firstStored,
      firstTarget, firstActive⟩ := guarded.active firstRuns
    obtain ⟨_, secondTask, secondId, secondRecord, secondLocated, secondBusy, secondTo,
      secondStored, secondTarget, secondActive⟩ := guarded.active secondRuns
    obtain rfl := guarded.lifecycle.oneActive firstId secondId firstRecord secondRecord
      firstStored secondStored firstActive secondActive (firstTarget.trans secondTarget.symm)
    obtain rfl := guarded.lifecycle.task_unique firstLocated secondLocated firstTo secondTo
    obtain rfl := Option.some.inj (firstLocated.symm.trans secondLocated)
    exact Option.some.inj (firstBusy.symm.trans secondBusy)
  · intro handler request next pid stepped commits runs
    obtain ⟨_, _, id, record, _, _, _, stored, target, active⟩ := guarded.active runs
    have vacant := guarded.lifecycle.vacant (conflict?_of_commits stepped commits)
    simp [vacant id record stored target] at active

/-- The events up to the first subprocess of a teardown of the workstation, whose request
is the given handler's and whose task is the given one. -/
def spawnEvents (handler task : Nat) : List Event :=
  [.request workstationTeardown, .handlerTurn handler, .handlerTurn handler,
    .taskTurn task .started, .taskTurn task .resumed, .taskTurn task .resumed]

/-- The check that no operation is ended at all by a cancellation or a failed read. -/
def endsNothing (state : State) : Event → Bool
  | .handlerTurn handler =>
      match state.handlers.get? handler with
      | some (.cancelling _) => false
      | _ => true
  | .taskTurn _ (.readFailed _) => false
  | _ => true

theorem endsIdle_of_endsNothing (state : State) (event : Event)
    (checked : endsNothing state event = true) : EndsIdle state event := by
  cases event with
  | handlerTurn handler =>
      intro operationId id record reference cancelling
      simp [endsNothing, cancelling] at checked
  | taskTurn reference answer =>
      cases answer with
      | readFailed raised => contradiction
      | _ => trivial
  | _ => trivial

/-- The subprocess of a teardown is the only one of the workstation. -/
theorem oneProcess_of_endsIdle_teardown :
    ∃ state, Run (apiStep (.working false 10)) EndsIdle (.initial "") (spawnEvents 0 0) state ∧
      RunsFor workstationId 0 state ∧
      ∀ pid, RunsFor workstationId pid state → pid = 0 := by
  have check : ((executeChecked (apiStep (.working false 10)) endsNothing (.initial "")
      (spawnEvents 0 0)).any fun state =>
        decide (state.runningTarget? 0 = some workstationId)) = true := by
    decide
  obtain ⟨state, executed, running⟩ := (Option.any_eq_true _ _).mp check
  have runs : state.runningTarget? 0 = some workstationId := of_decide_eq_true running
  have run := run_of_executeChecked endsIdle_of_endsNothing executed
  exact ⟨state, run, runs, fun pid others =>
    (oneProcess_of_endsIdle (.working false 10) (fun _ => rfl) "" run).1 workstationId pid 0
      others runs⟩

/-- A teardown that is cancelled while its subprocess is running, and then requested
again: two subprocesses run for the workstation. -/
theorem cancelledProcess_overlaps :
    ∃ state, Run (apiStep (.working false 10)) Anything (.initial "")
        (spawnEvents 0 0 ++ [.cancel workstationId, .handlerTurn 1] ++ spawnEvents 2 1) state ∧
      RunsFor workstationId 0 state ∧ RunsFor workstationId 1 state := by
  have check : ((execute (apiStep (.working false 10)) (.initial "")
      (spawnEvents 0 0 ++ [.cancel workstationId, .handlerTurn 1] ++ spawnEvents 2 1)).any
        fun state => decide (state.runningTarget? 0 = some workstationId ∧
          state.runningTarget? 1 = some workstationId)) = true := by
    decide
  obtain ⟨state, executed, running⟩ := (Option.any_eq_true _ _).mp check
  obtain ⟨first, second⟩ := of_decide_eq_true running
  exact ⟨state, run_of_execute executed, first, second⟩

end GemEmulation.Api
