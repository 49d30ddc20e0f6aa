import GemEmulation.Api.System

/-!
# What a pipeline does while its operation is active

The life of a record is what the locking of resources depends on.  Logging and
publishing leave every life alone, and a pipeline's turns before its last one
are made of a few elementary actions.
-/

namespace GemEmulation.Api

open Foundations

/-- The part of a record that decides whether its operation locks its target. -/
structure Life where
  operationId : String
  targetResource : String
  status : OperationStatus
  completed : Bool
  task : Option Nat

def OperationRecord.life (record : OperationRecord) : Life where
  operationId := record.operationId
  targetResource := record.targetResource
  status := record.status
  completed := record.completedAt.isSome
  task := record.task

def Life.update (change : Change) (life : Life) : Life :=
  { life with
    status := change.status.getD life.status
    completed := change.completed || life.completed }

theorem life_apply (change : Change) (now : String) (record : OperationRecord) :
    (change.apply now record).life = record.life.update change := by
  cases completed : change.completed <;>
    simp [Change.apply, OperationRecord.life, Life.update, completed]

namespace State

def life (state : State) (id : Nat) : Option Life :=
  (state.records.get? id).map OperationRecord.life

structure SameTable (state next : State) : Prop where
  operations : next.operations = state.operations
  tasks : next.tasks = state.tasks
  handlers : next.handlers = state.handlers
  holder : next.lock.holder = state.lock.holder
  fresh : next.records.fresh = state.records.fresh

structure SameLife (state next : State) : Prop extends SameTable state next where
  life : next.life = state.life

variable {state middle next : State}

theorem SameTable.refl (state : State) : SameTable state state := ⟨rfl, rfl, rfl, rfl, rfl⟩

theorem SameTable.trans (first : SameTable state middle) (second : SameTable middle next) :
    SameTable state next where
  operations := second.operations.trans first.operations
  tasks := second.tasks.trans first.tasks
  handlers := second.handlers.trans first.handlers
  holder := second.holder.trans first.holder
  fresh := second.fresh.trans first.fresh

theorem SameLife.refl (state : State) : SameLife state state := ⟨.refl state, rfl⟩

theorem SameLife.trans (first : SameLife state middle) (second : SameLife middle next) :
    SameLife state next where
  toSameTable := first.toSameTable.trans second.toSameTable
  life := second.life.trans first.life

theorem life_modifyRecord (state : State) (id other : Nat)
    (change : OperationRecord → OperationRecord) :
    (state.modifyRecord id change).life other =
      if other = id then (state.records.get? id).map fun record => (change record).life
      else state.life other := by
  simp only [life, modifyRecord, Heap.get?_modify]
  split
  next same => simp [same, Function.comp_def]
  next => rfl

theorem life_modify_records (records : Heap OperationRecord) (id other : Nat)
    (change : OperationRecord → OperationRecord)
    (keeps : ∀ record, (change record).life = record.life) :
    ((records.modify id change).get? other).map OperationRecord.life =
      (records.get? other).map OperationRecord.life := by
  rw [Heap.get?_modify]
  split
  next same => simp [same, Function.comp_def, keeps]
  next => rfl

theorem sameLife_modifyRecord (state : State) (id : Nat)
    (change : OperationRecord → OperationRecord)
    (keeps : ∀ record, (change record).life = record.life) :
    SameLife state (state.modifyRecord id change) where
  operations := rfl
  tasks := rfl
  handlers := rfl
  holder := rfl
  fresh := Heap.fresh_modify ..
  life := funext fun other => life_modify_records state.records id other change keeps

theorem sameLife_writeLogFile (state : State) (operationId line : String)
    (old : List String) (call : LogCall) :
    SameLife state (state.writeLogFile operationId line old call) := by
  simp only [writeLogFile]
  split
  next => exact ⟨⟨rfl, rfl, rfl, rfl, rfl⟩, rfl⟩
  next => exact .refl state

theorem sameLife_publish (state : State) (id : Nat) (item : Option String) :
    SameLife state (state.publish id item) := by
  simp only [publish]
  split
  next => exact .refl state
  next =>
    exact ⟨⟨rfl, rfl, rfl, rfl, Heap.fresh_modify ..⟩,
      funext fun other => life_modify_records state.records id other _ fun _ => rfl⟩

theorem sameLife_appendLog (env : Environment) (state : State) (operationId line : String) :
    SameLife state (state.appendLog env operationId line).1 := by
  simp only [appendLog]
  split
  next => exact .refl state
  next id _ =>
    split
    next => exact .refl state
    next =>
      have buffered : ∀ text, SameLife state
          { state.modifyRecord id (OperationRecord.bufferLine text) with
            logCalls := state.logCalls + 1 } := fun text =>
        (sameLife_modifyRecord state id (OperationRecord.bufferLine text) fun _ => rfl).trans
          ⟨⟨rfl, rfl, rfl, rfl, rfl⟩, rfl⟩
      split
      next => exact buffered _
      next =>
        exact (buffered _).trans
          ((sameLife_writeLogFile _ _ _ _ _).trans (sameLife_publish _ _ _))

theorem updateOperation_listed {operationId : String} {id : Nat} (change : Change)
    (listed : state.operations.get? operationId = some id) :
    state.updateOperation operationId change =
      (if change.completed then
        (state.modifyRecord id (change.apply state.clock)).publish id none
      else state.modifyRecord id (change.apply state.clock), none) := by
  simp [updateOperation, listed]

theorem sameTable_updateOperation (state : State) (operationId : String) (change : Change) :
    SameTable state (state.updateOperation operationId change).1 := by
  unfold updateOperation
  split
  next => exact .refl state
  next id _ =>
    have modified : SameTable state (state.modifyRecord id (change.apply state.clock)) :=
      ⟨rfl, rfl, rfl, rfl, Heap.fresh_modify ..⟩
    dsimp only
    split
    next => exact modified.trans (sameLife_publish _ id none).toSameTable
    next => exact modified

theorem life_updateOperation {operationId : String} {id : Nat} (change : Change)
    (listed : state.operations.get? operationId = some id) (other : Nat) :
    (state.updateOperation operationId change).1.life other =
      if other = id then (state.life id).map (Life.update change) else state.life other := by
  have modified : (state.modifyRecord id (change.apply state.clock)).life other =
      if other = id then (state.life id).map (Life.update change) else state.life other := by
    rw [life_modifyRecord]
    simp [life, life_apply, Function.comp_def]
  rw [updateOperation_listed change listed]
  split
  next => rw [(sameLife_publish _ _ _).life, modified]
  next => exact modified

end State

/-- The actions of a pipeline before it completes its operation. -/
inductive Works (env : Environment) (operationId : String) (state : State) : State → Prop where
  | refl : Works env operationId state state
  | log {middle : State} (line : String) :
      Works env operationId state middle →
      Works env operationId state (middle.appendLog env operationId line).1
  | update {middle : State} (change : Change) :
      change.completed = false →
      change.status = none ∨ change.status = some .running →
      Works env operationId state middle →
      Works env operationId state (middle.updateOperation operationId change).1
  | spawn {middle : State} (process : Process) :
      Works env operationId state middle →
      Works env operationId state
        { middle with processes := middle.processes.alloc process }
  | connect {middle : State} (id process : Nat) :
      Works env operationId state middle →
      Works env operationId state
        (middle.modifyRecord id fun record => { record with process := some process })

section Works

variable {env : Environment} {pipeline : Pipeline} {state middle : State}

theorem Works.sameTable {operationId : String} {next : State}
    (works : Works env operationId state next) : state.SameTable next := by
  induction works with
  | refl => exact .refl state
  | @log middle line _ inductionHypothesis =>
      exact inductionHypothesis.trans
        (State.sameLife_appendLog env middle operationId line).toSameTable
  | @update middle change _ _ _ inductionHypothesis =>
      exact inductionHypothesis.trans (State.sameTable_updateOperation middle operationId change)
  | spawn process _ inductionHypothesis =>
      exact inductionHypothesis.trans ⟨rfl, rfl, rfl, rfl, rfl⟩
  | connect id process _ inductionHypothesis =>
      exact inductionHypothesis.trans ⟨rfl, rfl, rfl, rfl, Heap.fresh_modify ..⟩

theorem mockLogs_works (record : Nat) (rest : List Step) (logs : List String)
    (works : Works env pipeline.operationId state middle) :
    Works env pipeline.operationId state (mockLogs env pipeline record rest logs middle).1 := by
  unfold mockLogs
  split
  next => exact works
  next log _ =>
    split
    next => exact works
    next =>
      have logged := works.log log
      split
      next equality => rwa [equality] at logged
      next equality => rwa [equality] at logged

theorem commandFailed_works (record : Nat) (raised : Raised)
    (works : Works env pipeline.operationId state middle) :
    Works env pipeline.operationId state (commandFailed env pipeline record raised middle).1 := by
  unfold commandFailed
  split
  next => exact works
  next => exact works.log _

theorem announceStep_works (reference record : Nat) (step : Step) (rest : List Step)
    (spawnError : Option Raised) (works : Works env pipeline.operationId state middle) :
    Works env pipeline.operationId state
      (announceStep env pipeline reference record step rest spawnError middle).1 := by
  have updated := works.update (runningChange step) rfl (.inr rfl)
  simp only [announceStep]
  generalize middle.updateOperation pipeline.operationId _ = outcome at updated ⊢
  obtain ⟨announced, _ | raised⟩ := outcome
  · cases step with
    | mock simulated => exact mockLogs_works record rest _ updated
    | command command =>
        have logged := updated.log (runningLine command.line)
        dsimp only
        split
        next equality => rwa [equality] at logged
        next equality =>
          rw [equality] at logged
          split
          next => exact logged.spawn _
          next => exact commandFailed_works _ _ (logged.spawn _)
  · exact updated

theorem readOutput_works (record process : Nat) (command : Command) (rest : List Step)
    (lines : List OutputLine) (works : Works env pipeline.operationId state middle) :
    Works env pipeline.operationId state
      (readOutput env pipeline record process command rest lines middle).1 := by
  induction lines generalizing middle with
  | nil => exact works
  | cons line lines inductionHypothesis =>
      unfold readOutput
      split
      next => exact inductionHypothesis works
      next =>
        have logged := works.log line.text
        split
        next equality =>
          rw [equality] at logged
          exact commandFailed_works _ _ logged
        next equality =>
          rw [equality] at logged
          split
          next => exact logged
          next => exact inductionHypothesis logged

theorem endOutput_works (record process : Nat) (command : Command) (rest : List Step)
    (remainder : Option String) (works : Works env pipeline.operationId state middle) :
    Works env pipeline.operationId state
      (endOutput env pipeline record process command rest remainder middle).1 := by
  unfold endOutput
  split
  next => exact works
  next text =>
    have logged := works.log text
    split
    next equality =>
      rw [equality] at logged
      exact commandFailed_works _ _ logged
    next equality => rwa [equality] at logged

theorem reportProgress_works (record process : Nat) (command : Command) (rest : List Step)
    (message : String) (lines : List OutputLine)
    (works : Works env pipeline.operationId state middle) :
    Works env pipeline.operationId state
      (reportProgress env pipeline record process command rest message lines middle).1 := by
  have updated := works.update { message := some message } rfl (.inl rfl)
  unfold reportProgress
  split
  next equality =>
    rw [equality] at updated
    exact commandFailed_works _ _ updated
  next equality =>
    rw [equality] at updated
    exact readOutput_works _ _ _ _ _ updated

theorem commandExited_works (record : Nat) (command : Command) (rest : List Step)
    (returnCode : Int) (works : Works env pipeline.operationId state middle) :
    Works env pipeline.operationId state
      (commandExited env pipeline record command rest returnCode middle).1 := by
  unfold commandExited
  split
  next => exact works
  next =>
    split
    next => exact commandFailed_works _ _ (works.log _)
    next => exact works

def Point.completes : Point → Bool
  | .succeeding | .failing _ => true
  | _ => false

/-- A turn that does not complete the operation is made of elementary actions. -/
theorem turn_works {reference : Nat} {task : Task} {answer : Answer} {next : State}
    {point : Point} (early : task.point.completes = false)
    (turned : turn env reference task answer state = some (next, point)) :
    Works env task.pipeline.operationId state next := by
  have start : Works env task.pipeline.operationId state state := .refl
  have first {result : State × Point} (equality : some result = some (next, point))
      (works : Works env task.pipeline.operationId state result.1) :
      Works env task.pipeline.operationId state next := by
    cases equality
    exact works
  unfold turn at turned
  split at turned
  next => exact first turned start
  next =>
    split at turned
    next => contradiction
    next => exact first turned start
  next => exact first turned start
  next => exact first turned (announceStep_works _ _ _ _ _ start)
  next => exact first turned (announceStep_works _ _ _ _ _ start)
  next => exact first turned (start.connect _ _)
  next => exact first turned (readOutput_works _ _ _ _ _ start)
  next => exact first turned (endOutput_works _ _ _ _ _ start)
  next => exact first turned (commandFailed_works _ _ start)
  next => exact first turned (reportProgress_works _ _ _ _ _ _ start)
  next =>
    obtain ⟨returnCode, _, equality⟩ := Option.map_eq_some_iff.mp turned
    exact first (congrArg some equality) (commandExited_works _ _ _ _ start)
  next => exact first turned (mockLogs_works _ _ _ start)
  next waits => simp [Point.completes, waits] at early
  next waits => simp [Point.completes, waits] at early
  next => contradiction

theorem succeedPipeline_sameTable (env : Environment) (pipeline : Pipeline) (state : State) :
    state.SameTable (succeedPipeline env pipeline state).1 := by
  have updated := State.sameTable_updateOperation state pipeline.operationId
    (succeededChange pipeline)
  unfold succeedPipeline
  split
  next equality => rwa [equality] at updated
  next recorded equality =>
    rw [equality] at updated
    have logged := State.sameLife_appendLog env recorded pipeline.operationId
      (completionLine state.clock)
    split
    next =>
      split
      next equality =>
        rw [equality] at logged
        exact updated.trans logged.toSameTable
      next equality =>
        rw [equality] at logged
        exact updated.trans logged.toSameTable
    next => exact updated

theorem recordFailure_sameTable (pipeline : Pipeline) (raised : Raised) (state : State) :
    state.SameTable (recordFailure pipeline raised state).1 := by
  have updated := State.sameTable_updateOperation state pipeline.operationId
    (failedChange pipeline raised)
  unfold recordFailure
  split
  next equality => rwa [equality] at updated
  next equality => rwa [equality] at updated

theorem turn_sameTable {reference : Nat} {task : Task} {answer : Answer} {next : State}
    {point : Point} (turned : turn env reference task answer state = some (next, point)) :
    state.SameTable next := by
  cases early : task.point.completes with
  | false => exact (turn_works early turned).sameTable
  | true =>
      cases waits : task.point with
      | succeeding =>
          cases answer <;> simp only [turn, waits, reduceCtorEq, Option.some.injEq] at turned
          have same := succeedPipeline_sameTable env task.pipeline state
          rwa [turned] at same
      | failing raised =>
          cases answer <;> simp only [turn, waits, reduceCtorEq, Option.some.injEq] at turned
          have same := recordFailure_sameTable task.pipeline raised state
          rwa [turned] at same
      | _ => simp [waits, Point.completes] at early

end Works

end GemEmulation.Api
