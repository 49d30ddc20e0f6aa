import GemEmulation.Api.Atomic

/-!
# Log files that cannot be written

Whether a log file can be opened and written shows only in the log files.  Without
them, and with every such call failing, the API takes the same steps.
-/

namespace GemEmulation.Api

open Foundations

def LogCall.muted (call : LogCall) : LogCall := { call with opens := false, writes := false }

def Environment.muted (env : Environment) : Environment :=
  { env with logCall := fun number => (env.logCall number).muted }

def Handler.muted : Handler → Handler
  | .initialising request record line call => .initialising request record line call.muted
  | handler => handler

def State.muted (state : State) : State :=
  { state with logFiles := ∅, handlers := state.handlers.map Handler.muted }

section Fields

variable (state : State)

@[simp]
theorem State.muted_clock : state.muted.clock = state.clock := rfl

@[simp]
theorem State.muted_operations : state.muted.operations = state.operations := rfl

@[simp]
theorem State.muted_lock : state.muted.lock = state.lock := rfl

@[simp]
theorem State.muted_records : state.muted.records = state.records := rfl

@[simp]
theorem State.muted_tasks : state.muted.tasks = state.tasks := rfl

@[simp]
theorem State.muted_processes : state.muted.processes = state.processes := rfl

@[simp]
theorem State.muted_streams : state.muted.streams = state.streams := rfl

@[simp]
theorem State.muted_logCalls : state.muted.logCalls = state.logCalls := rfl

end Fields

def mute {Result : Type} (result : State × Result) : State × Result :=
  (result.1.muted, result.2)

variable {env : Environment} {pipeline : Pipeline}

theorem getLogFilePath_muted (operationId : String) (call : LogCall) :
    getLogFilePath operationId call.muted = getLogFilePath operationId call := rfl

theorem writeLogFile_muted (operationId line : String) (old : List String) (call : LogCall)
    (state : State) : (state.writeLogFile operationId line old call).muted = state.muted := by
  unfold State.writeLogFile
  split <;> rfl

theorem publish_muted (id : Nat) (item : Option String) (state : State) :
    (state.publish id item).muted = state.muted.publish id item := by
  unfold State.publish
  rw [State.muted_records]
  cases state.records.get? id <;> rfl

theorem appendLog_muted (env : Environment) (operationId line : String) (state : State) :
    state.muted.appendLog env.muted operationId line =
      mute (state.appendLog env operationId line) := by
  simp only [State.appendLog, State.muted_operations]
  cases state.operations.get? operationId with
  | none => rfl
  | some id =>
      dsimp only
      split
      next => rfl
      next =>
        have path : getLogFilePath operationId (env.muted.logCall state.muted.logCalls) =
            getLogFilePath operationId (env.logCall state.logCalls) :=
          getLogFilePath_muted operationId (env.logCall state.logCalls)
        rw [path]
        split
        next => rfl
        next =>
          simp only [mute, publish_muted, writeLogFile_muted]
          rfl

theorem updateOperation_muted (operationId : String) (change : Change) (state : State) :
    state.muted.updateOperation operationId change =
      mute (state.updateOperation operationId change) := by
  simp only [State.updateOperation, State.muted_operations]
  cases state.operations.get? operationId with
  | none => rfl
  | some id =>
      simp only [mute]
      split
      next =>
        rw [publish_muted]
        rfl
      next => rfl

theorem runSteps_muted (pipeline : Pipeline) (state : State) (steps : List Step) :
    runSteps pipeline state.muted steps = runSteps pipeline state steps := by
  induction steps with
  | nil => rfl
  | cons step rest inductionHypothesis =>
      simp only [runSteps, inductionHypothesis]
      rfl

theorem mockLogs_muted (record : Nat) (rest : List Step) (logs : List String) (state : State) :
    mockLogs env.muted pipeline record rest logs state.muted =
      mute (mockLogs env pipeline record rest logs state) := by
  cases logs with
  | nil => simp only [mockLogs, runSteps_muted, mute]
  | cons log logs =>
      simp only [mockLogs, runSteps_muted, appendLog_muted, State.muted_records]
      split
      next => rfl
      next =>
        obtain ⟨logged, _ | raised⟩ := state.appendLog env pipeline.operationId log <;> rfl

theorem commandFailed_muted (record : Nat) (raised : Raised) (state : State) :
    commandFailed env.muted pipeline record raised state.muted =
      mute (commandFailed env pipeline record raised state) := by
  simp only [commandFailed, appendLog_muted, State.muted_records]
  split <;> rfl

theorem announceStep_muted (reference record : Nat) (step : Step) (rest : List Step)
    (spawnError : Option Raised) (state : State) :
    announceStep env.muted pipeline reference record step rest spawnError state.muted =
      mute (announceStep env pipeline reference record step rest spawnError state) := by
  simp only [announceStep, updateOperation_muted]
  obtain ⟨updated, _ | raised⟩ := state.updateOperation pipeline.operationId (runningChange step)
  · cases step with
    | mock simulated => exact mockLogs_muted record rest _ updated
    | command command =>
        simp only [mute, appendLog_muted]
        obtain ⟨logged, _ | raised⟩ :=
          updated.appendLog env pipeline.operationId (runningLine command.line)
        · cases spawnError with
          | none => rfl
          | some raised =>
              exact commandFailed_muted record raised (refuseSpawn reference command logged)
        · rfl
  · rfl

theorem readOutput_muted (record process : Nat) (command : Command) (rest : List Step)
    (lines : List OutputLine) (state : State) :
    readOutput env.muted pipeline record process command rest lines state.muted =
      mute (readOutput env pipeline record process command rest lines state) := by
  induction lines generalizing state with
  | nil => rfl
  | cons line lines inductionHypothesis =>
      simp only [readOutput, appendLog_muted]
      split
      next => exact inductionHypothesis state
      next =>
        obtain ⟨logged, _ | raised⟩ := state.appendLog env pipeline.operationId line.text
        · dsimp only [mute]
          split
          next => rfl
          next => exact inductionHypothesis logged
        · exact commandFailed_muted record raised logged

theorem endOutput_muted (record process : Nat) (command : Command) (rest : List Step)
    (remainder : Option String) (state : State) :
    endOutput env.muted pipeline record process command rest remainder state.muted =
      mute (endOutput env pipeline record process command rest remainder state) := by
  cases remainder with
  | none => rfl
  | some text =>
      simp only [endOutput, appendLog_muted]
      obtain ⟨logged, _ | raised⟩ := state.appendLog env pipeline.operationId text
      · rfl
      · exact commandFailed_muted record raised logged

theorem reportProgress_muted (record process : Nat) (command : Command) (rest : List Step)
    (message : String) (lines : List OutputLine) (state : State) :
    reportProgress env.muted pipeline record process command rest message lines state.muted =
      mute (reportProgress env pipeline record process command rest message lines state) := by
  simp only [reportProgress, updateOperation_muted]
  obtain ⟨updated, _ | raised⟩ :=
    state.updateOperation pipeline.operationId { message := some message }
  · exact readOutput_muted record process command rest lines updated
  · exact commandFailed_muted record raised updated

theorem commandExited_muted (record : Nat) (command : Command) (rest : List Step)
    (returnCode : Int) (state : State) :
    commandExited env.muted pipeline record command rest returnCode state.muted =
      mute (commandExited env pipeline record command rest returnCode state) := by
  simp only [commandExited, runSteps_muted, appendLog_muted, State.muted_records]
  split
  next => rfl
  next =>
    split
    next => exact commandFailed_muted record _ _
    next => rfl

theorem succeedPipeline_muted (pipeline : Pipeline) (state : State) :
    succeedPipeline env.muted pipeline state.muted =
      mute (succeedPipeline env pipeline state) := by
  simp only [succeedPipeline, updateOperation_muted]
  obtain ⟨updated, _ | raised⟩ :=
    state.updateOperation pipeline.operationId (succeededChange pipeline)
  · dsimp only [mute]
    split
    next =>
      rw [appendLog_muted, State.muted_clock]
      obtain ⟨logged, _ | raised⟩ :=
        updated.appendLog env pipeline.operationId (completionLine state.clock) <;> rfl
    next => rfl
  · rfl

theorem recordFailure_muted (raised : Raised) (state : State) :
    recordFailure pipeline raised state.muted = mute (recordFailure pipeline raised state) := by
  simp only [recordFailure, updateOperation_muted]
  obtain ⟨updated, _ | second⟩ :=
    state.updateOperation pipeline.operationId (failedChange pipeline raised) <;> rfl

theorem turn_muted (reference : Nat) (task : Task) (answer : Answer) (state : State) :
    turn env.muted reference task answer state.muted =
      (turn env reference task answer state).map mute := by
  unfold turn
  dsimp only
  split
  next => rfl
  next =>
    change (if env.mockEnabled then none else _) = _
    split <;> rfl
  next =>
    simp only [runSteps_muted]
    rfl
  next => simp only [announceStep_muted, Option.map_some]
  next => simp only [announceStep_muted, Option.map_some]
  next => rfl
  next => simp only [readOutput_muted, Option.map_some]
  next => simp only [endOutput_muted, Option.map_some]
  next => simp only [commandFailed_muted, Option.map_some]
  next => simp only [reportProgress_muted, Option.map_some]
  next =>
    simp only [commandExited_muted, Option.map_map]
    rfl
  next => simp only [mockLogs_muted, Option.map_some]
  next => simp only [succeedPipeline_muted, Option.map_some]
  next => simp only [recordFailure_muted, Option.map_some]
  next => rfl

theorem setHandler_muted (reference : Nat) (handler : Handler) (state : State) :
    (state.setHandler reference handler).muted =
      state.muted.setHandler reference handler.muted := by
  simp [State.setHandler, State.muted, Heap.map_overwrite]

theorem receiveRequest_muted (handler : Handler) (state : State) :
    (state.receiveRequest handler).muted = state.muted.receiveRequest handler.muted := by
  simp [State.receiveRequest, State.joinQueue, State.muted, Heap.map_alloc]

theorem register_muted (reference : Nat) (request : Request) (state : State) :
    (state.register env reference request).muted =
      state.muted.register env.muted reference request := by
  have path : getLogFilePath request.operationId (env.muted.logCall state.muted.logCalls) =
      getLogFilePath request.operationId (env.logCall state.logCalls) :=
    getLogFilePath_muted request.operationId (env.logCall state.logCalls)
  have same : state.muted.conflict? request.operationId =
      state.conflict? request.operationId := rfl
  unfold State.register State.beginRegistration
  rw [same]
  cases state.conflict? request.operationId with
  | some active => exact setHandler_muted ..
  | none =>
      dsimp only
      rw [path]
      cases getLogFilePath request.operationId (env.logCall state.logCalls) with
      | some raised => exact setHandler_muted ..
      | none => exact setHandler_muted ..

theorem finishRegistration_muted (operationId : String) (id : Nat) (line : String)
    (call : LogCall) (state : State) :
    (state.finishRegistration operationId id line call).muted =
      state.muted.finishRegistration operationId id line call.muted := by
  have written := writeLogFile_muted operationId line [] call state
  exact congrArg (State.modifyRecord id (OperationRecord.bufferLine line)) written

theorem attachTask_muted (operationId : String) (task : Nat) (state : State) :
    (state.attachTask operationId task).muted = state.muted.attachTask operationId task := by
  unfold State.attachTask
  rw [State.muted_operations]
  cases state.operations.get? operationId <;> rfl

theorem launch_muted (reference : Nat) (request : Request) (id : Nat) (line : String)
    (call : LogCall) (state : State) :
    (state.launch reference request id line call).muted =
      state.muted.launch reference request id line call.muted := by
  unfold State.launch
  rw [← finishRegistration_muted]
  dsimp only
  rw [setHandler_muted, attachTask_muted]
  rfl

theorem terminateProcess_muted (process : Option Nat) (state : State) :
    (state.terminateProcess process).muted = state.muted.terminateProcess process := by
  cases process with
  | none => rfl
  | some pid =>
      unfold State.terminateProcess
      dsimp only
      split
      next running => exact (if_pos running).symm
      next ended => exact (if_neg ended).symm

theorem cancelTask_muted (task : Option Nat) (state : State) :
    (state.cancelTask task).muted = state.muted.cancelTask task := by
  cases task <;> rfl

theorem cancelOperation_muted (operationId : String) (state : State) :
    state.muted.cancelOperation env.muted operationId =
      mute (state.cancelOperation env operationId) := by
  have same : state.muted.find? operationId = state.find? operationId := rfl
  unfold State.cancelOperation
  rw [same]
  cases state.find? operationId with
  | none => rfl
  | some found =>
      obtain ⟨id, record⟩ := found
      dsimp only
      split
      next => rfl
      next =>
        have stopped : ((state.muted.modifyRecord id fun _ =>
              cancelRecord operationId state.muted.clock record).terminateProcess
                record.process).cancelTask record.task =
            (((state.modifyRecord id fun _ =>
              cancelRecord operationId state.clock record).terminateProcess
                record.process).cancelTask record.task).muted := by
          rw [cancelTask_muted, terminateProcess_muted]
          rfl
        rw [stopped, appendLog_muted, State.muted_clock]
        generalize State.appendLog env operationId _ _ = outcome
        obtain ⟨logged, _ | raised⟩ := outcome
        · simp only [mute, publish_muted]
        · rfl

theorem handlerTurn_muted (reference : Nat) (handler : Handler) (state : State) :
    state.muted.handlerTurn env.muted reference handler.muted =
      (state.handlerTurn env reference handler).map State.muted := by
  have enters : state.muted.mayEnter (.handler reference) =
      state.mayEnter (.handler reference) := rfl
  have left : state.muted.leaveQueue (.handler reference) =
      (state.leaveQueue (.handler reference)).muted := rfl
  cases handler with
  | registering request =>
      simp only [Handler.muted, State.handlerTurn, enters, left, ← register_muted]
      split <;> rfl
  | initialising request id line call =>
      simp only [Handler.muted, State.handlerTurn, ← launch_muted, Option.map_some]
  | cancelling operationId =>
      simp only [Handler.muted, State.handlerTurn, enters, left, cancelOperation_muted]
      split
      next =>
        generalize (state.leaveQueue (.handler reference)).cancelOperation env operationId =
          outcome
        obtain ⟨cancelled, raised | response⟩ := outcome
        · simp only [mute, Option.map_some, setHandler_muted]
          rfl
        · simp only [mute, Option.map_some, setHandler_muted]
          rfl
      next => rfl
  | answered reply => rfl

theorem interruptHandler_muted (reference : Nat) (handler : Handler) (state : State) :
    state.muted.interruptHandler reference handler.muted =
      (state.interruptHandler reference handler).map State.muted := by
  cases handler with
  | answered reply => rfl
  | _ =>
      simp only [Handler.muted, State.interruptHandler, Option.map_some, setHandler_muted]
      rfl

theorem suspend_muted (reference : Nat) (point : Point) (state : State) :
    (state.suspend reference point).muted = state.muted.suspend reference point := by
  unfold State.suspend
  dsimp only
  split <;> rfl

theorem taskTurn_muted (reference : Nat) (task : Task) (answer : Answer) (state : State) :
    state.muted.taskTurn env.muted reference task answer =
      (state.taskTurn env reference task answer).map State.muted := by
  have enters : state.muted.mayEnter (.task reference) = state.mayEnter (.task reference) := rfl
  have left : state.muted.leaveQueue (.task reference) =
      (state.leaveQueue (.task reference)).muted := rfl
  simp only [State.taskTurn, enters, left, turn_muted, Option.map_map]
  split
  next => rfl
  next =>
    split
    next => rfl
    next =>
      rw [Option.map_map]
      exact congrArg (Option.map · _) (funext fun result => (suspend_muted ..).symm)

theorem cancelledTurn_muted (task : Task) (state : State) :
    cancelledTurn task state.muted = (cancelledTurn task state).map mute := by
  unfold cancelledTurn
  split
  next => rfl
  next =>
    rw [Option.map_map]
    rfl
  next => rfl
  next => rfl

theorem taskCancelledTurn_muted (reference : Nat) (task : Task) (state : State) :
    state.muted.taskCancelledTurn reference task =
      (state.taskCancelledTurn reference task).map State.muted := by
  have left : state.muted.leaveQueue (.task reference) =
      (state.leaveQueue (.task reference)).muted := rfl
  simp only [State.taskCancelledTurn, left, cancelledTurn_muted, Option.map_map]
  split
  next =>
    rw [Option.map_map]
    exact congrArg (Option.map · _) (funext fun result => (suspend_muted ..).symm)
  next => rfl

theorem finalizeTask_muted (operationId : String) (reference : Nat) (outcome : Outcome)
    (state : State) :
    (state.finalizeTask env operationId reference outcome).muted =
      state.muted.finalizeTask env.muted operationId reference outcome := by
  have same : state.muted.find? operationId = state.find? operationId := rfl
  unfold State.finalizeTask
  rw [same]
  cases state.find? operationId with
  | none => rfl
  | some found =>
      obtain ⟨id, record⟩ := found
      dsimp only
      split
      next => rfl
      next =>
        have modified : (state.muted.modifyRecord id fun _ =>
              finalizeRecord operationId outcome state.muted.clock record) =
            (state.modifyRecord id fun _ =>
              finalizeRecord operationId outcome state.clock record).muted := rfl
        rw [modified, appendLog_muted, State.muted_clock]
        generalize State.appendLog env operationId _ _ = result
        obtain ⟨logged, _ | raised⟩ := result
        · simp only [mute, publish_muted]
        · rfl

theorem runCallback_muted (reference : Nat) (task : Task) (state : State) :
    state.muted.runCallback env.muted reference task =
      (state.runCallback env reference task).map State.muted := by
  unfold State.runCallback
  split
  next =>
    simp only [← finalizeTask_muted]
    split <;> rfl
  next => rfl

theorem exitProcess_muted (reference : Nat) (returnCode : Int) (state : State) :
    state.muted.exitProcess reference returnCode =
      (state.exitProcess reference returnCode).map State.muted := by
  unfold State.exitProcess
  rw [State.muted_processes]
  cases state.processes.get? reference with
  | none => rfl
  | some process =>
      simp only [Option.bind_some]
      split <;> rfl

theorem forceKillProcess_muted (reference : Nat) (state : State) :
    state.muted.forceKillProcess reference =
      (state.forceKillProcess reference).map State.muted := by
  unfold State.forceKillProcess
  by_cases woken : reference ∈ state.forceKills
  · rw [if_pos woken]
    apply (if_pos woken).trans
    dsimp only
    by_cases running : (state.processes.get? reference).map Process.state = some .running
    · rw [if_pos running]
      exact if_pos running
    · rw [if_neg running]
      exact if_neg running
  · rw [if_neg woken]
    exact if_neg woken

theorem openStream_muted (operationId : String) (state : State) :
    state.muted.openStream operationId = (state.openStream operationId).map State.muted := by
  have same : state.muted.find? operationId = state.find? operationId := rfl
  simp only [State.openStream, same, Option.map_map]
  rfl

theorem resumeStream_muted (reference : Nat) (state : State) :
    state.muted.resumeStream reference = (state.resumeStream reference).map State.muted := by
  unfold State.resumeStream
  rw [State.muted_streams, State.muted_records]
  cases state.streams.get? reference with
  | none => rfl
  | some stream =>
      simp only [Option.bind_some]
      cases state.records.get? stream.record with
      | none => rfl
      | some record =>
          simp only [Option.map_some]
          split <;> rfl

theorem closeStream_muted (reference : Nat) (state : State) :
    state.muted.closeStream reference = (state.closeStream reference).map State.muted := by
  unfold State.closeStream
  rw [State.muted_streams]
  cases state.streams.get? reference <;> rfl

theorem apiStep_muted (env : Environment) (state : State) (event : Event) :
    apiStep env.muted state.muted event = (apiStep env state event).map State.muted := by
  cases event with
  | tick clock => rfl
  | request request =>
      exact congrArg some (receiveRequest_muted (.registering request) state).symm
  | cancel operationId =>
      exact congrArg some (receiveRequest_muted (.cancelling operationId) state).symm
  | handlerTurn reference =>
      have handlers : state.muted.handlers.get? reference =
          (state.handlers.get? reference).map Handler.muted := Heap.get?_map ..
      simp only [apiStep, handlers]
      cases state.handlers.get? reference with
      | none => rfl
      | some handler => exact handlerTurn_muted reference handler state
  | interrupt reference =>
      have handlers : state.muted.handlers.get? reference =
          (state.handlers.get? reference).map Handler.muted := Heap.get?_map ..
      simp only [apiStep, handlers]
      cases state.handlers.get? reference with
      | none => rfl
      | some handler => exact interruptHandler_muted reference handler state
  | taskTurn reference answer =>
      simp only [apiStep, State.muted_tasks]
      cases state.tasks.get? reference with
      | none => rfl
      | some task => exact taskTurn_muted reference task answer state
  | cancelledTurn reference =>
      simp only [apiStep, State.muted_tasks]
      cases state.tasks.get? reference with
      | none => rfl
      | some task => exact taskCancelledTurn_muted reference task state
  | callback reference =>
      simp only [apiStep, State.muted_tasks]
      cases state.tasks.get? reference with
      | none => rfl
      | some task => exact runCallback_muted reference task state
  | processExit reference returnCode => exact exitProcess_muted reference returnCode state
  | forceKill reference => exact forceKillProcess_muted reference state
  | subscribe operationId =>
      simp only [apiStep, openStream_muted, State.muted_streams]
      cases state.openStream operationId with
      | none => rfl
      | some opened => exact resumeStream_muted state.streams.fresh opened
  | pull reference => exact resumeStream_muted reference state
  | closeStream reference => exact closeStream_muted reference state

/-- A use of the log directory whose file is opened and written, if its path is found. -/
def LogCall.writing (call : LogCall) : LogCall := { call with opens := true, writes := true }

/-- The environment in which every log file can be opened and written. -/
def Environment.writing (env : Environment) : Environment :=
  { env with logCall := fun number => (env.logCall number).writing }

/-- The uses of the log directory that `append_log` makes in a step. -/
def AppendLogCalls (env : Environment) (state : State) (event : Event)
    (expected : LogCall → Prop) : Prop :=
  (∀ handler request, event = .handlerTurn handler →
    state.handlers.get? handler ≠ some (.registering request)) →
  ∀ next call, apiStep env state event = some next → state.logCalls ≤ call →
    call < next.logCalls → expected (env.logCall call)

/-- Every `append_log` of a step finds the path of its log file. -/
def LogsFound (env : Environment) (state : State) (event : Event) : Prop :=
  AppendLogCalls env state event fun call => call.findsPath = true

/-- Every `append_log` of a step writes its log file. -/
def LogsWork (env : Environment) (state : State) (event : Event) : Prop :=
  AppendLogCalls env state event fun call => call = .working

def statusHistory (env : Environment) (clock : String) (events : List Event) (id : Nat) :
    List (Option OperationStatus) :=
  events.inits.map fun earlier =>
    (execute (apiStep env) (.initial clock) earlier).bind fun state =>
      (state.records.get? id).map OperationRecord.status

theorem muted_writing (env : Environment) : env.writing.muted = env.muted := rfl

theorem muted_initial (clock : String) : (State.initial clock).muted = .initial clock := rfl

theorem apiStep_writing {state other next : State} {event : Event}
    (alike : state.muted = other.muted) (stepped : apiStep env state event = some next) :
    ∃ otherNext, apiStep env.writing other event = some otherNext ∧
      next.muted = otherNext.muted := by
  have here := apiStep_muted env state event
  have there := apiStep_muted env.writing other event
  rw [muted_writing, ← alike, here, stepped] at there
  obtain ⟨otherNext, otherStepped, same⟩ := Option.map_eq_some_iff.mp there.symm
  exact ⟨otherNext, otherStepped, same.symm⟩

theorem logsWork_of_logsFound {state other : State} {event : Event}
    (alike : state.muted = other.muted) (found : LogsFound env state event) :
    LogsWork env.writing other event := by
  intro unregistered otherNext call stepped low high
  have there := apiStep_muted env.writing other event
  rw [stepped, muted_writing, ← alike, apiStep_muted env state event] at there
  obtain ⟨next, here, same⟩ := Option.map_eq_some_iff.mp there
  have calls := congrArg State.logCalls alike
  have nextCalls := congrArg State.logCalls same
  have handlers := congrArg State.handlers alike
  simp only [State.muted_logCalls] at calls nextCalls
  have finds := found (fun handler request turned registering => by
    have muted := congrArg (Heap.get? · handler) handlers
    simp only [State.muted, Heap.get?_map, registering, Option.map_some, Handler.muted] at muted
    obtain ⟨old, oldFound, oldMuted⟩ := Option.map_eq_some_iff.mp muted.symm
    cases old with
    | registering otherRequest => exact unregistered handler otherRequest turned oldFound
    | _ => cases oldMuted) next call here (calls ▸ low) (nextCalls ▸ high)
  simp only [LogCall.findsPath, Bool.and_eq_true, Option.isNone_iff_eq_none] at finds
  simp [Environment.writing, LogCall.writing, LogCall.working, finds.1, finds.2]

/-- In every run in which `append_log` finds the path of its log file, every record goes
through the same statuses as in the run with the same events in which every `append_log`
also writes its log file. -/
theorem statusHistory_of_logsFound (env : Environment) (clock : String) {events : List Event}
    {state : State}
    (run : Run (apiStep env) (LogsFound env) (State.initial clock) events state) :
    (∃ reference, Run (apiStep env.writing) (LogsWork env.writing) (State.initial clock) events
      reference) ∧
    ∀ id, statusHistory env clock events id = statusHistory env.writing clock events id := by
  have mirrored : ∃ reference, Run (apiStep env.writing) (LogsWork env.writing)
      (State.initial clock) events reference ∧ state.muted = reference.muted := by
    induction run with
    | nil => exact ⟨_, .nil, rfl⟩
    | snoc _ found stepped inductionHypothesis =>
        obtain ⟨reference, mirror, alike⟩ := inductionHypothesis
        obtain ⟨next, mirrored, nextAlike⟩ := apiStep_writing alike stepped
        exact ⟨next, mirror.snoc (logsWork_of_logsFound alike found) mirrored, nextAlike⟩
  obtain ⟨reference, mirror, _⟩ := mirrored
  refine ⟨⟨reference, mirror⟩, fun id => ?_⟩
  have status (env : Environment) (earlier : List Event) :
      ((execute (apiStep env) (.initial clock) earlier).bind fun state =>
        (state.records.get? id).map OperationRecord.status) =
      (execute (apiStep env.muted) (.initial clock) earlier).bind fun state =>
        (state.records.get? id).map OperationRecord.status := by
    rw [← muted_initial clock, execute_map State.muted (apiStep_muted env), muted_initial]
    cases execute (apiStep env) (.initial clock) earlier <;> rfl
  simp only [statusHistory, status env, status env.writing, muted_writing]

/-- A teardown whose log file cannot be opened runs like one whose log file is written. -/
theorem statusHistory_of_logsFound_teardown :
    statusHistory ⟨false, 10, fun _ => LogCall.working.muted⟩ "" (spawnEvents 0 0) 0 =
      statusHistory (.working false 10) "" (spawnEvents 0 0) 0 := by
  have check : (execute (apiStep ⟨false, 10, fun _ => LogCall.working.muted⟩) (.initial "")
      (spawnEvents 0 0)).isSome = true := by
    decide
  obtain ⟨state, executed⟩ := Option.isSome_iff_exists.mp check
  have run : Run (apiStep ⟨false, 10, fun _ => LogCall.working.muted⟩)
      (LogsFound ⟨false, 10, fun _ => LogCall.working.muted⟩) (.initial "") (spawnEvents 0 0)
      state :=
    (run_of_execute executed).weaken fun _ _ _ _ _ _ _ _ _ => rfl
  exact (statusHistory_of_logsFound ⟨false, 10, fun _ => LogCall.working.muted⟩ "" run).2 0

def clusterBuild : Request :=
  .clusterCreate "edge" ⟨["terraform", "init"], "/repo"⟩ ⟨["terraform", "apply"], "/repo"⟩
    ⟨["ansible-playbook"], "/repo"⟩

def commandEvents (process : Nat) : List Event :=
  [.taskTurn 0 .resumed, .taskTurn 0 .resumed, .taskTurn 0 (.endOfOutput none),
    .processExit process 0, .taskTurn 0 .resumed]

def clusterBuildEvents : List Event :=
  [.request clusterBuild, .handlerTurn 0, .handlerTurn 0, .taskTurn 0 .started] ++
    commandEvents 0 ++ commandEvents 1 ++ commandEvents 2 ++ [.taskTurn 0 .resumed]

/-- An environment whose log directory is lost once, at the given use. -/
def losingDirectory (number : Nat) : Environment where
  mockEnabled := false
  maxLogBufferLines := 10
  logCall call :=
    if call = number then ⟨some ⟨"OSError", "[Errno 28] No space left on device"⟩, true, true, true⟩
    else .working

/-- The log directory is lost when the success of a build is logged: the record goes from
SUCCEEDED to FAILED, and with a working log it is SUCCEEDED after the same events. -/
theorem lostDirectory_failsSuccess :
    (statusHistory (losingDirectory 4) "" (clusterBuildEvents ++ [.taskTurn 0 .resumed]) 0).drop
        20 = [some .succeeded, some .failed] ∧
      (statusHistory (.working false 10) "" clusterBuildEvents 0).drop 20 =
        [some .succeeded] := by
  decide

end GemEmulation.Api
