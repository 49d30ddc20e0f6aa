import Mathlib.Data.List.DropRight
import GemEmulation.Api.Lines
import GemEmulation.Api.Records

/-!
# The operation manager

The methods of `OperationManager` on the state of the API.  A method that awaits
something is split where it is suspended; a method that can raise returns the
exception beside the state it leaves.
-/

namespace GemEmulation.Api

open Foundations

def validOperationId (operationId : String) : Bool :=
  operationId ≠ "" && !Text.containsChar operationId '/' &&
    !Text.containsChar operationId '\\' && !Text.contains operationId ".."

/-- The exception of `_get_log_file_path`, when `call` is what its calls to the
file system come to. -/
def getLogFilePath (operationId : String) (call : LogCall) : Option Raised :=
  let invalid := httpException 400 s!"Invalid operation_id '{operationId}'."
  if validOperationId operationId = false then some invalid
  else call.directory.orElse fun _ => if call.contained then none else some invalid

namespace OperationRecord

/-- `log_buffer.append`: a full buffer drops its oldest lines. -/
def bufferLine (line : String) (record : OperationRecord) : OperationRecord :=
  { record with
    logBuffer := (record.logBuffer ++ [line]).rtake record.maxBufferLines
    history := record.history ++ [.appended line] }

end OperationRecord

structure Change where
  status : Option OperationStatus := none
  currentStep : Option String := none
  message : Option String := none
  error : Option String := none
  completed : Bool := false

def Change.apply (change : Change) (now : String) (record : OperationRecord) :
    OperationRecord :=
  { record with
    updatedAt := now
    status := change.status.getD record.status
    currentStep := change.currentStep.or record.currentStep
    message := change.message.or record.message
    error := change.error.or record.error
    completedAt := if change.completed then some now else record.completedAt }

/-- The exception of the branch for unknown ids, which looks the status code up
in the argument that shadows the module. -/
def unknownOperation (change : Change) : Raised :=
  let holder := if change.status.isSome then "OperationStatus" else "NoneType"
  ⟨"AttributeError", s!"'{holder}' object has no attribute 'HTTP_404_NOT_FOUND'"⟩

def initLine (record : OperationRecord) : String :=
  let operationType := record.operationType.text
  s!"[{record.createdAt}] Registered operation {record.operationId} ({operationType}) " ++
    s!"on {record.targetResource}."

/-- What `_finalize_task` writes to a record. -/
def finalizeRecord (operationId : String) (outcome : Outcome) (now : String)
    (record : OperationRecord) : OperationRecord :=
  let failedWith (error : String) : OperationRecord :=
    { record with
      status := .failed
      currentStep := some "Failed"
      error := some error
      message := some s!"Operation failed: {error}"
      updatedAt := now
      completedAt := some now }
  match outcome with
  | .cancelled =>
      { record with
        status := .cancelled
        currentStep := some "Cancelled"
        message := some s!"Operation '{operationId}' was cancelled."
        updatedAt := now
        completedAt := some now }
  | .returned => failedWith "Pipeline exited without reporting a final status."
  | .raised raised => failedWith s!"{raised.typeName}: {raised.text}"

/-- What `cancel_operation` writes to a record. -/
def cancelRecord (operationId now : String) (record : OperationRecord) : OperationRecord :=
  { record with
    status := .cancelled
    completedAt := some now
    message := some
      s!"Operation '{operationId}' was cancelled and background processes terminated."
    updatedAt := now }

namespace State

def find? (operationId : String) (state : State) : Option (Nat × OperationRecord) :=
  (state.operations.get? operationId).bind fun id =>
    (state.records.get? id).map fun record => (id, record)

def modifyRecord (id : Nat) (change : OperationRecord → OperationRecord) (state : State) :
    State :=
  { state with records := state.records.modify id change }

def modifyTask (task : Nat) (change : Task → Task) (state : State) : State :=
  { state with tasks := state.tasks.modify task change }

def writeLogFile (operationId line : String) (old : List String) (call : LogCall)
    (state : State) : State :=
  if call.opens then
    { state with
      logFiles := state.logFiles.set operationId (if call.writes then old ++ [line] else old) }
  else state

def publish (id : Nat) (item : Option String) (state : State) : State :=
  match state.records.get? id with
  | none => state
  | some record =>
      { state with
        records := state.records.modify id fun record =>
          { record with history := record.history ++ [.published item] }
        streams := record.subscribers.foldl
          (fun streams subscriber => streams.modify subscriber (Stream.receive item))
          state.streams }

def appendLog (env : Environment) (operationId logLine : String) (state : State) :
    State × Option Raised :=
  match state.operations.get? operationId with
  | none => (state, none)
  | some id =>
      let text := rstrip logLine
      if text = "" then (state, none)
      else
        let line := formatLine state.clock text
        let call := env.logCall state.logCalls
        let buffered :=
          { state.modifyRecord id (OperationRecord.bufferLine line) with
            logCalls := state.logCalls + 1 }
        match getLogFilePath operationId call with
        | some raised => (buffered, some raised)
        | none =>
            let old := (buffered.logFiles.get? operationId).getD []
            ((buffered.writeLogFile operationId line old call).publish id (some line), none)

def gaveUp (state : State) : Party → Bool
  | .handler _ => false
  | .task task => ((state.tasks.get? task).map Task.cancelRequested).getD false

def mayEnter (party : Party) (state : State) : Bool :=
  state.lock.holder.isNone &&
    state.lock.waiters.find? (fun waiter => !state.gaveUp waiter) = some party

def joinQueue (party : Party) (state : State) : State :=
  { state with lock := { state.lock with waiters := state.lock.waiters ++ [party] } }

def leaveQueue (party : Party) (state : State) : State :=
  { state with lock := { state.lock with waiters := state.lock.waiters.erase party } }

def setHolder (holder : Option Nat) (state : State) : State :=
  { state with lock := { state.lock with holder } }

def conflict? (targetResource : String) (state : State) : Option OperationRecord :=
  state.operations.values.findSome? fun id =>
    (state.records.get? id).filter fun record =>
      decide (record.targetResource = targetResource) && record.status.active

def newRecord (env : Environment) (operationId : String) (operationType : OperationType)
    (targetResource initialStep initialMessage : String) (state : State) :
    OperationRecord where
  operationId
  operationType
  targetResource
  status := .queued
  currentStep := some initialStep
  message := some initialMessage
  createdAt := state.clock
  updatedAt := state.clock
  completedAt := none
  error := none
  maxBufferLines := env.maxLogBufferLines
  logBuffer := []
  history := []
  subscribers := []
  process := none
  task := none

/-- `register_operation` up to the thread that it waits for. -/
def beginRegistration (env : Environment) (operationId : String)
    (operationType : OperationType) (targetResource initialStep initialMessage : String)
    (state : State) : State × Except Raised (Nat × String × LogCall) :=
  match state.conflict? targetResource with
  | some active =>
      let activeType := active.operationType.text
      (state, .error (httpException 409
        (s!"An active operation '{active.operationId}' of type '{activeType}' " ++
          s!"is already in progress for target resource '{targetResource}'.")))
  | none =>
      let record := state.newRecord env operationId operationType targetResource initialStep
        initialMessage
      let id := state.records.fresh
      let call := env.logCall state.logCalls
      let inserted :=
        { state with
          records := state.records.alloc record
          operations := state.operations.set operationId id
          logCalls := state.logCalls + 1 }
      match getLogFilePath operationId call with
      | some raised => (inserted, .error raised)
      | none => (inserted, .ok (id, initLine record, call))

/-- `register_operation` after the thread has written the log file. -/
def finishRegistration (operationId : String) (id : Nat) (line : String) (call : LogCall)
    (state : State) : State :=
  (state.writeLogFile operationId line [] call).modifyRecord id
    (OperationRecord.bufferLine line)

def updateOperation (operationId : String) (change : Change) (state : State) :
    State × Option Raised :=
  match state.operations.get? operationId with
  | none => (state, some (unknownOperation change))
  | some id =>
      let updated := state.modifyRecord id (change.apply state.clock)
      (if change.completed then updated.publish id none else updated, none)

def attachTask (operationId : String) (task : Nat) (state : State) : State :=
  match state.operations.get? operationId with
  | none => state
  | some id =>
      (state.modifyRecord id fun record => { record with task := some task }).modifyTask task
        fun attached => { attached with attachedTo := some id }

/-- `_finalize_task`; an exception of a callback goes to the event loop's handler. -/
def finalizeTask (env : Environment) (operationId : String) (task : Nat) (outcome : Outcome)
    (state : State) : State :=
  match state.find? operationId with
  | none => state
  | some (id, record) =>
      if record.task ≠ some task || record.status.terminal then state
      else
        let final := finalizeRecord operationId outcome state.clock record
        match (state.modifyRecord id fun _ => final).appendLog env operationId
            (final.message.getD "") with
        | (logged, some _) => logged
        | (logged, none) => logged.publish id none

/-- SIGTERM to a process that is still running, and the task that kills it later. -/
def terminateProcess (process : Option Nat) (state : State) : State :=
  match process with
  | none => state
  | some pid =>
      if (state.processes.get? pid).map Process.state = some .running then
        { state with
          processes := state.processes.modify pid fun process =>
            { process with signals := process.signals ++ [.sigterm] }
          forceKills := state.forceKills ++ [pid] }
      else state

/-- `task.cancel` for a task that is not done. -/
def cancelTask (task : Option Nat) (state : State) : State :=
  match task with
  | none => state
  | some task => state.modifyTask task fun task =>
      { task with cancelRequested := task.cancelRequested || !task.point.isFinished }

/-- `cancel_operation` once it holds the lock. -/
def cancelOperation (env : Environment) (operationId : String) (state : State) :
    State × Except Raised CancelResponse :=
  match state.find? operationId with
  | none =>
      (state, .error (httpException 404 s!"Operation '{operationId}' not found."))
  | some (id, record) =>
      if record.status.terminal then
        let status := record.status.text
        (state, .ok ⟨false, operationId, record.status,
          s!"Operation '{operationId}' has already finished with status '{status}'."⟩)
      else
        let cancelled := cancelRecord operationId state.clock record
        let stopped := ((state.modifyRecord id fun _ => cancelled).terminateProcess
          record.process).cancelTask record.task
        match stopped.appendLog env operationId
            s!"[{state.clock}] Operation cancelled by user request." with
        | (logged, some raised) => (logged, .error raised)
        | (logged, none) => (logged.publish id none,
            .ok ⟨true, operationId, .cancelled, cancelled.message.getD ""⟩)

/-- `stream_logs` up to its first suspension. -/
def openStream (operationId : String) (state : State) : Option State :=
  (state.find? operationId).map fun (id, record) =>
    { state with
      records := state.records.modify id fun record =>
        { record with subscribers := record.subscribers ++ [state.streams.fresh] }
      streams := state.streams.alloc (Stream.subscribe id record.logBuffer) }

/-- The `finally` block of `stream_logs`. -/
def unsubscribe (id stream : Nat) (state : State) : State :=
  state.modifyRecord id fun record =>
    { record with subscribers := record.subscribers.erase stream }

def resumeStream (reference : Nat) (state : State) : Option State :=
  (state.streams.get? reference).bind fun stream =>
    (state.records.get? stream.record).map fun record =>
      let resumed := stream.resume record.status
      let advanced := { state with streams := state.streams.modify reference fun _ => resumed }
      if resumed.point = .closed then advanced.unsubscribe stream.record reference
      else advanced

def closeStream (reference : Nat) (state : State) : Option State :=
  (state.streams.get? reference).map fun stream =>
    ({ state with streams := state.streams.modify reference fun stream =>
        { stream with point := .closed } }).unsubscribe stream.record reference

end State

end GemEmulation.Api
