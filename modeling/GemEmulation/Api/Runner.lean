import GemEmulation.Api.Manager

/-!
# The process runner

The pipelines as coroutines: a turn of a task runs its pipeline from one
suspension to the next, given what the pipeline was waiting for.
-/

namespace GemEmulation.Api

open Foundations

/-- What a suspended pipeline is resumed with. -/
inductive Answer where
  /-- The pipeline starts; nothing raises before its first step. -/
  | started
  /-- `get_settings` raises, before the pipeline's `try`. -/
  | settingsFailed (raised : Raised)
  /-- Building the first command line raises, within the `try`. -/
  | preparationFailed (raised : Raised)
  /-- The awaited lock, exit, pipes or time is there. -/
  | resumed
  /-- The lock is there, and `create_subprocess_exec` then raises. -/
  | spawnFailed (raised : Raised)
  /-- The output of one read. -/
  | output (lines : List OutputLine)
  /-- The end of the output, with what was left in the buffer. -/
  | endOfOutput (remainder : Option String)
  /-- Reading the output raises. -/
  | readFailed (raised : Raised)
  deriving DecidableEq, Repr

def State.skips (operationId : String) (state : State) : Bool :=
  match state.find? operationId with
  | none => true
  | some (_, record) => record.status = .cancelled

/-- `_finalize_pipeline` up to the lock. -/
def finalizePipeline (pipeline : Pipeline) (state : State) : Point :=
  if state.skips pipeline.operationId then .finished .returned else .succeeding

/-- `_fail_pipeline` up to the lock. -/
def failPipeline (pipeline : Pipeline) (raised : Raised) (state : State) : Point :=
  if state.skips pipeline.operationId then .finished .returned else .failing raised

def runSteps (pipeline : Pipeline) (state : State) : List Step → Point
  | [] => finalizePipeline pipeline state
  | step :: rest =>
      match state.find? pipeline.operationId with
      | none => runSteps pipeline state rest
      | some (id, record) =>
          if record.status = .cancelled then runSteps pipeline state rest
          else .announcing id step rest

/-- The update of `_finalize_pipeline`. -/
def succeededChange (pipeline : Pipeline) : Change where
  status := some .succeeded
  currentStep := some "Completed"
  message := some pipeline.successMessage
  completed := true

/-- The update of `_fail_pipeline`. -/
def failedChange (pipeline : Pipeline) (raised : Raised) : Change where
  status := some .failed
  currentStep := some "Failed"
  message := some s!"{pipeline.errorLabel}: {raised.text}"
  error := some raised.text
  completed := true

/-- The line that `_finalize_pipeline` logs for `log_completion`. -/
def completionLine (now : String) : String := s!"[{now}] Cluster build completed successfully."

/-- `_finalize_pipeline` from the lock on. -/
def succeedPipeline (env : Environment) (pipeline : Pipeline) (state : State) :
    State × Point :=
  match state.updateOperation pipeline.operationId (succeededChange pipeline) with
  | (updated, some raised) => (updated, failPipeline pipeline raised updated)
  | (updated, none) =>
      if pipeline.logCompletion then
        match updated.appendLog env pipeline.operationId (completionLine state.clock) with
        | (logged, some raised) => (logged, failPipeline pipeline raised logged)
        | (logged, none) => (logged, .finished .returned)
      else (updated, .finished .returned)

/-- `_fail_pipeline` from the lock on. -/
def recordFailure (pipeline : Pipeline) (raised : Raised) (state : State) : State × Point :=
  match state.updateOperation pipeline.operationId (failedChange pipeline raised) with
  | (updated, some second) => (updated, .finished (.raised second))
  | (updated, none) => (updated, .finished .returned)

/-- The loop of `_mock_step` up to the next sleep. -/
def mockLogs (env : Environment) (pipeline : Pipeline) (record : Nat) (rest : List Step)
    (logs : List String) (state : State) : State × Point :=
  match logs with
  | [] => (state, runSteps pipeline state rest)
  | log :: logs =>
      if (state.records.get? record).map OperationRecord.status = some .cancelled then
        (state, runSteps pipeline state rest)
      else
        match state.appendLog env pipeline.operationId log with
        | (logged, some raised) => (logged, failPipeline pipeline raised logged)
        | (logged, none) => (logged, .sleeping record logs rest)

/-- The handler of `_execute_command` for exceptions, and then that of the pipeline. -/
def commandFailed (env : Environment) (pipeline : Pipeline) (record : Nat) (raised : Raised)
    (state : State) : State × Point :=
  if (state.records.get? record).map OperationRecord.status = some .cancelled then
    (state, failPipeline pipeline raised state)
  else
    match state.appendLog env pipeline.operationId s!"Execution exception: {raised.text}" with
    | (logged, second) => (logged, failPipeline pipeline (second.getD raised) logged)

/-- `create_subprocess_exec` up to the pipes of the subprocess. -/
def spawn (task record : Nat) (command : Command) (rest : List Step) (state : State) :
    State × Point :=
  ({ state with processes := state.processes.alloc ⟨task, command, .running, []⟩ },
    .spawning record state.processes.fresh command rest)

/-- A call of `create_subprocess_exec` that raises. -/
def refuseSpawn (task : Nat) (command : Command) (state : State) : State :=
  { state with processes := state.processes.alloc ⟨task, command, .unspawned, []⟩ }

def runningLine (line : CommandLine) : String :=
  let words := Text.join line.cmd " "
  s!"> Running: {words} (cwd: {line.cwd})"

def runningChange (step : Step) : Change where
  status := some .running
  currentStep := some step.stepName
  message := some step.stepMessage

def announceStep (env : Environment) (pipeline : Pipeline) (task record : Nat) (step : Step)
    (rest : List Step) (spawnError : Option Raised) (state : State) : State × Point :=
  match state.updateOperation pipeline.operationId (runningChange step) with
  | (updated, some raised) => (updated, failPipeline pipeline raised updated)
  | (updated, none) =>
      match step with
      | .mock simulated => mockLogs env pipeline record rest simulated.sampleLogs updated
      | .command command =>
          match updated.appendLog env pipeline.operationId (runningLine command.line) with
          | (logged, some raised) => (logged, failPipeline pipeline raised logged)
          | (logged, none) =>
              match spawnError with
              | none => spawn task record command rest logged
              | some raised =>
                  commandFailed env pipeline record raised (refuseSpawn task command logged)

/-- The loop over the lines of one read, up to a line that carries a message. -/
def readOutput (env : Environment) (pipeline : Pipeline) (record process : Nat)
    (command : Command) (rest : List Step) :
    List OutputLine → State → State × Point
  | [], state => (state, .reading record process command rest)
  | line :: lines, state =>
      if line.text = "" then
        readOutput env pipeline record process command rest lines state
      else
        match state.appendLog env pipeline.operationId line.text with
        | (logged, some raised) => commandFailed env pipeline record raised logged
        | (logged, none) =>
            match if line.complete then progressMessage line.text else none with
            | some message => (logged, .reporting record process command rest message lines)
            | none => readOutput env pipeline record process command rest lines logged

def endOutput (env : Environment) (pipeline : Pipeline) (record process : Nat)
    (command : Command) (rest : List Step) (remainder : Option String) (state : State) :
    State × Point :=
  match remainder with
  | none => (state, .waiting record process command rest)
  | some text =>
      match state.appendLog env pipeline.operationId text with
      | (logged, some raised) => commandFailed env pipeline record raised logged
      | (logged, none) => (logged, .waiting record process command rest)

def reportProgress (env : Environment) (pipeline : Pipeline) (record process : Nat)
    (command : Command) (rest : List Step) (message : String) (lines : List OutputLine)
    (state : State) : State × Point :=
  match state.updateOperation pipeline.operationId { message := some message } with
  | (updated, some raised) => commandFailed env pipeline record raised updated
  | (updated, none) => readOutput env pipeline record process command rest lines updated

def commandExited (env : Environment) (pipeline : Pipeline) (record : Nat)
    (command : Command) (rest : List Step) (returnCode : Int) (state : State) :
    State × Point :=
  if (state.records.get? record).map OperationRecord.status = some .cancelled then
    (state, runSteps pipeline state rest)
  else if returnCode ≠ 0 then
    let program := command.line.cmd.headD ""
    let errMsg := s!"Command '{program}' failed with return code {returnCode}"
    match state.appendLog env pipeline.operationId s!"ERROR: {errMsg}" with
    | (logged, second) =>
        commandFailed env pipeline record (second.getD ⟨"RuntimeError", errMsg⟩) logged
  else (state, runSteps pipeline state rest)

def State.returnCode? (process : Nat) (state : State) : Option Int :=
  match (state.processes.get? process).map Process.state with
  | some (.exited returnCode) => some returnCode
  | _ => none

/-- One turn of a task that is not cancelled; `none` when it is not resumed with
such an answer. -/
def turn (env : Environment) (reference : Nat) (task : Task) (answer : Answer)
    (state : State) : Option (State × Point) :=
  let pipeline := task.pipeline
  match task.point, answer with
  | .notStarted, .settingsFailed raised => some (state, .finished (.raised raised))
  | .notStarted, .preparationFailed raised =>
      if env.mockEnabled then none else some (state, failPipeline pipeline raised state)
  | .notStarted, .started =>
      some (state, runSteps pipeline state (pipeline.steps env.mockEnabled))
  | .announcing record step rest, .resumed =>
      some (announceStep env pipeline reference record step rest none state)
  | .announcing record (.command command) rest, .spawnFailed raised =>
      some (announceStep env pipeline reference record (.command command) rest (some raised)
        state)
  | .spawning record process command rest, .resumed =>
      some (state.modifyRecord record fun record => { record with process := some process },
        .reading record process command rest)
  | .reading record process command rest, .output lines =>
      some (readOutput env pipeline record process command rest lines state)
  | .reading record process command rest, .endOfOutput remainder =>
      some (endOutput env pipeline record process command rest remainder state)
  | .reading record _ _ _, .readFailed raised =>
      some (commandFailed env pipeline record raised state)
  | .reporting record process command rest message lines, .resumed =>
      some (reportProgress env pipeline record process command rest message lines state)
  | .waiting record process command rest, .resumed =>
      (state.returnCode? process).map fun returnCode =>
        commandExited env pipeline record command rest returnCode state
  | .sleeping record logs rest, .resumed =>
      some (mockLogs env pipeline record rest logs state)
  | .succeeding, .resumed => some (succeedPipeline env pipeline state)
  | .failing raised, .resumed => some (recordFailure pipeline raised state)
  | _, _ => none

/-- The turn in which a cancelled task gets its CancelledError: no handler of the
pipeline catches it, and a subprocess that still lacks its pipes is killed. -/
def cancelledTurn (task : Task) (state : State) : Option (State × Point) :=
  match task.point with
  | .spawning _ process _ _ =>
      some ({ state with processes := state.processes.modify process fun process =>
        { process with signals := process.signals ++ [.sigkill] } }, .reaping process)
  | .reaping process => (state.returnCode? process).map fun _ => (state, .finished .cancelled)
  | .finished _ => none
  | _ => some (state, .finished .cancelled)

end GemEmulation.Api
