import GemEmulation.Foundations.Dict
import GemEmulation.Foundations.Heap
import GemEmulation.Api.Pipelines
import GemEmulation.Api.Streams

/-!
# The state of the API

The records of the operation manager, the tasks and subprocesses of the runner,
the request handlers and the log streams.  All of them are shared by reference.
-/

namespace GemEmulation.Api

open Foundations

/-- An exception: its type and its text. -/
structure Raised where
  typeName : String
  text : String
  deriving DecidableEq, Repr

def httpException (statusCode : Nat) (detail : String) : Raised :=
  ⟨"HTTPException", s!"{statusCode}: {detail}"⟩

/-- What happened to an operation's log: `append_log` stored a line, or `_publish`
sent an item to the subscribers. -/
inductive LogEvent where
  | appended (line : String)
  | published (item : Option String)
  deriving DecidableEq, Repr

structure OperationRecord where
  operationId : String
  operationType : OperationType
  targetResource : String
  status : OperationStatus
  currentStep : Option String
  message : Option String
  createdAt : String
  updatedAt : String
  completedAt : Option String
  error : Option String
  maxBufferLines : Nat
  logBuffer : List String
  /-- Everything that happened to the log since the record was created. -/
  history : List LogEvent
  subscribers : List Nat
  process : Option Nat
  task : Option Nat
  deriving DecidableEq, Repr

inductive Signal where
  | sigterm | sigkill
  deriving DecidableEq, Repr

inductive ProcessState where
  /-- `create_subprocess_exec` raised. -/
  | unspawned
  | running
  | exited (returnCode : Int)
  deriving DecidableEq, Repr

/-- One call of `create_subprocess_exec`: the task that made it and its command. -/
structure Process where
  task : Nat
  command : Command
  state : ProcessState
  signals : List Signal
  deriving DecidableEq, Repr

inductive Outcome where
  | returned
  | raised (raised : Raised)
  | cancelled
  deriving DecidableEq, Repr

/-- Text that a subprocess has written, decoded and without trailing whitespace: a
line, or the part of a line that was there when the buffer overflowed. -/
structure OutputLine where
  text : String
  complete : Bool
  deriving DecidableEq, Repr

/-- Where a pipeline is suspended: `record` and `process` are its local variables
and `rest` are the steps still to come. -/
inductive Point where
  | notStarted
  /-- For the lock, to set the step's status. -/
  | announcing (record : Nat) (step : Step) (rest : List Step)
  /-- For the pipes of a new subprocess. -/
  | spawning (record process : Nat) (command : Command) (rest : List Step)
  /-- For a subprocess that was killed before its pipes were there. -/
  | reaping (process : Nat)
  /-- For output of the subprocess. -/
  | reading (record process : Nat) (command : Command) (rest : List Step)
  /-- For the lock, to set a message found in the output; `lines` is the output's rest. -/
  | reporting (record process : Nat) (command : Command) (rest : List Step)
      (message : String) (lines : List OutputLine)
  /-- For the exit of the subprocess. -/
  | waiting (record process : Nat) (command : Command) (rest : List Step)
  /-- Between two lines of a mock step. -/
  | sleeping (record : Nat) (logs : List String) (rest : List Step)
  /-- For the lock, to set SUCCEEDED. -/
  | succeeding
  /-- For the lock, to set FAILED. -/
  | failing (raised : Raised)
  | finished (outcome : Outcome)
  deriving DecidableEq, Repr

namespace Point

def awaitsLock : Point → Bool
  | announcing .. | reporting .. | succeeding | failing _ => true
  | _ => false

def isFinished : Point → Bool
  | finished _ => true
  | _ => false

end Point

structure Task where
  pipeline : Pipeline
  cancelRequested : Bool
  point : Point
  /-- The record to which the task was attached, with its done-callback. -/
  attachedTo : Option Nat
  callbackRan : Bool
  deriving DecidableEq, Repr

structure CancelResponse where
  success : Bool
  operationId : String
  status : OperationStatus
  message : String
  deriving DecidableEq, Repr

inductive Reply where
  | accepted (operationId : String) (status : OperationStatus)
  | cancellation (response : CancelResponse)
  | raised (raised : Raised)
  deriving DecidableEq, Repr

structure LogCall where
  /-- The exception of resolving or creating the directory or resolving the path. -/
  directory : Option Raised
  /-- Whether the resolved path lies directly in the directory. -/
  contained : Bool
  opens : Bool
  writes : Bool
  deriving DecidableEq, Repr

def LogCall.working : LogCall := ⟨none, true, true, true⟩

inductive Handler where
  /-- For the lock. -/
  | registering (request : Request)
  /-- For the thread that writes the log file, holding the lock. -/
  | initialising (request : Request) (record : Nat) (initLine : String) (call : LogCall)
  /-- For the lock. -/
  | cancelling (operationId : String)
  | answered (reply : Reply)
  deriving DecidableEq, Repr

inductive Party where
  | handler (handler : Nat)
  | task (task : Nat)
  deriving DecidableEq, Repr

/-- The lock of the manager: who holds it across a suspension, and who waits. -/
structure Lock where
  holder : Option Nat
  waiters : List Party
  deriving DecidableEq, Repr

structure State where
  clock : String
  operations : Dict String Nat
  lock : Lock
  records : Heap OperationRecord
  tasks : Heap Task
  processes : Heap Process
  streams : Heap Stream
  handlers : Heap Handler
  /-- The subprocesses that a `_force_kill` task is going to kill. -/
  forceKills : List Nat
  logFiles : Dict String (List String)
  /-- How often the log directory has been used. -/
  logCalls : Nat
  deriving DecidableEq

/-- What the API runs in. -/
structure Environment where
  mockEnabled : Bool
  maxLogBufferLines : Nat
  logCall : Nat → LogCall

/-- An environment without file-system errors. -/
def Environment.working (mockEnabled : Bool) (maxLogBufferLines : Nat) : Environment :=
  ⟨mockEnabled, maxLogBufferLines, fun _ => .working⟩

/-- The API after its start, at time `clock`. -/
def State.initial (clock : String) : State where
  clock
  operations := ∅
  lock := ⟨none, []⟩
  records := ∅
  tasks := ∅
  processes := ∅
  streams := ∅
  handlers := ∅
  forceKills := []
  logFiles := ∅
  logCalls := 0

end GemEmulation.Api
