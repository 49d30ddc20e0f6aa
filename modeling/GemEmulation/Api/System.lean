import GemEmulation.Foundations.Runs
import GemEmulation.Api.Runner

/-!
# The API as a system

The event loop: in every step one coroutine runs from its suspension to the next
one, or the outside does something.  Every `await` is a suspension, also when
what it waits for is already there, so that the runs of the model include those
in which asyncio does not switch.
-/

namespace GemEmulation.Api

open Foundations

inductive Event where
  | tick (clock : String)
  /-- A create or delete request arrives. -/
  | request (request : Request)
  /-- A cancel request arrives. -/
  | cancel (operationId : String)
  | handlerTurn (handler : Nat)
  /-- The awaiting handler of a request is cancelled. -/
  | interrupt (handler : Nat)
  | taskTurn (task : Nat) (answer : Answer)
  /-- A cancelled task gets its CancelledError. -/
  | cancelledTurn (task : Nat)
  /-- The done-callback of a task. -/
  | callback (task : Nat)
  | processExit (process : Nat) (returnCode : Int)
  /-- The task of `_force_kill` wakes up. -/
  | forceKill (process : Nat)
  | subscribe (operationId : String)
  | pull (stream : Nat)
  | closeStream (stream : Nat)
  deriving DecidableEq

namespace State

def setHandler (reference : Nat) (handler : Handler) (state : State) : State :=
  { state with handlers := state.handlers.modify reference fun _ => handler }

def receiveRequest (handler : Handler) (state : State) : State :=
  ({ state with handlers := state.handlers.alloc handler }).joinQueue
    (.handler state.handlers.fresh)

def suspend (reference : Nat) (point : Point) (state : State) : State :=
  let moved := state.modifyTask reference fun task => { task with point }
  if point.awaitsLock then moved.joinQueue (.task reference) else moved

/-- A handler that holds the lock for its `register_operation`. -/
def register (env : Environment) (reference : Nat) (request : Request) (state : State) :
    State :=
  match state.beginRegistration env request.operationId request.operationType
      request.operationId request.initialStep request.initialMessage with
  | (failed, .error raised) => failed.setHandler reference (.answered (.raised raised))
  | (inserted, .ok (id, line, call)) =>
      (inserted.setHolder (some reference)).setHandler reference
        (.initialising request id line call)

/-- A handler from the end of its `register_operation` on: the task of the pipeline
is created and attached without another suspension. -/
def launch (reference : Nat) (request : Request) (id : Nat) (line : String) (call : LogCall)
    (state : State) : State :=
  let registered :=
    (state.finishRegistration request.operationId id line call).setHolder none
  let task := registered.tasks.fresh
  let created :=
    { registered with
      tasks := registered.tasks.alloc ⟨request.pipeline, false, .notStarted, none, false⟩ }
  let status := ((created.records.get? id).map OperationRecord.status).getD .queued
  (created.attachTask request.operationId task).setHandler reference
    (.answered (.accepted request.operationId status))

def handlerTurn (env : Environment) (reference : Nat) (handler : Handler) (state : State) :
    Option State :=
  match handler with
  | .registering request =>
      if state.mayEnter (.handler reference) then
        some ((state.leaveQueue (.handler reference)).register env reference request)
      else none
  | .initialising request id line call => some (state.launch reference request id line call)
  | .cancelling operationId =>
      if state.mayEnter (.handler reference) then
        match (state.leaveQueue (.handler reference)).cancelOperation env operationId with
        | (cancelled, .ok response) =>
            some (cancelled.setHandler reference (.answered (.cancellation response)))
        | (failed, .error raised) =>
            some (failed.setHandler reference (.answered (.raised raised)))
      else none
  | .answered _ => none

/-- The CancelledError of a handler leaves its `async with`. -/
def interruptHandler (reference : Nat) (handler : Handler) (state : State) : Option State :=
  let answer := Handler.answered (.raised ⟨"CancelledError", ""⟩)
  match handler with
  | .registering _ | .cancelling _ =>
      some ((state.leaveQueue (.handler reference)).setHandler reference answer)
  | .initialising .. => some ((state.setHolder none).setHandler reference answer)
  | .answered _ => none

def taskTurn (env : Environment) (reference : Nat) (task : Task) (answer : Answer)
    (state : State) : Option State :=
  if task.cancelRequested then none
  else if task.point.awaitsLock && !state.mayEnter (.task reference) then none
  else (turn env reference task answer (state.leaveQueue (.task reference))).map
    fun (next, point) => next.suspend reference point

def taskCancelledTurn (reference : Nat) (task : Task) (state : State) : Option State :=
  if task.cancelRequested then
    (cancelledTurn task (state.leaveQueue (.task reference))).map
      fun (next, point) => next.suspend reference point
  else none

def runCallback (env : Environment) (reference : Nat) (task : Task) (state : State) :
    Option State :=
  match task.point with
  | .finished outcome =>
      if task.attachedTo.isSome && !task.callbackRan then
        some ((state.finalizeTask env task.pipeline.operationId reference outcome).modifyTask
          reference fun task => { task with callbackRan := true })
      else none
  | _ => none

def exitProcess (reference : Nat) (returnCode : Int) (state : State) : Option State :=
  (state.processes.get? reference).bind fun process =>
    if process.state = .running then
      some { state with processes := state.processes.modify reference fun process =>
        { process with state := .exited returnCode } }
    else none

def forceKillProcess (reference : Nat) (state : State) : Option State :=
  if reference ∈ state.forceKills then
    let woken := { state with forceKills := state.forceKills.erase reference }
    if (state.processes.get? reference).map Process.state = some .running then
      some { woken with processes := state.processes.modify reference fun process =>
        { process with signals := process.signals ++ [.sigkill] } }
    else some woken
  else none

end State

def apiStep (env : Environment) (state : State) : Event → Option State
  | .tick clock => some { state with clock }
  | .request request => some (state.receiveRequest (.registering request))
  | .cancel operationId => some (state.receiveRequest (.cancelling operationId))
  | .handlerTurn reference =>
      (state.handlers.get? reference).bind fun handler => state.handlerTurn env reference handler
  | .interrupt reference =>
      (state.handlers.get? reference).bind fun handler => state.interruptHandler reference handler
  | .taskTurn reference answer =>
      (state.tasks.get? reference).bind fun task => state.taskTurn env reference task answer
  | .cancelledTurn reference =>
      (state.tasks.get? reference).bind fun task => state.taskCancelledTurn reference task
  | .callback reference =>
      (state.tasks.get? reference).bind fun task => state.runCallback env reference task
  | .processExit reference returnCode => state.exitProcess reference returnCode
  | .forceKill reference => state.forceKillProcess reference
  | .subscribe operationId =>
      (state.openStream operationId).bind fun opened => opened.resumeStream state.streams.fresh
  | .pull reference => state.resumeStream reference
  | .closeStream reference => state.closeStream reference

end GemEmulation.Api
