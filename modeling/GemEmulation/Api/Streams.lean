import GemEmulation.Foundations.BoundedQueue

/-!
# Log streams

A subscriber of an operation's log: the queue that lines are published to and
the generator of `stream_logs` that yields them.  The generator is suspended at
every `yield`, and in its live loop also while its queue is empty.
-/

namespace GemEmulation.Api

open Foundations

inductive OperationStatus where
  | queued | running | succeeded | failed | cancelled
  deriving DecidableEq, Repr

namespace OperationStatus

def text : OperationStatus → String
  | queued => "QUEUED"
  | running => "RUNNING"
  | succeeded => "SUCCEEDED"
  | failed => "FAILED"
  | cancelled => "CANCELLED"

def active (status : OperationStatus) : Bool := status = queued || status = running

def terminal (status : OperationStatus) : Bool :=
  status = succeeded || status = failed || status = cancelled

theorem terminal_eq_not_active (status : OperationStatus) :
    status.terminal = !status.active := by
  cases status <;> rfl

theorem active_of_not_terminal {status : OperationStatus} (goesOn : ¬status.terminal = true) :
    status.active = true := by
  cases status <;> simp_all [terminal, active]

end OperationStatus

inductive StreamPoint where
  /-- At a `yield` of the history, with the lines still to be yielded. -/
  | history (remaining : List String)
  /-- At a `yield` of the lines found in the queue of a finished operation. -/
  | draining
  /-- In the live loop. -/
  | live
  | closed
  deriving DecidableEq, Repr

structure Stream where
  record : Nat
  queue : List (Option String)
  seen : List String
  point : StreamPoint
  yielded : List String
  deriving DecidableEq, Repr

/-- `maxsize` of the subscribers' queues. -/
def queueMaxsize : Nat := 100

namespace Stream

/-- A subscriber whose history is `seen`. -/
def subscribe (record : Nat) (seen : List String) : Stream where
  record
  queue := []
  seen
  point := .history seen
  yielded := []

/-- `_publish` for one subscriber. -/
def receive (item : Option String) (stream : Stream) : Stream :=
  { stream with queue := offer queueMaxsize item stream.queue }

/-- The next line of a queue that is not among the lines already seen, and the
rest of the queue; no line at the sentinel or the end of the queue. -/
def drain (seen : List String) : List (Option String) → Option String × List (Option String)
  | [] => (none, [])
  | none :: rest => (none, rest)
  | some line :: rest => if line ∈ seen then drain seen rest else (some line, rest)

def resumeDraining (stream : Stream) : Stream :=
  match drain stream.seen stream.queue with
  | (some line, rest) =>
      { stream with queue := rest, point := .draining, yielded := stream.yielded ++ [line] }
  | (none, rest) => { stream with queue := rest, point := .closed }

def resumeLive (stream : Stream) : Stream :=
  match stream.queue with
  | [] => { stream with point := .live }
  | none :: rest => { stream with queue := rest, point := .closed }
  | some line :: rest =>
      { stream with queue := rest, point := .live, yielded := stream.yielded ++ [line] }

/-- The generator runs to its next suspension; `status` is its operation's. -/
def resume (status : OperationStatus) (stream : Stream) : Stream :=
  match stream.point with
  | .history (line :: rest) =>
      { stream with point := .history rest, yielded := stream.yielded ++ [line] }
  | .history [] => if status.terminal then stream.resumeDraining else stream.resumeLive
  | .draining => stream.resumeDraining
  | .live => stream.resumeLive
  | .closed => stream

end Stream

end GemEmulation.Api
