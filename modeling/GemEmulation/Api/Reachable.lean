import GemEmulation.Api.Registrations

/-!
# The life cycle in every run

Every step of the API keeps the life cycle's invariant, provided that the line
which `run_cluster_create` logs after its success can be logged.
-/

namespace GemEmulation.Api

open Foundations

variable {env : Environment} {state next : State} {reference id : Nat} {operationId : String}

namespace Lifecycle

theorem handlerTurn {handler : Handler} (lifecycle : Lifecycle none state)
    (found : state.handlers.get? reference = some handler)
    (turned : state.handlerTurn env reference handler = some next) : Lifecycle none next := by
  have left := lifecycle.of_sameLife (sameLife_leaveQueue state (.handler reference))
  have free (enters : state.mayEnter (.handler reference) = true) : state.lock.holder = none := by
    simp only [State.mayEnter, Bool.and_eq_true, Option.isNone_iff_eq_none] at enters
    exact enters.1
  cases handler with
  | registering request =>
      simp only [State.handlerTurn] at turned
      split at turned
      next enters =>
        cases turned
        exact left.register found (free enters)
      next => contradiction
  | initialising request id line call =>
      cases turned
      exact lifecycle.launch found
  | cancelling operationId =>
      simp only [State.handlerTurn] at turned
      split at turned
      next enters =>
        have cancelled : Lifecycle none
            ((state.leaveQueue (.handler reference)).cancelOperation env operationId).1 :=
          left.cancelOperation (free enters)
        split at turned
        next equality =>
          cases turned
          rw [equality] at cancelled
          exact cancelled.answer _
        next equality =>
          cases turned
          rw [equality] at cancelled
          exact cancelled.answer _
      next => contradiction
  | answered reply => contradiction

end Lifecycle

theorem sameLife_exitProcess {returnCode : Int}
    (exited : state.exitProcess reference returnCode = some next) : state.SameLife next := by
  obtain ⟨process, _, exited⟩ := Option.bind_eq_some_iff.mp exited
  split at exited
  next =>
    cases exited
    exact ⟨⟨rfl, rfl, rfl, rfl, rfl⟩, rfl⟩
  next => contradiction

theorem sameLife_forceKillProcess (killed : state.forceKillProcess reference = some next) :
    state.SameLife next := by
  unfold State.forceKillProcess at killed
  split at killed
  next =>
    dsimp only at killed
    split at killed
    next =>
      cases killed
      exact ⟨⟨rfl, rfl, rfl, rfl, rfl⟩, rfl⟩
    next =>
      cases killed
      exact ⟨⟨rfl, rfl, rfl, rfl, rfl⟩, rfl⟩
  next => contradiction

theorem sameLife_openStream (opened : state.openStream operationId = some next) :
    state.SameLife next := by
  obtain ⟨⟨id, record⟩, _, rfl⟩ := Option.map_eq_some_iff.mp opened
  exact (State.sameLife_modifyRecord state id (fun record =>
    { record with subscribers := record.subscribers ++ [state.streams.fresh] })
    fun _ => rfl).trans ⟨⟨rfl, rfl, rfl, rfl, rfl⟩, rfl⟩

theorem sameLife_unsubscribe (same : state.SameLife next) (id stream : Nat) :
    state.SameLife (next.unsubscribe id stream) :=
  same.trans (State.sameLife_modifyRecord next id _ fun _ => rfl)

theorem sameLife_resumeStream (resumed : state.resumeStream reference = some next) :
    state.SameLife next := by
  obtain ⟨stream, _, resumed⟩ := Option.bind_eq_some_iff.mp resumed
  obtain ⟨record, _, rfl⟩ := Option.map_eq_some_iff.mp resumed
  dsimp only
  split
  next =>
    refine sameLife_unsubscribe ?_ _ _
    exact ⟨⟨rfl, rfl, rfl, rfl, rfl⟩, rfl⟩
  next => exact ⟨⟨rfl, rfl, rfl, rfl, rfl⟩, rfl⟩

theorem sameLife_closeStream (closed : state.closeStream reference = some next) :
    state.SameLife next := by
  obtain ⟨stream, _, rfl⟩ := Option.map_eq_some_iff.mp closed
  refine sameLife_unsubscribe ?_ _ _
  exact ⟨⟨rfl, rfl, rfl, rfl, rfl⟩, rfl⟩

/-- The runs in which every success that is to be logged can be logged. -/
def CompletionsLogged (env : Environment) (state : State) : Event → Prop
  | .taskTurn reference _ => ∀ task, state.tasks.get? reference = some task →
      CompletionLogged env state task
  | _ => True

/-- Every step keeps the life cycle's invariant. -/
theorem apiStep_lifecycle {event : Event} (lifecycle : Lifecycle none state)
    (logged : CompletionsLogged env state event)
    (stepped : apiStep env state event = some next) : Lifecycle none next := by
  cases event with
  | tick clock =>
      cases stepped
      exact lifecycle.of_sameLife ⟨⟨rfl, rfl, rfl, rfl, rfl⟩, rfl⟩
  | request request =>
      cases stepped
      exact lifecycle.receiveRequest fun _ _ _ _ => by simp
  | cancel operationId =>
      cases stepped
      exact lifecycle.receiveRequest fun _ _ _ _ => by simp
  | handlerTurn reference =>
      obtain ⟨handler, found, turned⟩ := Option.bind_eq_some_iff.mp stepped
      exact lifecycle.handlerTurn found turned
  | interrupt reference =>
      obtain ⟨handler, found, interrupted⟩ := Option.bind_eq_some_iff.mp stepped
      exact lifecycle.interruptHandler found interrupted
  | taskTurn reference answer =>
      obtain ⟨task, found, turned⟩ := Option.bind_eq_some_iff.mp stepped
      exact lifecycle.taskTurn found (logged task found) turned
  | cancelledTurn reference =>
      obtain ⟨task, found, turned⟩ := Option.bind_eq_some_iff.mp stepped
      exact lifecycle.taskCancelledTurn found turned
  | callback reference =>
      obtain ⟨task, found, ran⟩ := Option.bind_eq_some_iff.mp stepped
      exact lifecycle.runCallback found ran
  | processExit reference returnCode => exact lifecycle.of_sameLife (sameLife_exitProcess stepped)
  | forceKill reference => exact lifecycle.of_sameLife (sameLife_forceKillProcess stepped)
  | subscribe operationId =>
      obtain ⟨opened, openedFound, resumed⟩ := Option.bind_eq_some_iff.mp stepped
      exact (lifecycle.of_sameLife (sameLife_openStream openedFound)).of_sameLife
        (sameLife_resumeStream resumed)
  | pull reference => exact lifecycle.of_sameLife (sameLife_resumeStream stepped)
  | closeStream reference => exact lifecycle.of_sameLife (sameLife_closeStream stepped)

theorem lifecycle_initial (clock : String) : Lifecycle none (State.initial clock) := by
  constructor <;> intros <;> simp_all [State.initial, State.life]

/-- The invariant holds in every reachable state. -/
theorem lifecycle_of_run {clock : String} {events : List Event}
    (run : Run (apiStep env) (CompletionsLogged env) (State.initial clock) events state) :
    Lifecycle none state :=
  run.invariant (lifecycle_initial clock) apiStep_lifecycle

theorem completionsLogged_working (mockEnabled : Bool) (maxLogBufferLines : Nat)
    (state : State) (event : Event) :
    CompletionsLogged (.working mockEnabled maxLogBufferLines) state event := by
  cases event with
  | taskTurn reference answer => exact fun _ _ _ _ => rfl
  | _ => trivial

end GemEmulation.Api
