import Mathlib.Data.Option.Basic
import Mathlib.Data.List.Basic

/-!
# Runs of a partial step function

A system is a partial step function on states and events: `none` means that
the event is not enabled.  A `Run` is a sequence of enabled events, each of
them allowed by a condition on the state in which it happens.  Dropping the
condition (`Anything`) gives the ordinary reachable states.
-/

namespace GemEmulation.Foundations

universe u v

variable {State : Type u} {Event : Type v}

/-- A run from `start`: every step is enabled and satisfies `allowed`. -/
inductive Run (step : State → Event → Option State)
    (allowed : State → Event → Prop) (start : State) :
    List Event → State → Prop where
  | nil : Run step allowed start [] start
  | snoc {events : List Event} {state next : State} {event : Event} :
      Run step allowed start events state →
      allowed state event →
      step state event = some next →
      Run step allowed start (events ++ [event]) next

def Anything (_state : State) (_event : Event) : Prop := True

namespace Run

variable {step : State → Event → Option State}
  {allowed : State → Event → Prop} {start : State}

theorem invariant {Invariant : State → Prop}
    (base : Invariant start)
    (preserved : ∀ {state next event}, Invariant state → allowed state event →
      step state event = some next → Invariant next)
    {events : List Event} {state : State}
    (run : Run step allowed start events state) : Invariant state := by
  induction run with
  | nil => exact base
  | snoc _ permitted enabled inductionHypothesis =>
      exact preserved inductionHypothesis permitted enabled

theorem weaken {weaker : State → Event → Prop}
    (implication : ∀ state event, allowed state event → weaker state event)
    {events : List Event} {state : State}
    (run : Run step allowed start events state) :
    Run step weaker start events state := by
  induction run with
  | nil => exact .nil
  | snoc _ permitted enabled inductionHypothesis =>
      exact .snoc inductionHypothesis (implication _ _ permitted) enabled

theorem single {state : State} {event : Event}
    (permitted : allowed start event) (enabled : step start event = some state) :
    Run step allowed start [event] state := by
  simpa using Run.snoc (.nil : Run step allowed start [] start) permitted enabled

theorem append {first second : List Event} {middle state : State}
    (firstRun : Run step allowed start first middle)
    (secondRun : Run step allowed middle second state) :
    Run step allowed start (first ++ second) state := by
  induction secondRun with
  | nil => simpa using firstRun
  | snoc _ permitted enabled inductionHypothesis =>
      simpa using inductionHypothesis.snoc permitted enabled

theorem cons {event : Event} {events : List Event} {middle state : State}
    (permitted : allowed start event) (enabled : step start event = some middle)
    (rest : Run step allowed middle events state) :
    Run step allowed start (event :: events) state :=
  (single permitted enabled).append rest

end Run

def execute (step : State → Event → Option State) :
    State → List Event → Option State
  | state, [] => some state
  | state, event :: events => (step state event).bind fun next =>
      execute step next events

/-- A function on states that commutes with every step commutes with executions. -/
theorem execute_map {Other : Type u} {step : State → Event → Option State}
    {otherStep : Other → Event → Option Other} (change : State → Other)
    (commutes : ∀ state event, otherStep (change state) event = (step state event).map change)
    (start : State) (events : List Event) :
    execute otherStep (change start) events = (execute step start events).map change := by
  induction events generalizing start with
  | nil => rfl
  | cons event events inductionHypothesis =>
      simp only [execute, commutes]
      cases step start event with
      | none => rfl
      | some next => exact inductionHypothesis next

theorem run_of_execute {step : State → Event → Option State}
    {start state : State} {events : List Event}
    (executed : execute step start events = some state) :
    Run step Anything start events state := by
  induction events generalizing start with
  | nil =>
      cases executed
      exact .nil
  | cons event events inductionHypothesis =>
      obtain ⟨middle, enabled, rest⟩ := Option.bind_eq_some_iff.mp executed
      exact .cons trivial enabled (inductionHypothesis rest)

/-- Execute a sequence of events, checking the condition before every step. -/
def executeChecked (step : State → Event → Option State)
    (check : State → Event → Bool) : State → List Event → Option State
  | state, [] => some state
  | state, event :: events =>
      if check state event then
        (step state event).bind fun next => executeChecked step check next events
      else none

/-- A successful checked execution is a run under the checked condition. -/
theorem run_of_executeChecked {step : State → Event → Option State}
    {check : State → Event → Bool} {allowed : State → Event → Prop}
    (checked : ∀ state event, check state event = true → allowed state event)
    {start state : State} {events : List Event}
    (executed : executeChecked step check start events = some state) :
    Run step allowed start events state := by
  induction events generalizing start with
  | nil =>
      cases executed
      exact .nil
  | cons event events inductionHypothesis =>
      simp only [executeChecked] at executed
      split at executed
      next passed =>
        obtain ⟨middle, enabled, rest⟩ := Option.bind_eq_some_iff.mp executed
        exact .cons (checked _ _ passed) enabled (inductionHypothesis rest)
      next => contradiction

end GemEmulation.Foundations
