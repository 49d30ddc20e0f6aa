import Mathlib.Logic.Function.Iterate
import GemEmulation.Api.Advances
import GemEmulation.Api.Subscriptions

/-!
# The end of a log

The sentinel that ends the streams of an operation is published once, when the
operation ends.  At most one line is logged after it, and the streams that
wait for more find the sentinel in their queues.
-/

namespace GemEmulation.Api

open Foundations

variable {env : Environment} {state next : State} {reference id : Nat} {operationId : String}
  {events later : List LogEvent}

def KeepsPipelines (state next : State) : Prop :=
  ∀ reference task, state.tasks.get? reference = some task →
    ∃ after, next.tasks.get? reference = some after ∧ after.pipeline = task.pipeline

/-- The operation succeeded, and its pipeline is one that logs its completion. -/
def LogsCompletion (state : State) (life : Life) : Prop :=
  life.status = .succeeded ∧ ∃ reference task, life.task = some reference ∧
    state.tasks.get? reference = some task ∧ task.pipeline.logCompletion = true

/-- The log of an operation that is over: the lines, the sentinel unless logging failed,
and the line about the completion. -/
def EndedLog (env : Environment) (state : State) (life : Life) (events : List LogEvent) : Prop :=
  ∃ front ending back, events = front ++ (ending ++ back) ∧ Unended front ∧
    (ending = [] ∨ ending = [.published none]) ∧
    (PathsFound env life.operationId →
      ending = [.published none] ∧ appendedLines back = publishedLines back) ∧
    (∃ clock, Entry (loggedCompletion clock) back) ∧ (back ≠ [] → LogsCompletion state life)

/-- No log ends while its operation is active, and each ends once. -/
structure EndsOnce (env : Environment) (state : State) : Prop where
  goesOn : ∀ id life events, state.life id = some life → state.history id = some events →
    life.status.active = true → Unended events
  concluded : ∀ id life events, state.life id = some life → state.history id = some events →
    life.status.terminal = true → EndedLog env state life events

theorem LogsCompletion.kept {life : Life} (logs : LogsCompletion state life)
    (kept : KeepsPipelines state next) : LogsCompletion next life := by
  obtain ⟨succeeded, reference, task, owner, located, completes⟩ := logs
  obtain ⟨after, afterLocated, same⟩ := kept reference task located
  exact ⟨succeeded, reference, after, owner, afterLocated, same ▸ completes⟩

theorem EndedLog.kept {life : Life} (ended : EndedLog env state life events)
    (kept : KeepsPipelines state next) : EndedLog env next life events := by
  obtain ⟨front, ending, back, split, unended, endings, ends, entry, completes⟩ := ended
  exact ⟨front, ending, back, split, unended, endings, ends, entry,
    fun more => (completes more).kept kept⟩

namespace EndsOnce

theorem of_same (ends : EndsOnce env state) (life : next.life = state.life)
    (history : next.history = state.history) (kept : KeepsPipelines state next) :
    EndsOnce env next where
  goesOn := by simpa only [life, history] using ends.goesOn
  concluded other otherLife events found logged terminal :=
    (ends.concluded other otherLife events (life ▸ found) (history ▸ logged) terminal).kept kept

theorem extend {after : Life} (ends : EndsOnce env state) (kept : KeepsPipelines state next)
    (broadcast : Broadcast id events state next) (only : LifeOnly id state next)
    (found : next.life id = some after)
    (here : ∀ old, state.history id = some old →
      (after.status.active = true → Unended (old ++ events)) ∧
        (after.status.terminal = true → EndedLog env next after (old ++ events))) :
    EndsOnce env next := by
  have logged (other : Nat) : next.history other =
      if other = id then (state.history id).map (· ++ events) else state.history other :=
    broadcast.history other
  constructor
  · intro other life all lives history active
    rw [logged] at history
    split at history
    next same =>
      subst same
      obtain ⟨old, oldLogged, rfl⟩ := Option.map_eq_some_iff.mp history
      obtain rfl := Option.some.inj (found.symm.trans lives)
      exact (here old oldLogged).1 active
    next different => exact ends.goesOn other life all (only other different ▸ lives) history active
  · intro other life all lives history terminal
    rw [logged] at history
    split at history
    next same =>
      subst same
      obtain ⟨old, oldLogged, rfl⟩ := Option.map_eq_some_iff.mp history
      obtain rfl := Option.some.inj (found.symm.trans lives)
      exact (here old oldLogged).2 terminal
    next different =>
      have lived := only other different ▸ lives
      exact (ends.concluded other life all lived history terminal).kept kept

theorem unended_append (first : Unended events) (second : Unended later) :
    Unended (events ++ later) := fun ended => (List.mem_append.mp ended).elim first second

theorem logStep {event : Event} (ends : EndsOnce env state) (kept : KeepsPipelines state next)
    (step : LogStep env state next event) : EndsOnce env next := by
  have never {life : Life} (active : life.status.active = true)
      (terminal : life.status.terminal = true) : False := by
    simp [OperationStatus.terminal_eq_not_active, active] at terminal
  cases step with
  | idle records _ =>
      exact ends.of_same (life_of_records records)
        (by funext id; rw [State.history, records]; rfl) kept
  | @inserted event record request records _ history _ lives _ =>
      constructor
      · intro other life events found logged active
        simp only [State.life, State.history, records, Heap.get?_alloc] at found logged
        split at logged
        next =>
          cases logged
          simp [Unended, history]
        next different =>
          rw [if_neg different] at found
          exact ends.goesOn other life events found logged active
      · intro other life events found logged terminal
        simp only [State.life, State.history, records, Heap.get?_alloc] at found logged
        split at logged
        next new =>
          rw [if_pos new, Option.map_some, lives] at found
          cases found
          cases terminal
        next different =>
          rw [if_neg different] at found
          exact (ends.concluded other life events found logged terminal).kept kept
  | worked logs only found active _ after afterActive _ _ =>
      exact ends.extend kept logs.toBroadcast only after fun old oldLogged =>
        ⟨fun _ => unended_append (ends.goesOn _ _ old found oldLogged active) logs.unended,
          fun terminal => (never afterActive terminal).elim⟩
  | launched broadcast only found queued _ after afterQueued _ _ =>
      refine ends.extend kept broadcast only after fun old oldLogged =>
        ⟨fun _ => ?_, fun terminal => ?_⟩
      · exact unended_append (ends.goesOn _ _ old found oldLogged (by rw [queued]; rfl))
          (by simp [Unended])
      · rw [afterQueued] at terminal
        cases terminal
  | @ended event id events ending life after broadcast unended relayed endings ended only
      found active
      afterFound terminal sameId =>
      refine ends.extend kept broadcast only afterFound fun old oldLogged =>
        ⟨fun afterActive => (never afterActive terminal).elim, fun _ => ?_⟩
      refine ⟨old ++ events, ending, [], by simp, ?_, endings, fun found => ⟨?_, rfl⟩,
        ⟨state.clock, .nothing⟩, fun more => absurd rfl more⟩
      · exact unended_append (ends.goesOn _ _ old found oldLogged active) unended
      · exact ended (sameId ▸ found)
  | @completed reference id answer task events clock life after located _ completes broadcast entry
      relayed
      only found active afterFound succeeded owner sameId =>
      refine ends.extend kept broadcast only afterFound fun old oldLogged =>
        ⟨fun afterActive => ?_, fun _ => ?_⟩
      · rw [succeeded] at afterActive
        cases afterActive
      · refine ⟨old, [.published none], events, rfl, ends.goesOn _ _ old found oldLogged active,
          .inr rfl, fun found => ⟨rfl, relayed (sameId ▸ found)⟩, ⟨clock, entry⟩, fun _ => ?_⟩
        obtain ⟨afterTask, afterLocated, same⟩ := kept reference task located
        exact ⟨succeeded, reference, afterTask, owner, afterLocated, same ▸ completes⟩

theorem initial (env : Environment) (clock : String) : EndsOnce env (State.initial clock) := by
  constructor <;> intros <;> simp_all [State.initial, State.life]

theorem openStream (ends : EndsOnce env state)
    (opened : state.openStream operationId = some next) : EndsOnce env next := by
  obtain ⟨_, _, _, _, _, tasks⟩ := openStream_eq opened
  exact ends.of_same (sameLife_openStream opened).life (history_openStream opened)
    fun _ task located => ⟨task, tasks ▸ located, rfl⟩

end EndsOnce

/-- A stream that waits for lines of an operation that is over has the sentinel in its
queue, unless logging failed. -/
def Informed (env : Environment) (state : State) : Prop :=
  ∀ reference stream life, state.streams.get? reference = some stream → stream.point = .live →
    state.life stream.record = some life → life.status.terminal = true →
    PathsFound env life.operationId → none ∈ stream.queue

theorem Stream.mem_receiveAll_last (items : List (Option String)) (item : Option String)
    (stream : Stream) : item ∈ (stream.receiveAll (items ++ [item])).queue := by
  rw [Stream.receiveAll_append]
  exact mem_offer_self queueMaxsize item _

theorem Stream.mem_receiveAll_cons {items : List (Option String)} (short : items.length ≤ 1)
    (item : Option String) (stream : Stream) :
      item ∈ (stream.receiveAll (item :: items)).queue := by
  cases items with
  | nil => exact mem_offer_self queueMaxsize item _
  | cons newer rest =>
      obtain rfl : rest = [] := List.length_eq_zero_iff.mp (by simpa using short)
      exact mem_offer_offer (by decide) item newer _

/-- A stream waits after its turn if it waited before, or if its operation went on. -/
theorem Stream.of_resume_live {status : OperationStatus} (stream : Stream)
    (live : (stream.resume status).point = .live) :
    status.terminal = false ∨
      stream.point = .live ∧ (none ∈ stream.queue → none ∈ (stream.resume status).queue) := by
  have notDraining (stream : Stream) : stream.resumeDraining.point ≠ .live := by
    unfold Stream.resumeDraining
    split <;> simp
  unfold Stream.resume at live ⊢
  cases point : stream.point with
  | history remaining =>
      rw [point] at live
      cases remaining with
      | cons line rest => cases live
      | nil =>
          dsimp only at live
          split at live
          next => exact absurd live (notDraining stream)
          next goesOn => exact .inl (by simpa using goesOn)
  | draining =>
      rw [point] at live
      exact absurd live (notDraining stream)
  | live =>
      rw [point] at live
      refine .inr ⟨rfl, fun informed => ?_⟩
      dsimp only [Stream.resumeLive] at live ⊢
      split
      next empty => exact empty ▸ informed
      next ended => simp [ended] at live
      next line rest more => simpa [more] using informed
  | closed =>
      rw [point] at live
      cases point.symm.trans live

namespace Informed

theorem extend (informed : Informed env state) (subscriptions : Subscriptions state)
    (broadcast : Broadcast id events state next) (only : LifeOnly id state next)
    (here : ∀ (stream : Stream) (life : Life), next.life id = some life →
      life.status.terminal = true → PathsFound env life.operationId →
        none ∈ (stream.receiveAll (publications events)).queue) :
    Informed env next := by
  intro reference stream life located live found terminal paths
  obtain ⟨old, oldLocated, sameRecord, samePoint, received⟩ :=
    broadcast.received subscriptions located
  rw [received]
  rw [sameRecord] at found
  rw [samePoint] at live
  split
  next same => exact here old life (same.1 ▸ found) terminal paths
  next different =>
    have other : old.record ≠ id := fun same => different ⟨same, by simp [live]⟩
    exact informed reference old life oldLocated live (only old.record other ▸ found) terminal paths

theorem logStep {event : Event} (informed : Informed env state)
    (subscriptions : Subscriptions state)
    (step : LogStep env state next event) : Informed env next := by
  cases step with
  | idle records streams =>
      intro reference stream life located live found
      exact informed reference stream life (streams ▸ located) live
        (life_of_records records ▸ found)
  | @inserted event record request records streams =>
      intro reference stream life located live found
      rw [streams] at located
      obtain ⟨owner, stored, -⟩ := subscriptions.listening reference stream located (by simp [live])
      have kept : next.life stream.record = state.life stream.record := by
        rw [State.life, State.life, records, Heap.get?_alloc_of_get? record stored, stored]
      exact informed reference stream life located live (kept ▸ found)
  | worked logs only _ _ _ after afterActive =>
      apply informed.extend subscriptions logs.toBroadcast only
      intro _ life found terminal _
      cases after.symm.trans found
      simp [OperationStatus.terminal_eq_not_active, afterActive] at terminal
  | launched broadcast only _ _ _ after afterQueued =>
      apply informed.extend subscriptions broadcast only
      intro _ life found terminal _
      cases after.symm.trans found
      rw [afterQueued] at terminal
      cases terminal
  | ended broadcast _ _ _ ends only _ _ after _ sameId =>
      apply informed.extend subscriptions broadcast only
      intro stream life found _ paths
      cases after.symm.trans found
      rw [ends (sameId ▸ paths), publications, List.filterMap_append]
      exact stream.mem_receiveAll_last _ none
  | completed _ _ _ broadcast entry _ only _ _ _ _ _ _ =>
      apply informed.extend subscriptions broadcast only
      intro stream life _ _ _
      exact stream.mem_receiveAll_cons entry.publications_length none

theorem openStream (informed : Informed env state)
    (opened : state.openStream operationId = some next) : Informed env next := by
  obtain ⟨id, owner, stored, records, streams, -⟩ := openStream_eq opened
  intro reference stream life located live found
  rw [(sameLife_openStream opened).life] at found
  rw [streams, Heap.get?_alloc] at located
  split at located
  next =>
    cases located
    cases live
  next => exact informed reference stream life located live found

theorem resumeStream (informed : Informed env state)
    (resumed : state.resumeStream reference = some next) : Informed env next := by
  obtain ⟨stream, record, located, stored, records, streams, -⟩ := resumeStream_eq resumed
  intro other current life otherLocated live found terminal paths
  rw [(sameLife_resumeStream resumed).life] at found
  rw [streams, Heap.get?_modify] at otherLocated
  split at otherLocated
  next same =>
    rw [same, located, Option.map_some] at otherLocated
    cases otherLocated
    rw [stream.resume_record, State.life_of_record stored] at found
    cases found
    rcases stream.of_resume_live live with active | ⟨waits, kept⟩
    · exact absurd terminal (by simp [OperationRecord.life, active])
    · exact kept (informed reference stream _ located waits (State.life_of_record stored) terminal
        paths)
  next => exact informed other current life otherLocated live found terminal paths

theorem closeStream (informed : Informed env state)
    (closed : state.closeStream reference = some next) : Informed env next := by
  obtain ⟨stream, located, records, streams, -⟩ := closeStream_eq closed
  intro other current life otherLocated live found
  rw [(sameLife_closeStream closed).life] at found
  rw [streams, Heap.get?_modify] at otherLocated
  split at otherLocated
  next same =>
    rw [same, located, Option.map_some] at otherLocated
    cases otherLocated
    cases live
  next => exact informed other current life otherLocated live found

end Informed

/-- The log directory is always found, whether or not its files can be written. -/
def DirectoryFound (env : Environment) : Prop := ∀ number, (env.logCall number).findsPath = true

theorem DirectoryFound.paths (found : DirectoryFound env)
    (valid : validOperationId operationId = true) :
    PathsFound env operationId := by
  intro number
  have path := found number
  simp only [LogCall.findsPath, Bool.and_eq_true, Option.isNone_iff_eq_none] at path
  exact getLogFilePath_eq_none.mpr ⟨valid, path⟩

theorem DirectoryFound.completionsLogged (found : DirectoryFound env) (state : State)
    (event : Event) : CompletionsLogged env state event := by
  cases event with
  | taskTurn reference answer => exact fun _ _ _ _ => found _
  | _ => trivial

/-- What holds of the logs in every reachable state. -/
structure LogsSound (env : Environment) (state : State) : Prop where
  lifecycle : Lifecycle none state
  held : Held state
  subscriptions : Subscriptions state
  ends : EndsOnce env state
  informed : Informed env state

namespace LogsSound

theorem initial (env : Environment) (clock : String) : LogsSound env (State.initial clock) where
  lifecycle := lifecycle_initial clock
  held := by intro; simp [State.initial]
  subscriptions := .initial clock
  ends := .initial env clock
  informed := by intro; simp [State.initial]

theorem step {event : Event} (found : DirectoryFound env) (sound : LogsSound env state)
    (stepped : apiStep env state event = some next) : LogsSound env next := by
  have logged := found.completionsLogged state event
  have advance := apiStep_advance sound.lifecycle sound.held logged stepped
  have kept : KeepsPipelines state next := fun reference task located => by
    obtain ⟨after, afterLocated, -, same⟩ := advance.keepsTask located
    exact ⟨after, afterLocated, same⟩
  -- Only subscribers and streams change.
  have streaming (life : state.SameLife next) (history : next.history = state.history) :
      EndsOnce env next := sound.ends.of_same life.life history kept
  refine ⟨apiStep_lifecycle sound.lifecycle logged stepped, advance.held sound.held,
    sound.subscriptions.step sound.lifecycle stepped, ?_, ?_⟩
  · cases event with
    | subscribe operationId =>
        obtain ⟨opened, openedFound, resumed⟩ := Option.bind_eq_some_iff.mp stepped
        exact streaming ((sameLife_openStream openedFound).trans (sameLife_resumeStream resumed))
          ((history_resumeStream resumed).trans (history_openStream openedFound))
    | pull reference =>
        exact streaming (sameLife_resumeStream stepped) (history_resumeStream stepped)
    | closeStream reference =>
        exact streaming (sameLife_closeStream stepped) (history_closeStream stepped)
    | _ =>
        exact sound.ends.logStep kept
          (apiStep_logStep sound.lifecycle sound.subscriptions stepped rfl)
  · cases event with
    | subscribe operationId =>
        obtain ⟨opened, openedFound, resumed⟩ := Option.bind_eq_some_iff.mp stepped
        exact (sound.informed.openStream openedFound).resumeStream resumed
    | pull reference => exact sound.informed.resumeStream stepped
    | closeStream reference => exact sound.informed.closeStream stepped
    | _ =>
        exact sound.informed.logStep sound.subscriptions
          (apiStep_logStep sound.lifecycle sound.subscriptions stepped rfl)

theorem of_run {clock : String} {events : List Event} (found : DirectoryFound env)
    (run : Run (apiStep env) Anything (State.initial clock) events state) : LogsSound env state :=
  run.invariant (initial env clock) fun sound _ stepped => sound.step found stepped

end LogsSound

section Results

variable {clock : String} {events : List Event} {record : OperationRecord}

/-- Among the events of an operation's log the end of the stream is published once, when
the operation ends; only the line about the completion of a success is logged after it. -/
theorem sentinel_once (found : DirectoryFound env)
    (run : Run (apiStep env) Anything (State.initial clock) events state)
    (stored : state.records.get? id = some record)
    (valid : validOperationId record.operationId = true) :
    (record.status.active = true ∧ LogEvent.published none ∉ record.history) ∨
    (record.status.terminal = true ∧ ∃ front back,
      record.history = front ++ .published none :: back ∧ LogEvent.published none ∉ front ∧
      (back = [] ∨ LogsCompletion state record.life ∧
        ∃ clock, back = [.appended (loggedCompletion clock),
          .published (some (loggedCompletion clock))])) := by
  have sound := LogsSound.of_run found run
  have lives := State.life_of_record stored
  have logged : state.history id = some record.history := by
    rw [State.history, stored, Option.map_some]
  by_cases terminal : record.status.terminal = true
  · obtain ⟨front, ending, back, split, unended, -, ends, ⟨clock, entry⟩, completes⟩ :=
      sound.ends.concluded id record.life record.history lives logged terminal
    obtain ⟨rfl, relayed⟩ := ends (found.paths valid)
    refine .inr ⟨terminal, front, back, split, unended, ?_⟩
    cases entry with
    | nothing => exact .inl rfl
    | lost => simp [appendedLines, publishedLines] at relayed
    | relayed => exact .inr ⟨completes (List.cons_ne_nil _ _), clock, rfl⟩
  · have active := OperationStatus.active_of_not_terminal terminal
    exact .inl ⟨active, sound.ends.goesOn id record.life record.history lives logged active⟩

/-- A stream with the sentinel in its queue ends within as many turns as there are items. -/
theorem Stream.iterate_closed (status : OperationStatus) {stream : Stream}
    (live : stream.point = .live) (informed : none ∈ stream.queue) :
    ((Stream.resume status)^[stream.queue.length] stream).point = .closed := by
  generalize items : stream.queue = queue at informed
  induction queue generalizing stream with
  | nil => cases informed
  | cons first rest inductionHypothesis =>
      rw [List.length_cons, Function.iterate_succ_apply]
      have turn : stream.resume status = stream.resumeLive := by rw [Stream.resume, live]
      cases first with
      | none =>
          have closed : (stream.resume status).point = .closed := by
            rw [turn, Stream.resumeLive, items]
          have stays : ∀ count, ((Stream.resume status)^[count] (stream.resume status)).point =
              .closed := by
            intro count
            induction count with
            | zero => exact closed
            | succ count inductionHypothesis =>
                rw [Function.iterate_succ_apply', Stream.resume, inductionHypothesis]
                exact inductionHypothesis
          exact stays rest.length
      | some line =>
          have next : stream.resume status = { stream with
              queue := rest, point := .live, yielded := stream.yielded ++ [line] } := by
            rw [turn, Stream.resumeLive, items]
          rw [next]
          exact inductionHypothesis rfl rfl (by simpa using informed)

/-- No stream waits on an operation that is over: the sentinel is in its queue, and it ends
after as many turns as there are items. -/
theorem waitingStream_ends {stream : Stream} (found : DirectoryFound env)
    (run : Run (apiStep env) Anything (State.initial clock) events state)
    (located : state.streams.get? reference = some stream) (live : stream.point = .live)
    (stored : state.records.get? stream.record = some record)
    (terminal : record.status.terminal = true)
    (valid : validOperationId record.operationId = true) :
    none ∈ stream.queue ∧
      ((Stream.resume record.status)^[stream.queue.length] stream).point = .closed := by
  have informed := (LogsSound.of_run found run).informed reference stream record.life located live
    (State.life_of_record stored) terminal (found.paths valid)
  exact ⟨informed, stream.iterate_closed record.status live informed⟩

theorem directoryFound_working (mockEnabled : Bool) (maxLogBufferLines : Nat) :
    DirectoryFound (.working mockEnabled maxLogBufferLines) := fun _ => rfl

def followedCancellation : List Event :=
  [.request workstationTeardown, .handlerTurn 0, .handlerTurn 0, .subscribe workstationId, .pull 0,
    .cancel workstationId, .handlerTurn 1]

theorem sentinel_once_cancelled : ∃ state record,
    Run (apiStep (.working false 10)) Anything (.initial "") followedCancellation state ∧
    state.records.get? 0 = some record ∧ record.status = .cancelled ∧
    ∃ front back, record.history = front ++ .published none :: back ∧
      LogEvent.published none ∉ front ∧ (back = [] ∨ LogsCompletion state record.life ∧
        ∃ clock, back = [.appended (loggedCompletion clock),
          .published (some (loggedCompletion clock))]) := by
  have check : ((execute (apiStep (.working false 10)) (.initial "")
      followedCancellation).bind fun state => state.records.get? 0).any (fun record =>
        decide (record.status = .cancelled ∧
          validOperationId record.operationId = true)) = true := by
    decide
  obtain ⟨record, stored, cancelled⟩ := (Option.any_eq_true _ _).mp check
  obtain ⟨state, executed, stored⟩ := Option.bind_eq_some_iff.mp stored
  obtain ⟨cancelled, valid⟩ := of_decide_eq_true cancelled
  have run := run_of_execute executed
  refine ⟨state, record, run, stored, cancelled, ?_⟩
  obtain ⟨active, -⟩ | ⟨-, once⟩ :=
    sentinel_once (directoryFound_working false 10) run stored valid
  · rw [cancelled] at active
    cases active
  · exact once

theorem waitingStream_ends_cancelled : ∃ state stream,
    Run (apiStep (.working false 10)) Anything (.initial "") followedCancellation state ∧
    state.streams.get? 0 = some stream ∧ stream.point = .live ∧
    ((Stream.resume .cancelled)^[stream.queue.length] stream).point = .closed := by
  have check : ((execute (apiStep (.working false 10)) (.initial "") followedCancellation).bind
      fun state => (state.streams.get? 0).bind fun stream =>
        (state.records.get? stream.record).map fun record => (stream.point, record)).any
          (fun (point, record) => decide (point = .live ∧ record.status = .cancelled ∧
            validOperationId record.operationId = true)) = true := by
    decide
  obtain ⟨⟨point, record⟩, found, holds⟩ := (Option.any_eq_true _ _).mp check
  obtain ⟨state, executed, found⟩ := Option.bind_eq_some_iff.mp found
  obtain ⟨stream, located, found⟩ := Option.bind_eq_some_iff.mp found
  obtain ⟨other, stored, same⟩ := Option.map_eq_some_iff.mp found
  cases same
  obtain ⟨live, cancelled, valid⟩ := of_decide_eq_true holds
  have run := run_of_execute executed
  have ends := (waitingStream_ends (directoryFound_working false 10) run located live stored
    (by rw [cancelled]; rfl) valid).2
  rw [cancelled] at ends
  exact ⟨state, stream, run, located, live, ends⟩

end Results

end GemEmulation.Api
