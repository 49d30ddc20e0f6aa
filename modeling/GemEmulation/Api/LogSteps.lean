import GemEmulation.Api.Broadcasts

/-!
# The logs in every step

Apart from the steps of the streams themselves, a step leaves the logs alone, or it
inserts a record, works on an active one, opens the log of one or ends one.
-/

namespace GemEmulation.Api

open Foundations Lifecycle

variable {env : Environment} {state middle next : State} {reference id : Nat}
  {operationId : String} {events later : List LogEvent}

def Event.ofStream : Event → Bool
  | .subscribe _ | .pull _ | .closeStream _ => true
  | _ => false

/-- The line about the completion as `append_log` stores it. -/
def loggedCompletion (clock : String) : String :=
  formatLine clock (rstrip (completionLine clock))

/-- What a step does to the logs and to the lives of their records. -/
inductive LogStep (env : Environment) (state next : State) : Event → Prop where
  | idle {event : Event} :
      next.records = state.records →
      next.streams = state.streams →
      LogStep env state next event
  | inserted {event : Event} {record : OperationRecord} {request : Request} :
      next.records = state.records.alloc record →
      next.streams = state.streams →
      record.history = [] →
      record.subscribers = [] →
      record.life = ⟨request.operationId, request.operationId, .queued, false, none⟩ →
      (∃ handler, state.handlers.get? handler = some (.registering request)) →
      LogStep env state next event
  | worked {event : Event} {id : Nat} {events : List LogEvent} {life after : Life} :
      Logs env life.operationId id events state next →
      LifeOnly id state next →
      state.life id = some life → life.status.active = true → life.task ≠ none →
      next.life id = some after → after.status.active = true → after.task ≠ none →
      after.operationId = life.operationId →
      LogStep env state next event
  | launched {event : Event} {id : Nat} {line : String} {life after : Life} :
      Broadcast id [.appended line] state next →
      LifeOnly id state next →
      state.life id = some life → life.status = .queued → life.task = none →
      next.life id = some after → after.status = .queued → after.task ≠ none →
      after.operationId = life.operationId →
      LogStep env state next event
  | ended {event : Event} {id : Nat} {events ending : List LogEvent} {life after : Life} :
      Broadcast id (events ++ ending) state next →
      Unended events →
      (PathsFound env life.operationId → appendedLines events = publishedLines events) →
      ending = [] ∨ ending = [.published none] →
      (PathsFound env life.operationId → ending = [.published none]) →
      LifeOnly id state next →
      state.life id = some life → life.status.active = true →
      next.life id = some after → after.status.terminal = true →
      after.operationId = life.operationId →
      LogStep env state next event
  | completed {reference id : Nat} {answer : Answer} {task : Task} {events : List LogEvent}
      {clock : String} {life after : Life} :
      state.tasks.get? reference = some task →
      task.point = .succeeding →
      task.pipeline.logCompletion = true →
      Broadcast id (.published none :: events) state next →
      Entry (loggedCompletion clock) events →
      (PathsFound env life.operationId → appendedLines events = publishedLines events) →
      LifeOnly id state next →
      state.life id = some life → life.status.active = true →
      next.life id = some after → after.status = .succeeded → after.task = some reference →
      after.operationId = life.operationId →
      LogStep env state next (.taskTurn reference answer)

theorem Subscriptions.of_eq (subscriptions : Subscriptions state)
    (records : next.records = state.records) (streams : next.streams = state.streams) :
    Subscriptions next where
  nodup := records ▸ subscriptions.nodup
  subscribed := by simpa only [records, streams] using subscriptions.subscribed
  listening := by simpa only [records, streams] using subscriptions.listening

theorem Broadcast.between {start finish : State} (broadcast : Broadcast id events start finish)
    (records : start.records = state.records) (streams : start.streams = state.streams)
    (nextRecords : next.records = finish.records) (nextStreams : next.streams = finish.streams) :
    Broadcast id events state next where
  history := by simpa only [nextRecords, ← records] using broadcast.history
  subscribers := by simpa only [nextRecords, ← records] using broadcast.subscribers
  streams := by simpa only [nextStreams, ← streams, ← records] using broadcast.streams

theorem publish_clock (id : Nat) (item : Option String) (state : State) :
    (state.publish id item).clock = state.clock := by
  unfold State.publish
  split <;> rfl

theorem suspend_records (reference : Nat) (point : Point) (state : State) :
    (state.suspend reference point).records = state.records ∧
      (state.suspend reference point).streams = state.streams := by
  unfold State.suspend
  dsimp only
  split <;> exact ⟨rfl, rfl⟩

theorem life_of_records (same : next.records = state.records) : next.life = state.life := by
  funext id
  simp only [State.life, same]

/-- A step between states with the same records, streams, tasks and handlers. -/
theorem LogStep.between {event : Event} {start finish : State}
    (step : LogStep env start finish event)
    (records : start.records = state.records) (streams : start.streams = state.streams)
    (tasks : start.tasks = state.tasks) (handlers : start.handlers = state.handlers)
    (nextRecords : next.records = finish.records)
    (nextStreams : next.streams = finish.streams) : LogStep env state next event := by
  have life := life_of_records records
  have nextLife := life_of_records nextRecords
  have onlyBetween {id : Nat} (only : LifeOnly id start finish) : LifeOnly id state next :=
    fun other different => by rw [nextLife, only other different, life]
  cases step with
  | idle same sameStreams =>
      exact .idle (nextRecords.trans (same.trans records))
        (nextStreams.trans (sameStreams.trans streams))
  | inserted inserts sameStreams history subscribers lives registering =>
      exact .inserted (records ▸ nextRecords.trans inserts)
        (nextStreams.trans (sameStreams.trans streams)) history subscribers lives
        (handlers ▸ registering)
  | worked logs only found active owner after afterActive afterOwner sameId =>
      exact .worked ⟨logs.between records streams nextRecords nextStreams, logs.unended,
        logs.relayed⟩ (onlyBetween only) (life ▸ found) active owner (nextLife ▸ after)
        afterActive afterOwner sameId
  | launched broadcast only found queued owner after afterQueued afterOwner sameId =>
      exact .launched (broadcast.between records streams nextRecords nextStreams)
        (onlyBetween only) (life ▸ found) queued owner (nextLife ▸ after) afterQueued afterOwner
        sameId
  | ended broadcast unended relayed endings ends only found active after terminal sameId =>
      exact .ended (broadcast.between records streams nextRecords nextStreams) unended relayed
        endings ends (onlyBetween only) (life ▸ found) active (nextLife ▸ after) terminal sameId
  | completed located waits logs broadcast entry relayed only found active after succeeded owner
      sameId =>
      exact .completed (tasks ▸ located) waits logs
        (broadcast.between records streams nextRecords nextStreams) entry relayed
        (onlyBetween only) (life ▸ found) active (nextLife ▸ after) succeeded owner sameId

theorem Drives.life_updateOperation (drives : Drives reference id operationId state)
    (change : Change) : ∃ life, state.life id = some life ∧ life.task = some reference ∧
      life.status.active = true ∧
      (state.updateOperation operationId change).1.life id = some (life.update change) := by
  obtain ⟨life, found, owner, active⟩ := drives.life
  exact ⟨life, found, owner, active, by
    rw [State.life_updateOperation change drives.listed, if_pos rfl, found]; rfl⟩

/-- A turn of a task that drives a record, up to the point at which it is suspended. -/
theorem turn_logStep {task : Task} {answer : Answer} {point : Point}
    (lifecycle : Lifecycle none state) (subscriptions : Subscriptions state)
    (located : state.tasks.get? reference = some task) (attachedTo : task.attachedTo = some id)
    (drives : Drives reference id task.pipeline.operationId state)
    (turned : turn env reference task answer state = some (middle, point)) :
    LogStep env state middle (.taskTurn reference answer) := by
  have named {running : Option Nat} {state : State} (lifecycle : Lifecycle running state)
      (located : state.tasks.get? reference = some task) {life : Life}
      (found : state.life id = some life) : life.operationId = task.pipeline.operationId := by
    obtain ⟨_, other, otherLife, otherTo, otherFound, _, same⟩ :=
      lifecycle.attached reference task located
    obtain rfl := Option.some.inj (attachedTo.symm.trans otherTo)
    obtain rfl := Option.some.inj (found.symm.trans otherFound)
    exact same
  have only := turn_lifeOnly drives.listed turned
  cases early : task.point.completes with
  | false =>
      have works := turn_works early turned
      obtain ⟨events, logs⟩ := works.logs subscriptions drives.listed
      obtain ⟨kept, driving⟩ := works.keeps (lifecycle.exempt (some reference)) drives
      obtain ⟨life, found, owner, active⟩ := drives.life
      obtain ⟨after, afterFound, afterOwner, afterActive⟩ := driving.life
      have sameId := named lifecycle located found
      have afterId := named kept (works.sameTable.tasks ▸ located) afterFound
      exact .worked (sameId ▸ logs) only found active (by simp [owner]) afterFound afterActive
        (by simp [afterOwner]) (afterId.trans sameId.symm)
  | true =>
      cases waits : task.point with
      | succeeding =>
          cases answer <;> simp only [turn, waits, reduceCtorEq, Option.some.injEq] at turned
          have updated := updateOperation_broadcast (succeededChange task.pipeline)
            subscriptions drives.listed
          have silent := State.updateOperation_listed (succeededChange task.pipeline) drives.listed
          have sameTable := State.sameTable_updateOperation state task.pipeline.operationId
            (succeededChange task.pipeline)
          have sameClock : (state.updateOperation task.pipeline.operationId
              (succeededChange task.pipeline)).1.clock = state.clock := by
            rw [silent]
            exact publish_clock id none _
          obtain ⟨life, found, owner, active, ended⟩ :=
            drives.life_updateOperation (succeededChange task.pipeline)
          have sameId := named lifecycle located found
          unfold succeedPipeline at turned
          generalize state.updateOperation task.pipeline.operationId
            (succeededChange task.pipeline) =
              outcome at turned updated silent sameTable sameClock ended
          obtain ⟨recorded, raised⟩ := outcome
          obtain rfl : raised = none := congrArg Prod.snd silent
          dsimp only at turned updated sameTable sameClock ended
          have updated : Broadcast id [.published none] state recorded := updated
          split at turned
          next logs =>
            obtain ⟨events, logged, entry⟩ := appendLog_logs env (completionLine state.clock)
              (updated.subscriptions subscriptions) (sameTable.operations ▸ drives.listed)
            rw [sameClock] at entry
            have lives := (State.sameLife_appendLog env recorded task.pipeline.operationId
              (completionLine state.clock)).life
            generalize recorded.appendLog env task.pipeline.operationId
              (completionLine state.clock) = result at turned logged lives
            obtain ⟨final, second⟩ := result
            have reached : middle = final := by
              cases second <;> cases turned <;> rfl
            subst reached
            exact .completed located waits logs (updated.trans logged.toBroadcast)
              entry (sameId ▸ logged.relayed) only found active ((congrFun lives id).trans ended)
              rfl owner rfl
          next =>
            cases turned
            exact .ended updated List.not_mem_nil (fun _ => rfl) (.inr rfl) (fun _ => rfl) only
              found active ended rfl rfl
      | failing raised =>
          cases answer <;> simp only [turn, waits, reduceCtorEq, Option.some.injEq] at turned
          rw [recordFailure_eq raised drives.listed] at turned
          cases turned
          obtain ⟨life, found, _, active, ended⟩ :=
            drives.life_updateOperation (failedChange task.pipeline raised)
          exact .ended (updateOperation_broadcast (failedChange task.pipeline raised)
            subscriptions drives.listed) List.not_mem_nil (fun _ => rfl) (.inr rfl)
            (fun _ => rfl) only found active ended rfl rfl
      | _ => simp [waits, Point.completes] at early

theorem taskTurn_logStep {task : Task} {answer : Answer} (lifecycle : Lifecycle none state)
    (subscriptions : Subscriptions state) (located : state.tasks.get? reference = some task)
    (turned : state.taskTurn env reference task answer = some next) :
    LogStep env state next (.taskTurn reference answer) := by
  obtain ⟨id, middle, point, attachedTo, drives, run, rfl⟩ :=
    lifecycle.taskTurn_drives located turned
  have left := sameLife_leaveQueue state (.task reference)
  have suspended := suspend_records reference point middle
  exact (turn_logStep (lifecycle.of_sameLife left) (subscriptions.of_eq rfl rfl) located
    attachedTo (drives.of_sameLife left) run).between rfl rfl rfl rfl suspended.1 suspended.2

theorem register_logStep (env : Environment) {request : Request}
    (located : state.handlers.get? reference = some (.registering request)) :
    LogStep env state (state.register env reference request) (.handlerTurn reference) := by
  unfold State.register State.beginRegistration
  cases state.conflict? request.operationId with
  | some active => exact .idle rfl rfl
  | none =>
      dsimp only
      cases getLogFilePath request.operationId (env.logCall state.logCalls) with
      | some raised => exact .inserted rfl rfl rfl rfl rfl ⟨reference, located⟩
      | none => exact .inserted rfl rfl rfl rfl rfl ⟨reference, located⟩

theorem attachTask_broadcast (id : Nat) (operationId : String) (task : Nat) (state : State) :
    Broadcast id [] state (state.attachTask operationId task) := by
  unfold State.attachTask
  split
  next => exact .refl id state
  next listed _ =>
    have modified := broadcast_modifyRecord id listed state
      (fun record => { record with task := some task }) (fun _ => rfl) fun _ => rfl
    exact modified.between rfl rfl rfl rfl

theorem launch_logStep {request : Request} {line : String} {call : LogCall}
    (lifecycle : Lifecycle none state)
    (located : state.handlers.get? reference = some (.initialising request id line call)) :
    LogStep env state (state.launch reference request id line call)
      (.handlerTurn reference) := by
  obtain ⟨_, _, life, found, sameId, queued, owner⟩ :=
    lifecycle.initialising reference request id line call located
  obtain ⟨reply, attachment⟩ := lifecycle.launch_attachment located
  have finished := sameLife_finishRegistration state request.operationId id line call
  have lives : (((state.finishRegistration request.operationId id line
      call).setHolder none).setHandler reference (.answered reply)).life = state.life :=
    finished.life
  have written : Broadcast id [.appended line] state
      (state.finishRegistration request.operationId id line call) :=
    (broadcast_writeLogFile id request.operationId line [] call state).trans
      (broadcast_bufferLine id line (state.writeLogFile request.operationId line [] call))
  have attached : Broadcast id [] (state.finishRegistration request.operationId id line call)
      (state.launch reference request id line call) :=
    let registered := (state.finishRegistration request.operationId id line call).setHolder none
    let created : State := { registered with
      tasks := registered.tasks.alloc ⟨request.pipeline, false, .notStarted, none, false⟩ }
    (attachTask_broadcast id request.operationId registered.tasks.fresh created).between
      rfl rfl rfl rfl
  have after := attachment.life id
  rw [if_pos rfl, lives, found, Option.map_some] at after
  refine .launched (written.trans attached) (fun other different => ?_) found queued owner after
    queued (by simp) rfl
  rw [attachment.life, if_neg different, lives]

theorem ended_logStep {event : Event} (text : String) {final record : OperationRecord}
    {status : OperationStatus} {ended : State} (lifecycle : Lifecycle none state)
    (subscriptions : Subscriptions state)
    (found : state.find? operationId = some (id, record)) (goesOn : record.status.terminal = false)
    (finished : final.life = record.life.finish status) (terminal : status.terminal = true)
    (history : final.history = record.history)
    (subscribers : final.subscribers = record.subscribers)
    (stopped : Broadcast id [] (state.modifyRecord id fun _ => final) middle)
    (operations : middle.operations = state.operations)
    (lives : middle.life = (state.modifyRecord id fun _ => final).life)
    (ending : ended = match middle.appendLog env operationId text with
      | (logged, some _) => logged
      | (logged, none) => logged.publish id none) : LogStep env state ended event := by
  obtain ⟨listed, stored⟩ : state.operations.get? operationId = some id ∧
      state.records.get? id = some record := State.find?_eq_some.mp found
  have lifeFound := State.life_of_record stored
  obtain ⟨listedLife, listedFound, sameId⟩ := lifecycle.listed operationId id listed
  obtain rfl := Option.some.inj (lifeFound.symm.trans listedFound)
  obtain ⟨events, last, logs, endings, ends, broadcasts⟩ :=
    ending_logs subscriptions stored history subscribers listed stopped operations
  have broadcast : Broadcast id (events ++ last) state ended := by
    rw [ending]
    exact broadcasts
  have endedLife : ended.life = (state.modifyRecord id fun _ => final).life := by
    rw [ending, ← lives]
    have logged := (State.sameLife_appendLog env middle operationId text).life
    generalize middle.appendLog env operationId text = outcome at logged ⊢
    obtain ⟨next, _ | raised⟩ := outcome
    · exact (State.sameLife_publish next id none).life.trans logged
    · exact logged
  have changed := lifeChange_overwrite stored finished
  have after := changed.life id
  rw [if_pos rfl, lifeFound, Option.map_some, ← endedLife] at after
  refine .ended broadcast logs.unended (sameId ▸ logs.relayed) endings (sameId ▸ ends)
    (fun other different => ?_) lifeFound ?_ after terminal rfl
  · rw [endedLife, changed.life, if_neg different]
  · exact OperationStatus.active_of_not_terminal (by simpa [OperationRecord.life] using goesOn)

theorem cancelOperation_logStep {event : Event} (lifecycle : Lifecycle none state)
    (subscriptions : Subscriptions state) (operationId : String) :
    LogStep env state (state.cancelOperation env operationId).1 event := by
  unfold State.cancelOperation
  split
  next => exact .idle rfl rfl
  next id record found =>
    split
    next => exact .idle rfl rfl
    next goesOn =>
      have finished : (cancelRecord operationId state.clock record).life =
          record.life.finish .cancelled := rfl
      have stopping := sameLife_terminateProcess record.process
        (state.modifyRecord id fun _ => cancelRecord operationId state.clock record)
      have process : ∀ before : State, (before.terminateProcess record.process).records =
          before.records ∧ (before.terminateProcess record.process).streams = before.streams := by
        intro before
        unfold State.terminateProcess
        split
        next => exact ⟨rfl, rfl⟩
        next => split <;> exact ⟨rfl, rfl⟩
      have task : ∀ before : State, (before.cancelTask record.task).records = before.records ∧
          (before.cancelTask record.task).streams = before.streams := by
        intro before
        cases record.task <;> exact ⟨rfl, rfl⟩
      obtain ⟨operations, -, lives⟩ := cancelTask_frame record.task
        ((state.modifyRecord id fun _ =>
          cancelRecord operationId state.clock record).terminateProcess record.process)
      refine ended_logStep s!"[{state.clock}] Operation cancelled by user request." lifecycle
        subscriptions found (by simpa using goesOn) finished rfl rfl rfl ?_
        (operations.trans stopping.operations) (lives.trans stopping.life) ?_
      · refine (Broadcast.refl id _).between rfl rfl ?_ ?_
        · exact (task _).1.trans (process _).1
        · exact (task _).2.trans (process _).2
      · dsimp only
        split <;> simp_all

theorem finalizeTask_logStep {event : Event} (lifecycle : Lifecycle none state)
    (subscriptions : Subscriptions state) (operationId : String) (reference : Nat)
    (outcome : Outcome) :
    LogStep env state (state.finalizeTask env operationId reference outcome) event := by
  unfold State.finalizeTask
  split
  next => exact .idle rfl rfl
  next id record found =>
    split
    next => exact .idle rfl rfl
    next goesOn =>
      simp only [Bool.or_eq_true, decide_eq_true_eq, not_or, Bool.not_eq_true] at goesOn
      have kept : (finalizeRecord operationId outcome state.clock record).history = record.history ∧
          (finalizeRecord operationId outcome state.clock record).subscribers =
            record.subscribers := by
        cases outcome <;> exact ⟨rfl, rfl⟩
      have terminal : outcome.status.terminal = true := by cases outcome <;> rfl
      exact ended_logStep _ lifecycle subscriptions found goesOn.2
        (life_finalizeRecord operationId state.clock outcome record) terminal kept.1 kept.2
        (Broadcast.refl id _) rfl rfl rfl

theorem handlerTurn_logStep {handler : Handler} (lifecycle : Lifecycle none state)
    (subscriptions : Subscriptions state) (located : state.handlers.get? reference = some handler)
    (turned : state.handlerTurn env reference handler = some next) :
    LogStep env state next (.handlerTurn reference) := by
  have left := lifecycle.of_sameLife (sameLife_leaveQueue state (.handler reference))
  cases handler with
  | registering request =>
      simp only [State.handlerTurn] at turned
      split at turned
      next =>
        cases turned
        have registered : LogStep env (state.leaveQueue (.handler reference))
            ((state.leaveQueue (.handler reference)).register env reference request)
            (.handlerTurn reference) := register_logStep env located
        exact registered.between rfl rfl rfl rfl rfl rfl
      next => contradiction
  | initialising request id line call =>
      cases turned
      exact launch_logStep lifecycle located
  | cancelling operationId =>
      simp only [State.handlerTurn] at turned
      split at turned
      next =>
        have cancelled : LogStep env (state.leaveQueue (.handler reference))
            ((state.leaveQueue (.handler reference)).cancelOperation env operationId).1
            (.handlerTurn reference) :=
          cancelOperation_logStep left (subscriptions.of_eq rfl rfl) operationId
        split at turned
        next equality =>
          cases turned
          rw [equality] at cancelled
          exact cancelled.between rfl rfl rfl rfl rfl rfl
        next equality =>
          cases turned
          rw [equality] at cancelled
          exact cancelled.between rfl rfl rfl rfl rfl rfl
      next => contradiction
  | answered reply => contradiction

/-- What every step does to the logs, the steps of the streams apart. -/
theorem apiStep_logStep {event : Event} (lifecycle : Lifecycle none state)
    (subscriptions : Subscriptions state) (stepped : apiStep env state event = some next)
    (other : event.ofStream = false) : LogStep env state next event := by
  cases event with
  | tick clock | request request | cancel operationId =>
      cases stepped
      exact .idle rfl rfl
  | handlerTurn reference =>
      obtain ⟨handler, located, turned⟩ := Option.bind_eq_some_iff.mp stepped
      exact handlerTurn_logStep lifecycle subscriptions located turned
  | interrupt reference =>
      obtain ⟨handler, _, interrupted⟩ := Option.bind_eq_some_iff.mp stepped
      cases handler <;> cases interrupted <;> exact .idle rfl rfl
  | taskTurn reference answer =>
      obtain ⟨task, located, turned⟩ := Option.bind_eq_some_iff.mp stepped
      exact taskTurn_logStep lifecycle subscriptions located turned
  | cancelledTurn reference =>
      obtain ⟨task, _, turned⟩ := Option.bind_eq_some_iff.mp stepped
      have same : next.records = state.records ∧ next.streams = state.streams := by
        unfold State.taskCancelledTurn at turned
        split at turned
        next =>
          obtain ⟨⟨mid, point⟩, run, rfl⟩ := Option.map_eq_some_iff.mp turned
          have suspended := suspend_records reference point mid
          rw [suspended.1, suspended.2]
          unfold cancelledTurn at run
          split at run
          next =>
            cases run
            exact ⟨rfl, rfl⟩
          next =>
            obtain ⟨_, _, equality⟩ := Option.map_eq_some_iff.mp run
            cases equality
            exact ⟨rfl, rfl⟩
          next => contradiction
          next =>
            cases run
            exact ⟨rfl, rfl⟩
        next => contradiction
      exact .idle same.1 same.2
  | callback reference =>
      obtain ⟨task, _, ran⟩ := Option.bind_eq_some_iff.mp stepped
      unfold State.runCallback at ran
      split at ran
      next outcome _ =>
        split at ran
        next =>
          cases ran
          exact (finalizeTask_logStep lifecycle subscriptions task.pipeline.operationId reference
            outcome).between rfl rfl rfl rfl rfl rfl
        next => contradiction
      next => contradiction
  | processExit reference returnCode =>
      obtain ⟨process, _, exited⟩ := Option.bind_eq_some_iff.mp stepped
      split at exited <;> cases exited
      exact .idle rfl rfl
  | forceKill reference =>
      simp only [apiStep, State.forceKillProcess] at stepped
      split at stepped
      next => split at stepped <;> cases stepped <;> exact .idle rfl rfl
      next => contradiction
  | subscribe operationId => contradiction
  | pull reference => contradiction
  | closeStream reference => contradiction

end GemEmulation.Api
