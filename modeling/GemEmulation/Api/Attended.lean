import GemEmulation.Api.Final

/-!
# No leaked lock

An active record locks its target.  When registrations succeed, somebody is still
there to release it: the handler in the midst of the registration, or a task whose
done-callback has not run yet.
-/

namespace GemEmulation.Api

open Foundations Lifecycle

variable {env : Environment} {state next : State} {reference id : Nat} {operationId : String}

def RegistrationsSucceed (env : Environment) (state : State) : Event → Prop
  | .handlerTurn reference => ∀ request,
      state.handlers.get? reference = some (.registering request) →
      state.conflict? request.operationId = none →
      getLogFilePath request.operationId (env.logCall state.logCalls) = none
  | .interrupt reference => ∀ request id line call,
      state.handlers.get? reference ≠ some (.initialising request id line call)
  | _ => True

def BeingRegistered (id : Nat) (state : State) : Prop :=
  ∃ handler request line call,
    state.handlers.get? handler = some (.initialising request id line call)

/-- An active record without a task is being registered. -/
def Attended (state : State) : Prop :=
  ∀ id life, state.life id = some life → life.status.active = true → life.task = none →
    BeingRegistered id state

theorem Attended.of_sameLife (attended : Attended state) (same : state.SameLife next) :
    Attended next := by
  intro id life found active unowned
  rw [same.life] at found
  obtain ⟨handler, request, line, call, located⟩ := attended id life found active unowned
  exact ⟨handler, request, line, call, by rw [same.handlers, located]⟩

theorem Attended.answer {handler : Handler} (attended : Attended state)
    (located : state.handlers.get? reference = some handler)
    (idle : ∀ request id line call, handler ≠ .initialising request id line call)
    (answer : Handler) : Attended (state.setHandler reference answer) := by
  intro id life found active unowned
  obtain ⟨other, request, line, call, otherLocated⟩ := attended id life found active unowned
  refine ⟨other, request, line, call, ?_⟩
  have different : other ≠ reference := by
    rintro rfl
    exact idle request id line call (Option.some.inj (located.symm.trans otherLocated))
  simp [State.setHandler, Heap.get?_modify_of_ne _ _ different, otherLocated]

theorem Attended.receiveRequest (attended : Attended state) (handler : Handler) :
    Attended (state.receiveRequest handler) := by
  intro id life found active unowned
  obtain ⟨other, request, line, call, located⟩ := attended id life found active unowned
  exact ⟨other, request, line, call, Heap.get?_alloc_of_get? handler located⟩

/-- A change of one record's life is harmless when the record has a task or ends. -/
theorem Attended.lifeOnly (attended : Attended state) (id : Nat) (only : LifeOnly id state next)
    (handlers : next.handlers = state.handlers)
    (cared : ∀ life, next.life id = some life → life.status.active = true →
      life.task ≠ none) :
    Attended next := by
  intro other life found active unowned
  by_cases same : other = id
  · subst same
    exact absurd unowned (cared life found active)
  · rw [only other same] at found
    obtain ⟨handler, request, line, call, located⟩ := attended other life found active unowned
    exact ⟨handler, request, line, call, by rw [handlers, located]⟩

theorem Attended.register {request : Request} (attended : Attended state)
    (located : state.handlers.get? reference = some (.registering request))
    (succeeds : state.conflict? request.operationId = none →
      getLogFilePath request.operationId (env.logCall state.logCalls) = none) :
    Attended (state.register env reference request) := by
  unfold State.register State.beginRegistration
  cases conflict : state.conflict? request.operationId with
  | some active => exact attended.answer located (by simp) _
  | none =>
      dsimp only
      rw [succeeds conflict]
      dsimp only
      intro id life found active unowned
      by_cases new : id = state.records.fresh
      · subst new
        exact ⟨reference, request, initLine (state.newRecord env request.operationId
          request.operationType request.operationId request.initialStep request.initialMessage),
          env.logCall state.logCalls, by simp [State.setHandler, State.setHolder, located]⟩
      · have old : state.life id = some life := by
          simpa only [State.life, State.setHandler, State.setHolder, Heap.get?_alloc,
            if_neg new] using found
        obtain ⟨other, otherRequest, line, call, otherLocated⟩ :=
          attended id life old active unowned
        refine ⟨other, otherRequest, line, call, ?_⟩
        have different : other ≠ reference := by
          rintro rfl
          simp [located] at otherLocated
        simp [State.setHandler, State.setHolder, Heap.get?_modify_of_ne _ _ different,
          otherLocated]

theorem Attended.launch {request : Request} {line : String} {call : LogCall}
    (attended : Attended state) (lifecycle : Lifecycle none state)
    (located : state.handlers.get? reference = some (.initialising request id line call)) :
    Attended (state.launch reference request id line call) := by
  obtain ⟨reply, attachment⟩ := lifecycle.launch_attachment located
  have finished := sameLife_finishRegistration state request.operationId id line call
  have held := (lifecycle.initialising reference request id line call located).1
  intro other life found active unowned
  rw [attachment.life] at found
  split at found
  next =>
    obtain ⟨_, _, rfl⟩ := Option.map_eq_some_iff.mp found
    simp at unowned
  next different =>
    have old : state.life other = some life := (congrFun finished.life other).symm.trans found
    obtain ⟨handler, otherRequest, otherLine, otherCall, otherLocated⟩ :=
      attended other life old active unowned
    have holder :=
      (lifecycle.initialising handler otherRequest other otherLine otherCall otherLocated).1
    obtain rfl := Option.some.inj (held.symm.trans holder)
    rw [located] at otherLocated
    cases otherLocated
    exact absurd rfl different

theorem Attended.cancelOperation (attended : Attended state) :
    Attended (state.cancelOperation env operationId).1 := by
  obtain ⟨_, handlers, unchanged | ⟨id, ended, _, _, lives⟩⟩ :=
    cancelOperation_change env operationId state
  · intro id life found active unowned
    rw [unchanged] at found
    obtain ⟨handler, request, line, call, located⟩ := attended id life found active unowned
    exact ⟨handler, request, line, call, by rw [handlers, located]⟩
  · refine attended.lifeOnly id (fun other different => ?_) handlers
      fun life found active => ?_
    · rw [lives, if_neg different]
    · rw [lives, if_pos rfl] at found
      obtain rfl := Option.some.inj found
      simp [Life.finish, OperationStatus.active] at active

theorem Attended.handlerTurn {handler : Handler} (attended : Attended state)
    (lifecycle : Lifecycle none state)
    (located : state.handlers.get? reference = some handler)
    (succeeds : ∀ request, handler = .registering request →
      state.conflict? request.operationId = none →
      getLogFilePath request.operationId (env.logCall state.logCalls) = none)
    (turned : state.handlerTurn env reference handler = some next) : Attended next := by
  have left := attended.of_sameLife (sameLife_leaveQueue state (.handler reference))
  cases handler with
  | registering request =>
      simp only [State.handlerTurn] at turned
      split at turned
      next =>
        cases turned
        exact left.register located (succeeds request rfl)
      next => contradiction
  | initialising request id line call =>
      cases turned
      exact attended.launch lifecycle located
  | cancelling operationId =>
      simp only [State.handlerTurn] at turned
      split at turned
      next =>
        have cancelled : Attended
            ((state.leaveQueue (.handler reference)).cancelOperation env operationId).1 :=
          left.cancelOperation
        have stillLocated : ((state.leaveQueue (.handler reference)).cancelOperation env
            operationId).1.handlers.get? reference = some (.cancelling operationId) := by
          rw [(cancelOperation_change ..).2.1]
          exact located
        split at turned
        next equality =>
          cases turned
          rw [equality] at cancelled stillLocated
          exact cancelled.answer stillLocated (by simp) _
        next equality =>
          cases turned
          rw [equality] at cancelled stillLocated
          exact cancelled.answer stillLocated (by simp) _
      next => contradiction
  | answered reply => contradiction

theorem Lifecycle.task_of_attached (lifecycle : Lifecycle none state) {task : Task} {life : Life}
    (located : state.tasks.get? reference = some task) (attachedTo : task.attachedTo = some id)
    (found : state.life id = some life) : life.task ≠ none := by
  obtain ⟨_, other, otherLife, otherTo, otherFound, owner, _⟩ :=
    lifecycle.attached reference task located
  obtain rfl := Option.some.inj (attachedTo.symm.trans otherTo)
  obtain rfl := Option.some.inj (found.symm.trans otherFound)
  simp [owner]

theorem apiStep_attended {event : Event} (attended : Attended state)
    (lifecycle : Lifecycle none state) (nextLifecycle : Lifecycle none next)
    (succeeds : RegistrationsSucceed env state event)
    (stepped : apiStep env state event = some next) : Attended next := by
  cases event with
  | tick clock =>
      cases stepped
      exact attended
  | request request | cancel operationId =>
      cases stepped
      exact attended.receiveRequest _
  | handlerTurn reference =>
      obtain ⟨handler, located, turned⟩ := Option.bind_eq_some_iff.mp stepped
      refine attended.handlerTurn lifecycle located (fun request same => ?_) turned
      subst same
      exact succeeds request located
  | interrupt reference =>
      obtain ⟨handler, located, interrupted⟩ := Option.bind_eq_some_iff.mp stepped
      have left := attended.of_sameLife (sameLife_leaveQueue state (.handler reference))
      cases handler with
      | registering request =>
          cases interrupted
          exact left.answer located (by simp) _
      | cancelling operationId =>
          cases interrupted
          exact left.answer located (by simp) _
      | initialising request id line call => exact absurd located (succeeds request id line call)
      | answered reply => contradiction
  | taskTurn reference answer =>
      obtain ⟨task, located, turned⟩ := Option.bind_eq_some_iff.mp stepped
      obtain ⟨driven, mid, point, attachedTo, drives, run, rfl⟩ :=
        lifecycle.taskTurn_drives located turned
      have same := turn_sameTable run
      have suspended := taskChange_suspend reference point mid
      have listed : (state.leaveQueue (.task reference)).operations.get?
          task.pipeline.operationId = some driven := drives.listed
      have moved : (mid.suspend reference point).tasks.get? reference =
          some { task with point } := by
        rw [suspended.tasks, same.tasks, Heap.get?_modify_self]
        exact congrArg (Option.map _) located
      refine attended.lifeOnly driven (fun other different => ?_)
        (suspended.handlers.trans same.handlers)
        fun life found _ => nextLifecycle.task_of_attached moved attachedTo found
      rw [suspended.life, turn_lifeOnly listed run other different]
      rfl
  | cancelledTurn reference =>
      obtain ⟨task, _, turned⟩ := Option.bind_eq_some_iff.mp stepped
      unfold State.taskCancelledTurn at turned
      split at turned
      next =>
        obtain ⟨⟨mid, point⟩, run, rfl⟩ := Option.map_eq_some_iff.mp turned
        have same := cancelledTurn_sameLife run
        have suspended := taskChange_suspend reference point mid
        exact attended.lifeOnly state.records.fresh
          (fun other _ => by rw [suspended.life, same.life])
          (suspended.handlers.trans same.handlers)
          fun life found => by
            rw [suspended.life, same.life] at found
            exact absurd rfl (ne_fresh_of_life found)
      next => contradiction
  | callback reference =>
      obtain ⟨task, located, ran⟩ := Option.bind_eq_some_iff.mp stepped
      unfold State.runCallback at ran
      split at ran
      next outcome _ =>
        split at ran
        next =>
          cases ran
          obtain ⟨unchanged, _⟩ | ⟨id, record, found, _, _, same⟩ :=
            finalizeTask_cases env task.pipeline.operationId reference outcome state
          · rw [unchanged]
            exact attended
          · obtain ⟨_, stored⟩ := State.find?_eq_some.mp found
            have changed := lifeChange_overwrite stored
              (life_finalizeRecord task.pipeline.operationId state.clock outcome record)
            refine attended.lifeOnly id (fun other different => ?_) same.handlers
              fun life ended active => ?_
            · exact (congrFun same.life other).trans (LifeOnly.of_change changed other different)
            · have isOver := (congrFun same.life id).symm.trans ended
              rw [changed.life, if_pos rfl] at isOver
              obtain ⟨_, _, rfl⟩ := Option.map_eq_some_iff.mp isOver
              cases outcome <;> simp [Life.finish, Outcome.status, OperationStatus.active] at active
        next => contradiction
      next => contradiction
  | processExit reference returnCode => exact attended.of_sameLife (sameLife_exitProcess stepped)
  | forceKill reference => exact attended.of_sameLife (sameLife_forceKillProcess stepped)
  | subscribe operationId =>
      obtain ⟨opened, openedFound, resumed⟩ := Option.bind_eq_some_iff.mp stepped
      exact attended.of_sameLife
        ((sameLife_openStream openedFound).trans (sameLife_resumeStream resumed))
  | pull reference => exact attended.of_sameLife (sameLife_resumeStream stepped)
  | closeStream reference => exact attended.of_sameLife (sameLife_closeStream stepped)

def AttendedLifecycle (state : State) : Prop := Lifecycle none state ∧ Attended state

/-- When registrations succeed, every active record is being registered or has a task
whose done-callback has not run; after the callback the record is terminal. -/
theorem activeOperation_attended (mockEnabled : Bool) (maxLogBufferLines : Nat)
    (clock : String) {events : List Event} {state : State}
    (run : Run (apiStep (.working mockEnabled maxLogBufferLines))
      (RegistrationsSucceed (.working mockEnabled maxLogBufferLines)) (State.initial clock)
      events state) :
    (∀ id record, state.records.get? id = some record → record.status.active = true →
      BeingRegistered id state ∨
        ∃ reference task, record.task = some reference ∧
          state.tasks.get? reference = some task ∧ task.attachedTo = some id ∧
          task.callbackRan = false) ∧
    ∀ reference task id record, state.tasks.get? reference = some task →
      task.callbackRan = true → task.attachedTo = some id →
      state.records.get? id = some record → record.status.terminal = true := by
  have start : AttendedLifecycle (State.initial clock) :=
    ⟨lifecycle_initial clock, fun id life found => by simp [State.life, State.initial] at found⟩
  have kept : AttendedLifecycle state := by
    apply run.invariant start
    rintro before after event ⟨lifecycle, attended⟩ succeeds stepped
    have nextLifecycle :=
      apiStep_lifecycle lifecycle (completionsLogged_working _ _ before event) stepped
    exact ⟨nextLifecycle, apiStep_attended attended lifecycle nextLifecycle succeeds stepped⟩
  obtain ⟨lifecycle, attended⟩ := kept
  refine ⟨fun id record stored active => ?_, fun reference task id record located ran attachedTo
    stored => lifecycle.ran reference task id _ located ran attachedTo
      (State.life_of_record stored)⟩
  have found := State.life_of_record stored
  cases owner : record.task with
  | none => exact .inl (attended id _ found active owner)
  | some reference =>
      obtain ⟨task, located, attachedTo⟩ := lifecycle.owned id _ reference found owner
      refine .inr ⟨reference, task, rfl, located, attachedTo, ?_⟩
      by_contra ran
      have terminal := lifecycle.ran reference task id _ located (by simpa using ran) attachedTo
        found
      have contradictory : record.status.terminal = true := terminal
      simp [OperationStatus.terminal_eq_not_active, active] at contradictory

/-- The check that a registration finds its log file, and that no handler is cancelled. -/
def registersCleanly (env : Environment) (state : State) : Event → Bool
  | .handlerTurn reference =>
      match state.handlers.get? reference with
      | some (.registering request) =>
          (getLogFilePath request.operationId (env.logCall state.logCalls)).isNone
      | _ => true
  | .interrupt _ => false
  | _ => true

theorem registrationsSucceed_of_registersCleanly (state : State) (event : Event)
    (clean : registersCleanly env state event = true) : RegistrationsSucceed env state event := by
  cases event with
  | handlerTurn reference =>
      intro request located _
      simpa [registersCleanly, located] using clean
  | interrupt reference => simp [registersCleanly] at clean
  | _ => trivial

theorem activeOperation_attended_launched :
    ∃ state, Run (apiStep (.working false 10)) (RegistrationsSucceed (.working false 10))
        (.initial "") [.request workstationTeardown, .handlerTurn 0, .handlerTurn 0] state ∧
      ∃ record, state.records.get? 0 = some record ∧ record.status.active = true ∧
        (BeingRegistered 0 state ∨
          ∃ reference task, record.task = some reference ∧
            state.tasks.get? reference = some task ∧ task.attachedTo = some 0 ∧
            task.callbackRan = false) := by
  have check : ((executeChecked (apiStep (.working false 10))
      (registersCleanly (.working false 10)) (.initial "")
      [.request workstationTeardown, .handlerTurn 0, .handlerTurn 0]).bind fun state =>
        state.records.get? 0).any (fun record => record.status.active) = true := by
    decide
  obtain ⟨record, stored, active⟩ := (Option.any_eq_true _ _).mp check
  obtain ⟨state, executed, stored⟩ := Option.bind_eq_some_iff.mp stored
  have run := run_of_executeChecked registrationsSucceed_of_registersCleanly executed
  exact ⟨state, run, record, stored, active,
    (activeOperation_attended false 10 "" run).1 0 record stored active⟩

end GemEmulation.Api
