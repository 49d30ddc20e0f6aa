import GemEmulation.Api.Endings

/-!
# Registrations and the life cycle

A registration inserts a record when no active one has its target, keeps the
lock until the log file is written, and then creates and attaches the task.
-/

namespace GemEmulation.Api

open Foundations

variable {env : Environment} {state next : State} {reference id : Nat} {operationId : String}

namespace Lifecycle

theorem conflict?_of_active (lifecycle : Lifecycle none state) {life : Life}
    (found : state.life id = some life) (active : life.status.active = true) :
    ∃ record, state.conflict? life.operationId = some record := by
  have listed := lifecycle.current id life found active
  have target := lifecycle.target id life found
  obtain ⟨record, stored, rfl⟩ := Option.map_eq_some_iff.mp found
  rw [← Option.isSome_iff_exists]
  unfold State.conflict?
  rw [List.findSome?_isSome_iff]
  refine ⟨id, (Dict.mem_values_iff ..).mpr ⟨_, listed⟩, ?_⟩
  have sameTarget : record.targetResource = record.life.operationId := target
  have isActive : record.status.active = true := active
  simp [stored, Option.filter, sameTarget, isActive]

structure Insertion (operationId : String) (state next : State) : Prop where
  operations : next.operations = state.operations.set operationId state.records.fresh
  tasks : next.tasks = state.tasks
  handlers : next.handlers = state.handlers
  holder : next.lock.holder = state.lock.holder
  life : ∀ other, next.life other =
    if other = state.records.fresh then some ⟨operationId, operationId, .queued, false, none⟩
    else state.life other

theorem ne_fresh_of_life {life : Life} (found : state.life id = some life) :
    id ≠ state.records.fresh := by
  obtain ⟨record, stored, _⟩ := Option.map_eq_some_iff.mp found
  exact Heap.ne_fresh_of_get? stored

/-- A new record keeps the invariant when its operation id has no active record. -/
theorem insert (lifecycle : Lifecycle none state)
    (inserted : Insertion operationId state next)
    (vacant : ∀ id life, state.life id = some life → life.operationId = operationId →
      life.status.active = false) :
    Lifecycle none next := by
  have old {other : Nat} {life : Life} (found : state.life other = some life) :
      next.life other = some life := by
    rw [inserted.life, if_neg (ne_fresh_of_life found), found]
  refine ⟨?_, ?_, ?_, ?_, ?_, ?_, ?_, ?_, ?_⟩
  · intro key id found
    rw [inserted.operations, Dict.get?_set] at found
    split at found
    next same =>
      cases found
      exact ⟨_, by rw [inserted.life, if_pos rfl], same.symm⟩
    next =>
      obtain ⟨life, lifeFound, equality⟩ := lifecycle.listed key id found
      exact ⟨life, old lifeFound, equality⟩
  · intro id life found
    rw [inserted.life] at found
    split at found
    next =>
      cases found
      rfl
    next => exact lifecycle.target id life found
  · intro id life found active
    rw [inserted.life] at found
    rw [inserted.operations, Dict.get?_set]
    split at found
    next same =>
      cases found
      simp [same]
    next =>
      have different : life.operationId ≠ operationId := fun same => by
        simp [vacant id life found same] at active
      rw [if_neg different]
      exact lifecycle.current id life found active
  · intro id life found
    rw [inserted.life] at found
    split at found
    next =>
      cases found
      rfl
    next => exact lifecycle.completed id life found
  · intro reference task found
    rw [inserted.tasks] at found
    obtain ⟨valid, id, life, attachedTo, lifeFound, rest⟩ :=
      lifecycle.attached reference task found
    exact ⟨valid, id, life, attachedTo, old lifeFound, rest⟩
  · intro id life reference found owner
    rw [inserted.life] at found
    rw [inserted.tasks]
    split at found
    next =>
      cases found
      simp at owner
    next => exact lifecycle.owned id life reference found owner
  · intro reference task id life _ found able attachedTo lifeFound
    rw [inserted.tasks] at found
    obtain ⟨_, other, otherLife, otherTo, otherFound, _⟩ := lifecycle.attached reference task found
    obtain rfl := Option.some.inj (attachedTo.symm.trans otherTo)
    obtain rfl := Option.some.inj (lifeFound.symm.trans (old otherFound))
    exact lifecycle.able reference task id life (by simp) found able attachedTo otherFound
  · intro reference task id life found ran attachedTo lifeFound
    rw [inserted.tasks] at found
    obtain ⟨_, other, otherLife, otherTo, otherFound, _⟩ := lifecycle.attached reference task found
    obtain rfl := Option.some.inj (attachedTo.symm.trans otherTo)
    obtain rfl := Option.some.inj (lifeFound.symm.trans (old otherFound))
    exact lifecycle.ran reference task id life found ran attachedTo otherFound
  · intro handler request id line call found
    rw [inserted.handlers] at found
    obtain ⟨holder, valid, life, lifeFound, rest⟩ :=
      lifecycle.initialising handler request id line call found
    exact ⟨inserted.holder ▸ holder, valid, life, old lifeFound, rest⟩

/-- A change of handlers and of the lock's holder keeps the invariant when it is right
about the registrations under way. -/
theorem changeHandlers (lifecycle : Lifecycle none state)
    (operations : next.operations = state.operations) (tasks : next.tasks = state.tasks)
    (sameLife : next.life = state.life)
    (initialising : ∀ handler request id line call,
      next.handlers.get? handler = some (.initialising request id line call) →
      next.lock.holder = some handler ∧ validOperationId request.operationId = true ∧
      ∃ life, state.life id = some life ∧ life.operationId = request.operationId ∧
        life.status = .queued ∧ life.task = none) :
    Lifecycle none next where
  listed := by simpa only [operations, sameLife] using lifecycle.listed
  target := by simpa only [sameLife] using lifecycle.target
  current := by simpa only [operations, sameLife] using lifecycle.current
  completed := by simpa only [sameLife] using lifecycle.completed
  attached := by simpa only [tasks, sameLife] using lifecycle.attached
  owned := by simpa only [tasks, sameLife] using lifecycle.owned
  able := by simpa only [tasks, sameLife] using lifecycle.able
  ran := by simpa only [tasks, sameLife] using lifecycle.ran
  initialising := by simpa only [sameLife] using initialising

theorem answer (lifecycle : Lifecycle none state) (reply : Reply) :
    Lifecycle none (state.setHandler reference (.answered reply)) := by
  refine lifecycle.changeHandlers rfl rfl rfl fun handler request id line call found => ?_
  simp only [State.setHandler, Heap.get?_modify] at found
  split at found
  next => simp at found
  next => exact lifecycle.initialising handler request id line call found

theorem release {request : Request} {line : String} {call : LogCall}
    (lifecycle : Lifecycle none state)
    (found : state.handlers.get? reference = some (.initialising request id line call))
    (reply : Reply) :
    Lifecycle none ((state.setHolder none).setHandler reference (.answered reply)) := by
  have held := (lifecycle.initialising reference request id line call found).1
  refine lifecycle.changeHandlers rfl rfl rfl fun handler other id line call otherFound => ?_
  simp only [State.setHandler, State.setHolder, Heap.get?_modify] at otherFound
  split at otherFound
  next => simp at otherFound
  next different =>
    have holder := (lifecycle.initialising handler other id line call otherFound).1
    exact absurd (Option.some.inj (holder.symm.trans held)) different

theorem receiveRequest (lifecycle : Lifecycle none state) {handler : Handler}
    (fresh : ∀ request id line call, handler ≠ .initialising request id line call) :
    Lifecycle none (state.receiveRequest handler) := by
  refine lifecycle.changeHandlers rfl rfl rfl fun reference request id line call found => ?_
  simp only [State.receiveRequest, State.joinQueue, Heap.get?_alloc] at found
  split at found
  next => exact absurd (Option.some.inj found) (fresh request id line call)
  next => exact lifecycle.initialising reference request id line call found

theorem interruptHandler {handler : Handler} (lifecycle : Lifecycle none state)
    (found : state.handlers.get? reference = some handler)
    (interrupted : state.interruptHandler reference handler = some next) :
    Lifecycle none next := by
  cases handler with
  | registering request =>
      cases interrupted
      exact (lifecycle.of_sameLife (sameLife_leaveQueue state _)).answer _
  | cancelling operationId =>
      cases interrupted
      exact (lifecycle.of_sameLife (sameLife_leaveQueue state _)).answer _
  | initialising request id line call =>
      cases interrupted
      exact lifecycle.release found _
  | answered reply => contradiction

theorem insert_newRecord (env : Environment) (request : Request)
    (lifecycle : Lifecycle none state)
    (vacant : state.conflict? request.operationId = none)
    (inserted : next = { state with
      records := state.records.alloc (state.newRecord env request.operationId
        request.operationType request.operationId request.initialStep request.initialMessage)
      operations := state.operations.set request.operationId state.records.fresh
      logCalls := state.logCalls + 1 }) :
    Lifecycle none next ∧ next.life state.records.fresh =
      some ⟨request.operationId, request.operationId, .queued, false, none⟩ := by
  have insertion : Insertion request.operationId state next := by
    subst inserted
    refine ⟨rfl, rfl, rfl, rfl, fun other => ?_⟩
    simp only [State.life, Heap.get?_alloc]
    split
    next => rfl
    next => rfl
  refine ⟨lifecycle.insert insertion fun id life found same => ?_,
    by rw [insertion.life, if_pos rfl]⟩
  by_contra active
  obtain ⟨record, conflict⟩ := lifecycle.conflict?_of_active found (by simpa using active)
  simp [same, vacant] at conflict

theorem register {request : Request} (lifecycle : Lifecycle none state)
    (found : state.handlers.get? reference = some (.registering request))
    (free : state.lock.holder = none) :
    Lifecycle none (state.register env reference request) := by
  unfold State.register State.beginRegistration
  cases conflict : state.conflict? request.operationId with
  | some active => exact lifecycle.answer _
  | none =>
      dsimp only
      obtain ⟨kept, newLife⟩ := insert_newRecord env request lifecycle conflict rfl
      cases path : getLogFilePath request.operationId (env.logCall state.logCalls) with
      | some raised => exact kept.answer _
      | none =>
          dsimp only
          refine kept.changeHandlers rfl rfl rfl
            fun handler other id line call otherFound => ?_
          simp only [State.setHandler, State.setHolder, Heap.get?_modify] at otherFound
          split at otherFound
          next same =>
            subst same
            rw [found] at otherFound
            cases otherFound
            exact ⟨rfl, (getLogFilePath_eq_none.mp path).1, _, newLife, rfl, rfl, rfl⟩
          next =>
            have holder := (lifecycle.initialising handler other id line call otherFound).1
            simp [free] at holder

structure Attachment (id : Nat) (task : Task) (state next : State) : Prop where
  operations : next.operations = state.operations
  tasks : ∀ other, next.tasks.get? other =
    if other = state.tasks.fresh then some task else state.tasks.get? other
  handlers : next.handlers = state.handlers
  holder : next.lock.holder = state.lock.holder
  life : ∀ other, next.life other =
    if other = id then (state.life id).map fun life =>
      { life with task := some state.tasks.fresh }
    else state.life other

theorem attach {task : Task} {life : Life} (lifecycle : Lifecycle none state)
    (attachment : Attachment id task state next) (found : state.life id = some life)
    (active : life.status.active = true) (unowned : life.task = none)
    (attachedTo : task.attachedTo = some id) (same : life.operationId = task.pipeline.operationId)
    (valid : validOperationId task.pipeline.operationId = true)
    (new : task.callbackRan = false)
    (settled : ∀ handler request line call,
      state.handlers.get? handler ≠ some (.initialising request id line call)) :
    Lifecycle none next := by
  have here : next.life id = some { life with task := some state.tasks.fresh } := by
    rw [attachment.life, if_pos rfl, found]
    rfl
  have elsewhere {other : Nat} (different : other ≠ id) : next.life other = state.life other := by
    rw [attachment.life, if_neg different]
  have oldTask {other : Nat} {old : Task} (oldFound : state.tasks.get? other = some old) :
      other ≠ state.tasks.fresh := Heap.ne_fresh_of_get? oldFound
  refine ⟨?_, ?_, ?_, ?_, ?_, ?_, ?_, ?_, ?_⟩
  · intro key other listed
    rw [attachment.operations] at listed
    obtain ⟨otherLife, otherFound, equality⟩ := lifecycle.listed key other listed
    by_cases isId : other = id
    · subst isId
      obtain rfl := Option.some.inj (found.symm.trans otherFound)
      exact ⟨_, here, equality⟩
    · exact ⟨otherLife, by rw [elsewhere isId, otherFound], equality⟩
  · intro other otherLife otherFound
    by_cases isId : other = id
    · subst isId
      obtain rfl := Option.some.inj (here.symm.trans otherFound)
      exact lifecycle.target other life found
    · exact lifecycle.target other otherLife (elsewhere isId ▸ otherFound)
  · intro other otherLife otherFound otherActive
    rw [attachment.operations]
    by_cases isId : other = id
    · subst isId
      obtain rfl := Option.some.inj (here.symm.trans otherFound)
      exact lifecycle.current other life found active
    · exact lifecycle.current other otherLife (elsewhere isId ▸ otherFound) otherActive
  · intro other otherLife otherFound
    by_cases isId : other = id
    · subst isId
      obtain rfl := Option.some.inj (here.symm.trans otherFound)
      exact lifecycle.completed other life found
    · exact lifecycle.completed other otherLife (elsewhere isId ▸ otherFound)
  · intro other old oldFound
    rw [attachment.tasks] at oldFound
    split at oldFound
    next isFresh =>
      cases oldFound
      exact ⟨valid, id, _, attachedTo, here, by rw [isFresh], same⟩
    next =>
      obtain ⟨oldValid, oldId, oldLife, oldTo, oldLifeFound, owner, rest⟩ :=
        lifecycle.attached other old oldFound
      have different : oldId ≠ id := by
        rintro rfl
        obtain rfl := Option.some.inj (found.symm.trans oldLifeFound)
        simp [unowned] at owner
      exact ⟨oldValid, oldId, oldLife, oldTo, by rw [elsewhere different, oldLifeFound], owner,
        rest⟩
  · intro other otherLife otherTask otherFound owner
    rw [attachment.tasks]
    by_cases isId : other = id
    · subst isId
      obtain rfl := Option.some.inj (here.symm.trans otherFound)
      obtain rfl := Option.some.inj owner
      exact ⟨task, by rw [if_pos rfl], attachedTo⟩
    · obtain ⟨old, oldFound, oldTo⟩ :=
        lifecycle.owned other otherLife otherTask (elsewhere isId ▸ otherFound) owner
      exact ⟨old, by rw [if_neg (oldTask oldFound), oldFound], oldTo⟩
  · intro other old oldId oldLife _ oldFound able oldTo oldLifeFound
    rw [attachment.tasks] at oldFound
    split at oldFound
    next =>
      cases oldFound
      obtain rfl := Option.some.inj (attachedTo.symm.trans oldTo)
      obtain rfl := Option.some.inj (here.symm.trans oldLifeFound)
      exact active
    next =>
      obtain ⟨_, storedId, storedLife, storedTo, storedFound, owner, _⟩ :=
        lifecycle.attached other old oldFound
      obtain rfl := Option.some.inj (oldTo.symm.trans storedTo)
      by_cases isId : oldId = id
      · subst isId
        obtain rfl := Option.some.inj (found.symm.trans storedFound)
        simp [unowned] at owner
      · exact lifecycle.able other old oldId oldLife (by simp) oldFound able oldTo
          (elsewhere isId ▸ oldLifeFound)
  · intro other old oldId oldLife oldFound ran oldTo oldLifeFound
    rw [attachment.tasks] at oldFound
    split at oldFound
    next =>
      cases oldFound
      simp [new] at ran
    next =>
      obtain ⟨_, storedId, storedLife, storedTo, storedFound, owner, _⟩ :=
        lifecycle.attached other old oldFound
      obtain rfl := Option.some.inj (oldTo.symm.trans storedTo)
      by_cases isId : oldId = id
      · subst isId
        obtain rfl := Option.some.inj (found.symm.trans storedFound)
        simp [unowned] at owner
      · exact lifecycle.ran other old oldId oldLife oldFound ran oldTo
          (elsewhere isId ▸ oldLifeFound)
  · intro handler request other line call otherFound
    rw [attachment.handlers] at otherFound
    obtain ⟨holder, requestValid, otherLife, otherLifeFound, rest⟩ :=
      lifecycle.initialising handler request other line call otherFound
    have different : other ≠ id := by
      rintro rfl
      exact settled handler request line call otherFound
    exact ⟨attachment.holder ▸ holder, requestValid, otherLife,
      by rw [elsewhere different, otherLifeFound], rest⟩

theorem attachment_attachTask (pipeline : Pipeline) (handler : Handler)
    (listed : state.operations.get? operationId = some id) :
    Attachment id ⟨pipeline, false, .notStarted, some id, false⟩
      (state.setHandler reference handler)
      ((({ state with tasks := state.tasks.alloc ⟨pipeline, false, .notStarted, none, false⟩ } :
        State).attachTask operationId state.tasks.fresh).setHandler reference handler) := by
  have attached : ({ state with
      tasks := state.tasks.alloc ⟨pipeline, false, .notStarted, none, false⟩ } :
      State).attachTask operationId state.tasks.fresh =
      (({ state with
        tasks := state.tasks.alloc ⟨pipeline, false, .notStarted, none, false⟩ } :
        State).modifyRecord id fun record =>
          { record with task := some state.tasks.fresh }).modifyTask state.tasks.fresh
            fun task => { task with attachedTo := some id } := by
    simp [State.attachTask, listed]
  rw [attached]
  refine ⟨rfl, fun other => ?_, rfl, rfl, fun other => ?_⟩
  · simp only [State.setHandler, State.modifyTask, State.modifyRecord, Heap.get?_modify,
      Heap.get?_alloc]
    by_cases new : other = state.tasks.fresh
    · simp [new]
    · simp [new]
  · have changed := State.life_modifyRecord state id other fun record =>
      { record with task := some state.tasks.fresh }
    simp only [State.life, Option.map_map, Function.comp_def] at changed ⊢
    exact changed

theorem sameLife_finishRegistration (state : State) (operationId : String) (id : Nat)
    (line : String) (call : LogCall) :
    state.SameLife (state.finishRegistration operationId id line call) :=
  (State.sameLife_writeLogFile ..).trans (State.sameLife_modifyRecord _ _ _ fun _ => rfl)

/-- The record of a registration under way is queued, in the table and without task. -/
theorem initialising_life {request : Request} {line : String} {call : LogCall}
    (lifecycle : Lifecycle none state)
    (found : state.handlers.get? reference = some (.initialising request id line call)) :
    ∃ life, state.life id = some life ∧ life.operationId = request.operationId ∧
      life.status.active = true ∧ life.task = none ∧
      state.operations.get? request.operationId = some id := by
  obtain ⟨_, _, life, lifeFound, same, queued, unowned⟩ :=
    lifecycle.initialising reference request id line call found
  have active : life.status.active = true := by rw [queued]; rfl
  exact ⟨life, lifeFound, same, active, unowned, same ▸ lifecycle.current id life lifeFound active⟩

theorem launch_attachment {request : Request} {line : String} {call : LogCall}
    (lifecycle : Lifecycle none state)
    (found : state.handlers.get? reference = some (.initialising request id line call)) :
    ∃ reply, Attachment id ⟨request.pipeline, false, .notStarted, some id, false⟩
      (((state.finishRegistration request.operationId id line call).setHolder none).setHandler
        reference (.answered reply))
      (state.launch reference request id line call) := by
  obtain ⟨_, _, _, _, _, listed⟩ := lifecycle.initialising_life found
  rw [← (sameLife_finishRegistration state request.operationId id line call).operations]
    at listed
  exact ⟨_, attachment_attachTask request.pipeline _ listed⟩

theorem launch {request : Request} {line : String} {call : LogCall}
    (lifecycle : Lifecycle none state)
    (found : state.handlers.get? reference = some (.initialising request id line call)) :
    Lifecycle none (state.launch reference request id line call) := by
  obtain ⟨reply, attachment⟩ := lifecycle.launch_attachment found
  obtain ⟨life, lifeFound, same, active, unowned, _⟩ := lifecycle.initialising_life found
  have valid := (lifecycle.initialising reference request id line call found).2.1
  have finished := sameLife_finishRegistration state request.operationId id line call
  have released := (lifecycle.of_sameLife finished).release (finished.handlers ▸ found) reply
  exact released.attach attachment (finished.life ▸ lifeFound) active unowned rfl same valid rfl
    (released.settled_of_free rfl id)

end Lifecycle

end GemEmulation.Api
