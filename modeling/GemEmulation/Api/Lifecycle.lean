import GemEmulation.Api.Activity

/-!
# The life cycle of operations

The invariant that links the table of operations, the records, the tasks and the
handlers.  Between two turns it holds as it stands; within a turn the task that
is running is exempt from the condition on tasks that may still go on.
-/

namespace GemEmulation.Api

open Foundations

def Task.able (task : Task) : Bool := !task.cancelRequested && !task.point.isFinished

structure Lifecycle (running : Option Nat) (state : State) : Prop where
  listed : ∀ operationId id, state.operations.get? operationId = some id →
    ∃ life, state.life id = some life ∧ life.operationId = operationId
  target : ∀ id life, state.life id = some life → life.targetResource = life.operationId
  /-- Active records are in the table. -/
  current : ∀ id life, state.life id = some life → life.status.active = true →
    state.operations.get? life.operationId = some id
  completed : ∀ id life, state.life id = some life → life.completed = life.status.terminal
  attached : ∀ reference task, state.tasks.get? reference = some task →
    validOperationId task.pipeline.operationId = true ∧
    ∃ id life, task.attachedTo = some id ∧ state.life id = some life ∧
      life.task = some reference ∧ life.operationId = task.pipeline.operationId
  owned : ∀ id life reference, state.life id = some life → life.task = some reference →
    ∃ task, state.tasks.get? reference = some task ∧ task.attachedTo = some id
  /-- A task that may go on has an active record. -/
  able : ∀ reference task id life, running ≠ some reference →
    state.tasks.get? reference = some task → task.able = true →
    task.attachedTo = some id → state.life id = some life → life.status.active = true
  ran : ∀ reference task id life, state.tasks.get? reference = some task →
    task.callbackRan = true → task.attachedTo = some id → state.life id = some life →
    life.status.terminal = true
  /-- A handler in the midst of a registration holds the lock, its record is queued. -/
  initialising : ∀ handler request id line call,
    state.handlers.get? handler = some (.initialising request id line call) →
    state.lock.holder = some handler ∧ validOperationId request.operationId = true ∧
    ∃ life, state.life id = some life ∧ life.operationId = request.operationId ∧
      life.status = .queued ∧ life.task = none

namespace Lifecycle

variable {running : Option Nat} {state next : State}

theorem of_sameLife (lifecycle : Lifecycle running state) (same : state.SameLife next) :
    Lifecycle running next where
  listed := by simpa only [same.operations, same.life] using lifecycle.listed
  target := by simpa only [same.life] using lifecycle.target
  current := by simpa only [same.operations, same.life] using lifecycle.current
  completed := by simpa only [same.life] using lifecycle.completed
  attached := by simpa only [same.tasks, same.life] using lifecycle.attached
  owned := by simpa only [same.tasks, same.life] using lifecycle.owned
  able := by simpa only [same.tasks, same.life] using lifecycle.able
  ran := by simpa only [same.tasks, same.life] using lifecycle.ran
  initialising := by
    simpa only [same.handlers, same.holder, same.life] using lifecycle.initialising

theorem exempt (lifecycle : Lifecycle none state) (running : Option Nat) :
    Lifecycle running state :=
  { lifecycle with
    able := fun reference task id life _ => lifecycle.able reference task id life (by simp) }

/-- Only the life of one record has changed. -/
structure LifeChange (id : Nat) (change : Life → Life) (state next : State) : Prop where
  operations : next.operations = state.operations
  tasks : next.tasks = state.tasks
  handlers : next.handlers = state.handlers
  holder : next.lock.holder = state.lock.holder
  life : ∀ other, next.life other =
    if other = id then (state.life id).map change else state.life other

/-- The life of a record after a change: it is another record's or it has changed. -/
theorem LifeChange.cases {id : Nat} {change : Life → Life}
    (changed : LifeChange id change state next) {other : Nat} {life : Life}
    (found : next.life other = some life) :
    (other ≠ id ∧ state.life other = some life) ∨
      (other = id ∧ ∃ old, state.life id = some old ∧ change old = life) := by
  rw [changed.life] at found
  split at found
  next same =>
    obtain ⟨old, oldFound, equality⟩ := Option.map_eq_some_iff.mp found
    exact .inr ⟨same, old, oldFound, equality⟩
  next different => exact .inl ⟨different, found⟩

/-- A change keeps the invariant that leaves ids and task alone, does not revive a
terminal record, and ends a record only when no other task may go on with it. -/
theorem changeLife (lifecycle : Lifecycle running state) {id : Nat} {change : Life → Life}
    (changed : LifeChange id change state next)
    (keeps : ∀ life, (change life).operationId = life.operationId ∧
      (change life).targetResource = life.targetResource ∧ (change life).task = life.task)
    (lasting : ∀ life, state.life id = some life →
      (change life).status.active = true → life.status.active = true)
    (completed : ∀ life, state.life id = some life →
      (change life).completed = (change life).status.terminal)
    (retired : ∀ life reference task, state.life id = some life →
      life.task = some reference → running ≠ some reference →
      state.tasks.get? reference = some task → task.able = true →
      (change life).status.active = true)
    (settled : ∀ handler request line call,
      state.handlers.get? handler ≠ some (.initialising request id line call)) :
    Lifecycle running next where
  listed operationId other found := by
    rw [changed.operations] at found
    obtain ⟨life, lifeFound, equality⟩ := lifecycle.listed operationId other found
    rw [changed.life]
    split
    next same => exact ⟨change life, by simp [← same, lifeFound], (keeps life).1 ▸ equality⟩
    next => exact ⟨life, lifeFound, equality⟩
  target other life found := by
    obtain ⟨_, old⟩ | ⟨_, old, oldFound, rfl⟩ := changed.cases found
    · exact lifecycle.target other life old
    · rw [(keeps old).1, (keeps old).2.1, lifecycle.target id old oldFound]
  current other life found active := by
    rw [changed.operations]
    obtain ⟨_, old⟩ | ⟨rfl, old, oldFound, rfl⟩ := changed.cases found
    · exact lifecycle.current other life old active
    · rw [(keeps old).1]
      exact lifecycle.current other old oldFound (lasting old oldFound active)
  completed other life found := by
    obtain ⟨_, old⟩ | ⟨_, old, oldFound, rfl⟩ := changed.cases found
    · exact lifecycle.completed other life old
    · exact completed old oldFound
  attached reference task found := by
    rw [changed.tasks] at found
    obtain ⟨valid, other, life, attachedTo, lifeFound, owner, equality⟩ :=
      lifecycle.attached reference task found
    refine ⟨valid, other, ?_⟩
    rw [changed.life]
    split
    next same =>
      subst same
      exact ⟨change life, attachedTo, by simp [lifeFound], (keeps life).2.2 ▸ owner,
        (keeps life).1 ▸ equality⟩
    next => exact ⟨life, attachedTo, lifeFound, owner, equality⟩
  owned other life reference found owner := by
    rw [changed.tasks]
    obtain ⟨_, old⟩ | ⟨rfl, old, oldFound, rfl⟩ := changed.cases found
    · exact lifecycle.owned other life reference old owner
    · exact lifecycle.owned other old reference oldFound ((keeps old).2.2 ▸ owner)
  able reference task other life exempted found able attachedTo lifeFound := by
    rw [changed.tasks] at found
    obtain ⟨_, old⟩ | ⟨rfl, old, oldFound, rfl⟩ := changed.cases lifeFound
    · exact lifecycle.able reference task other life exempted found able attachedTo old
    · obtain ⟨_, owned, _, attachedTo', oldFound', owner, _⟩ :=
        lifecycle.attached reference task found
      obtain rfl := Option.some.inj (attachedTo.symm.trans attachedTo')
      obtain rfl := Option.some.inj (oldFound.symm.trans oldFound')
      exact retired old reference task oldFound owner exempted found able
  ran reference task other life found ran attachedTo lifeFound := by
    rw [changed.tasks] at found
    obtain ⟨_, old⟩ | ⟨rfl, old, oldFound, rfl⟩ := changed.cases lifeFound
    · exact lifecycle.ran reference task other life found ran attachedTo old
    · have isOver := lifecycle.ran reference task other old found ran attachedTo oldFound
      rw [OperationStatus.terminal_eq_not_active] at isOver ⊢
      cases revived : (change old).status.active with
      | false => rfl
      | true => simp [lasting old oldFound revived] at isOver
  initialising handler request other line call found := by
    rw [changed.handlers] at found
    obtain ⟨holder, valid, life, lifeFound, rest⟩ :=
      lifecycle.initialising handler request other line call found
    have different : other ≠ id := by
      rintro rfl
      exact settled handler request line call found
    exact ⟨changed.holder ▸ holder, valid, life,
      by rw [changed.life, if_neg different, lifeFound], rest⟩

theorem settled_of_task (lifecycle : Lifecycle running state) {id reference : Nat} {life : Life}
    (found : state.life id = some life) (owner : life.task = some reference)
    (handler : Nat) (request : Request) (line : String) (call : LogCall) :
    state.handlers.get? handler ≠ some (.initialising request id line call) := by
  intro initialising
  obtain ⟨_, _, other, otherFound, _, _, unowned⟩ :=
    lifecycle.initialising handler request id line call initialising
  obtain rfl := Option.some.inj (found.symm.trans otherFound)
  simp [owner] at unowned

theorem task_unique (lifecycle : Lifecycle running state) {first second id : Nat}
    {firstTask secondTask : Task} (firstFound : state.tasks.get? first = some firstTask)
    (secondFound : state.tasks.get? second = some secondTask)
    (firstTo : firstTask.attachedTo = some id) (secondTo : secondTask.attachedTo = some id) :
    first = second := by
  obtain ⟨_, firstId, firstLife, firstTo', firstLifeFound, firstOwner, _⟩ :=
    lifecycle.attached first firstTask firstFound
  obtain ⟨_, secondId, secondLife, secondTo', secondLifeFound, secondOwner, _⟩ :=
    lifecycle.attached second secondTask secondFound
  obtain rfl := Option.some.inj (firstTo.symm.trans firstTo')
  obtain rfl := Option.some.inj (secondTo.symm.trans secondTo')
  obtain rfl := Option.some.inj (firstLifeFound.symm.trans secondLifeFound)
  exact Option.some.inj (firstOwner.symm.trans secondOwner)

theorem settled_of_free (lifecycle : Lifecycle running state)
    (free : state.lock.holder = none) (id : Nat)
    (handler : Nat) (request : Request) (line : String) (call : LogCall) :
    state.handlers.get? handler ≠ some (.initialising request id line call) := by
  intro initialising
  have held := (lifecycle.initialising handler request id line call initialising).1
  simp [free] at held

structure TaskChange (reference : Nat) (change : Task → Task) (state next : State) :
    Prop where
  operations : next.operations = state.operations
  tasks : next.tasks = state.tasks.modify reference change
  handlers : next.handlers = state.handlers
  holder : next.lock.holder = state.lock.holder
  life : next.life = state.life

/-- A change of a task keeps the invariant that keeps its pipeline and attachment, lets
it go on only with an active record, and runs its callback only when that is terminal. -/
theorem changeTask (lifecycle : Lifecycle running state) {reference : Nat}
    {change : Task → Task} {still : Option Nat}
    (changed : TaskChange reference change state next)
    (keeps : ∀ task, (change task).pipeline = task.pipeline ∧
      (change task).attachedTo = task.attachedTo)
    (others : ∀ other, still ≠ some other → other ≠ reference → running ≠ some other)
    (able : ∀ task id life, state.tasks.get? reference = some task →
      task.attachedTo = some id → state.life id = some life → still ≠ some reference →
      (change task).able = true → life.status.active = true)
    (ran : ∀ task id life, state.tasks.get? reference = some task →
      task.attachedTo = some id → state.life id = some life →
      (change task).callbackRan = true → life.status.terminal = true) :
    Lifecycle still next where
  listed := by simpa only [changed.operations, changed.life] using lifecycle.listed
  target := by simpa only [changed.life] using lifecycle.target
  current := by simpa only [changed.operations, changed.life] using lifecycle.current
  completed := by simpa only [changed.life] using lifecycle.completed
  attached other task found := by
    rw [changed.tasks, Heap.get?_modify] at found
    rw [changed.life]
    split at found
    next same =>
      subst same
      obtain ⟨old, oldFound, rfl⟩ := Option.map_eq_some_iff.mp found
      rw [(keeps old).1, (keeps old).2]
      exact lifecycle.attached other old oldFound
    next => exact lifecycle.attached other task found
  owned id life other found owner := by
    rw [changed.life] at found
    obtain ⟨task, taskFound, attachedTo⟩ := lifecycle.owned id life other found owner
    rw [changed.tasks, Heap.get?_modify]
    split
    next same =>
      subst same
      exact ⟨change task, by simp [taskFound], (keeps task).2 ▸ attachedTo⟩
    next => exact ⟨task, taskFound, attachedTo⟩
  able other task id life exempted found mayGoOn attachedTo lifeFound := by
    rw [changed.life] at lifeFound
    rw [changed.tasks, Heap.get?_modify] at found
    split at found
    next same =>
      subst same
      obtain ⟨old, oldFound, rfl⟩ := Option.map_eq_some_iff.mp found
      exact able old id life oldFound ((keeps old).2 ▸ attachedTo) lifeFound exempted mayGoOn
    next different =>
      exact lifecycle.able other task id life (others other exempted different) found mayGoOn
        attachedTo lifeFound
  ran other task id life found hasRun attachedTo lifeFound := by
    rw [changed.life] at lifeFound
    rw [changed.tasks, Heap.get?_modify] at found
    split at found
    next same =>
      subst same
      obtain ⟨old, oldFound, rfl⟩ := Option.map_eq_some_iff.mp found
      exact ran old id life oldFound ((keeps old).2 ▸ attachedTo) lifeFound hasRun
    next => exact lifecycle.ran other task id life found hasRun attachedTo lifeFound
  initialising := by
    simpa only [changed.handlers, changed.holder, changed.life] using lifecycle.initialising

end Lifecycle

end GemEmulation.Api
