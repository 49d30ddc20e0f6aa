import GemEmulation.Api.Moves

/-!
# What a step does to tasks and subprocesses

Every step of the API moves one task, stops a cancelled one, launches a new one,
cancels one, or leaves all of them where they are.  Apart from the moves, the
subprocesses only get signals and exit.
-/

namespace GemEmulation.Api

open Foundations Lifecycle

variable {env : Environment} {state middle next : State} {reference id : Nat}
  {operationId : String}

/-- The commands for which a task has called `create_subprocess_exec`, in this order. -/
def attempted (reference : Nat) (processes : Heap Process) : List Command :=
  (processes.cells.filter fun process => process.task = reference).map Process.command

theorem attempted_alloc (reference : Nat) (processes : Heap Process) (process : Process) :
    attempted reference (processes.alloc process) =
      if process.task = reference then attempted reference processes ++ [process.command]
      else attempted reference processes := by
  by_cases own : process.task = reference <;> simp [attempted, Heap.alloc, own]

/-- A change that leaves tasks and commands alone leaves the attempts alone. -/
theorem attempted_modify (reference pid : Nat) (processes : Heap Process)
    (change : Process → Process)
    (keeps : ∀ process, (change process).task = process.task ∧
      (change process).command = process.command) :
    attempted reference (processes.modify pid change) = attempted reference processes := by
  obtain ⟨cells⟩ := processes
  simp only [attempted, Heap.modify]
  induction cells generalizing pid with
  | nil => simp
  | cons process cells inductionHypothesis =>
      cases pid with
      | zero =>
          by_cases own : process.task = reference <;> simp [List.modify, own, keeps]
      | succ pid =>
          have rest := inductionHypothesis pid
          by_cases own : process.task = reference <;> simp [own, rest]

/-- A subprocess was there with another state at most if it was running. -/
structure Process.Ages (old process : Process) : Prop where
  task : process.task = old.task
  state : process.state = old.state ∨ old.state = .running

/-- Nothing happened to the subprocesses of a task but signals and exits. -/
structure Ages (reference : Nat) (before after : Heap Process) : Prop where
  attempted : attempted reference after = attempted reference before
  older : ∀ pid process, after.get? pid = some process → process.task = reference →
    ∃ old, before.get? pid = some old ∧ old.Ages process
  newer : ∀ pid old, before.get? pid = some old → old.task = reference →
    ∃ process, after.get? pid = some process ∧ old.Ages process

/-- Nothing happened to the subprocesses of any task but signals and exits. -/
def Aged (before after : Heap Process) : Prop := ∀ reference, Ages reference before after

theorem Aged.refl (processes : Heap Process) : Aged processes processes := fun _ =>
  ⟨rfl, fun _ process found _ => ⟨process, found, rfl, .inl rfl⟩,
    fun _ process found _ => ⟨process, found, rfl, .inl rfl⟩⟩

theorem Aged.of_eq {before after : Heap Process} (same : after = before) : Aged before after :=
  same ▸ .refl before

theorem Aged.modify (processes : Heap Process) (pid : Nat) (change : Process → Process)
    (keeps : ∀ process, (change process).task = process.task ∧
      (change process).command = process.command)
    (ages : ∀ process, processes.get? pid = some process →
      (change process).state = process.state ∨ process.state = .running) :
    Aged processes (processes.modify pid change) := by
  intro reference
  refine ⟨attempted_modify reference pid processes change keeps, ?_, ?_⟩
  · intro other process found _
    rw [Heap.get?_modify] at found
    split at found
    next same =>
      subst same
      obtain ⟨old, oldFound, rfl⟩ := Option.map_eq_some_iff.mp found
      exact ⟨old, oldFound, (keeps old).1, ages old oldFound⟩
    next => exact ⟨process, found, rfl, .inl rfl⟩
  · intro other old found _
    rw [Heap.get?_modify]
    split
    next same =>
      subst same
      exact ⟨change old, by rw [found, Option.map_some], (keeps old).1, ages old found⟩
    next => exact ⟨old, found, rfl, .inl rfl⟩

theorem Ages.alloc {processes : Heap Process} {process : Process}
    (foreign : process.task ≠ reference) :
    Ages reference processes (processes.alloc process) where
  attempted := by rw [attempted_alloc, if_neg foreign]
  older pid other found own := by
    rw [Heap.get?_alloc] at found
    split at found
    next =>
      cases found
      exact absurd own foreign
    next => exact ⟨other, found, rfl, .inl rfl⟩
  newer pid old found _ := ⟨old, Heap.get?_alloc_of_get? process found, rfl, .inl rfl⟩

/-- A move of a pipeline leaves the subprocesses alone, or tries to start its next command. -/
theorem Moves.processes {mockEnabled : Bool} {disturbed : Prop} {pipeline : Pipeline}
    {point after : Point} {before processes : Heap Process}
    (moves : Moves pipeline mockEnabled disturbed reference id point before processes after) :
    processes = before ∨ ∃ command rest state,
      point = .announcing id (.command command) rest ∧
      processes = before.alloc ⟨reference, command, state, []⟩ := by
  cases moves with
  | spawn _ command rest => exact .inr ⟨command, rest, _, rfl, rfl⟩
  | refuse _ command rest => exact .inr ⟨command, rest, _, rfl, rfl⟩
  | _ => exact .inl rfl

/-- A move of another pipeline does nothing to the subprocesses of a task. -/
theorem Moves.ages {mockEnabled : Bool} {disturbed : Prop} {pipeline : Pipeline} {mover : Nat}
    {point after : Point} {before processes : Heap Process}
    (moves : Moves pipeline mockEnabled disturbed mover id point before processes after)
    (foreign : mover ≠ reference) : Ages reference before processes := by
  obtain unchanged | ⟨command, rest, started, _, allocated⟩ := moves.processes
  · exact Aged.of_eq unchanged reference
  · rw [allocated]
    exact .alloc foreign

theorem suspend_processes (reference : Nat) (point : Point) (state : State) :
    (state.suspend reference point).processes = state.processes := by
  unfold State.suspend
  dsimp only
  split <;> rfl

theorem register_processes (env : Environment) (reference : Nat) (request : Request)
    (state : State) : (state.register env reference request).processes = state.processes := by
  unfold State.register State.beginRegistration
  cases state.conflict? request.operationId with
  | some active => rfl
  | none =>
      dsimp only
      cases getLogFilePath request.operationId (env.logCall state.logCalls) with
      | some raised => rfl
      | none => rfl

theorem register_tasks (env : Environment) (reference : Nat) (request : Request)
    (state : State) : (state.register env reference request).tasks = state.tasks := by
  unfold State.register State.beginRegistration
  cases state.conflict? request.operationId with
  | some active => rfl
  | none =>
      dsimp only
      cases getLogFilePath request.operationId (env.logCall state.logCalls) with
      | some raised => rfl
      | none => rfl

theorem attachTask_processes (operationId : String) (task : Nat) (state : State) :
    (state.attachTask operationId task).processes = state.processes := by
  unfold State.attachTask
  split <;> rfl

theorem launch_processes (reference : Nat) (request : Request) (id : Nat) (line : String)
    (call : LogCall) (state : State) :
    (state.launch reference request id line call).processes = state.processes := by
  apply (attachTask_processes ..).trans
  unfold State.finishRegistration State.writeLogFile
  split <;> rfl

theorem terminateProcess_aged (process : Option Nat) (state : State) :
    Aged state.processes (state.terminateProcess process).processes := by
  unfold State.terminateProcess
  split
  next => exact .refl state.processes
  next pid =>
    split
    next => exact .modify _ pid _ (fun _ => ⟨rfl, rfl⟩) fun _ _ => .inl rfl
    next => exact .refl state.processes

theorem cancelTask_processes (task : Option Nat) (state : State) :
    (state.cancelTask task).processes = state.processes := by
  cases task <;> rfl

theorem cancelOperation_aged (env : Environment) (operationId : String) (state : State) :
    Aged state.processes (state.cancelOperation env operationId).1.processes := by
  unfold State.cancelOperation
  split
  next => exact .refl state.processes
  next id record _ =>
    split
    next => exact .refl state.processes
    next =>
      dsimp only
      have stopped := terminateProcess_aged record.process
        (state.modifyRecord id fun _ => cancelRecord operationId state.clock record)
      have logged := appendLog_processes env
        (((state.modifyRecord id fun _ =>
          cancelRecord operationId state.clock record).terminateProcess
            record.process).cancelTask record.task)
        operationId s!"[{state.clock}] Operation cancelled by user request."
      rw [cancelTask_processes] at logged
      split
      next equality =>
        rw [equality] at logged
        exact logged ▸ stopped
      next equality =>
        rw [equality] at logged
        rw [publish_processes, logged]
        exact stopped

theorem finalizeTask_processes (env : Environment) (operationId : String) (reference : Nat)
    (outcome : Outcome) (state : State) :
    (state.finalizeTask env operationId reference outcome).processes = state.processes := by
  unfold State.finalizeTask
  split
  next => rfl
  next id record _ =>
    split
    next => rfl
    next =>
      dsimp only
      have logged := appendLog_processes env
        (state.modifyRecord id fun _ => finalizeRecord operationId outcome state.clock record)
        operationId ((finalizeRecord operationId outcome state.clock record).message.getD "")
      split
      next equality =>
        rw [equality] at logged
        exact logged
      next equality =>
        rw [equality] at logged
        rw [publish_processes, logged]
        rfl

theorem cancelledTurn_aged {task : Task} {point : Point}
    (turned : cancelledTurn task state = some (next, point)) :
    Aged state.processes next.processes := by
  unfold cancelledTurn at turned
  split at turned
  next =>
    cases turned
    exact .modify _ _ _ (fun _ => ⟨rfl, rfl⟩) fun _ _ => .inl rfl
  next =>
    obtain ⟨_, _, equality⟩ := Option.map_eq_some_iff.mp turned
    cases equality
    exact .refl _
  next => contradiction
  next =>
    cases turned
    exact .refl _

theorem exitProcess_aged {returnCode : Int}
    (exited : state.exitProcess reference returnCode = some next) :
    Aged state.processes next.processes := by
  obtain ⟨process, found, exited⟩ := Option.bind_eq_some_iff.mp exited
  split at exited
  next running =>
    cases exited
    refine .modify _ _ _ (fun _ => ⟨rfl, rfl⟩) fun other otherFound => .inr ?_
    obtain rfl := Option.some.inj (found.symm.trans otherFound)
    exact running
  next => contradiction

theorem forceKillProcess_aged (killed : state.forceKillProcess reference = some next) :
    Aged state.processes next.processes := by
  unfold State.forceKillProcess at killed
  split at killed
  next =>
    dsimp only at killed
    split at killed
    next =>
      cases killed
      exact .modify _ _ _ (fun _ => ⟨rfl, rfl⟩) fun _ _ => .inl rfl
    next =>
      cases killed
      exact .refl _
  next => contradiction

theorem openStream_processes (opened : state.openStream operationId = some next) :
    next.processes = state.processes := by
  obtain ⟨_, _, rfl⟩ := Option.map_eq_some_iff.mp opened
  rfl

theorem resumeStream_processes (resumed : state.resumeStream reference = some next) :
    next.processes = state.processes := by
  obtain ⟨stream, _, resumed⟩ := Option.bind_eq_some_iff.mp resumed
  obtain ⟨record, _, rfl⟩ := Option.map_eq_some_iff.mp resumed
  dsimp only
  split <;> rfl

theorem closeStream_processes (closed : state.closeStream reference = some next) :
    next.processes = state.processes := by
  obtain ⟨_, _, rfl⟩ := Option.map_eq_some_iff.mp closed
  rfl

/-- A suspended pipeline holds the record that its task is attached to. -/
def Held (state : State) : Prop :=
  ∀ reference task record, state.tasks.get? reference = some task →
    task.point.record? = some record → task.attachedTo = some record

def Point.isStopped : Point → Bool
  | reaping _ | finished _ => true
  | _ => false

inductive Advance (env : Environment) (state next : State) : Event → Prop where
  | moved {reference id : Nat} {task : Task} {answer : Answer} {point : Point} :
      state.tasks.get? reference = some task →
      task.attachedTo = some id →
      task.able = true →
      Drives reference id task.pipeline.operationId state →
      Moves task.pipeline env.mockEnabled (Disturbed env answer) reference id task.point
        state.processes next.processes point →
      next.tasks = state.tasks.modify reference (fun task => { task with point }) →
      Advance env state next (.taskTurn reference answer)
  | stopped {reference : Nat} {task : Task} {point : Point} :
      state.tasks.get? reference = some task →
      task.cancelRequested = true →
      point.isStopped = true →
      Aged state.processes next.processes →
      next.tasks = state.tasks.modify reference (fun task => { task with point }) →
      Advance env state next (.cancelledTurn reference)
  | launched {handler id : Nat} {request : Request} {line : String} {call : LogCall} :
      state.handlers.get? handler = some (.initialising request id line call) →
      next.processes = state.processes →
      (∀ other, next.tasks.get? other = if other = state.tasks.fresh then
        some ⟨request.pipeline, false, .notStarted, some id, false⟩
        else state.tasks.get? other) →
      Advance env state next (.handlerTurn handler)
  | cancelled {handler id : Nat} {operationId : String} {record : OperationRecord} :
      state.handlers.get? handler = some (.cancelling operationId) →
      state.find? operationId = some (id, record) →
      record.status.terminal = false →
      Aged state.processes next.processes →
      next.tasks = (state.cancelTask record.task).tasks →
      Advance env state next (.handlerTurn handler)
  | closed {reference : Nat} :
      next.processes = state.processes →
      next.tasks = state.tasks.modify reference (fun task => { task with callbackRan := true }) →
      Advance env state next (.callback reference)
  | idle {event : Event} :
      Aged state.processes next.processes →
      next.tasks = state.tasks →
      Advance env state next event

theorem taskTurn_able {task : Task} {answer : Answer}
    (turned : state.taskTurn env reference task answer = some next) : task.able = true := by
  unfold State.taskTurn at turned
  split at turned
  next => contradiction
  next uncancelled =>
    split at turned
    next => contradiction
    next =>
      obtain ⟨_, run, _⟩ := Option.map_eq_some_iff.mp turned
      cases isOver : task.point.isFinished with
      | false => simp [Task.able, isOver, uncancelled]
      | true => simp [turn_finished isOver] at run

theorem cancelledTurn_isStopped {task : Task} {point : Point}
    (turned : cancelledTurn task state = some (next, point)) : point.isStopped = true := by
  unfold cancelledTurn at turned
  split at turned
  next =>
    cases turned
    rfl
  next =>
    obtain ⟨_, _, equality⟩ := Option.map_eq_some_iff.mp turned
    cases equality
    rfl
  next => contradiction
  next =>
    cases turned
    rfl

theorem handlerTurn_advance {handler : Handler} (lifecycle : Lifecycle none state)
    (located : state.handlers.get? reference = some handler)
    (turned : state.handlerTurn env reference handler = some next) :
    Advance env state next (.handlerTurn reference) := by
  cases handler with
  | registering request =>
      simp only [State.handlerTurn] at turned
      split at turned
      next =>
        cases turned
        exact .idle (.of_eq (register_processes ..)) (register_tasks ..)
      next => contradiction
  | initialising request id line call =>
      cases turned
      obtain ⟨reply, attachment⟩ := lifecycle.launch_attachment located
      have finished := sameLife_finishRegistration state request.operationId id line call
      refine .launched located (launch_processes ..) fun other => ?_
      rw [attachment.tasks]
      exact finished.tasks ▸ rfl
  | cancelling operationId =>
      simp only [State.handlerTurn] at turned
      split at turned
      next =>
        have aged := cancelOperation_aged env operationId (state.leaveQueue (.handler reference))
        have effect := cancelOperation_cases env operationId
          (state.leaveQueue (.handler reference))
        have settled {mid : State} {answer : Handler}
            (equality : ((state.leaveQueue (.handler reference)).cancelOperation env
              operationId).1 = mid) :
            Advance env state (mid.setHandler reference answer) (.handlerTurn reference) := by
          subst equality
          obtain ⟨unchanged, _⟩ | ⟨id, record, found, goesOn, same⟩ := effect
          · have same : ((state.leaveQueue (.handler reference)).cancelOperation env
                operationId).1.tasks = state.tasks := by
              rw [unchanged]
              rfl
            exact .idle aged same
          · have stopped := (sameLife_terminateProcess record.process
              ((state.leaveQueue (.handler reference)).modifyRecord id fun _ =>
                cancelRecord operationId state.clock record)).tasks
            refine .cancelled located found goesOn aged (same.tasks.trans ?_)
            cases owner : record.task with
            | none => exact stopped
            | some task => exact congrArg (Heap.modify · task _) stopped
        split at turned
        next equality =>
          cases turned
          exact settled (congrArg Prod.fst equality)
        next equality =>
          cases turned
          exact settled (congrArg Prod.fst equality)
      next => contradiction
  | answered reply => contradiction

/-- The steps of the API, seen by its tasks and subprocesses. -/
theorem apiStep_advance {event : Event} (lifecycle : Lifecycle none state) (held : Held state)
    (logged : CompletionsLogged env state event)
    (stepped : apiStep env state event = some next) : Advance env state next event := by
  cases event with
  | tick clock | request request | cancel operationId =>
      cases stepped
      exact .idle (.refl _) rfl
  | handlerTurn reference =>
      obtain ⟨handler, located, turned⟩ := Option.bind_eq_some_iff.mp stepped
      exact handlerTurn_advance lifecycle located turned
  | interrupt reference =>
      obtain ⟨handler, _, interrupted⟩ := Option.bind_eq_some_iff.mp stepped
      cases handler <;> cases interrupted <;> exact .idle (.refl _) rfl
  | taskTurn reference answer =>
      obtain ⟨task, located, turned⟩ := Option.bind_eq_some_iff.mp stepped
      have able := taskTurn_able turned
      obtain ⟨id, mid, point, attachedTo, drives, run, rfl⟩ :=
        lifecycle.taskTurn_drives located turned
      have moves := turn_moves (drives.of_sameLife (sameLife_leaveQueue state _))
        (lifecycle.attached reference task located).1
        (fun record held' => Option.some.inj
          ((held reference task record located held').symm.trans attachedTo))
        (logged task located) run
      have processes := suspend_processes reference point mid
      refine .moved located attachedTo able drives (processes ▸ moves) ?_
      rw [(taskChange_suspend reference point mid).tasks, (turn_sameTable run).tasks]
      rfl
  | cancelledTurn reference =>
      obtain ⟨task, located, turned⟩ := Option.bind_eq_some_iff.mp stepped
      unfold State.taskCancelledTurn at turned
      split at turned
      next cancelled =>
        obtain ⟨⟨mid, point⟩, run, rfl⟩ := Option.map_eq_some_iff.mp turned
        refine .stopped located cancelled (cancelledTurn_isStopped run) ?_ ?_
        · have aged := cancelledTurn_aged run
          rw [suspend_processes]
          exact aged
        · rw [(taskChange_suspend reference point mid).tasks, (cancelledTurn_sameLife run).tasks]
      next => contradiction
  | callback reference =>
      obtain ⟨task, located, ran⟩ := Option.bind_eq_some_iff.mp stepped
      unfold State.runCallback at ran
      split at ran
      next outcome _ =>
        split at ran
        next =>
          cases ran
          refine .closed (finalizeTask_processes ..) ?_
          obtain ⟨unchanged, _⟩ | ⟨_, _, _, _, _, same⟩ :=
            finalizeTask_cases env task.pipeline.operationId reference outcome state
          · rw [unchanged]
            rfl
          · exact congrArg (Heap.modify · reference _) same.tasks
        next => contradiction
      next => contradiction
  | processExit reference returnCode =>
      exact .idle (exitProcess_aged stepped) (sameLife_exitProcess stepped).tasks
  | forceKill reference =>
      exact .idle (forceKillProcess_aged stepped) (sameLife_forceKillProcess stepped).tasks
  | subscribe operationId =>
      obtain ⟨opened, openedFound, resumed⟩ := Option.bind_eq_some_iff.mp stepped
      exact .idle (.of_eq ((resumeStream_processes resumed).trans
        (openStream_processes openedFound)))
        ((sameLife_resumeStream resumed).tasks.trans (sameLife_openStream openedFound).tasks)
  | pull reference =>
      exact .idle (.of_eq (resumeStream_processes stepped)) (sameLife_resumeStream stepped).tasks
  | closeStream reference =>
      exact .idle (.of_eq (closeStream_processes stepped)) (sameLife_closeStream stepped).tasks

theorem Moves.record? {mockEnabled : Bool} {disturbed : Prop} {pipeline : Pipeline}
    {point after : Point} {before processes : Heap Process} {record : Nat}
    (moves : Moves pipeline mockEnabled disturbed reference id point before processes after)
    (held : after.record? = some record) : record = id := by
  cases moves with
  | start => exact begin_record? id _ record held
  | exit => exact begin_record? id _ record held
  | mock _ _ _ _ holds => exact holds record held
  | spawn | connect => exact (Option.some.inj held).symm
  | read _ _ _ _ _ _ _ reads =>
      obtain reads | rfl := reads
      · cases reads <;> exact (Option.some.inj held).symm
      · exact (Option.some.inj held).symm
  | _ => contradiction

inductive Origin (env : Environment) (state next : State) (reference : Nat) (task : Task) :
    Event → Prop where
  | moved {id : Nat} {old : Task} {answer : Answer} :
      state.tasks.get? reference = some old →
      old.attachedTo = some id →
      old.able = true →
      Drives reference id old.pipeline.operationId state →
      Moves old.pipeline env.mockEnabled (Disturbed env answer) reference id old.point
        state.processes next.processes task.point →
      task = { old with point := task.point } →
      Origin env state next reference task (.taskTurn reference answer)
  | stopped {event : Event} {old : Task} :
      state.tasks.get? reference = some old →
      Ages reference state.processes next.processes →
      old.cancelRequested = true →
      task.point.isStopped = true →
      task = { old with point := task.point } →
      Origin env state next reference task event
  | cancelled {handler id : Nat} {operationId : String} {record : OperationRecord}
      {old : Task} :
      state.tasks.get? reference = some old →
      Ages reference state.processes next.processes →
      state.handlers.get? handler = some (.cancelling operationId) →
      state.find? operationId = some (id, record) →
      record.status.terminal = false →
      record.task = some reference →
      task = { old with cancelRequested := task.cancelRequested } →
      Origin env state next reference task (.handlerTurn handler)
  | stays {event : Event} {old : Task} :
      state.tasks.get? reference = some old →
      Ages reference state.processes next.processes →
      task = { old with callbackRan := task.callbackRan } →
      Origin env state next reference task event
  | launched {id : Nat} {event : Event} {request : Request} :
      reference = state.tasks.fresh →
      next.processes = state.processes →
      task = ⟨request.pipeline, false, .notStarted, some id, false⟩ →
      Origin env state next reference task event

theorem Advance.origin {event : Event} {task : Task} (advance : Advance env state next event)
    (located : next.tasks.get? reference = some task) :
    Origin env state next reference task event := by
  cases advance with
  | @moved mover id old answer point found attachedTo able drives moves tasks =>
      rw [tasks, Heap.get?_modify] at located
      split at located
      next same =>
        subst same
        rw [found] at located
        cases located
        exact .moved found attachedTo able drives moves rfl
      next foreign => exact .stays located (moves.ages (Ne.symm foreign)) rfl
  | @stopped stopper old point found cancelled isOver aged tasks =>
      rw [tasks, Heap.get?_modify] at located
      split at located
      next same =>
        subst same
        rw [found] at located
        cases located
        exact .stopped found (aged reference) cancelled isOver rfl
      next => exact .stays located (aged reference) rfl
  | launched _ processes tasks =>
      rw [tasks] at located
      split at located
      next same =>
        cases located
        exact .launched same processes rfl
      next => exact .stays located (Aged.of_eq processes reference) rfl
  | @cancelled handler _ _ record cancelling found goesOn aged tasks =>
      rw [tasks] at located
      cases owner : record.task with
      | none =>
          rw [owner] at located
          exact .stays located (aged reference) rfl
      | some other =>
          simp only [owner, State.cancelTask, State.modifyTask, Heap.get?_modify] at located
          split at located
          next same =>
            subst same
            obtain ⟨old, oldFound, rfl⟩ := Option.map_eq_some_iff.mp located
            exact .cancelled oldFound (aged reference) cancelling found goesOn owner rfl
          next => exact .stays located (aged reference) rfl
  | closed processes tasks =>
      rw [tasks, Heap.get?_modify] at located
      split at located
      next =>
        obtain ⟨old, found, rfl⟩ := Option.map_eq_some_iff.mp located
        exact .stays found (Aged.of_eq processes reference) rfl
      next => exact .stays located (Aged.of_eq processes reference) rfl
  | idle aged tasks =>
      rw [tasks] at located
      exact .stays located (aged reference) rfl

theorem Advance.keepsTask {event : Event} {task : Task} (advance : Advance env state next event)
    (located : state.tasks.get? reference = some task) :
    ∃ after, next.tasks.get? reference = some after ∧ after.attachedTo = task.attachedTo ∧
      after.pipeline = task.pipeline := by
  have modified {heap : Heap Task} {other : Nat} {change : Task → Task}
      (same : heap = state.tasks.modify other change)
      (keeps : ∀ task, (change task).attachedTo = task.attachedTo ∧
        (change task).pipeline = task.pipeline) :
      ∃ after, heap.get? reference = some after ∧ after.attachedTo = task.attachedTo ∧
        after.pipeline = task.pipeline := by
    rw [same, Heap.get?_modify]
    split
    next => exact ⟨change task, by rw [located, Option.map_some], keeps task⟩
    next => exact ⟨task, located, rfl, rfl⟩
  cases advance with
  | moved _ _ _ _ _ tasks => exact modified tasks fun _ => ⟨rfl, rfl⟩
  | stopped _ _ _ _ tasks => exact modified tasks fun _ => ⟨rfl, rfl⟩
  | launched _ _ tasks =>
      exact ⟨task, by rw [tasks, if_neg (Heap.ne_fresh_of_get? located), located], rfl, rfl⟩
  | @cancelled _ _ _ record _ _ _ _ tasks =>
      cases owner : record.task with
      | none => exact ⟨task, by rw [tasks, owner]; exact located, rfl, rfl⟩
      | some other =>
          rw [owner] at tasks
          exact modified tasks fun _ => ⟨rfl, rfl⟩
  | closed _ tasks => exact modified tasks fun _ => ⟨rfl, rfl⟩
  | idle _ tasks => exact ⟨task, by rw [tasks, located], rfl, rfl⟩

theorem Advance.held {event : Event} (advance : Advance env state next event)
    (held : Held state) : Held next := by
  intro reference task record located holds
  cases advance.origin located with
  | moved found attachedTo _ _ moves same =>
      obtain rfl := moves.record? holds
      rw [same]
      exact attachedTo
  | stopped _ _ _ isOver _ =>
      cases point : task.point <;> simp [point, Point.isStopped, Point.record?] at isOver holds
  | @cancelled _ _ _ _ old found _ _ _ _ _ same =>
      rw [same] at holds ⊢
      exact held reference old record found holds
  | @stays _ old found _ same =>
      rw [same] at holds ⊢
      exact held reference old record found holds
  | launched _ _ same =>
      rw [same] at holds
      contradiction

/-- Only its own turns start subprocesses of a task, from where it announces a command. -/
theorem Advance.ages {event : Event} (advance : Advance env state next event)
    (quiet : ∀ answer task id command rest, event = .taskTurn reference answer →
      state.tasks.get? reference = some task → task.able = true →
      task.point ≠ .announcing id (.command command) rest) :
    Ages reference state.processes next.processes := by
  cases advance with
  | @moved mover id task answer point located _ able _ moves =>
      by_cases own : mover = reference
      · subst own
        obtain unchanged | ⟨command, rest, started, waits, _⟩ := moves.processes
        · exact Aged.of_eq unchanged mover
        · exact absurd waits (quiet answer task id command rest rfl located able)
      · exact moves.ages own
  | stopped _ _ _ aged => exact aged reference
  | launched _ same => exact Aged.of_eq same reference
  | cancelled _ _ _ aged => exact aged reference
  | closed same => exact Aged.of_eq same reference
  | idle aged => exact aged reference

/-- A subprocess of the next state is an older one, or its task has just tried to start it. -/
theorem Advance.process {event : Event} {pid : Nat} {process : Process}
    (advance : Advance env state next event) (found : next.processes.get? pid = some process) :
    (∃ old, state.processes.get? pid = some old ∧ old.Ages process) ∨
    ∃ task id command rest answer, pid = state.processes.fresh ∧
      event = .taskTurn process.task answer ∧
      state.tasks.get? process.task = some task ∧
      task.point = .announcing id (.command command) rest := by
  by_cases own : ∃ answer, event = .taskTurn process.task answer
  · obtain ⟨answer, rfl⟩ := own
    cases advance with
    | @moved mover id task answer point located _ _ _ moves =>
        obtain unchanged | ⟨command, rest, started, waits, allocated⟩ := moves.processes
        · rw [unchanged] at found
          exact .inl ⟨process, found, rfl, .inl rfl⟩
        · rw [allocated, Heap.get?_alloc] at found
          split at found
          next same =>
            exact .inr ⟨task, id, command, rest, answer, same, rfl, located, waits⟩
          next => exact .inl ⟨process, found, rfl, .inl rfl⟩
    | idle aged => exact .inl ((aged process.task).older pid process found rfl)
  · have ages : Ages process.task state.processes next.processes :=
      advance.ages fun answer _ _ _ _ equality => absurd ⟨answer, equality⟩ own
    exact .inl (ages.older pid process found rfl)

theorem Advance.keepsProcess {event : Event} {pid : Nat} {process : Process}
    (advance : Advance env state next event) (found : state.processes.get? pid = some process) :
    ∃ after, next.processes.get? pid = some after ∧ process.Ages after := by
  cases advance with
  | moved _ _ _ _ moves =>
      obtain unchanged | ⟨_, _, _, _, allocated⟩ := moves.processes
      · exact ⟨process, by rw [unchanged, found], rfl, .inl rfl⟩
      · exact ⟨process, by rw [allocated, Heap.get?_alloc_of_get? _ found], rfl, .inl rfl⟩
  | stopped _ _ _ aged => exact (aged process.task).newer pid process found rfl
  | launched _ same => exact (Aged.of_eq same process.task).newer pid process found rfl
  | cancelled _ _ _ aged => exact (aged process.task).newer pid process found rfl
  | closed same => exact (Aged.of_eq same process.task).newer pid process found rfl
  | idle aged => exact (aged process.task).newer pid process found rfl

end GemEmulation.Api
