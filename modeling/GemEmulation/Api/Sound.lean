import GemEmulation.Api.Advances

/-!
# SUCCEEDED is sound

A pipeline starts its commands in order, each when all before it have exited with
code 0.  So its operation succeeds only after the last one, and a command that
fails or a cancellation is followed by no other command.
-/

namespace GemEmulation.Api

open Foundations Lifecycle

variable {env : Environment} {state middle next : State} {reference id : Nat}
  {operationId : String}

/-- Every subprocess of a task, except perhaps one, has exited with code 0. -/
def Passes (reference : Nat) (except : Option Nat) (processes : Heap Process) : Prop :=
  ∀ pid process, processes.get? pid = some process → process.task = reference →
    except ≠ some pid → process.state = .exited 0

/-- How far a real run of a pipeline has come when it is suspended at a point. -/
def Progress (reference : Nat) (commands : List Command) (processes : Heap Process) :
    Point → Prop
  | .notStarted => Passes reference none processes ∧ attempted reference processes = []
  | .announcing _ (.command command) rest =>
      Passes reference none processes ∧ ∃ later, rest = later.map .command ∧
        commands = attempted reference processes ++ command :: later
  | .spawning _ pid _ rest | .reading _ pid _ rest | .reporting _ pid _ rest _ _
  | .waiting _ pid _ rest =>
      Passes reference (some pid) processes ∧ ∃ later, rest = later.map .command ∧
        commands = attempted reference processes ++ later
  | .succeeding => Passes reference none processes ∧ attempted reference processes = commands
  | .announcing _ (.mock _) _ | .sleeping .. => False
  | .reaping _ | .failing _ | .finished _ => attempted reference processes <+: commands

theorem Progress.isPrefix {commands : List Command} {processes : Heap Process} {point : Point}
    (progress : Progress reference commands processes point) :
    attempted reference processes <+: commands := by
  cases point with
  | notStarted =>
      rw [progress.2]
      exact List.nil_prefix
  | announcing record step rest =>
      cases step with
      | command command =>
          obtain ⟨_, later, _, rfl⟩ := progress
          exact List.prefix_append ..
      | mock simulated => exact progress.elim
  | spawning | reading | reporting | waiting =>
      obtain ⟨_, later, _, rfl⟩ := progress
      exact List.prefix_append ..
  | succeeding => exact progress.2 ▸ List.prefix_refl _
  | sleeping => exact progress.elim
  | reaping | failing | finished => exact progress

theorem Progress.begin {commands later : List Command} {processes : Heap Process}
    (passes : Passes reference none processes)
    (split : commands = attempted reference processes ++ later) :
    Progress reference commands processes (.begin id (later.map .command)) := by
  cases later with
  | nil => exact ⟨passes, by simp [split]⟩
  | cons command later => exact ⟨passes, later, rfl, split⟩

theorem Passes.ages {except : Option Nat} {before after : Heap Process}
    (passes : Passes reference except before) (ages : Ages reference before after) :
    Passes reference except after := by
  intro pid process found own other
  obtain ⟨old, oldFound, sameTask, same | running⟩ := ages.older pid process found own
  · rw [same, passes pid old oldFound (sameTask.symm.trans own) other]
  · simp [passes pid old oldFound (sameTask.symm.trans own) other] at running

theorem Progress.ages {commands : List Command} {before after : Heap Process} {point : Point}
    (progress : Progress reference commands before point) (ages : Ages reference before after) :
    Progress reference commands after point := by
  cases point with
  | announcing record step rest =>
      cases step with
      | command command => exact ⟨progress.1.ages ages, ages.attempted ▸ progress.2⟩
      | mock simulated => exact progress.elim
  | notStarted | spawning | reading | reporting | waiting | succeeding =>
      exact ⟨progress.1.ages ages, ages.attempted ▸ progress.2⟩
  | sleeping => exact progress.elim
  | reaping | failing | finished => exact (congrArg (· <+: commands) ages.attempted).mpr progress

theorem attempted_start (processes : Heap Process) (command : Command) (state : ProcessState) :
    attempted reference (processes.alloc ⟨reference, command, state, []⟩) =
      attempted reference processes ++ [command] := by
  rw [attempted_alloc, if_pos rfl]

theorem Passes.alloc {processes : Heap Process} (passes : Passes reference none processes)
    (process : Process) :
    Passes reference (some processes.fresh) (processes.alloc process) := by
  intro pid other found own different
  rw [Heap.get?_alloc] at found
  split at found
  next same => exact absurd (congrArg some same.symm) different
  next => exact passes pid other found own (by simp)

theorem Moves.progress {disturbed : Prop} {pipeline : Pipeline} {point after : Point}
    {before processes : Heap Process}
    (moves : Moves pipeline false disturbed reference id point before processes after)
    (progress : Progress reference pipeline.commands before point) :
    Progress reference pipeline.commands processes after := by
  cases moves with
  | crash | fail | recordFailure | succeed => exact progress.isPrefix
  | start => exact .begin progress.1 (by rw [progress.2, List.nil_append])
  | spawn _ command rest =>
      obtain ⟨passes, later, same, split⟩ := progress
      exact ⟨passes.alloc _, later, same, by simp [attempted_start, split]⟩
  | refuse _ command rest raised =>
      obtain ⟨passes, later, same, split⟩ := progress
      refine ⟨later, ?_⟩
      simp [attempted_start, split]
  | mock _ _ _ mocks =>
      cases point with
      | announcing record step rest =>
          cases step with
          | command command => contradiction
          | mock simulated => exact progress.elim
      | sleeping => exact progress.elim
      | _ => contradiction
  | connect => exact progress
  | read _ _ _ pid command rest begins ends =>
      have reading : Progress reference pipeline.commands before (.waiting id pid command rest) :=
        by cases begins <;> exact progress
      obtain reads | rfl := ends
      · cases reads <;> exact reading
      · exact reading
  | exit _ pid command rest exited =>
      obtain ⟨passes, later, rfl, split⟩ := progress
      refine .begin (fun other process found own _ => ?_) split
      by_cases last : other = pid
      · subst last
        simpa [found] using exited
      · exact passes other process found own (by simpa using Ne.symm last)

/-- A handler's turn leaves a life alone, or it makes the record active or cancelled. -/
theorem Lifecycle.handlerTurn_status {handler : Handler} {life : Life}
    (lifecycle : Lifecycle none state) (located : state.handlers.get? reference = some handler)
    (turned : state.handlerTurn env reference handler = some next)
    (found : next.life id = some life) :
    state.life id = some life ∨ life.status.active = true ∨ life.status = .cancelled := by
  cases handler with
  | registering request =>
      simp only [State.handlerTurn] at turned
      split at turned
      next =>
        cases turned
        have inserted {new : OperationRecord} (queued : new.status = .queued)
            (lives : ((state.records.alloc new).get? id).map OperationRecord.life = some life) :
            state.life id = some life ∨ life.status.active = true ∨ life.status = .cancelled := by
          rw [Heap.get?_alloc] at lives
          split at lives
          next =>
            cases lives
            exact .inr (.inl (by simp [OperationRecord.life, queued, OperationStatus.active]))
          next => exact .inl lives
        unfold State.register State.beginRegistration at found
        cases conflict :
          (state.leaveQueue (.handler reference)).conflict? request.operationId with
        | some active =>
            rw [conflict] at found
            exact .inl found
        | none =>
            simp only [conflict] at found
            split at found
            next equality =>
              split at equality
              next =>
                cases equality
                exact inserted rfl found
              next => cases equality
            next equality =>
              split at equality
              next => cases equality
              next =>
                cases equality
                exact inserted rfl found
      next => contradiction
  | initialising request queued line call =>
      cases turned
      obtain ⟨queuedLife, queuedFound, _, active, _⟩ := lifecycle.initialising_life located
      obtain ⟨reply, attachment⟩ := lifecycle.launch_attachment located
      have finished := sameLife_finishRegistration state request.operationId queued line call
      have lives : (((state.finishRegistration request.operationId queued line
          call).setHolder none).setHandler reference (.answered reply)).life = state.life :=
        finished.life
      rw [attachment.life, lives] at found
      split at found
      next =>
        rw [queuedFound] at found
        cases found
        exact .inr (.inl active)
      next => exact .inl found
  | cancelling operationId =>
      simp only [State.handlerTurn] at turned
      split at turned
      next =>
        have effect : ∀ life, ((state.leaveQueue (.handler reference)).cancelOperation env
            operationId).1.life id = some life →
            state.life id = some life ∨ life.status.active = true ∨ life.status = .cancelled := by
          intro life cancelled
          obtain ⟨_, _, unchanged | ⟨other, ended, endedFound, goesOn, lives⟩⟩ :=
            cancelOperation_change env operationId (state.leaveQueue (.handler reference))
          · exact .inl (unchanged ▸ cancelled)
          · rw [lives] at cancelled
            split at cancelled
            next =>
              cases cancelled
              exact .inr (.inr rfl)
            next => exact .inl cancelled
        split at turned
        next equality =>
          cases turned
          rw [equality] at effect
          exact effect life found
        next equality =>
          cases turned
          rw [equality] at effect
          exact effect life found
      next => contradiction
  | answered reply => contradiction

/-- An operation succeeds only in a turn of its task that has run all steps. -/
theorem Lifecycle.apiStep_succeeded {event : Event} {life : Life}
    (lifecycle : Lifecycle none state) (logged : CompletionsLogged env state event)
    (stepped : apiStep env state event = some next) (found : next.life id = some life)
    (succeeded : life.status = .succeeded) :
    state.life id = some life ∨ ∃ reference answer task, event = .taskTurn reference answer ∧
      state.tasks.get? reference = some task ∧ task.attachedTo = some id ∧
      task.point = .succeeding := by
  have still (same : state.SameLife next) : state.life id = some life :=
    (congrFun same.life id).symm.trans found
  cases event with
  | tick clock | request request | cancel operationId =>
      cases stepped
      exact .inl found
  | handlerTurn reference =>
      obtain ⟨handler, located, turned⟩ := Option.bind_eq_some_iff.mp stepped
      obtain same | active | cancelled := lifecycle.handlerTurn_status located turned found
      · exact .inl same
      · simp [succeeded, OperationStatus.active] at active
      · simp [succeeded] at cancelled
  | interrupt reference =>
      obtain ⟨handler, _, interrupted⟩ := Option.bind_eq_some_iff.mp stepped
      cases handler <;> cases interrupted <;> exact .inl found
  | taskTurn reference answer =>
      obtain ⟨task, located, turned⟩ := Option.bind_eq_some_iff.mp stepped
      obtain ⟨driven, mid, point, attachedTo, drives, run, rfl⟩ :=
        lifecycle.taskTurn_drives located turned
      rw [(taskChange_suspend reference point mid).life] at found
      have left := sameLife_leaveQueue state (.task reference)
      have driving := drives.of_sameLife left
      by_cases different : id = driven
      · subst different
        refine .inr ⟨reference, answer, task, rfl, located, attachedTo, ?_⟩
        cases early : task.point.completes with
        | false =>
            obtain ⟨_, after⟩ := (turn_works early run).keeps
              ((lifecycle.of_sameLife left).exempt (some reference)) driving
            obtain ⟨active, activeFound, _, isActive⟩ := after.life
            obtain rfl := Option.some.inj (activeFound.symm.trans found)
            simp [succeeded, OperationStatus.active] at isActive
        | true =>
            cases waits : task.point with
            | succeeding => rfl
            | failing raised =>
                cases answer <;> simp only [turn, waits, reduceCtorEq] at run
                rw [recordFailure_eq raised driving.listed] at run
                cases run
                obtain ⟨old, oldFound, _, _⟩ := driving.life
                rw [State.life_updateOperation _ driving.listed, if_pos rfl, oldFound] at found
                cases found
                simp [Life.update, failedChange] at succeeded
            | _ => simp [waits, Point.completes] at early
      · rw [turn_lifeOnly driving.listed run id different] at found
        exact .inl found
  | cancelledTurn reference =>
      obtain ⟨task, _, turned⟩ := Option.bind_eq_some_iff.mp stepped
      exact .inl ((congrFun (taskCancelledTurn_life turned) id).symm.trans found)
  | callback reference =>
      obtain ⟨task, _, ran⟩ := Option.bind_eq_some_iff.mp stepped
      unfold State.runCallback at ran
      split at ran
      next outcome _ =>
        split at ran
        next =>
          cases ran
          obtain ⟨unchanged, _⟩ | ⟨ended, record, endedFound, _, _, same⟩ :=
            finalizeTask_cases env task.pipeline.operationId reference outcome state
          · rw [unchanged] at found
            exact .inl found
          · obtain ⟨_, stored⟩ := State.find?_eq_some.mp endedFound
            have lives : (state.finalizeTask env task.pipeline.operationId reference
                outcome).life id = some life := found
            rw [same.life, (lifeChange_overwrite stored (life_finalizeRecord
              task.pipeline.operationId state.clock outcome record)).life] at lives
            split at lives
            next =>
              obtain ⟨_, _, rfl⟩ := Option.map_eq_some_iff.mp lives
              cases outcome <;> simp [Life.finish, Outcome.status] at succeeded
            next => exact .inl lives
        next => contradiction
      next => contradiction
  | processExit reference returnCode => exact .inl (still (sameLife_exitProcess stepped))
  | forceKill reference => exact .inl (still (sameLife_forceKillProcess stepped))
  | subscribe operationId =>
      obtain ⟨opened, openedFound, resumed⟩ := Option.bind_eq_some_iff.mp stepped
      exact .inl (still ((sameLife_openStream openedFound).trans (sameLife_resumeStream resumed)))
  | pull reference => exact .inl (still (sameLife_resumeStream stepped))
  | closeStream reference => exact .inl (still (sameLife_closeStream stepped))

/-- The life cycle of real runs, with the progress of every pipeline. -/
structure Sound (state : State) : Prop where
  lifecycle : Lifecycle none state
  held : Held state
  requested : ∀ reference task, state.tasks.get? reference = some task →
    ∃ request : Request, task.pipeline = request.pipeline
  started : ∀ pid process, state.processes.get? pid = some process →
    ∃ task, state.tasks.get? process.task = some task
  /-- A task starts a subprocess when those before have exited with code 0. -/
  orderly : ∀ first second earlier later, first < second →
    state.processes.get? first = some earlier → state.processes.get? second = some later →
    earlier.task = later.task → earlier.state = .exited 0
  progress : ∀ reference task, state.tasks.get? reference = some task →
    Progress reference task.pipeline.commands state.processes task.point
  succeeded : ∀ id life, state.life id = some life → life.status = .succeeded →
    ∃ reference task, state.tasks.get? reference = some task ∧ task.attachedTo = some id ∧
      Passes reference none state.processes ∧
      attempted reference state.processes = task.pipeline.commands

theorem sound_initial (clock : String) : Sound (State.initial clock) := by
  refine ⟨lifecycle_initial clock, ?_, ?_, ?_, ?_, ?_, ?_⟩
  all_goals
    intros
    simp_all [State.initial, State.life, Held]

theorem attempted_eq_nil {processes : Heap Process}
    (none : ∀ pid process, processes.get? pid = some process → process.task ≠ reference) :
    attempted reference processes = [] := by
  simp only [attempted, List.map_eq_nil_iff, List.filter_eq_nil_iff, decide_eq_true_eq]
  intro process member
  obtain ⟨pid, found⟩ := List.mem_iff_getElem?.mp member
  exact none pid process found

namespace Sound

variable {event : Event}

theorem apiStep_requested (sound : Sound state) (advance : Advance env state next event)
    (reference : Nat) (task : Task) (located : next.tasks.get? reference = some task) :
    ∃ request : Request, task.pipeline = request.pipeline := by
  cases advance.origin located with
  | @moved _ old _ found _ _ _ _ same | @stopped _ old found _ _ _ same
  | @stays _ old found _ same | @cancelled _ _ _ _ old found _ _ _ _ _ same =>
      rw [same]
      exact sound.requested reference old found
  | @launched _ _ request _ _ same =>
      rw [same]
      exact ⟨request, rfl⟩

theorem apiStep_started (sound : Sound state) (advance : Advance env state next event)
    (pid : Nat) (process : Process) (found : next.processes.get? pid = some process) :
    ∃ task, next.tasks.get? process.task = some task := by
  have located : ∃ task, state.tasks.get? process.task = some task := by
    obtain ⟨old, oldFound, ages⟩ | ⟨task, _, _, _, _, _, _, located, _⟩ := advance.process found
    · exact ages.task ▸ sound.started pid old oldFound
    · exact ⟨task, located⟩
  obtain ⟨task, located⟩ := located
  obtain ⟨after, afterLocated, _⟩ := advance.keepsTask located
  exact ⟨after, afterLocated⟩

theorem apiStep_orderly (sound : Sound state) (advance : Advance env state next event)
    (first second : Nat) (earlier later : Process) (order : first < second)
    (firstFound : next.processes.get? first = some earlier)
    (secondFound : next.processes.get? second = some later)
    (same : earlier.task = later.task) : earlier.state = .exited 0 := by
  obtain ⟨old, oldFound, ages⟩ | ⟨_, _, _, _, _, firstNew, _⟩ := advance.process firstFound
  · have passed : old.state = .exited 0 := by
      obtain ⟨oldLater, laterFound, laterAges⟩ |
        ⟨task, _, command, rest, _, _, _, located, waits⟩ := advance.process secondFound
      · exact sound.orderly first second old oldLater order oldFound laterFound
          (ages.task.symm.trans (same.trans laterAges.task))
      · have progress := sound.progress later.task task located
        rw [waits] at progress
        exact progress.1 first old oldFound (ages.task.symm.trans same) (by simp)
    obtain unchanged | running := ages.state
    · rw [unchanged, passed]
    · simp [passed] at running
  · obtain ⟨oldLater, laterFound, _⟩ | ⟨_, _, _, _, _, secondNew, _⟩ :=
      advance.process secondFound
    · have old := Heap.lt_fresh_of_get? laterFound
      omega
    · omega

theorem apiStep_progress (sound : Sound state) (real : env.mockEnabled = false)
    (advance : Advance env state next event) (reference : Nat) (task : Task)
    (located : next.tasks.get? reference = some task) :
    Progress reference task.pipeline.commands next.processes task.point := by
  cases advance.origin located with
  | @moved _ old _ found _ _ _ moves same =>
      rw [real] at moves
      have moved := moves.progress (sound.progress reference old found)
      rw [same]
      exact moved
  | @stopped _ old found ages _ isOver same =>
      have reached := ((sound.progress reference old found).ages ages).isPrefix
      rw [show task.pipeline = old.pipeline by rw [same]]
      cases point : task.point <;> first | exact reached | simp [point, Point.isStopped] at isOver
  | @stays _ old found ages same | @cancelled _ _ _ _ old found ages _ _ _ _ same =>
      rw [same]
      exact (sound.progress reference old found).ages ages
  | @launched _ _ request new processes same =>
      have foreign : ∀ pid process, next.processes.get? pid = some process →
          process.task ≠ reference := by
        intro pid process found own
        rw [processes] at found
        obtain ⟨owner, ownerFound⟩ := sound.started pid process found
        exact Heap.ne_fresh_of_get? ownerFound (own.trans new)
      rw [same]
      exact ⟨fun pid process found own _ => absurd own (foreign pid process found),
        attempted_eq_nil foreign⟩

theorem ages_of_terminal {task : Task} {life : Life} (sound : Sound state)
    (advance : Advance env state next event) (located : state.tasks.get? reference = some task)
    (attachedTo : task.attachedTo = some id) (found : state.life id = some life)
    (terminal : life.status.terminal = true) :
    Ages reference state.processes next.processes := by
  apply advance.ages
  intro answer other _ command rest _ otherLocated able _
  obtain rfl := Option.some.inj (located.symm.trans otherLocated)
  have active := sound.lifecycle.able reference task id life (by simp) located able attachedTo found
  simp [OperationStatus.terminal_eq_not_active, active] at terminal

/-- A task starts nothing more when one of its commands has not exited with code 0. -/
theorem ages_of_process {pid : Nat} {process : Process} (sound : Sound state)
    (advance : Advance env state next event) (found : state.processes.get? pid = some process)
    (own : process.task = reference) (failed : process.state ≠ .exited 0) :
    Ages reference state.processes next.processes := by
  apply advance.ages
  intro answer task _ command rest _ located _ waits
  have progress := sound.progress reference task located
  rw [waits] at progress
  exact failed (progress.1 pid process found own (by simp))

theorem apiStep_succeeded (sound : Sound state) (advance : Advance env state next event)
    (logged : CompletionsLogged env state event)
    (stepped : apiStep env state event = some next) (id : Nat) (life : Life)
    (found : next.life id = some life) (succeeded : life.status = .succeeded) :
    ∃ reference task, next.tasks.get? reference = some task ∧ task.attachedTo = some id ∧
      Passes reference none next.processes ∧
      attempted reference next.processes = task.pipeline.commands := by
  have reached : ∃ reference task, state.tasks.get? reference = some task ∧
      task.attachedTo = some id ∧ Passes reference none state.processes ∧
      attempted reference state.processes = task.pipeline.commands ∧
      Ages reference state.processes next.processes := by
    obtain unchanged | ⟨reference, answer, task, turned, located, attachedTo, waits⟩ :=
      sound.lifecycle.apiStep_succeeded logged stepped found succeeded
    · obtain ⟨reference, task, located, attachedTo, passes, all⟩ :=
        sound.succeeded id life unchanged succeeded
      have terminal : life.status.terminal = true := by rw [succeeded]; rfl
      exact ⟨reference, task, located, attachedTo, passes, all,
        sound.ages_of_terminal advance located attachedTo unchanged terminal⟩
    · have progress := sound.progress reference task located
      rw [waits] at progress
      refine ⟨reference, task, located, attachedTo, progress.1, progress.2, ?_⟩
      apply advance.ages
      intro _ other _ _ _ _ otherLocated _ starts
      obtain rfl := Option.some.inj (located.symm.trans otherLocated)
      simp [waits] at starts
  obtain ⟨reference, task, located, attachedTo, passes, all, ages⟩ := reached
  obtain ⟨after, afterLocated, sameRecord, samePipeline⟩ := advance.keepsTask located
  exact ⟨reference, after, afterLocated, sameRecord.trans attachedTo, passes.ages ages,
    ages.attempted.trans (samePipeline ▸ all)⟩

theorem step (sound : Sound state) (real : env.mockEnabled = false)
    (logged : CompletionsLogged env state event)
    (stepped : apiStep env state event = some next) : Sound next := by
  have advance := apiStep_advance sound.lifecycle sound.held logged stepped
  exact ⟨apiStep_lifecycle sound.lifecycle logged stepped, advance.held sound.held,
    sound.apiStep_requested advance, sound.apiStep_started advance,
    sound.apiStep_orderly advance, sound.apiStep_progress real advance,
    sound.apiStep_succeeded advance logged stepped⟩

end Sound

def ProcessState.fails : ProcessState → Bool
  | .unspawned => true
  | .running => false
  | .exited returnCode => decide (returnCode ≠ 0)

/-- The operation of a task is over, or one of its commands has failed. -/
def Barred (reference : Nat) (state : State) : Prop :=
  (∃ task id life, state.tasks.get? reference = some task ∧ task.attachedTo = some id ∧
    state.life id = some life ∧ life.status.terminal = true) ∨
  ∃ pid process, state.processes.get? pid = some process ∧ process.task = reference ∧
    process.state.fails = true

theorem Sound.barred {event : Event} (sound : Sound state)
    (advance : Advance env state next event) (stepped : apiStep env state event = some next)
    (barred : Barred reference state) :
    Barred reference next ∧ Ages reference state.processes next.processes := by
  obtain ⟨task, id, life, located, attachedTo, found, terminal⟩ |
    ⟨pid, process, found, own, fails⟩ := barred
  · obtain ⟨after, afterLocated, same, _⟩ := advance.keepsTask located
    exact ⟨.inl ⟨after, id, life, afterLocated, same.trans attachedTo,
      sound.lifecycle.apiStep_life stepped found terminal, terminal⟩,
      sound.ages_of_terminal advance located attachedTo found terminal⟩
  · obtain ⟨after, afterFound, ages⟩ := advance.keepsProcess found
    refine ⟨.inr ⟨pid, after, afterFound, ages.task.trans own, ?_⟩,
      sound.ages_of_process advance found own fun passed => ?_⟩
    · obtain same | running := ages.state
      · rw [same, fails]
      · simp [running, ProcessState.fails] at fails
    · simp [passed, ProcessState.fails] at fails

/-- A task that starts nothing more, with the commands that it has attempted. -/
def Halted (reference : Nat) (commands : List Command) (state : State) : Prop :=
  Sound state ∧ Barred reference state ∧ attempted reference state.processes = commands

/-- In every run without file-system errors and mocks an operation that has succeeded has
started all commands of its pipeline and each of them has exited with code 0; at any time
a task has started the first commands of its pipeline in order, each after those before
had exited with code 0; and it starts nothing more once one of its commands has failed or
its operation is over. -/
theorem succeeded_sound (maxLogBufferLines : Nat) (clock : String) {events : List Event}
    {state : State}
    (run : Run (apiStep (.working false maxLogBufferLines)) Anything (State.initial clock)
      events state) :
    (∀ id record, state.records.get? id = some record → record.status = .succeeded →
      ∃ reference task, record.task = some reference ∧
        state.tasks.get? reference = some task ∧
        (∃ request : Request, task.pipeline = request.pipeline) ∧
        attempted reference state.processes = task.pipeline.commands ∧
        ∀ pid process, state.processes.get? pid = some process → process.task = reference →
          process.state = .exited 0) ∧
    (∀ reference task, state.tasks.get? reference = some task →
      attempted reference state.processes <+: task.pipeline.commands ∧
      ∀ first second earlier later, first < second →
        state.processes.get? first = some earlier → state.processes.get? second = some later →
        earlier.task = reference → later.task = reference → earlier.state = .exited 0) ∧
    ∀ laterEvents later reference task id record,
      Run (apiStep (.working false maxLogBufferLines)) Anything state laterEvents later →
      state.tasks.get? reference = some task → task.attachedTo = some id →
      state.records.get? id = some record →
      (record.status = .cancelled ∨ ∃ pid process, state.processes.get? pid = some process ∧
        process.task = reference ∧ process.state.fails = true) →
      attempted reference later.processes = attempted reference state.processes := by
  have sound : Sound state := run.invariant (sound_initial clock) fun sound _ stepped =>
    sound.step rfl (completionsLogged_working ..) stepped
  refine ⟨?_, ?_, ?_⟩
  · intro id record stored succeeded
    have found := State.life_of_record stored
    obtain ⟨reference, task, located, attachedTo, passes, all⟩ :=
      sound.succeeded id _ found succeeded
    obtain ⟨_, other, life, otherTo, lifeFound, owner, _⟩ :=
      sound.lifecycle.attached reference task located
    obtain rfl := Option.some.inj (attachedTo.symm.trans otherTo)
    obtain rfl := Option.some.inj (found.symm.trans lifeFound)
    exact ⟨reference, task, owner, located, sound.requested reference task located, all,
      fun pid process found own => passes pid process found own (by simp)⟩
  · intro reference task located
    exact ⟨(sound.progress reference task located).isPrefix,
      fun first second earlier later order firstFound secondFound own laterOwn =>
        sound.orderly first second earlier later order firstFound secondFound
          (own.trans laterOwn.symm)⟩
  · intro laterEvents later reference task id record laterRun located attachedTo stored isOver
    have barred : Barred reference state := by
      obtain cancelled | failed := isOver
      · exact .inl ⟨task, id, _, located, attachedTo, State.life_of_record stored,
          by simp [OperationRecord.life, cancelled, OperationStatus.terminal]⟩
      · exact .inr failed
    have halted : Halted reference (attempted reference state.processes) later := by
      apply laterRun.invariant ⟨sound, barred, rfl⟩
      rintro before after event ⟨holds, stays, same⟩ _ stepped
      have logged := completionsLogged_working false maxLogBufferLines before event
      have advance := apiStep_advance holds.lifecycle holds.held logged stepped
      obtain ⟨nextStays, ages⟩ := holds.barred advance stepped stays
      exact ⟨holds.step rfl logged stepped, nextStays, ages.attempted.trans same⟩
    exact halted.2.2

/-- The events of a teardown of the workstation whose commands exit with these codes. -/
def teardownEvents (first second : Int) : List Event :=
  [.request workstationTeardown, .handlerTurn 0, .handlerTurn 0, .taskTurn 0 .started,
    .taskTurn 0 .resumed, .taskTurn 0 .resumed, .taskTurn 0 (.endOfOutput none),
    .processExit 0 first, .taskTurn 0 .resumed, .taskTurn 0 .resumed, .taskTurn 0 .resumed,
    .taskTurn 0 (.endOfOutput none), .processExit 1 second, .taskTurn 0 .resumed,
    .taskTurn 0 .resumed]

theorem succeeded_sound_teardown :
    ∃ state, Run (apiStep (.working false 10)) Anything (.initial "") (teardownEvents 0 0)
        state ∧
      ∃ record, state.records.get? 0 = some record ∧ record.status = .succeeded ∧
        ∃ reference task, record.task = some reference ∧
          state.tasks.get? reference = some task ∧
          attempted reference state.processes = task.pipeline.commands := by
  have check : ((execute (apiStep (.working false 10)) (.initial "")
      (teardownEvents 0 0)).bind fun state => state.records.get? 0).any (fun record =>
        decide (record.status = .succeeded)) = true := by
    decide
  obtain ⟨record, stored, ended⟩ := (Option.any_eq_true _ _).mp check
  obtain ⟨state, executed, stored⟩ := Option.bind_eq_some_iff.mp stored
  have succeeded : record.status = .succeeded := of_decide_eq_true ended
  have run := run_of_execute executed
  obtain ⟨reference, task, owner, located, _, all, _⟩ :=
    (succeeded_sound 10 "" run).1 0 record stored succeeded
  exact ⟨state, run, record, stored, succeeded, reference, task, owner, located, all⟩

end GemEmulation.Api
