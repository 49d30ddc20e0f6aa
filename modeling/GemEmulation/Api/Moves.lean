import GemEmulation.Api.Attended

/-!
# The moves of a pipeline

What a turn of a task that drives its record does to the subprocesses and to the
task's point.  The record is active, so no step is skipped and every failure is
recorded.
-/

namespace GemEmulation.Api

open Foundations

variable {env : Environment} {state middle next : State} {reference id : Nat}
  {operationId : String} {pipeline : Pipeline}

namespace Point

def begin (id : Nat) : List Step → Point
  | [] => .succeeding
  | step :: rest => .announcing id step rest

def record? : Point → Option Nat
  | announcing record _ _ | spawning record _ _ _ | reading record _ _ _
  | reporting record _ _ _ _ _ | waiting record _ _ _ | sleeping record _ _ => some record
  | _ => none

def process? : Point → Option Nat
  | spawning _ process _ _ | reading _ process _ _ | reporting _ process _ _ _ _
  | waiting _ process _ _ => some process
  | _ => none

def mocks : Point → Bool
  | announcing _ (.mock _) _ | sleeping .. => true
  | _ => false

inductive Reads (id process : Nat) (command : Command) (rest : List Step) : Point → Prop where
  | reading : Reads id process command rest (reading id process command rest)
  | reporting (message : String) (lines : List OutputLine) :
      Reads id process command rest (reporting id process command rest message lines)

end Point

def LogsFail (env : Environment) : Prop := ∃ call, (env.logCall call).findsPath = false

def Disturbed (env : Environment) (answer : Answer) : Prop :=
  (∃ raised, answer = .readFailed raised) ∨ LogsFail env

/-- The moves of a pipeline that drives a record: the subprocesses and the point, before
and after. -/
inductive Moves (pipeline : Pipeline) (mockEnabled : Bool) (disturbed : Prop)
    (reference id : Nat) : Point → Heap Process → Heap Process → Point → Prop where
  | crash (processes : Heap Process) (raised : Raised) :
      Moves pipeline mockEnabled disturbed reference id .notStarted processes processes
        (.finished (.raised raised))
  | start (processes : Heap Process) :
      Moves pipeline mockEnabled disturbed reference id .notStarted processes processes
        (.begin id (pipeline.steps mockEnabled))
  | fail (point : Point) (processes : Heap Process) (raised : Raised) :
      point.completes = false →
      (¬ disturbed → ∀ process, point.process? = some process →
        (processes.get? process).map Process.state ≠ some .running) →
      Moves pipeline mockEnabled disturbed reference id point processes processes
        (.failing raised)
  | spawn (processes : Heap Process) (command : Command) (rest : List Step) :
      Moves pipeline mockEnabled disturbed reference id
        (.announcing id (.command command) rest) processes
        (processes.alloc ⟨reference, command, .running, []⟩)
        (.spawning id processes.fresh command rest)
  | refuse (processes : Heap Process) (command : Command) (rest : List Step)
      (raised : Raised) :
      Moves pipeline mockEnabled disturbed reference id
        (.announcing id (.command command) rest) processes
        (processes.alloc ⟨reference, command, .unspawned, []⟩) (.failing raised)
  | mock (point after : Point) (processes : Heap Process) :
      point.mocks = true →
      (∀ record, after.record? = some record → record = id) →
      Moves pipeline mockEnabled disturbed reference id point processes processes after
  | connect (processes : Heap Process) (process : Nat) (command : Command)
      (rest : List Step) :
      Moves pipeline mockEnabled disturbed reference id (.spawning id process command rest)
        processes processes (.reading id process command rest)
  | read (before after : Point) (processes : Heap Process) (process : Nat)
      (command : Command) (rest : List Step) :
      before.Reads id process command rest →
      after.Reads id process command rest ∨ after = .waiting id process command rest →
      Moves pipeline mockEnabled disturbed reference id before processes processes after
  | exit (processes : Heap Process) (process : Nat) (command : Command)
      (rest : List Step) :
      (processes.get? process).map Process.state = some (.exited 0) →
      Moves pipeline mockEnabled disturbed reference id (.waiting id process command rest)
        processes processes (.begin id rest)
  | succeed (processes : Heap Process) :
      Moves pipeline mockEnabled disturbed reference id .succeeding processes processes
        (.finished .returned)
  | recordFailure (processes : Heap Process) (raised : Raised) :
      Moves pipeline mockEnabled disturbed reference id (.failing raised) processes processes
        (.finished .returned)

theorem Drives.skips (drives : Drives reference id operationId state) :
    state.skips operationId = false := by
  obtain ⟨life, found, _, active⟩ := drives.life
  obtain ⟨record, stored, rfl⟩ := Option.map_eq_some_iff.mp found
  have located : state.find? operationId = some (id, record) :=
    State.find?_eq_some.mpr ⟨drives.listed, stored⟩
  have running : record.status ≠ .cancelled := by
    intro cancelled
    have contradictory : record.status.active = true := active
    simp [cancelled, OperationStatus.active] at contradictory
  simp [State.skips, located, running]

theorem Drives.failPipeline (drives : Drives reference id pipeline.operationId state)
    (raised : Raised) : failPipeline pipeline raised state = .failing raised := by
  simp [Api.failPipeline, drives.skips]

theorem Drives.runSteps (drives : Drives reference id pipeline.operationId state)
    (steps : List Step) : runSteps pipeline state steps = .begin id steps := by
  cases steps with
  | nil => simp [Api.runSteps, finalizePipeline, drives.skips, Point.begin]
  | cons step rest =>
      obtain ⟨life, found, _, active⟩ := drives.life
      obtain ⟨record, stored, rfl⟩ := Option.map_eq_some_iff.mp found
      have located : state.find? pipeline.operationId = some (id, record) :=
        State.find?_eq_some.mpr ⟨drives.listed, stored⟩
      have running : record.status ≠ .cancelled := by
        intro cancelled
        have contradictory : record.status.active = true := active
        simp [cancelled, OperationStatus.active] at contradictory
      simp [Api.runSteps, located, running, Point.begin]

theorem Drives.status (drives : Drives reference id operationId state) :
    (state.records.get? id).map OperationRecord.status ≠ some .cancelled := by
  obtain ⟨life, found, _, active⟩ := drives.life
  obtain ⟨record, stored, rfl⟩ := Option.map_eq_some_iff.mp found
  rw [stored]
  intro cancelled
  have same : record.life.status = .cancelled := Option.some.inj cancelled
  simp [same, OperationStatus.active] at active

theorem begin_record? (id : Nat) (steps : List Step) (record : Nat)
    (held : (Point.begin id steps).record? = some record) : record = id := by
  cases steps with
  | nil => simp [Point.begin, Point.record?] at held
  | cons step rest => exact (Option.some.inj held).symm

theorem publish_processes (state : State) (id : Nat) (item : Option String) :
    (state.publish id item).processes = state.processes := by
  unfold State.publish
  split <;> rfl

theorem appendLog_processes (env : Environment) (state : State) (operationId line : String) :
    (state.appendLog env operationId line).1.processes = state.processes := by
  simp only [State.appendLog]
  split
  next => rfl
  next =>
    split
    next => rfl
    next =>
      split
      next => rfl
      next =>
        rw [publish_processes]
        unfold State.writeLogFile
        split <;> rfl

theorem updateOperation_processes (state : State) (operationId : String) (change : Change) :
    (state.updateOperation operationId change).1.processes = state.processes := by
  unfold State.updateOperation
  split
  next => rfl
  next =>
    dsimp only
    split
    next => rw [publish_processes]; rfl
    next => rfl

theorem logsFail_of_raises {line : String} {raised : Raised}
    (valid : validOperationId operationId = true)
    (raises : (state.appendLog env operationId line).2 = some raised) : LogsFail env := by
  by_contra works
  have found : (env.logCall state.logCalls).findsPath = true := by
    simpa using fun lost => works ⟨state.logCalls, lost⟩
  simp [appendLog_raises_nothing valid found line] at raises

def Fails (state : State) (result : State × Point) : Prop :=
  result.1.processes = state.processes ∧ ∃ raised, result.2 = .failing raised

theorem Drives.commandFailed (drives : Drives reference id pipeline.operationId state)
    (env : Environment) (raised : Raised) :
    Fails state (commandFailed env pipeline id raised state) := by
  unfold Api.commandFailed
  rw [if_neg drives.status]
  have same := State.sameLife_appendLog env state pipeline.operationId
    s!"Execution exception: {raised.text}"
  exact ⟨appendLog_processes .., _, (drives.of_sameLife same).failPipeline _⟩

theorem Drives.appendLog (drives : Drives reference id operationId state) (env : Environment)
    (line : String) :
    Drives reference id operationId (state.appendLog env operationId line).1 :=
  drives.of_sameLife (State.sameLife_appendLog env state operationId line)

theorem Drives.mockLogs (drives : Drives reference id pipeline.operationId state)
    (env : Environment) (rest : List Step) (logs : List String) :
    (mockLogs env pipeline id rest logs state).1.processes = state.processes ∧
      ∀ record, (mockLogs env pipeline id rest logs state).2.record? = some record →
        record = id := by
  unfold Api.mockLogs
  cases logs with
  | nil =>
      rw [drives.runSteps]
      exact ⟨rfl, begin_record? id rest⟩
  | cons log logs =>
      dsimp only
      rw [if_neg drives.status]
      have unchanged := appendLog_processes env state pipeline.operationId log
      have driving := drives.appendLog env log
      generalize state.appendLog env pipeline.operationId log = outcome at unchanged driving ⊢
      obtain ⟨logged, _ | raised⟩ := outcome
      · exact ⟨unchanged, fun record held => (Option.some.inj held).symm⟩
      · refine ⟨unchanged, fun record held => ?_⟩
        dsimp only at held
        rw [driving.failPipeline] at held
        contradiction

/-- A command fails with an exception that depends on how a line could be logged. -/
theorem Drives.logFailed (drives : Drives reference id pipeline.operationId state)
    (env : Environment) (line : String) (raised : Option Raised → Raised) :
    Fails state (Api.commandFailed env pipeline id
      (raised (state.appendLog env pipeline.operationId line).2)
      (state.appendLog env pipeline.operationId line).1) := by
  obtain ⟨same, ends⟩ := (drives.appendLog env line).commandFailed env
    (raised (state.appendLog env pipeline.operationId line).2)
  exact ⟨same.trans (appendLog_processes ..), ends⟩

abbrev MovesTo (env : Environment) (pipeline : Pipeline) (answer : Answer)
    (reference id : Nat) (point : Point) (state : State) (result : State × Point) : Prop :=
  Moves pipeline env.mockEnabled (Disturbed env answer) reference id point state.processes
    result.1.processes result.2

theorem Fails.moves {answer : Answer} {point : Point} {result : State × Point}
    (fails : Fails state result) (early : point.completes = false)
    (harmless : ¬ Disturbed env answer → ∀ process, point.process? = some process →
      (state.processes.get? process).map Process.state ≠ some .running) :
    MovesTo env pipeline answer reference id point state result := by
  obtain ⟨unchanged, raised, failing⟩ := fails
  rw [MovesTo, unchanged, failing]
  exact .fail point state.processes raised early harmless

theorem Drives.announceStep (drives : Drives reference id pipeline.operationId state)
    (answer : Answer) (step : Step) (rest : List Step) (spawnError : Option Raised) :
    MovesTo env pipeline answer reference id (.announcing id step rest) state
      (announceStep env pipeline reference id step rest spawnError state) := by
  have unchanged := updateOperation_processes state pipeline.operationId (runningChange step)
  have driving := drives.updateOperation (runningChange step) (.inr rfl)
  have silent := State.updateOperation_listed (runningChange step) drives.listed
  unfold Api.announceStep
  generalize state.updateOperation pipeline.operationId (runningChange step) = outcome
    at unchanged driving silent ⊢
  obtain ⟨announced, raised⟩ := outcome
  obtain rfl : raised = none := congrArg Prod.snd silent
  dsimp only at unchanged driving ⊢
  cases step with
  | mock simulated =>
      obtain ⟨same, holds⟩ := driving.mockLogs env rest simulated.sampleLogs
      rw [MovesTo, same, unchanged]
      exact .mock _ _ _ rfl holds
  | command command =>
      dsimp only
      have loggedSame := appendLog_processes env announced pipeline.operationId
        (runningLine command.line)
      have loggedDriving := driving.appendLog env (runningLine command.line)
      generalize announced.appendLog env pipeline.operationId (runningLine command.line) = outcome
        at loggedSame loggedDriving ⊢
      obtain ⟨logged, _ | raised⟩ := outcome
      · dsimp only at loggedSame loggedDriving ⊢
        cases spawnError with
        | none =>
            rw [unchanged] at loggedSame
            rw [MovesTo, spawn, loggedSame]
            exact .spawn state.processes command rest
        | some raised =>
            have refused : logged.SameLife (refuseSpawn reference command logged) :=
              ⟨⟨rfl, rfl, rfl, rfl, rfl⟩, rfl⟩
            obtain ⟨same, second, failing⟩ :=
              (loggedDriving.of_sameLife refused).commandFailed env raised
            rw [unchanged] at loggedSame
            dsimp only
            rw [MovesTo, same, failing, refuseSpawn, loggedSame]
            exact .refuse state.processes command rest second
      · have fails : Fails state (logged, Api.failPipeline pipeline raised logged) :=
          ⟨loggedSame.trans unchanged, raised, loggedDriving.failPipeline raised⟩
        exact fails.moves rfl fun _ _ busy => by simp [Point.process?] at busy

/-- Output is read up to a message, to its end, or to a line that cannot be logged. -/
theorem Drives.readOutput (env : Environment) (process : Nat) (command : Command) (rest : List Step)
    (valid : validOperationId pipeline.operationId = true) (lines : List OutputLine)
    (drives : Drives reference id pipeline.operationId state) :
    ((readOutput env pipeline id process command rest lines state).1.processes =
        state.processes ∧
      (readOutput env pipeline id process command rest lines state).2.Reads id process command
        rest) ∨
    (LogsFail env ∧
      Fails state (readOutput env pipeline id process command rest lines state)) := by
  induction lines generalizing state with
  | nil => exact .inl ⟨rfl, .reading⟩
  | cons line lines inductionHypothesis =>
      unfold Api.readOutput
      split
      next => exact inductionHypothesis drives
      next =>
        have unchanged := appendLog_processes env state pipeline.operationId line.text
        have driving := drives.appendLog env line.text
        have fails (raised : Raised) :
            (state.appendLog env pipeline.operationId line.text).2 = some raised → LogsFail env :=
          logsFail_of_raises valid
        generalize state.appendLog env pipeline.operationId line.text = outcome
          at unchanged driving fails ⊢
        obtain ⟨logged, _ | raised⟩ := outcome
        · dsimp only at unchanged driving ⊢
          split
          next message _ => exact .inl ⟨unchanged, .reporting message lines⟩
          next =>
            obtain ⟨same, reads⟩ | ⟨failing, same, ends⟩ := inductionHypothesis driving
            · exact .inl ⟨same.trans unchanged, reads⟩
            · exact .inr ⟨failing, same.trans unchanged, ends⟩
        · obtain ⟨same, ends⟩ := driving.commandFailed env raised
          exact .inr ⟨fails raised rfl, same.trans unchanged, ends⟩

theorem Drives.endOutput (env : Environment) (process : Nat) (command : Command) (rest : List Step)
    (valid : validOperationId pipeline.operationId = true) (remainder : Option String)
    (drives : Drives reference id pipeline.operationId state) :
    ((endOutput env pipeline id process command rest remainder state).1.processes =
        state.processes ∧
      (endOutput env pipeline id process command rest remainder state).2 =
        .waiting id process command rest) ∨
    (LogsFail env ∧
      Fails state (endOutput env pipeline id process command rest remainder state)) := by
  unfold Api.endOutput
  cases remainder with
  | none => exact .inl ⟨rfl, rfl⟩
  | some text =>
      dsimp only
      have unchanged := appendLog_processes env state pipeline.operationId text
      have driving := drives.appendLog env text
      have fails (raised : Raised) :
          (state.appendLog env pipeline.operationId text).2 = some raised → LogsFail env :=
        logsFail_of_raises valid
      generalize state.appendLog env pipeline.operationId text = outcome
        at unchanged driving fails ⊢
      obtain ⟨logged, _ | raised⟩ := outcome
      · exact .inl ⟨unchanged, rfl⟩
      · obtain ⟨same, ends⟩ := driving.commandFailed env raised
        exact .inr ⟨fails raised rfl, same.trans unchanged, ends⟩

theorem Drives.commandExited (env : Environment) (command : Command) (rest : List Step)
    (returnCode : Int)
    (drives : Drives reference id pipeline.operationId state) :
    (returnCode = 0 ∧ commandExited env pipeline id command rest returnCode state =
      (state, .begin id rest)) ∨
    Fails state (commandExited env pipeline id command rest returnCode state) := by
  unfold Api.commandExited
  rw [if_neg drives.status]
  by_cases failed : returnCode ≠ 0
  · rw [if_pos failed]
    exact .inr (drives.logFailed env _ fun second => second.getD _)
  · rw [if_neg failed, drives.runSteps]
    exact .inl ⟨by simpa using failed, rfl⟩

theorem Drives.reportProgress (drives : Drives reference id pipeline.operationId state)
    (process : Nat) (command : Command) (rest : List Step)
    (valid : validOperationId pipeline.operationId = true) (message : String)
    (lines : List OutputLine) :
    ((reportProgress env pipeline id process command rest message lines state).1.processes =
        state.processes ∧
      (reportProgress env pipeline id process command rest message lines state).2.Reads id
        process command rest) ∨
    (LogsFail env ∧
      Fails state (reportProgress env pipeline id process command rest message lines state)) := by
  let change : Change := { message := some message }
  have unchanged := updateOperation_processes state pipeline.operationId change
  have driving := drives.updateOperation change (.inl rfl)
  have silent := State.updateOperation_listed change drives.listed
  unfold Api.reportProgress
  generalize state.updateOperation pipeline.operationId change = outcome
    at unchanged driving silent ⊢
  obtain ⟨updated, raised⟩ := outcome
  obtain rfl : raised = none := congrArg Prod.snd silent
  obtain ⟨same, reads⟩ | ⟨failing, same, ends⟩ :=
    Drives.readOutput env process command rest valid lines driving
  · exact .inl ⟨same.trans unchanged, reads⟩
  · exact .inr ⟨failing, same.trans unchanged, ends⟩

/-- Every turn of a task that drives its record is one of the moves. -/
theorem turn_moves {task : Task} {answer : Answer} {point : Point}
    (drives : Drives reference id task.pipeline.operationId state)
    (valid : validOperationId task.pipeline.operationId = true)
    (holds : ∀ record, task.point.record? = some record → record = id)
    (logged : CompletionLogged env state task)
    (turned : turn env reference task answer state = some (next, point)) :
    Moves task.pipeline env.mockEnabled (Disturbed env answer) reference id task.point
      state.processes next.processes point := by
  have moves {result : State × Point} (equality : some result = some (next, point))
      (moved : MovesTo env task.pipeline answer reference id task.point state result) :
      Moves task.pipeline env.mockEnabled (Disturbed env answer) reference id task.point
        state.processes next.processes point := by
    cases equality
    exact moved
  have disturbs {process : Nat} {command : Command} {rest : List Step}
      {result : State × Point} (before : task.point.Reads id process command rest)
      (ends : (result.1.processes = state.processes ∧
          (result.2.Reads id process command rest ∨ result.2 = .waiting id process command rest)) ∨
        (LogsFail env ∧ Fails state result)) :
      MovesTo env task.pipeline answer reference id task.point state result := by
    obtain ⟨same, reads⟩ | ⟨failing, fails⟩ := ends
    · rw [MovesTo, same]
      exact .read _ _ _ process command rest before reads
    · have early : task.point.completes = false := by
        generalize task.point = before at before
        cases before <;> rfl
      exact fails.moves early fun calm => absurd (.inr failing) calm
  unfold turn at turned
  split at turned
  next waits =>
    apply moves turned
    rw [waits]
    exact .crash _ _
  next raised waits =>
    split at turned
    next => contradiction
    next =>
      have fails : Fails state (state, failPipeline task.pipeline raised state) :=
        ⟨rfl, raised, drives.failPipeline raised⟩
      refine moves turned (fails.moves (by rw [waits]; rfl) fun _ process busy => ?_)
      simp [waits, Point.process?] at busy
  next waits =>
    apply moves turned
    rw [drives.runSteps]
    rw [waits]
    exact .start _
  next waits =>
    obtain rfl := holds _ (by rw [waits]; rfl)
    apply moves turned
    rw [waits]
    exact drives.announceStep _ _ _ _
  next waits =>
    obtain rfl := holds _ (by rw [waits]; rfl)
    apply moves turned
    rw [waits]
    exact drives.announceStep _ _ _ _
  next waits =>
    obtain rfl := holds _ (by rw [waits]; rfl)
    apply moves turned
    rw [waits]
    exact .connect _ _ _ _
  next process command rest _ waits =>
    have before : task.point.Reads id process command rest := by
      rw [waits, ← holds _ (by rw [waits]; rfl)]
      exact .reading
    obtain rfl := holds _ (by rw [waits]; rfl)
    refine moves turned (disturbs before ?_)
    exact (Drives.readOutput env _ _ _ valid _ drives).imp_left fun ends => ⟨ends.1, .inl ends.2⟩
  next process command rest _ waits =>
    have before : task.point.Reads id process command rest := by
      rw [waits, ← holds _ (by rw [waits]; rfl)]
      exact .reading
    obtain rfl := holds _ (by rw [waits]; rfl)
    refine moves turned (disturbs before ?_)
    exact (Drives.endOutput env _ _ _ valid _ drives).imp_left fun ends => ⟨ends.1, .inr ends.2⟩
  next raised waits =>
    obtain rfl := holds _ (by rw [waits]; rfl)
    refine moves turned ((drives.commandFailed env raised).moves (by rw [waits]; rfl) ?_)
    exact fun calm => absurd (.inl ⟨raised, rfl⟩) calm
  next process command rest message lines waits =>
    have before : task.point.Reads id process command rest := by
      rw [waits, ← holds _ (by rw [waits]; rfl)]
      exact .reporting message lines
    obtain rfl := holds _ (by rw [waits]; rfl)
    refine moves turned (disturbs before ?_)
    exact (drives.reportProgress _ _ _ valid message lines).imp_left
      fun ends => ⟨ends.1, .inl ends.2⟩
  next process command rest waits =>
    obtain rfl := holds _ (by rw [waits]; rfl)
    obtain ⟨returnCode, exited, equality⟩ := Option.map_eq_some_iff.mp turned
    apply moves (congrArg some equality)
    have isOver : (state.processes.get? process).map Process.state = some (.exited returnCode) := by
      unfold State.returnCode? at exited
      split at exited
      next found =>
        cases exited
        exact found
      next => contradiction
    obtain ⟨rfl, ends⟩ | fails := drives.commandExited env command rest returnCode
    · rw [ends, waits]
      exact .exit _ _ _ _ isOver
    · apply fails.moves (by rw [waits]; rfl)
      intro _ other busy
      obtain rfl : process = other := by simpa [waits, Point.process?] using busy
      simp [isOver]
  next waits =>
    obtain rfl := holds _ (by rw [waits]; rfl)
    apply moves turned
    obtain ⟨same, held⟩ := drives.mockLogs env _ _
    rw [MovesTo, same, waits]
    exact .mock _ _ _ rfl held
  next waits =>
    apply moves turned
    rw [succeedPipeline_eq drives.listed fun line => ⟨valid, logged waits line⟩]
    have same : _ = state.processes := updateOperation_processes state task.pipeline.operationId
      (succeededChange task.pipeline)
    rw [waits, MovesTo]
    dsimp only
    split
    next =>
      rw [appendLog_processes, same]
      exact .succeed _
    next =>
      rw [same]
      exact .succeed _
  next raised waits =>
    apply moves turned
    rw [recordFailure_eq raised drives.listed]
    rw [waits, MovesTo]
    dsimp only
    rw [updateOperation_processes]
    exact .recordFailure _ raised
  next => contradiction

end GemEmulation.Api
