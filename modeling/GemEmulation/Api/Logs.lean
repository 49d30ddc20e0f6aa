import GemEmulation.Api.Manager
import Mathlib.Algebra.GroupWithZero.Nat

/-!
# Reading logs

`get_logs` reads the log file, or the buffer of the record when the file is missing or
cannot be read.  A file is read with universal newlines, so a carriage return or a
newline inside a line that was written ends a line that is read.
-/

namespace GemEmulation.Api

open Foundations

/-- The lines of a text that is read with universal newlines, without their ends, when
`current` has been read of the first one. -/
def universalLines : List Char → List Char → List (List Char)
  | current, [] => if current = [] then [] else [current]
  | current, c :: rest =>
      if c = '\n' then current :: universalLines [] rest
      else if c = '\r' then
        -- A carriage return before a newline ends the line together with it.
        if rest.head? = some '\n' then universalLines current rest
        else current :: universalLines [] rest
      else universalLines (current ++ [c]) rest

def fileText (written : List String) : List Char :=
  written.flatMap fun line => line.toList ++ ['\n']

/-- `[line.rstrip() for line in f]`. -/
def fileLines (written : List String) : List String :=
  (universalLines [] (fileText written)).map fun line => rstrip (.ofList line)

/-- `lines[-tail:]` for a positive tail. -/
def lastLines (tail : Option Int) (lines : List String) : List String :=
  match tail with
  | some count => if 0 < count then lines.rtake count.toNat else lines
  | none => lines

namespace State

/-- `get_logs`, when `call` is what its calls to the file system come to. -/
def getLogs (operationId : String) (tail : Option Int) (call : LogCall) (state : State) :
    Except Raised (List String) :=
  match getLogFilePath operationId call with
  | some raised => .error raised
  | none =>
      let buffered : Except Raised (List String) := match state.find? operationId with
        | none => .error (httpException 404 s!"Logs for operation '{operationId}' not found.")
        | some (_, record) => .ok (lastLines tail record.logBuffer)
      match state.logFiles.get? operationId with
      | none => buffered
      | some written => if call.opens then .ok (lastLines tail (fileLines written)) else buffered

/-- The first pull of `stream_logs`, up to where the generator subscribes. -/
def pullStream (operationId : String) (state : State) : State × Option Raised :=
  match state.openStream operationId with
  | none => (state, some (httpException 404 s!"Operation '{operationId}' not found."))
  | some opened => (opened, none)

end State

/-- All methods but `update_operation` report an id as unknown and leave the state as it is. -/
structure ReportsUnknown (env : Environment) (operationId : String) (call : LogCall)
    (state : State) : Prop where
  cancel : ∃ detail, state.cancelOperation env operationId =
    (state, .error (httpException 404 detail))
  logs : ∀ tail, ∃ detail, state.getLogs operationId tail call = .error (httpException 404 detail)
  stream : ∃ detail, state.pullStream operationId = (state, some (httpException 404 detail))
  append : ∀ logLine, state.appendLog env operationId logLine = (state, none)

def UpdateReportsUnknown (operationId : String) (change : Change) (state : State) : Prop :=
  ∃ detail, state.updateOperation operationId change = (state, some (httpException 404 detail))

/-- The branch of `update_operation` for an unknown id looks the status code up in its own
argument, so it never raises the exception it means to; the other methods do. -/
theorem unknownOperation_reported (env : Environment) {operationId : String} {call : LogCall}
    {state : State} (unknown : state.operations.get? operationId = none)
    (valid : getLogFilePath operationId call = none)
    (noFile : state.logFiles.get? operationId = none) :
    ReportsUnknown env operationId call state ∧ ∀ change,
      (∃ text, state.updateOperation operationId change =
        (state, some ⟨"AttributeError", text⟩)) ∧
        ¬ UpdateReportsUnknown operationId change state := by
  have unlisted : state.find? operationId = none := by rw [State.find?, unknown, Option.bind_none]
  have updated : ∀ change, state.updateOperation operationId change =
      (state, some (unknownOperation change)) := fun change => by
    rw [State.updateOperation, unknown]
  refine ⟨⟨⟨_, by rw [State.cancelOperation, unlisted]⟩,
    fun tail => ⟨s!"Logs for operation '{operationId}' not found.", ?_⟩,
    ⟨_, by rw [State.pullStream, State.openStream, unlisted, Option.map_none]⟩,
    fun logLine => by rw [State.appendLog, unknown]⟩, fun change => ⟨⟨_, updated change⟩, ?_⟩⟩
  · rw [State.getLogs, valid, noFile, unlisted]
  · rintro ⟨detail, reports⟩
    rw [updated] at reports
    have types := congrArg Raised.typeName (Option.some.inj (Prod.mk.inj reports).2)
    exact absurd types (by simp [unknownOperation, httpException])

theorem unknownOperation_initial :
    ReportsUnknown (.working false 10) "op" .working (.initial "") ∧ ∀ change,
      (∃ text, (State.initial "").updateOperation "op" change =
        (.initial "", some ⟨"AttributeError", text⟩)) ∧
        ¬ UpdateReportsUnknown "op" change (.initial "") :=
  unknownOperation_reported (.working false 10) rfl (by decide) rfl

theorem updateUnknown_attributeError :
    ¬ (ReportsUnknown (.working false 10) "op" .working (.initial "") ∧
      ∀ change, UpdateReportsUnknown "op" change (.initial "")) := by
  rintro ⟨-, updates⟩
  obtain ⟨detail, reports⟩ := updates {}
  have types := congrArg (fun outcome => outcome.2.map Raised.typeName) reports
  exact absurd types
    (by simp [State.updateOperation, State.initial, unknownOperation, httpException])

/-- A line that is written as it is read: no end of a line is inside it. -/
def OneLine (line : String) : Prop := '\r' ∉ line.toList ∧ '\n' ∉ line.toList

def lineEnds : List Char → Nat
  | [] => 0
  | c :: rest =>
      if c = '\n' ∨ (c = '\r' ∧ rest.head? ≠ some '\n') then lineEnds rest + 1 else lineEnds rest

theorem lineEnds_eq_zero {text : List Char} :
    lineEnds text = 0 ↔ '\r' ∉ text ∧ '\n' ∉ text := by
  induction text with
  | nil => simp [lineEnds]
  | cons c rest inductionHypothesis =>
      rw [lineEnds]
      split
      next ends =>
        apply iff_of_false (Nat.succ_ne_zero _)
        rintro ⟨noReturn, noNewline⟩
        rcases ends with rfl | ⟨rfl, -⟩
        · exact noNewline List.mem_cons_self
        · exact noReturn List.mem_cons_self
      next inside =>
        rw [inductionHypothesis]
        simp only [List.mem_cons, not_or]
        obtain ⟨notNewline, pair⟩ := not_or.mp inside
        refine ⟨fun absent => ⟨⟨?_, absent.1⟩, Ne.symm notNewline, absent.2⟩,
          fun absent => ⟨absent.1.2, absent.2.2⟩⟩
        rintro rfl
        -- The newline after the carriage return is in the rest.
        have next : rest.head? = some '\n' := by
          by_contra other
          exact pair ⟨rfl, other⟩
        exact absent.2 (List.mem_of_head? next)

theorem universalLines_plain {text : List Char} (plain : '\r' ∉ text ∧ '\n' ∉ text)
    (current rest : List Char) :
    universalLines current (text ++ '\n' :: rest) =
      (current ++ text) :: universalLines [] rest := by
  induction text generalizing current with
  | nil => simp [universalLines]
  | cons c text inductionHypothesis =>
      simp only [List.mem_cons, not_or] at plain
      obtain ⟨⟨notReturn, noReturn⟩, notNewline, noNewline⟩ := plain
      rw [List.cons_append, universalLines, if_neg (Ne.symm notNewline), if_neg (Ne.symm notReturn),
        inductionHypothesis ⟨noReturn, noNewline⟩]
      simp

/-- A text that does not end in a carriage return adds a line for each of its line ends. -/
theorem length_universalLines {text : List Char} (ending : text.getLast? ≠ some '\r')
    (current rest : List Char) :
    (universalLines current (text ++ '\n' :: rest)).length =
      lineEnds text + 1 + (universalLines [] rest).length := by
  induction text generalizing current with
  | nil =>
      simp only [List.nil_append, universalLines, if_true, lineEnds, List.length_cons]
      omega
  | cons c text inductionHypothesis =>
      have shorter : text.getLast? ≠ some '\r' := by
        intro last
        apply ending
        rw [List.getLast?_cons, last]
        rfl
      have hypothesis := inductionHypothesis shorter
      rw [List.cons_append, universalLines, lineEnds]
      by_cases newline : c = '\n'
      · rw [if_pos newline, if_pos (.inl newline), List.length_cons, hypothesis]
        omega
      · rw [if_neg newline]
        by_cases carriage : c = '\r'
        · cases text with
          | nil => exact absurd (by rw [carriage]; rfl) ending
          | cons next text =>
              simp only [List.cons_append, List.head?_cons, Option.some.injEq, carriage,
                true_and, if_true] at hypothesis ⊢
              by_cases pair : next = '\n'
              · rw [if_pos pair, if_neg (by simp [pair]), hypothesis]
              · rw [if_neg pair, if_pos (.inr (by simpa using pair)), List.length_cons, hypothesis]
                omega
        · rw [if_neg carriage, if_neg (by simp [newline, carriage]), hypothesis]

theorem stripped_ending {line : String} (stripped : rstrip line = line) :
    line.toList.getLast? ≠ some '\r' := by
  have letters := congrArg String.toList stripped
  rw [rstrip, String.toList_ofList, List.rdropWhile_eq_self_iff] at letters
  intro last
  have nonempty : line.toList ≠ [] := by
    intro empty
    simp [empty] at last
  rw [List.getLast?_eq_some_getLast nonempty, Option.some.injEq] at last
  exact letters nonempty (by rw [last]; decide)

theorem length_fileLines {written : List String}
    (stripped : ∀ line ∈ written, rstrip line = line) :
    (fileLines written).length =
      (written.map fun line => lineEnds line.toList).sum + written.length := by
  rw [fileLines, List.length_map]
  induction written with
  | nil => simp [fileText, universalLines]
  | cons line rest inductionHypothesis =>
      have shape : fileText (line :: rest) = line.toList ++ '\n' :: fileText rest := by
        simp [fileText]
      rw [shape, length_universalLines (stripped_ending (stripped line List.mem_cons_self)),
        inductionHypothesis fun other listed => stripped other (List.mem_cons_of_mem _ listed)]
      simp only [List.map_cons, List.sum_cons, List.length_cons]
      omega

theorem universalLines_fileText {written : List String} (plain : ∀ line ∈ written, OneLine line) :
    universalLines [] (fileText written) = written.map String.toList := by
  induction written with
  | nil => rfl
  | cons line rest inductionHypothesis =>
      have shape : fileText (line :: rest) = line.toList ++ '\n' :: fileText rest := by
        simp [fileText]
      rw [shape, universalLines_plain (plain line List.mem_cons_self),
        inductionHypothesis fun other listed => plain other (List.mem_cons_of_mem _ listed)]
      rfl

/-- Lines are read back as they were written exactly when none holds the end of a line. -/
theorem fileLines_eq_iff {written : List String} (stripped : ∀ line ∈ written, rstrip line = line) :
    fileLines written = written ↔ ∀ line ∈ written, OneLine line := by
  constructor
  · intro same line listed
    have lengths := congrArg List.length same
    rw [length_fileLines stripped] at lengths
    have none : (written.map fun line => lineEnds line.toList).sum = 0 := by omega
    exact lineEnds_eq_zero.mp
      (List.sum_eq_zero_iff_forall_eq_nat.mp none _ (List.mem_map_of_mem listed))
  · intro plain
    rw [fileLines, universalLines_fileText plain, List.map_map]
    refine (List.map_congr_left fun line listed => ?_).trans (List.map_id written)
    simp [stripped line listed]

/-- A registered operation whose log has the lines. -/
structure Logged (operationId : String) (maxBufferLines : Nat) (lines : List String)
    (state : State) : Prop where
  file : state.logFiles.get? operationId = some lines
  record : ∃ id record, state.operations.get? operationId = some id ∧
    state.records.get? id = some record ∧ record.maxBufferLines = maxBufferLines ∧
      record.logBuffer = lines.rtake maxBufferLines

/-- The line that a call of `append_log` adds at a time. -/
def loggedLine (now logLine : String) : Option String :=
  let text := rstrip logLine
  if text = "" then none else some (formatLine now text)

/-- Calls of `append_log`, each at its time. -/
def appendAll (env : Environment) (operationId : String) (calls : List (String × String))
    (state : State) : State :=
  calls.foldl (fun state (now, logLine) =>
    ({ state with clock := now }.appendLog env operationId logLine).1) state

theorem rtake_append_singleton {Item : Type} (count : Nat) (items : List Item) (item : Item) :
    (items.rtake count ++ [item]).rtake count = (items ++ [item]).rtake count := by
  cases count with
  | zero => simp
  | succ count =>
      rw [List.rtake_concat_succ, List.rtake_concat_succ, List.rtake, List.rtake,
        List.rtake, List.drop_drop]
      congr 2
      simp only [List.length_drop]
      omega

theorem Logged.publish {operationId : String} {maxBufferLines : Nat} {lines : List String}
    {state : State} (logged : Logged operationId maxBufferLines lines state) (id : Nat)
    (item : Option String) : Logged operationId maxBufferLines lines (state.publish id item) := by
  obtain ⟨file, other, record, listed, stored, bounded, buffered⟩ := logged
  unfold State.publish
  split
  next => exact ⟨file, other, record, listed, stored, bounded, buffered⟩
  next =>
    refine ⟨file, other, ?_⟩
    by_cases same : other = id
    · subst same
      have modified := Heap.get?_modify_self state.records other fun record =>
        { record with history := record.history ++ [.published item] }
      rw [stored] at modified
      exact ⟨_, listed, modified, bounded, buffered⟩
    · exact ⟨record, listed, (Heap.get?_modify_of_ne state.records _ same).trans stored, bounded,
        buffered⟩

theorem Logged.append {env : Environment} (working : ∀ place, env.logCall place = .working)
    {operationId : String} (valid : getLogFilePath operationId .working = none)
    {maxBufferLines : Nat} {lines : List String} {state : State}
    (logged : Logged operationId maxBufferLines lines state) (logLine : String) :
    Logged operationId maxBufferLines (lines ++ (loggedLine state.clock logLine).toList)
      (state.appendLog env operationId logLine).1 := by
  obtain ⟨file, id, record, listed, stored, bounded, buffered⟩ := logged
  unfold State.appendLog loggedLine
  rw [listed]
  by_cases empty : rstrip logLine = ""
  · simp only [empty, if_true, Option.toList_none, List.append_nil]
    exact ⟨file, id, record, listed, stored, bounded, buffered⟩
  · simp only [empty, if_false, working, valid, Option.toList_some]
    generalize formatLine state.clock (rstrip logLine) = line
    have modified := Heap.get?_modify_self state.records id (OperationRecord.bufferLine line)
    rw [stored] at modified
    refine Logged.publish ?_ id _
    simp only [State.writeLogFile, LogCall.working, if_true, State.modifyRecord, file,
      Option.getD_some]
    refine ⟨Dict.get?_set_self _ _ _, id, record.bufferLine line, listed, modified, bounded, ?_⟩
    rw [OperationRecord.bufferLine, bounded, buffered, rtake_append_singleton]

theorem logged_appendAll {env : Environment} (working : ∀ place, env.logCall place = .working)
    {operationId : String} (valid : getLogFilePath operationId .working = none)
    {maxBufferLines : Nat} {lines : List String} {state : State}
    (logged : Logged operationId maxBufferLines lines state) (calls : List (String × String)) :
    Logged operationId maxBufferLines
      (lines ++ calls.filterMap fun (now, logLine) => loggedLine now logLine)
      (appendAll env operationId calls state) := by
  induction calls generalizing lines state with
  | nil => simpa [appendAll] using logged
  | cons first rest inductionHypothesis =>
      obtain ⟨now, logLine⟩ := first
      have ticked : Logged operationId maxBufferLines lines { state with clock := now } :=
        ⟨logged.file, logged.record⟩
      have later := inductionHypothesis (ticked.append working valid logLine)
      rw [List.append_assoc] at later
      cases added : loggedLine now logLine <;>
        simpa [added, appendAll] using later

theorem rstrip_append {front text : String} (stripped : rstrip text = text) (nonempty : text ≠ "") :
    rstrip (front ++ text) = front ++ text := by
  have letters := congrArg String.toList stripped
  rw [rstrip, String.toList_ofList, List.rdropWhile_eq_self_iff] at letters
  have some : text.toList ≠ [] := by simpa using nonempty
  rw [rstrip, ← String.toList_inj, String.toList_ofList, String.toList_append,
    List.rdropWhile_eq_self_iff]
  intro whole
  rw [List.getLast_append_of_ne_nil _ some]
  exact letters some

theorem rstrip_rstrip (text : String) : rstrip (rstrip text) = rstrip text := by
  simp [rstrip, List.rdropWhile_idempotent]

theorem loggedLine_stripped {now logLine line : String}
    (logged : loggedLine now logLine = some line) :
    rstrip line = line := by
  unfold loggedLine at logged
  dsimp only at logged
  split at logged
  next => cases logged
  next nonempty =>
    cases logged
    unfold formatLine
    split
    next => exact rstrip_rstrip logLine
    next => exact rstrip_append (rstrip_rstrip logLine) nonempty

theorem initLine_stripped (record : OperationRecord) :
    rstrip (initLine record) = initLine record := by
  have sentence : ∀ front : String, rstrip (front ++ ".") = front ++ "." := fun front =>
    rstrip_append (by decide) (by decide)
  exact rstrip_append (sentence _) (by simp; intro _ _; decide)

theorem logged_registered {env : Environment} (working : ∀ place, env.logCall place = .working)
    {operationId : String} {operationType : OperationType}
    {targetResource initialStep initialMessage line : String} {state registered : State} {id : Nat}
    {call : LogCall}
    (begun : state.beginRegistration env operationId operationType targetResource initialStep
      initialMessage = (registered, .ok (id, line, call))) :
    rstrip line = line ∧ getLogFilePath operationId .working = none ∧
      Logged operationId env.maxLogBufferLines [line]
        (registered.finishRegistration operationId id line call) := by
  unfold State.beginRegistration at begun
  split at begun
  next => cases begun
  next =>
    dsimp only at begun
    split at begun
    next => cases begun
    next valid =>
      rw [working] at valid begun
      obtain ⟨rfl, answered⟩ := Prod.mk.inj begun
      cases answered
      refine ⟨?_, valid, ?_⟩
      · exact initLine_stripped _
      · simp only [State.finishRegistration, State.writeLogFile, LogCall.working, if_true,
          List.nil_append, State.modifyRecord]
        have modified := Heap.get?_modify_self (state.records.alloc (state.newRecord env operationId
          operationType targetResource initialStep initialMessage)) state.records.fresh
          (OperationRecord.bufferLine (initLine (state.newRecord env operationId operationType
            targetResource initialStep initialMessage)))
        rw [Heap.get?_alloc_fresh] at modified
        exact ⟨Dict.get?_set_self _ _ _, _, _, Dict.get?_set_self _ _ _, modified, rfl, rfl⟩

/-- The file and the buffer hold the lines, and give the same ones for every tail. -/
structure LogsAgree (operationId : String) (lines : List String) (state : State) : Prop where
  same : ∀ tail, state.getLogs operationId tail .working =
    state.getLogs operationId tail { LogCall.working with opens := false }
  complete : state.getLogs operationId none .working = .ok lines

/-- The file and the buffer of a log agree exactly when no line holds the end of a line and
the buffer has room for all. -/
theorem Logged.agree_iff {operationId : String} {maxBufferLines : Nat} {lines : List String}
    {state : State} (logged : Logged operationId maxBufferLines lines state)
    (valid : getLogFilePath operationId .working = none)
    (stripped : ∀ line ∈ lines, rstrip line = line) :
    LogsAgree operationId lines state ↔
      (∀ line ∈ lines, OneLine line) ∧ lines.length ≤ maxBufferLines := by
  obtain ⟨file, id, record, listed, stored, -, buffered⟩ := logged
  have found : state.find? operationId = some (id, record) := by
    rw [State.find?, listed, Option.bind_some, stored, Option.map_some]
  have fromFile : ∀ tail, state.getLogs operationId tail .working =
      .ok (lastLines tail (fileLines lines)) := fun tail => by
    rw [State.getLogs, valid]
    simp only [file, LogCall.working, if_true]
  have fromBuffer : ∀ tail, state.getLogs operationId tail { LogCall.working with opens := false } =
      .ok (lastLines tail (lines.rtake maxBufferLines)) := fun tail => by
    have path : getLogFilePath operationId { LogCall.working with opens := false } = none := valid
    rw [State.getLogs, path]
    simp only [file, found, buffered, Bool.false_eq_true, if_false]
  have room : lines.rtake maxBufferLines = lines ↔ lines.length ≤ maxBufferLines := by
    rw [List.rtake]
    constructor
    · intro kept
      have lengths := congrArg List.length kept
      rw [List.length_drop] at lengths
      omega
    · intro short
      rw [Nat.sub_eq_zero_of_le short, List.drop_zero]
  rw [← fileLines_eq_iff stripped, ← room]
  constructor
  · rintro ⟨same, complete⟩
    have read : fileLines lines = lines := by
      rw [fromFile] at complete
      exact Except.ok.inj complete
    have kept := same none
    rw [fromFile, fromBuffer] at kept
    exact ⟨read, (Except.ok.inj kept).symm.trans read⟩
  · rintro ⟨read, kept⟩
    exact ⟨fun tail => by rw [fromFile, fromBuffer, read, kept], by rw [fromFile, read]; rfl⟩

/-- The lines of an operation's log after calls of `append_log`. -/
def logLines (line : String) (calls : List (String × String)) : List String :=
  line :: calls.filterMap fun (now, logLine) => loggedLine now logLine

section Registered

variable {env : Environment} {operationId : String} {operationType : OperationType}
  {targetResource initialStep initialMessage line : String} {state registered : State} {id : Nat}
  {call : LogCall}

/-- The log after the registration of an operation and any calls of `append_log`. -/
theorem logged_calls (working : ∀ place, env.logCall place = .working)
    (begun : state.beginRegistration env operationId operationType targetResource initialStep
      initialMessage = (registered, .ok (id, line, call))) (calls : List (String × String)) :
    (∀ written ∈ logLines line calls, rstrip written = written) ∧
      Logged operationId env.maxLogBufferLines (logLines line calls)
        (appendAll env operationId calls
          (registered.finishRegistration operationId id line call)) := by
  obtain ⟨lineStripped, valid, logged⟩ := logged_registered working begun
  refine ⟨fun written listed => ?_, logged_appendAll working valid logged calls⟩
  rcases List.mem_cons.mp listed with rfl | appended
  · exact lineStripped
  · obtain ⟨⟨now, logLine⟩, -, added⟩ := List.mem_filterMap.mp appended
    exact loggedLine_stripped added

/-- After the registration of an operation and any calls of `append_log`, the file and the
buffer agree exactly when no line holds the end of a line and the buffer has room for all. -/
theorem logsAgree_iff (working : ∀ place, env.logCall place = .working)
    (begun : state.beginRegistration env operationId operationType targetResource initialStep
      initialMessage = (registered, .ok (id, line, call))) (calls : List (String × String)) :
    LogsAgree operationId (logLines line calls)
        (appendAll env operationId calls
          (registered.finishRegistration operationId id line call)) ↔
      (∀ written ∈ logLines line calls, OneLine written) ∧
        (logLines line calls).length ≤ env.maxLogBufferLines := by
  obtain ⟨stripped, logged⟩ := logged_calls working begun calls
  exact logged.agree_iff (logged_registered working begun).2.1 stripped

end Registered

def clusterBegun : State × Except Raised (Nat × String × LogCall) :=
  (State.initial "").beginRegistration (.working false 10) "op" .clusterCreate "c" "" ""

def clusterLine : String := "[] Registered operation op (CLUSTER_CREATE) on c."

theorem clusterBegun_eq : clusterBegun = (clusterBegun.1, .ok (0, clusterLine, .working)) := by
  rfl

theorem carriageReturn_disagrees :
    ¬ LogsAgree "op" (logLines clusterLine [("now", "a\rb")])
      (appendAll (.working false 10) "op" [("now", "a\rb")]
        (clusterBegun.1.finishRegistration "op" 0 clusterLine .working)) := by
  obtain ⟨stripped, logged⟩ :=
    @logged_calls (.working false 10) _ _ _ _ _ _ _ _ _ _ (fun _ => rfl) clusterBegun_eq
      [("now", "a\rb")]
  rw [logged.agree_iff (by decide) stripped]
  rintro ⟨plain, -⟩
  exact (plain "[now] a\rb" (by decide)).1 (by decide)

theorem logsAgree_cluster :
    LogsAgree "op" (logLines clusterLine [("now", "ready")])
        (appendAll (.working false 10) "op" [("now", "ready")]
          (clusterBegun.1.finishRegistration "op" 0 clusterLine .working)) ↔
      (∀ written ∈ logLines clusterLine [("now", "ready")], OneLine written) ∧
        (logLines clusterLine [("now", "ready")]).length ≤
          (Environment.working false 10).maxLogBufferLines :=
  logsAgree_iff (fun _ => rfl) clusterBegun_eq [("now", "ready")]

end GemEmulation.Api
