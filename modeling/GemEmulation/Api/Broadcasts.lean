import GemEmulation.Api.Muted

/-!
# What a step does to the logs

A step extends the history of one record at most, and every item that it publishes
goes to the record's subscribers.
-/

namespace GemEmulation.Api

open Foundations Lifecycle

variable {env : Environment} {state middle next : State} {reference id : Nat}
  {operationId : String} {events later : List LogEvent}

def appendedLines (events : List LogEvent) : List String :=
  events.filterMap fun
    | .appended line => some line
    | .published _ => none

def publishedLines (events : List LogEvent) : List String :=
  events.filterMap fun
    | .appended _ => none
    | .published item => item

def publications (events : List LogEvent) : List (Option String) :=
  events.filterMap fun
    | .appended _ => none
    | .published item => some item

def Stream.receiveAll (items : List (Option String)) (stream : Stream) : Stream :=
  items.foldl (fun stream item => stream.receive item) stream

/-- The subscribers of a record are its streams that are not closed. -/
structure Subscriptions (state : State) : Prop where
  nodup : ∀ id record, state.records.get? id = some record → record.subscribers.Nodup
  subscribed : ∀ id record stream, state.records.get? id = some record →
    stream ∈ record.subscribers → ∃ subscriber, state.streams.get? stream = some subscriber ∧
      subscriber.record = id ∧ subscriber.point ≠ .closed
  listening : ∀ stream subscriber, state.streams.get? stream = some subscriber →
    subscriber.point ≠ .closed → ∃ record, state.records.get? subscriber.record = some record ∧
      stream ∈ record.subscribers

/-- A record's history is extended by some events, and what was published went to its
subscribers; all other records and streams are as they were. -/
structure Broadcast (id : Nat) (events : List LogEvent) (state next : State) : Prop where
  history : ∀ other, (next.records.get? other).map OperationRecord.history =
    if other = id then ((state.records.get? id).map OperationRecord.history).map (· ++ events)
    else (state.records.get? other).map OperationRecord.history
  subscribers : ∀ other, (next.records.get? other).map OperationRecord.subscribers =
    (state.records.get? other).map OperationRecord.subscribers
  streams : ∀ stream, next.streams.get? stream =
    (state.streams.get? stream).map fun subscriber =>
      if ∃ record, state.records.get? id = some record ∧ stream ∈ record.subscribers then
        subscriber.receiveAll (publications events)
      else subscriber

theorem Stream.receiveAll_append (first second : List (Option String)) (stream : Stream) :
    stream.receiveAll (first ++ second) = (stream.receiveAll first).receiveAll second :=
  List.foldl_append

theorem Broadcast.trans (first : Broadcast id events state middle)
    (second : Broadcast id later middle next) : Broadcast id (events ++ later) state next where
  history other := by
    rw [second.history]
    split
    next same =>
      have here := first.history id
      rw [if_pos rfl] at here
      rw [here, Option.map_map, Option.map_map, Option.map_map]
      simp [Function.comp_def]
    next different => rw [first.history, if_neg different]
  subscribers other := (second.subscribers other).trans (first.subscribers other)
  streams stream := by
    have same : (∃ record, middle.records.get? id = some record ∧ stream ∈ record.subscribers) ↔
        ∃ record, state.records.get? id = some record ∧ stream ∈ record.subscribers := by
      have lists := first.subscribers id
      cases old : state.records.get? id <;> cases new : middle.records.get? id <;>
        simp_all
    rw [second.streams, first.streams, Option.map_map]
    refine congrArg (Option.map · _) (funext fun subscriber => ?_)
    simp only [Function.comp_def, same]
    split
    next => simp [publications, List.filterMap_append, Stream.receiveAll_append]
    next => rfl

theorem Broadcast.of_same (id : Nat)
    (history : ∀ other, (next.records.get? other).map OperationRecord.history =
      (state.records.get? other).map OperationRecord.history)
    (subscribers : ∀ other, (next.records.get? other).map OperationRecord.subscribers =
      (state.records.get? other).map OperationRecord.subscribers)
    (streams : next.streams = state.streams) : Broadcast id [] state next where
  history other := by
    rw [history]
    split
    next same => simp [same, Option.map_map, Function.comp_def]
    next => rfl
  subscribers := subscribers
  streams stream := by
    rw [streams]
    simp [publications, Stream.receiveAll]

theorem Broadcast.refl (id : Nat) (state : State) : Broadcast id [] state state :=
  .of_same id (fun _ => rfl) (fun _ => rfl) rfl

theorem map_modify_records {Field : Type} (field : OperationRecord → Field) (other : Nat)
    (records : Heap OperationRecord) (change : OperationRecord → OperationRecord)
    (keeps : ∀ record, field (change record) = field record) :
    ((records.modify id change).get? other).map field = (records.get? other).map field := by
  rw [Heap.get?_modify]
  split
  next => simp [Option.map_map, Function.comp_def, keeps]
  next => rfl

theorem broadcast_modifyRecord (id modified : Nat) (state : State)
    (change : OperationRecord → OperationRecord)
    (history : ∀ record, (change record).history = record.history)
    (subscribers : ∀ record, (change record).subscribers = record.subscribers) :
    Broadcast id [] state (state.modifyRecord modified change) :=
  .of_same id (fun other => map_modify_records _ other _ _ history)
    (fun other => map_modify_records _ other _ _ subscribers) rfl

theorem broadcast_bufferLine (id : Nat) (line : String) (state : State) :
    Broadcast id [.appended line] state
      (state.modifyRecord id (OperationRecord.bufferLine line)) where
  history other := by
    simp only [State.modifyRecord, Heap.get?_modify]
    split
    next same => simp [same, Option.map_map, Function.comp_def, OperationRecord.bufferLine]
    next => rfl
  subscribers other := map_modify_records _ other _ _ fun _ => rfl
  streams stream := by simp [State.modifyRecord, publications, Stream.receiveAll]

theorem get?_foldl_modify (change : Stream → Stream) (named : List Nat) (nodup : named.Nodup)
    (streams : Heap Stream) (stream : Nat) :
    (named.foldl (fun streams other => streams.modify other change) streams).get? stream =
      (streams.get? stream).map fun subscriber =>
        if stream ∈ named then change subscriber else subscriber := by
  induction named generalizing streams with
  | nil => simp
  | cons first rest inductionHypothesis =>
      obtain ⟨absent, distinct⟩ := List.nodup_cons.mp nodup
      simp only [List.foldl_cons]
      rw [inductionHypothesis distinct, Heap.get?_modify]
      by_cases same : stream = first
      · subst same
        simp [Option.map_map, Function.comp_def, absent]
      · simp [same]

theorem broadcast_publish (subscriptions : Subscriptions state) (id : Nat)
    (item : Option String) : Broadcast id [.published item] state (state.publish id item) := by
  unfold State.publish
  split
  next absent =>
    refine ⟨fun other => ?_, fun _ => rfl, fun stream => ?_⟩
    · split
      next same => simp [same, absent]
      next => rfl
    · simp [absent]
  next record stored =>
    refine ⟨fun other => ?_, fun other => map_modify_records _ other _ _ fun _ => rfl,
      fun stream => ?_⟩
    · rw [Heap.get?_modify]
      split
      next same => simp [same, Option.map_map, Function.comp_def]
      next => rfl
    · rw [get?_foldl_modify _ _ (subscriptions.nodup id record stored)]
      simp [stored, publications, Stream.receiveAll]

theorem Stream.receiveAll_fields (items : List (Option String)) (stream : Stream) :
    (stream.receiveAll items).record = stream.record ∧
      (stream.receiveAll items).point = stream.point := by
  induction items generalizing stream with
  | nil => exact ⟨rfl, rfl⟩
  | cons item items inductionHypothesis => exact inductionHypothesis (stream.receive item)

theorem Broadcast.stream (broadcast : Broadcast id events state next) {stream : Nat}
    {subscriber : Stream} (found : next.streams.get? stream = some subscriber) :
    ∃ old, state.streams.get? stream = some old ∧ subscriber.record = old.record ∧
      subscriber.point = old.point := by
  rw [broadcast.streams] at found
  obtain ⟨old, oldFound, rfl⟩ := Option.map_eq_some_iff.mp found
  refine ⟨old, oldFound, ?_⟩
  split
  next => exact Stream.receiveAll_fields ..
  next => exact ⟨rfl, rfl⟩

theorem Broadcast.record (broadcast : Broadcast id events state next) {other : Nat}
    {record : OperationRecord} (stored : next.records.get? other = some record) :
    ∃ old, state.records.get? other = some old ∧ record.subscribers = old.subscribers ∧
      record.history = if other = id then old.history ++ events else old.history := by
  have subscribers := broadcast.subscribers other
  have history := broadcast.history other
  rw [stored] at subscribers history
  obtain ⟨old, oldStored, same⟩ := Option.map_eq_some_iff.mp subscribers.symm
  refine ⟨old, oldStored, same.symm, ?_⟩
  split
  next here =>
    rw [if_pos here, ← here, oldStored] at history
    exact Option.some.inj history
  next elsewhere =>
    rw [if_neg elsewhere, oldStored] at history
    exact Option.some.inj history

theorem Broadcast.subscriptions (broadcast : Broadcast id events state next)
    (subscriptions : Subscriptions state) : Subscriptions next where
  nodup other record stored := by
    obtain ⟨old, oldStored, same, _⟩ := broadcast.record stored
    exact same ▸ subscriptions.nodup other old oldStored
  subscribed other record stream stored member := by
    obtain ⟨old, oldStored, same, _⟩ := broadcast.record stored
    obtain ⟨subscriber, found, own, goesOn⟩ :=
      subscriptions.subscribed other old stream oldStored (same ▸ member)
    rw [broadcast.streams, found]
    refine ⟨_, rfl, ?_⟩
    split
    next =>
      obtain ⟨sameRecord, samePoint⟩ := Stream.receiveAll_fields (publications events) subscriber
      exact ⟨sameRecord.trans own, samePoint ▸ goesOn⟩
    next => exact ⟨own, goesOn⟩
  listening stream subscriber found opened := by
    obtain ⟨old, oldFound, sameRecord, samePoint⟩ := broadcast.stream found
    obtain ⟨record, stored, member⟩ :=
      subscriptions.listening stream old oldFound (samePoint ▸ opened)
    have subscribers := broadcast.subscribers old.record
    rw [stored] at subscribers
    obtain ⟨after, afterStored, same⟩ := Option.map_eq_some_iff.mp subscribers
    exact ⟨after, sameRecord ▸ afterStored, same ▸ member⟩

def Unended (events : List LogEvent) : Prop := LogEvent.published none ∉ events

def PathsFound (env : Environment) (operationId : String) : Prop :=
  ∀ number, getLogFilePath operationId (env.logCall number) = none

/-- What `append_log` does to the log of the operation that it is called for. -/
structure Logs (env : Environment) (operationId : String) (id : Nat) (events : List LogEvent)
    (state next : State) : Prop extends Broadcast id events state next where
  unended : Unended events
  /-- Every line is published, unless logging fails. -/
  relayed : PathsFound env operationId → appendedLines events = publishedLines events

theorem Logs.trans (first : Logs env operationId id events state middle)
    (second : Logs env operationId id later middle next) :
    Logs env operationId id (events ++ later) state next where
  toBroadcast := first.toBroadcast.trans second.toBroadcast
  unended ended := (List.mem_append.mp ended).elim first.unended second.unended
  relayed found := by
    have both := congrArg₂ (· ++ ·) (first.relayed found) (second.relayed found)
    simpa only [appendedLines, publishedLines, List.filterMap_append] using both

theorem Broadcast.logs (silent : Broadcast id [] state next) (env : Environment)
    (operationId : String) : Logs env operationId id [] state next :=
  ⟨silent, List.not_mem_nil, fun _ => rfl⟩

theorem broadcast_writeLogFile (id : Nat) (operationId line : String) (old : List String)
    (call : LogCall) (state : State) :
    Broadcast id [] state (state.writeLogFile operationId line old call) := by
  unfold State.writeLogFile
  split <;> exact .of_same id (fun _ => rfl) (fun _ => rfl) rfl

/-- What one call of `append_log` adds: nothing, or its line, which is published unless
logging fails. -/
inductive Entry (line : String) : List LogEvent → Prop where
  | nothing : Entry line []
  | lost : Entry line [.appended line]
  | relayed : Entry line [.appended line, .published (some line)]

theorem Entry.unended {line : String} (entry : Entry line events) : Unended events := by
  cases entry <;> simp [Unended]

theorem Entry.publications_length {line : String} (entry : Entry line events) :
    (publications events).length ≤ 1 := by
  cases entry <;> simp [publications]

theorem appendLog_logs (env : Environment) (line : String) (subscriptions : Subscriptions state)
    (listed : state.operations.get? operationId = some id) :
    ∃ events, Logs env operationId id events state
        (state.appendLog env operationId line).1 ∧
      Entry (formatLine state.clock (rstrip line)) events := by
  simp only [State.appendLog, listed]
  split
  next => exact ⟨[], (Broadcast.refl id state).logs env operationId, .nothing⟩
  next =>
    have buffered (text : String) : Broadcast id [.appended text] state
        { state.modifyRecord id (OperationRecord.bufferLine text) with
          logCalls := state.logCalls + 1 } :=
      (broadcast_bufferLine id text state).trans (.of_same id (fun _ => rfl) (fun _ => rfl) rfl)
    split
    next lost =>
      refine ⟨_, ⟨buffered _, by simp [Unended], fun found => ?_⟩, .lost⟩
      rw [found] at lost
      contradiction
    next =>
      have written := (buffered (formatLine state.clock (rstrip line))).trans
        (broadcast_writeLogFile id operationId (formatLine state.clock (rstrip line))
          ((state.logFiles.get? operationId).getD []) (env.logCall state.logCalls) _)
      have sent := written.trans (broadcast_publish (written.subscriptions subscriptions) id
        (some (formatLine state.clock (rstrip line))))
      exact ⟨_, ⟨sent, by simp [Unended], fun _ => by simp [appendedLines, publishedLines]⟩,
        .relayed⟩

theorem not_pathsFound_of_raises {line : String} {raised : Raised}
    (raises : (state.appendLog env operationId line).2 = some raised) :
    ¬PathsFound env operationId := by
  intro found
  simp only [State.appendLog] at raises
  split at raises
  next => contradiction
  next =>
    split at raises
    next => contradiction
    next =>
      rw [found] at raises
      contradiction

/-- An update publishes the end of the stream when it completes the operation. -/
theorem updateOperation_broadcast (change : Change) (subscriptions : Subscriptions state)
    (listed : state.operations.get? operationId = some id) :
    Broadcast id (if change.completed then [.published none] else []) state
      (state.updateOperation operationId change).1 := by
  rw [State.updateOperation_listed change listed]
  have modified := broadcast_modifyRecord id id state (change.apply state.clock)
    (fun _ => rfl) fun _ => rfl
  split
  next =>
    exact modified.trans (broadcast_publish (modified.subscriptions subscriptions) id none)
  next => exact modified

theorem Works.logs (works : Works env operationId state next)
    (subscriptions : Subscriptions state)
    (listed : state.operations.get? operationId = some id) :
    ∃ events, Logs env operationId id events state next := by
  induction works with
  | refl => exact ⟨[], (Broadcast.refl id state).logs env operationId⟩
  | @log middle line works inductionHypothesis =>
      obtain ⟨events, logs⟩ := inductionHypothesis
      have stillListed : middle.operations.get? operationId = some id := by
        rw [works.sameTable.operations, listed]
      obtain ⟨more, logged, _⟩ :=
        appendLog_logs env line (logs.subscriptions subscriptions) stillListed
      exact ⟨_, logs.trans logged⟩
  | @update middle change early _ works inductionHypothesis =>
      obtain ⟨events, logs⟩ := inductionHypothesis
      have stillListed : middle.operations.get? operationId = some id := by
        rw [works.sameTable.operations, listed]
      have updated :=
        updateOperation_broadcast change (logs.subscriptions subscriptions) stillListed
      rw [early] at updated
      exact ⟨_, logs.trans (Broadcast.logs updated env operationId)⟩
  | @spawn middle process works inductionHypothesis =>
      obtain ⟨events, logs⟩ := inductionHypothesis
      have silent : Broadcast id [] middle
          { middle with processes := middle.processes.alloc process } :=
        .of_same id (fun _ => rfl) (fun _ => rfl) rfl
      exact ⟨_, logs.trans (silent.logs env operationId)⟩
  | @connect middle record process works inductionHypothesis =>
      obtain ⟨events, logs⟩ := inductionHypothesis
      have silent := broadcast_modifyRecord id record middle
        (fun record => { record with process := some process }) (fun _ => rfl) fun _ => rfl
      exact ⟨_, logs.trans (silent.logs env operationId)⟩

/-- An operation that ends outside its pipeline logs a line and ends its streams; when the
line cannot be logged the streams are not ended. -/
theorem ending_logs {text : String} {final : OperationRecord} {record : OperationRecord}
    (subscriptions : Subscriptions state) (stored : state.records.get? id = some record)
    (history : final.history = record.history)
    (subscribers : final.subscribers = record.subscribers)
    (listed : state.operations.get? operationId = some id)
    (stopped : Broadcast id [] (state.modifyRecord id fun _ => final) middle)
    (operations : middle.operations = state.operations) :
    ∃ events ending, Logs env operationId id events state
        (middle.appendLog env operationId text).1 ∧
      (ending = [] ∨ ending = [.published none]) ∧
      (PathsFound env operationId → ending = [.published none]) ∧
      Broadcast id (events ++ ending) state (match middle.appendLog env operationId text with
        | (logged, some _) => logged
        | (logged, none) => logged.publish id none) := by
  have overwritten : Broadcast id [] state (state.modifyRecord id fun _ => final) := by
    refine .of_same id (fun other => ?_) (fun other => ?_) rfl
    · simp only [State.modifyRecord, Heap.get?_modify]
      split
      next same => simp [same, stored, history]
      next => rfl
    · simp only [State.modifyRecord, Heap.get?_modify]
      split
      next same => simp [same, stored, subscribers]
      next => rfl
  have ended := overwritten.trans stopped
  obtain ⟨events, logs, _⟩ := appendLog_logs env text (ended.subscriptions subscriptions)
    (operations ▸ listed)
  have all := Logs.trans (Broadcast.logs ended env operationId) logs
  have raises (raised : Raised) :
      (middle.appendLog env operationId text).2 = some raised → ¬PathsFound env operationId :=
    not_pathsFound_of_raises
  generalize middle.appendLog env operationId text = outcome at all raises ⊢
  obtain ⟨logged, _ | raised⟩ := outcome
  · exact ⟨_, [.published none], all, .inr rfl, fun _ => rfl,
      all.toBroadcast.trans (broadcast_publish (all.subscriptions subscriptions) id none)⟩
  · exact ⟨_, [], all, .inl rfl, fun found => absurd found (raises raised rfl),
      by simpa using all.toBroadcast⟩

end GemEmulation.Api
