import GemEmulation.Api.LogSteps

/-!
# Subscriptions in every step

The streams that are not closed are the subscribers of their records, whatever the
API and its clients do.
-/

namespace GemEmulation.Api

open Foundations

variable {env : Environment} {state middle next : State} {reference id : Nat}
  {operationId : String} {events later : List LogEvent}

def State.history (state : State) (id : Nat) : Option (List LogEvent) :=
  (state.records.get? id).map OperationRecord.history

theorem Stream.resume_record (status : OperationStatus) (stream : Stream) :
    (stream.resume status).record = stream.record := by
  unfold Stream.resume Stream.resumeDraining Stream.resumeLive
  repeat' split
  all_goals rfl

theorem Stream.goesOn_of_resume (status : OperationStatus) (stream : Stream)
    (goesOn : (stream.resume status).point ≠ .closed) : stream.point ≠ .closed := by
  intro closed
  rw [Stream.resume, closed] at goesOn
  exact goesOn closed

theorem openStream_eq (opened : state.openStream operationId = some next) :
    ∃ id record, state.records.get? id = some record ∧
      next.records = state.records.modify id (fun record =>
        { record with subscribers := record.subscribers ++ [state.streams.fresh] }) ∧
      next.streams = state.streams.alloc (Stream.subscribe id record.logBuffer) ∧
      next.tasks = state.tasks := by
  obtain ⟨⟨id, record⟩, found, rfl⟩ := Option.map_eq_some_iff.mp opened
  exact ⟨id, record, (State.find?_eq_some.mp found).2, rfl, rfl, rfl⟩

/-- A stream runs to its next suspension, and leaves its record when it is closed. -/
theorem resumeStream_eq (resumed : state.resumeStream reference = some next) :
    ∃ stream record, state.streams.get? reference = some stream ∧
      state.records.get? stream.record = some record ∧
      next.records = state.records.modify stream.record (fun other =>
        if (stream.resume record.status).point = .closed then
          { other with subscribers := other.subscribers.erase reference }
        else other) ∧
      next.streams = state.streams.modify reference (fun _ => stream.resume record.status) ∧
      next.tasks = state.tasks := by
  obtain ⟨stream, located, resumed⟩ := Option.bind_eq_some_iff.mp resumed
  obtain ⟨record, stored, rfl⟩ := Option.map_eq_some_iff.mp resumed
  refine ⟨stream, record, located, stored, ?_⟩
  dsimp only
  split
  next => exact ⟨rfl, rfl, rfl⟩
  next => exact ⟨congrArg Heap.mk (List.modify_id _ _).symm, rfl, rfl⟩

theorem closeStream_eq (closed : state.closeStream reference = some next) :
    ∃ stream, state.streams.get? reference = some stream ∧
      next.records = state.records.modify stream.record (fun record =>
        { record with subscribers := record.subscribers.erase reference }) ∧
      next.streams = state.streams.modify reference (fun _ => { stream with point := .closed }) ∧
      next.tasks = state.tasks := by
  obtain ⟨stream, located, rfl⟩ := Option.map_eq_some_iff.mp closed
  exact ⟨stream, located, rfl, Heap.modify_eq_overwrite located _, rfl⟩

theorem history_modify {change : OperationRecord → OperationRecord}
    (records : next.records = state.records.modify id change)
    (keeps : ∀ record, (change record).history = record.history) :
      next.history = state.history := by
  funext other
  rw [State.history, records]
  exact map_modify_records OperationRecord.history other _ change keeps

theorem history_openStream (opened : state.openStream operationId = some next) :
    next.history = state.history := by
  obtain ⟨_, _, _, records, _⟩ := openStream_eq opened
  exact history_modify records fun _ => rfl

theorem history_resumeStream (resumed : state.resumeStream reference = some next) :
    next.history = state.history := by
  obtain ⟨_, _, _, _, records, _⟩ := resumeStream_eq resumed
  exact history_modify records fun _ => by split <;> rfl

theorem history_closeStream (closed : state.closeStream reference = some next) :
    next.history = state.history := by
  obtain ⟨_, _, records, _⟩ := closeStream_eq closed
  exact history_modify records fun _ => rfl

namespace Subscriptions

theorem openStream (subscriptions : Subscriptions state)
    (opened : state.openStream operationId = some next) : Subscriptions next := by
  obtain ⟨id, owner, stored, records, streams, -⟩ := openStream_eq opened
  have kept {stream : Nat} {subscriber : Stream}
      (found : state.streams.get? stream = some subscriber) :
      next.streams.get? stream = some subscriber := by
    rw [streams]
    exact Heap.get?_alloc_of_get? _ found
  refine ⟨fun other record found => ?_, fun other record stream found member => ?_,
    fun stream subscriber found goesOn => ?_⟩
  · rw [records, Heap.get?_modify] at found
    split at found
    next same =>
      subst same
      rw [stored] at found
      cases found
      refine List.nodup_append.mpr ⟨subscriptions.nodup _ owner stored, List.nodup_singleton _, ?_⟩
      rintro stream member _ (listed : _ ∈ [_]) rfl
      obtain rfl := List.mem_singleton.mp listed
      obtain ⟨_, located, _⟩ := subscriptions.subscribed _ owner _ stored member
      exact Heap.ne_fresh_of_get? located rfl
    next => exact subscriptions.nodup other record found
  · rw [records, Heap.get?_modify] at found
    split at found
    next same =>
      subst same
      rw [stored] at found
      cases found
      rcases List.mem_append.mp member with old | new
      · obtain ⟨subscriber, located, own⟩ := subscriptions.subscribed _ owner stream stored old
        exact ⟨subscriber, kept located, own⟩
      · obtain rfl := List.mem_singleton.mp new
        exact ⟨_, by rw [streams, Heap.get?_alloc_fresh], rfl, by simp [Stream.subscribe]⟩
    next =>
      obtain ⟨subscriber, located, own⟩ := subscriptions.subscribed other record stream found member
      exact ⟨subscriber, kept located, own⟩
  · rw [streams, Heap.get?_alloc] at found
    rw [records, Heap.get?_modify]
    split at found
    next new =>
      cases found
      have own : (Stream.subscribe id owner.logBuffer).record = id := rfl
      rw [own, if_pos rfl, stored, Option.map_some, new]
      exact ⟨_, rfl, List.mem_append_right _ (List.mem_singleton_self _)⟩
    next =>
      obtain ⟨record, located, member⟩ := subscriptions.listening stream subscriber found goesOn
      rw [located]
      split
      next => exact ⟨_, rfl, List.mem_append_left _ member⟩
      next => exact ⟨record, rfl, member⟩

/-- A stream is taken from the subscribers of its record when it is closed. -/
theorem advanced {stream : Stream} (after : Stream) (subscriptions : Subscriptions state)
    (located : state.streams.get? reference = some stream) (same : after.record = stream.record)
    (goesOn : after.point ≠ .closed → stream.point ≠ .closed)
    (records : next.records = state.records.modify stream.record fun record =>
      if after.point = .closed then
        { record with subscribers := record.subscribers.erase reference }
      else record)
    (streams : next.streams = state.streams.modify reference fun _ => after) :
    Subscriptions next := by
  have here : next.streams.get? reference = some after := by
    rw [streams, Heap.get?_modify_self, located, Option.map_some]
  have elsewhere {other : Nat} (different : other ≠ reference) :
      next.streams.get? other = state.streams.get? other := by
    rw [streams, Heap.get?_modify_of_ne _ _ different]
  -- A record that is stored now, and the one that was.
  have record {other : Nat} {now : OperationRecord} (found : next.records.get? other = some now) :
      ∃ old, state.records.get? other = some old ∧ now.subscribers.Sublist old.subscribers := by
    rw [records, Heap.get?_modify] at found
    split at found
    next =>
      obtain ⟨old, stored, rfl⟩ := Option.map_eq_some_iff.mp found
      refine ⟨old, by simp_all, ?_⟩
      split
      next => exact List.erase_sublist
      next => exact .refl _
    next => exact ⟨now, found, .refl _⟩
  refine ⟨fun other now found => ?_, fun other now subscriber found member => ?_,
    fun subscriber current found open_ => ?_⟩
  · obtain ⟨old, stored, sub⟩ := record found
    exact (subscriptions.nodup other old stored).sublist sub
  · obtain ⟨old, stored, sub⟩ := record found
    obtain ⟨current, currentLocated, own, currentGoesOn⟩ :=
      subscriptions.subscribed other old subscriber stored (sub.subset member)
    by_cases this : subscriber = reference
    · subst this
      cases located.symm.trans currentLocated
      refine ⟨after, here, same.trans own, fun shut => ?_⟩
      rw [records, own, Heap.get?_modify_self, stored, Option.map_some, if_pos shut] at found
      cases found
      exact (subscriptions.nodup other old stored).not_mem_erase member
    · exact ⟨current, (elsewhere this).trans currentLocated, own, currentGoesOn⟩
  · rw [records, Heap.get?_modify]
    by_cases this : subscriber = reference
    · subst this
      cases here.symm.trans found
      obtain ⟨owner, stored, member⟩ :=
        subscriptions.listening subscriber stream located (goesOn open_)
      rw [same, if_pos rfl, stored]
      exact ⟨owner, by rw [Option.map_some, if_neg open_], member⟩
    · rw [elsewhere this] at found
      obtain ⟨owner, stored, member⟩ := subscriptions.listening subscriber current found open_
      rw [stored]
      split
      next =>
        refine ⟨_, rfl, ?_⟩
        split
        next => exact (List.mem_erase_of_ne this).mpr member
        next => exact member
      next => exact ⟨owner, rfl, member⟩

theorem resumeStream (subscriptions : Subscriptions state)
    (resumed : state.resumeStream reference = some next) : Subscriptions next := by
  obtain ⟨stream, record, located, _, records, streams, -⟩ := resumeStream_eq resumed
  exact subscriptions.advanced _ located (stream.resume_record record.status)
    (stream.goesOn_of_resume record.status) records streams

theorem closeStream (subscriptions : Subscriptions state)
    (closed : state.closeStream reference = some next) : Subscriptions next := by
  obtain ⟨stream, located, records, streams, -⟩ := closeStream_eq closed
  exact subscriptions.advanced { stream with point := .closed } located rfl
    (fun goesOn => (goesOn rfl).elim) (by simpa using records) streams

theorem inserted {record : OperationRecord} (subscriptions : Subscriptions state)
    (records : next.records = state.records.alloc record) (streams : next.streams = state.streams)
    (alone : record.subscribers = []) : Subscriptions next where
  nodup other now found := by
    rw [records, Heap.get?_alloc] at found
    split at found
    next =>
      cases found
      simp [alone]
    next => exact subscriptions.nodup other now found
  subscribed other now stream found member := by
    rw [streams]
    rw [records, Heap.get?_alloc] at found
    split at found
    next =>
      cases found
      simp [alone] at member
    next => exact subscriptions.subscribed other now stream found member
  listening stream subscriber found goesOn := by
    rw [streams] at found
    obtain ⟨owner, stored, member⟩ := subscriptions.listening stream subscriber found goesOn
    exact ⟨owner, records ▸ Heap.get?_alloc_of_get? record stored, member⟩

theorem logStep {event : Event} (subscriptions : Subscriptions state)
    (step : LogStep env state next event) : Subscriptions next := by
  cases step with
  | idle records streams => exact subscriptions.of_eq records streams
  | inserted records streams _ alone => exact subscriptions.inserted records streams alone
  | worked logs => exact logs.subscriptions subscriptions
  | launched broadcast => exact broadcast.subscriptions subscriptions
  | ended broadcast => exact broadcast.subscriptions subscriptions
  | completed _ _ _ broadcast => exact broadcast.subscriptions subscriptions

theorem step {event : Event} (lifecycle : Lifecycle none state)
    (subscriptions : Subscriptions state) (stepped : apiStep env state event = some next) :
    Subscriptions next := by
  cases event with
  | subscribe operationId =>
      obtain ⟨opened, openedFound, resumed⟩ := Option.bind_eq_some_iff.mp stepped
      exact (subscriptions.openStream openedFound).resumeStream resumed
  | pull reference => exact subscriptions.resumeStream stepped
  | closeStream reference => exact subscriptions.closeStream stepped
  | _ => exact subscriptions.logStep (apiStep_logStep lifecycle subscriptions stepped rfl)

theorem initial (clock : String) : Subscriptions (State.initial clock) := by
  constructor <;> intros <;> simp_all [State.initial]

end Subscriptions

/-- What a stream receives from a step that extends the log of one record. -/
theorem Broadcast.received {stream : Stream} (broadcast : Broadcast id events state next)
    (subscriptions : Subscriptions state) (located : next.streams.get? reference = some stream) :
    ∃ old, state.streams.get? reference = some old ∧ stream.record = old.record ∧
      stream.point = old.point ∧
      stream = if old.record = id ∧ old.point ≠ .closed then old.receiveAll (publications events)
        else old := by
  obtain ⟨old, oldLocated, sameRecord, samePoint⟩ := broadcast.stream located
  refine ⟨old, oldLocated, sameRecord, samePoint, ?_⟩
  rw [broadcast.streams, oldLocated, Option.map_some] at located
  rw [← Option.some.inj located]
  split
  next subscribed =>
    obtain ⟨record, stored, member⟩ := subscribed
    obtain ⟨same, sameLocated, own⟩ := subscriptions.subscribed id record reference stored member
    cases oldLocated.symm.trans sameLocated
    rw [if_pos own]
  next unsubscribed =>
    rw [if_neg]
    rintro ⟨rfl, goesOn⟩
    obtain ⟨record, stored, member⟩ := subscriptions.listening reference old oldLocated goesOn
    exact unsubscribed ⟨record, stored, member⟩

end GemEmulation.Api
