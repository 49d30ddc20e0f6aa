import GemEmulation.Api.Sentinels

/-!
# What a stream delivers

A stream yields the log buffer as its client found it, and then lines that are
published, in their order and each of them once.  A stream whose queue never
overflows misses none of them, unless their text is among the lines it began with.
-/

namespace GemEmulation.Api

open Foundations

variable {env : Environment} {state next : State} {reference id : Nat} {operationId : String}
  {events later : List LogEvent}

def linesOf (items : List (Option String)) : List String := items.filterMap fun item => item

def linesUntilEnd (items : List (Option String)) : List String :=
  linesOf (items.takeWhile Option.isSome)

theorem linesOf_append (first second : List (Option String)) :
    linesOf (first ++ second) = linesOf first ++ linesOf second := List.filterMap_append

theorem takeWhile_isSome {items : List (Option String)} (goesOn : none ∉ items) :
    items.takeWhile Option.isSome = items := by
  rw [List.takeWhile_eq_self_iff]
  intro item listed
  cases item with
  | none => exact absurd listed goesOn
  | some line => rfl

theorem linesUntilEnd_ended {front : List (Option String)} (goesOn : none ∉ front)
    (rest : List (Option String)) : linesUntilEnd (front ++ none :: rest) = linesOf front := by
  rw [linesUntilEnd, List.takeWhile_append_of_pos, List.takeWhile_cons_of_neg (by simp),
    List.append_nil]
  intro item listed
  cases item with
  | none => exact absurd listed goesOn
  | some line => rfl

theorem linesUntilEnd_append {items : List (Option String)} (ended : none ∈ items)
    (more : List (Option String)) : linesUntilEnd (items ++ more) = linesUntilEnd items := by
  obtain ⟨front, back, rfl, goesOn⟩ := List.eq_append_cons_of_mem ended
  rw [List.append_assoc, List.cons_append, linesUntilEnd_ended goesOn, linesUntilEnd_ended goesOn]

theorem linesUntilEnd_unended {items : List (Option String)} (goesOn : none ∉ items) :
    linesUntilEnd items = linesOf items := by rw [linesUntilEnd, takeWhile_isSome goesOn]

/-- What draining takes from a queue: lines that were seen, and then a new line, or the
sentinel, or nothing more. -/
theorem drain_eq (seen : List String) (queue : List (Option String)) :
    ∃ skipped, none ∉ skipped ∧ (∀ line ∈ linesOf skipped, line ∈ seen) ∧
      match Stream.drain seen queue with
      | (some line, rest) => queue = skipped ++ some line :: rest ∧ line ∉ seen
      | (none, rest) => queue = skipped ++ none :: rest ∨ queue = skipped ∧ rest = [] := by
  induction queue with
  | nil => exact ⟨[], by simp [linesOf, Stream.drain]⟩
  | cons item rest inductionHypothesis =>
      cases item with
      | none => exact ⟨[], by simp [linesOf, Stream.drain]⟩
      | some line =>
          by_cases known : line ∈ seen
          · rw [Stream.drain, if_pos known]
            obtain ⟨skipped, goesOn, allSeen, found⟩ := inductionHypothesis
            refine ⟨some line :: skipped, by simpa using goesOn, ?_, ?_⟩
            · intro other listed
              rcases List.mem_cons.mp (show other ∈ line :: linesOf skipped from listed) with
                rfl | old
              · exact known
              · exact allSeen other old
            · generalize Stream.drain seen rest = drained at found ⊢
              obtain ⟨_ | other, left⟩ := drained <;> simpa using found
          · rw [Stream.drain, if_neg known]
            exact ⟨[], by simp [linesOf, known]⟩

theorem Stream.resume_seen (status : OperationStatus) (stream : Stream) :
    (stream.resume status).seen = stream.seen := by
  unfold Stream.resume Stream.resumeDraining Stream.resumeLive
  repeat' split
  all_goals rfl

theorem Stream.receiveAll_seen (items : List (Option String)) (stream : Stream) :
    (stream.receiveAll items).seen = stream.seen := by
  induction items generalizing stream with
  | nil => rfl
  | cons item items inductionHypothesis => exact inductionHypothesis (stream.receive item)

/-- What a stream is doing, or was doing when it was closed. -/
inductive Phase where
  | replaying (remaining : List String)
  | waiting
  | draining

def Phase.point : Phase → StreamPoint
  | replaying remaining => .history remaining
  | waiting => .live
  | draining => .draining

/-- The lines that a stream has yielded after taking some items from its queue. -/
def Phase.Yields (stream : Stream) (taken : List (Option String)) : Phase → Prop
  | replaying remaining => taken = [] ∧ stream.seen = stream.yielded ++ remaining
  | waiting => stream.yielded = stream.seen ++ linesOf taken
  | draining => stream.yielded = stream.seen ++
      (linesOf taken).filter fun line => decide (line ∉ stream.seen)

/-- What a stream has taken from its queue and what is in it, of the items that it has
heard of; `complete` if none was dropped and the stream was not closed by its client. -/
structure Delivery (complete : Prop) (phase : Phase) (taken heard : List (Option String))
    (stream : Stream) : Prop where
  yields : phase.Yields stream taken
  point : stream.point = phase.point ∨ stream.point = .closed
  kept : (taken ++ stream.queue).Sublist heard
  whole : complete → taken ++ stream.queue = heard
  goesOn : stream.point ≠ .closed → none ∉ taken
  ended : complete → stream.point = .closed →
    (∃ front, taken = front ++ [none] ∧ none ∉ front) ∨
      phase = .draining ∧ none ∉ taken ∧ stream.queue = []

namespace Delivery

variable {complete : Prop} {phase : Phase} {taken heard : List (Option String)} {stream : Stream}

theorem receive (delivery : Delivery complete phase taken heard stream)
    (goesOn : stream.point ≠ .closed) (fits : complete → stream.queue.length < queueMaxsize)
    (item : Option String) : Delivery complete phase taken (heard ++ [item])
    (stream.receive item) where
  yields := by cases phase <;> exact delivery.yields
  point := delivery.point
  kept := by
    refine List.Sublist.trans ?_ (delivery.kept.append (List.Sublist.refl [item]))
    rw [List.append_assoc, Stream.receive, offer_eq]
    exact (List.Sublist.refl taken).append ((List.drop_sublist _ _).append (.refl _))
  whole holds := by
    rw [Stream.receive, offer_of_length_lt item (fits holds), ← List.append_assoc,
      delivery.whole holds]
  goesOn := delivery.goesOn
  ended _ closed := absurd closed goesOn

theorem receiveAll (delivery : Delivery complete phase taken heard stream)
    (goesOn : stream.point ≠ .closed) (items : List (Option String))
    (fits : complete → stream.queue.length + items.length ≤ queueMaxsize) :
    Delivery complete phase taken (heard ++ items) (stream.receiveAll items) := by
  induction items generalizing stream heard with
  | nil =>
      rw [List.append_nil]
      exact delivery
  | cons item items inductionHypothesis =>
      have room : complete → stream.queue.length < queueMaxsize := fun holds => by
        have := fits holds
        rw [List.length_cons] at this
        omega
      have first := delivery.receive goesOn room item
      rw [← List.singleton_append, ← List.append_assoc]
      apply inductionHypothesis first goesOn
      intro holds
      have queue : (stream.receive item).queue = stream.queue ++ [item] :=
        offer_of_length_lt item (room holds)
      have := fits holds
      rw [queue, List.length_append, List.length_singleton]
      rw [List.length_cons] at this
      omega

theorem resumeDraining (yields : Phase.draining.Yields stream taken)
    (kept : (taken ++ stream.queue).Sublist heard)
    (whole : complete → taken ++ stream.queue = heard)
    (goesOn : none ∉ taken) :
    ∃ taken, Delivery complete .draining taken heard stream.resumeDraining := by
  obtain ⟨skipped, unended, allSeen, found⟩ := drain_eq stream.seen stream.queue
  have nothing : (linesOf skipped).filter (fun line => decide (line ∉ stream.seen)) = [] := by
    rw [List.filter_eq_nil_iff]
    intro line listed
    simp [allSeen line listed]
  have same : stream.yielded = stream.seen ++
      (linesOf (taken ++ skipped)).filter fun line => decide (line ∉ stream.seen) := by
    rw [linesOf_append, List.filter_append, nothing, List.append_nil]
    exact yields
  unfold Stream.resumeDraining
  generalize Stream.drain stream.seen stream.queue = drained at found ⊢
  obtain ⟨_ | line, rest⟩ := drained
  · dsimp only at found ⊢
    obtain ended | ⟨empty, rfl⟩ := found
    · refine ⟨taken ++ skipped ++ [none], ?_, .inr rfl, ?_, fun holds => ?_, fun open_ => ?_,
        fun _ _ => .inl ⟨taken ++ skipped, rfl, by simp [goesOn, unended]⟩⟩
      · have none : linesOf [none] = [] := rfl
        rw [Phase.Yields, linesOf_append, none, List.append_nil]
        exact same
      · rw [ended] at kept
        simpa using kept
      · rw [← whole holds, ended]
        simp
      · exact absurd rfl open_
    · refine ⟨taken ++ skipped, ?_, .inr rfl, ?_, fun holds => ?_, fun open_ => absurd rfl open_,
        fun _ _ => .inr ⟨rfl, by simp [goesOn, unended], rfl⟩⟩
      · exact same
      · rw [empty] at kept
        simpa using kept
      · rw [← whole holds, empty]
        simp
  · dsimp only at found ⊢
    obtain ⟨split, new⟩ := found
    refine ⟨taken ++ skipped ++ [some line], ?_, .inl rfl, ?_, fun holds => ?_, fun _ => ?_,
      fun _ closed => by cases closed⟩
    · have one :
          (linesOf [some line]).filter (fun line => decide (line ∉ stream.seen)) = [line] := by
        simp [linesOf, new]
      rw [Phase.Yields, linesOf_append, List.filter_append, one, ← List.append_assoc, ← same]
    · rw [split] at kept
      simpa using kept
    · rw [← whole holds, split]
      simp
    · simp [goesOn, unended]

theorem resumeLive (yields : Phase.waiting.Yields stream taken)
    (kept : (taken ++ stream.queue).Sublist heard)
    (whole : complete → taken ++ stream.queue = heard)
    (goesOn : none ∉ taken) :
    ∃ taken, Delivery complete .waiting taken heard stream.resumeLive := by
  rw [Phase.Yields] at yields
  unfold Stream.resumeLive
  split
  next empty =>
    exact ⟨taken, yields, .inl rfl, kept, whole, fun _ => goesOn, fun _ closed => by cases closed⟩
  next rest ended =>
    rw [ended] at kept
    refine ⟨taken ++ [none], ?_, .inr rfl, by simpa using kept, fun holds => ?_,
      fun open_ => absurd rfl open_, fun _ _ => .inl ⟨taken, rfl, goesOn⟩⟩
    · have none : linesOf [none] = [] := rfl
      rw [Phase.Yields, linesOf_append, none, List.append_nil]
      exact yields
    · rw [← whole holds, ended]
      simp
  next line rest more =>
    rw [more] at kept
    refine ⟨taken ++ [some line], ?_, .inl rfl, by simpa using kept, fun holds => ?_, fun _ => ?_,
      fun _ closed => by cases closed⟩
    · have one : linesOf [some line] = [line] := rfl
      rw [Phase.Yields, linesOf_append, one, ← List.append_assoc, ← yields]
    · rw [← whole holds, more]
      simp
    · simpa using goesOn

theorem resume (delivery : Delivery complete phase taken heard stream) (status : OperationStatus) :
    ∃ later taken, Delivery complete later taken heard (stream.resume status) ∧
      (later = .draining → phase = .draining ∨ status.terminal = true) := by
  obtain ⟨yields, point, kept, whole, goesOn, ended⟩ := delivery
  by_cases closed : stream.point = .closed
  · have same : stream.resume status = stream := by rw [Stream.resume, closed]
    rw [same]
    exact ⟨phase, taken, ⟨yields, point, kept, whole, goesOn, ended⟩, .inl⟩
  · have unended := goesOn closed
    have at_ := point.resolve_right closed
    unfold Stream.resume
    cases phase with
    | replaying remaining =>
        rw [at_]
        obtain ⟨rfl, seen⟩ := yields
        cases remaining with
        | nil =>
            rw [List.append_nil] at seen
            dsimp only [Phase.point]
            split
            next terminal =>
              have drains : Phase.draining.Yields stream [] := by simp [Phase.Yields, linesOf, seen]
              obtain ⟨taken, drained⟩ := resumeDraining drains kept whole unended
              exact ⟨.draining, taken, drained, fun _ => .inr terminal⟩
            next =>
              have waits : Phase.waiting.Yields stream [] := by simp [Phase.Yields, linesOf, seen]
              obtain ⟨taken, waited⟩ := resumeLive waits kept whole unended
              exact ⟨.waiting, taken, waited, fun drains => by cases drains⟩
        | cons line rest =>
            dsimp only [Phase.point]
            exact ⟨.replaying rest, [], ⟨⟨rfl, by simpa using seen⟩, .inl rfl, kept, whole,
              fun _ => unended, fun _ shut => by cases shut⟩, fun drains => by cases drains⟩
    | waiting =>
        rw [at_]
        obtain ⟨taken, waited⟩ := resumeLive yields kept whole unended
        exact ⟨.waiting, taken, waited, fun drains => by cases drains⟩
    | draining =>
        rw [at_]
        obtain ⟨taken, drained⟩ := resumeDraining yields kept whole unended
        exact ⟨.draining, taken, drained, .inl⟩

theorem close (delivery : Delivery complete phase taken heard stream) (gaveUp : ¬complete) :
    Delivery complete phase taken heard { stream with point := .closed } where
  yields := by cases phase <;> exact delivery.yields
  point := .inr rfl
  kept := delivery.kept
  whole := delivery.whole
  goesOn shut := absurd rfl shut
  ended holds := absurd holds gaveUp

/-- What a stream has yielded: the lines that it began with as far as they were replayed,
or all of them and then lines that it heard of, in their order and each once. -/
theorem inOrder (delivery : Delivery complete phase taken heard stream) :
    (∃ remaining, stream.seen = stream.yielded ++ remaining) ∨
      ∃ lines, stream.yielded = stream.seen ++ lines ∧ lines.Sublist (linesOf heard) := by
  have sub : (linesOf taken).Sublist (linesOf heard) :=
    ((List.sublist_append_left taken stream.queue).trans delivery.kept).filterMap _
  have yields := delivery.yields
  cases phase with
  | replaying remaining => exact .inl ⟨remaining, yields.2⟩
  | waiting => exact .inr ⟨_, yields, sub⟩
  | draining => exact .inr ⟨_, yields, List.filter_sublist.trans sub⟩

/-- A stream that missed nothing and has ended has yielded every line before the end, or, when
it was drained, every such line that it did not begin with. -/
theorem exact (delivery : Delivery complete phase taken heard stream) (holds : complete)
    (closed : stream.point = .closed) :
    stream.yielded = stream.seen ++ linesUntilEnd heard ∨
      stream.yielded = stream.seen ++
        (linesUntilEnd heard).filter fun line => decide (line ∉ stream.seen) := by
  have lines : linesUntilEnd heard = linesOf taken ∧ (phase = .waiting ∨ phase = .draining) := by
    rw [← delivery.whole holds]
    obtain ⟨front, rfl, unended⟩ | ⟨drained, unended, empty⟩ := delivery.ended holds closed
    · refine ⟨?_, ?_⟩
      · rw [List.append_assoc, List.singleton_append, linesUntilEnd_ended unended, linesOf_append]
        exact (List.append_nil _).symm
      · cases phase with
        | replaying remaining => exact absurd delivery.yields.1 (by simp)
        | waiting => exact .inl rfl
        | draining => exact .inr rfl
    · rw [empty, List.append_nil, linesUntilEnd_unended unended]
      exact ⟨rfl, .inr drained⟩
  have yields := delivery.yields
  rw [lines.1]
  rcases lines.2 with rfl | rfl
  · exact .inl yields
  · exact .inr yields

end Delivery

theorem publications_append (first second : List LogEvent) :
    publications (first ++ second) = publications first ++ publications second :=
  List.filterMap_append

theorem publishedLines_eq (events : List LogEvent) :
    publishedLines events = linesOf (publications events) := by
  induction events with
  | nil => rfl
  | cons event events inductionHypothesis =>
      cases event with
      | appended line => exact inductionHypothesis
      | published item =>
          cases item with
          | none => exact inductionHypothesis
          | some line => exact congrArg (line :: ·) inductionHypothesis

/-- The queue of a stream has room for what a step publishes. -/
def QueueFits (env : Environment) (reference : Nat) (state : State) (event : Event) : Prop :=
  ∀ stream next before after, state.streams.get? reference = some stream →
    apiStep env state event = some next → state.history stream.record = some before →
    next.history stream.record = some after →
    stream.queue.length + (publications after).length ≤ queueMaxsize + (publications before).length

/-- The client takes lines before the queue overflows, and does not close its stream. -/
def KeepsUp (env : Environment) (reference : Nat) (state : State) (event : Event) : Prop :=
  QueueFits env reference state event ∧ event ≠ .closeStream reference

/-- The life of a record goes on under its id, and does not come back from its end. -/
def LivesOn (id : Nat) (state next : State) : Prop :=
  ∀ life, state.life id = some life → ∃ after, next.life id = some after ∧
    after.operationId = life.operationId ∧
      (life.status.terminal = true → after.status.terminal = true)

theorem LivesOn.of_sameLife (id : Nat) (same : state.SameLife next) : LivesOn id state next :=
  fun life found => ⟨life, (congrFun same.life id).trans found, rfl, fun terminal => terminal⟩

theorem LogStep.livesOn {event : Event} (step : LogStep env state next event)
    (lifecycle : Lifecycle none state) (stepped : apiStep env state event = some next) :
    LivesOn id state next := by
  have onlyOne {other : Nat} {life after : Life} (only : LifeOnly other state next)
      (found : state.life other = some life) (afterFound : next.life other = some after)
      (sameId : after.operationId = life.operationId) : LivesOn id state next := by
    intro old oldFound
    by_cases here : id = other
    · subst here
      cases found.symm.trans oldFound
      refine ⟨after, afterFound, sameId, fun terminal => ?_⟩
      cases afterFound.symm.trans (lifecycle.apiStep_life stepped found terminal)
      exact terminal
    · exact ⟨old, (only id here).trans oldFound, rfl, fun terminal => terminal⟩
  cases step with
  | idle records streams => exact fun life found =>
      ⟨life, life_of_records records ▸ found, rfl, fun terminal => terminal⟩
  | @inserted event new request records streams =>
      intro life found
      obtain ⟨old, stored, rfl⟩ := Option.map_eq_some_iff.mp found
      refine ⟨_, ?_, rfl, fun terminal => terminal⟩
      rw [State.life, records, Heap.get?_alloc_of_get? new stored, Option.map_some]
  | worked _ only found _ _ after _ _ sameId => exact onlyOne only found after sameId
  | launched _ only found _ _ after _ _ sameId => exact onlyOne only found after sameId
  | ended _ _ _ _ _ only found _ after _ sameId => exact onlyOne only found after sameId
  | completed _ _ _ _ _ _ only found _ after _ _ sameId => exact onlyOne only found after sameId

/-- What a stream has heard of and delivered since its record was as it was. -/
structure Hearing (complete : Prop) (id : Nat) (record : OperationRecord) (since : List LogEvent)
    (stream : Stream) (state : State) (phase : Phase) (taken heard : List (Option String)) :
    Prop where
  delivery : Delivery complete phase taken heard stream
  heardBefore : heard.IsPrefix (publications since)
  heardAll : stream.point ≠ .closed → heard = publications since
  lives : ∃ life, state.life id = some life ∧ life.operationId = record.operationId ∧
    (phase = .draining → life.status.terminal = true)
  finished : complete → stream.point = .closed → none ∈ heard ∨ record.status.terminal = true

variable {complete : Prop} {record : OperationRecord} {since : List LogEvent} {stream : Stream}

theorem Hearing.livesOn {phase : Phase} {taken heard : List (Option String)}
    (hearing : Hearing complete id record since stream state phase taken heard)
    (livesOn : LivesOn id state next) : ∃ life, next.life id = some life ∧
      life.operationId = record.operationId ∧
        (phase = .draining → life.status.terminal = true) := by
  obtain ⟨life, found, named, drained⟩ := hearing.lives
  obtain ⟨after, afterFound, same, lasting⟩ := livesOn life found
  exact ⟨after, afterFound, same.trans named, fun drains => lasting (drained drains)⟩

/-- A stream that was opened for a record as it was at that time. -/
structure Followed (complete : Prop) (reference id : Nat) (record : OperationRecord)
    (since : List LogEvent) (stream : Stream) (state : State) : Prop where
  located : state.streams.get? reference = some stream
  own : stream.record = id
  seen : stream.seen = record.logBuffer
  history : state.history id = some (record.history ++ since)
  hearing : ∃ phase taken heard, Hearing complete id record since stream state phase taken heard

namespace Followed

theorem kept (followed : Followed complete reference id record since stream state)
    (livesOn : LivesOn id state next)
    (streams : next.streams.get? reference = state.streams.get? reference)
    (history : next.history id = state.history id) :
    Followed complete reference id record since stream next := by
  obtain ⟨phase, taken, heard, hearing⟩ := followed.hearing
  exact ⟨streams.trans followed.located, followed.own, followed.seen,
    history.trans followed.history, phase, taken, heard,
    { hearing with lives := hearing.livesOn livesOn }⟩

theorem extend {other : Nat} (followed : Followed complete reference id record since stream state)
    (livesOn : LivesOn id state next) (subscriptions : Subscriptions state)
    (broadcast : Broadcast other events state next)
    (fits : complete → other = id →
      stream.queue.length + (publications events).length ≤ queueMaxsize) :
    ∃ since stream, Followed complete reference id record since stream next := by
  have logged : next.history id =
      if id = other then (state.history other).map (· ++ events) else state.history id :=
    broadcast.history id
  obtain ⟨after, located⟩ : ∃ after, next.streams.get? reference = some after := by
    rw [broadcast.streams, followed.located]
    exact ⟨_, rfl⟩
  obtain ⟨old, oldLocated, sameRecord, samePoint, received⟩ :=
    broadcast.received subscriptions located
  cases followed.located.symm.trans oldLocated
  obtain ⟨phase, taken, heard, hearing⟩ := followed.hearing
  by_cases here : id = other
  · subst here
    rw [if_pos rfl, followed.history, Option.map_some, List.append_assoc] at logged
    by_cases closed : stream.point = .closed
    · have same : after = stream := received.trans (if_neg fun both => both.2 closed)
      subst same
      refine ⟨_, after, located, followed.own, followed.seen, logged, phase, taken, heard,
        hearing.delivery, ?_, fun goesOn => absurd closed goesOn, hearing.livesOn livesOn,
        hearing.finished⟩
      rw [publications_append]
      exact hearing.heardBefore.trans (List.prefix_append _ _)
    · have same : after = stream.receiveAll (publications events) :=
        received.trans (if_pos ⟨followed.own, closed⟩)
      subst same
      have seen : (stream.receiveAll (publications events)).seen = stream.seen :=
        stream.receiveAll_seen (publications events)
      have all : heard ++ publications events = publications (since ++ events) := by
        rw [publications_append, hearing.heardAll closed]
      exact ⟨_, _, located, sameRecord.trans followed.own, seen.trans followed.seen, logged, phase,
        taken, heard ++ publications events,
        hearing.delivery.receiveAll closed _ fun holds => fits holds rfl, all ▸ List.prefix_rfl,
        fun _ => all, hearing.livesOn livesOn,
        fun _ shut => absurd (samePoint.symm.trans shut) closed⟩
  · have same : after = stream :=
      received.trans (if_neg fun both => here (followed.own.symm.trans both.1))
    subst same
    rw [if_neg here] at logged
    exact ⟨since, after, followed.kept livesOn (located.trans oldLocated.symm) logged⟩

theorem logStep {event : Event} (followed :
    Followed complete reference id record since stream state)
    (sound : LogsSound env state) (fits : complete → QueueFits env reference state event)
    (stepped : apiStep env state event = some next) (step : LogStep env state next event) :
    ∃ since stream, Followed complete reference id record since stream next := by
  have livesOn : LivesOn id state next := step.livesOn sound.lifecycle stepped
  have room {other : Nat} {events : List LogEvent} (broadcast : Broadcast other events state next)
      (holds : complete) (same : other = id) :
      stream.queue.length + (publications events).length ≤ queueMaxsize := by
    have logged : next.history id =
        if id = other then (state.history other).map (· ++ events) else state.history id :=
      broadcast.history id
    rw [if_pos same.symm, same, followed.history, Option.map_some] at logged
    have enough := fits holds stream next _ _ followed.located stepped
      (followed.own.symm ▸ followed.history) (followed.own.symm ▸ logged)
    rw [publications_append _ events, List.length_append] at enough
    omega
  have extended {other : Nat} {events : List LogEvent}
      (broadcast : Broadcast other events state next) :
      ∃ since stream, Followed complete reference id record since stream next :=
    followed.extend livesOn sound.subscriptions broadcast (room broadcast)
  cases step with
  | idle records streams =>
      exact ⟨since, stream, followed.kept livesOn (by rw [streams])
        (by rw [State.history, State.history, records])⟩
  | @inserted event new request records streams =>
      refine ⟨since, stream, followed.kept livesOn (by rw [streams]) ?_⟩
      obtain ⟨old, stored, -⟩ := Option.map_eq_some_iff.mp followed.history
      rw [State.history, State.history, records, Heap.get?_alloc_of_get? new stored, stored]
  | worked logs => exact extended logs.toBroadcast
  | launched broadcast => exact extended broadcast
  | ended broadcast => exact extended broadcast
  | completed _ _ _ broadcast => exact extended broadcast

theorem openStream (followed : Followed complete reference id record since stream state)
    (opened : state.openStream operationId = some next) :
    Followed complete reference id record since stream next := by
  obtain ⟨_, _, _, _, streams, -⟩ := openStream_eq opened
  refine followed.kept (.of_sameLife id (sameLife_openStream opened)) ?_
    (congrFun (history_openStream opened) id)
  rw [streams, Heap.get?_alloc_of_get? _ followed.located, followed.located]

/-- The stream of an operation that went on when it was opened does not end without the
sentinel. -/
theorem heard_sentinel {life : Life} {heard : List (Option String)}
    (followed : Followed complete reference id record since stream state)
    (ends : EndsOnce env state) (paths : PathsFound env record.operationId)
    (began : Unended record.history) (found : state.life id = some life)
    (named : life.operationId = record.operationId) (terminal : life.status.terminal = true)
    (heardAll : heard = publications since) : none ∈ heard := by
  obtain ⟨front, ending, back, split, -, -, published, -⟩ :=
    ends.concluded id life _ found followed.history terminal
  obtain ⟨rfl, -⟩ := published (named ▸ paths)
  have ended : LogEvent.published none ∈ record.history ++ since := by
    rw [split]
    simp
  rw [heardAll, publications, List.mem_filterMap]
  exact ⟨_, (List.mem_append.mp ended).resolve_left began, rfl⟩

theorem resumeStream {other : Nat}
    (followed : Followed complete reference id record since stream state)
    (ends : EndsOnce env state) (began : complete → PathsFound env record.operationId ∧
      (record.status.terminal = true ∨ Unended record.history))
    (resumed : state.resumeStream other = some next) :
    ∃ stream, Followed complete reference id record since stream next := by
  obtain ⟨turned, owner, located, stored, _, streams, -⟩ := resumeStream_eq resumed
  have history := congrFun (history_resumeStream resumed) id
  have livesOn : LivesOn id state next := .of_sameLife id (sameLife_resumeStream resumed)
  by_cases same : reference = other
  · subst same
    cases followed.located.symm.trans located
    obtain ⟨phase, taken, heard, hearing⟩ := followed.hearing
    obtain ⟨later, takenLater, delivery, drains⟩ := hearing.delivery.resume owner.status
    obtain ⟨life, found, named, drained⟩ := hearing.lives
    obtain ⟨after, afterFound, sameId, lasting⟩ := livesOn life found
    have ended (isDraining : later = .draining) : life.status.terminal = true := by
      rcases drains isDraining with before | terminal
      · exact drained before
      · rw [followed.own] at stored
        cases found.symm.trans (State.life_of_record stored)
        exact terminal
    refine ⟨stream.resume owner.status, ?_, (stream.resume_record _).trans followed.own,
      (stream.resume_seen _).trans followed.seen, history.trans followed.history, later, takenLater,
      heard, delivery, hearing.heardBefore,
      fun goesOn => hearing.heardAll (stream.goesOn_of_resume _ goesOn),
      ⟨after, afterFound, sameId.trans named, fun isDraining => lasting (ended isDraining)⟩,
      fun holds closed => ?_⟩
    · rw [streams, Heap.get?_modify_self, located, Option.map_some]
    · by_cases was : stream.point = .closed
      · exact hearing.finished holds was
      · obtain ⟨front, rfl, -⟩ | ⟨isDraining, -, -⟩ := delivery.ended holds closed
        · refine .inl ?_
          rw [← delivery.whole holds]
          simp
        · obtain ⟨paths, terminal | unended⟩ := began holds
          · exact .inr terminal
          · exact .inl (followed.heard_sentinel ends paths unended found named (ended isDraining)
              (hearing.heardAll was))
  · exact ⟨stream, followed.kept livesOn (by rw [streams, Heap.get?_modify_of_ne _ _ same]) history⟩

theorem closeStream {other : Nat}
    (followed : Followed complete reference id record since stream state)
    (closed : state.closeStream other = some next) (allowed : complete → other ≠ reference) :
    ∃ stream, Followed complete reference id record since stream next := by
  obtain ⟨turned, located, _, streams, -⟩ := closeStream_eq closed
  have history := congrFun (history_closeStream closed) id
  have livesOn : LivesOn id state next := .of_sameLife id (sameLife_closeStream closed)
  by_cases same : reference = other
  · subst same
    cases followed.located.symm.trans located
    obtain ⟨phase, taken, heard, hearing⟩ := followed.hearing
    refine ⟨{ stream with point := .closed }, ?_, followed.own, followed.seen,
      history.trans followed.history, phase, taken, heard,
      hearing.delivery.close fun holds => allowed holds rfl, hearing.heardBefore,
      fun goesOn => absurd rfl goesOn, hearing.livesOn livesOn,
      fun holds => absurd rfl (allowed holds)⟩
    rw [streams, Heap.get?_modify_self, located, Option.map_some]
  · exact ⟨stream, followed.kept livesOn (by rw [streams, Heap.get?_modify_of_ne _ _ same]) history⟩

theorem step {event : Event} (followed : Followed complete reference id record since stream state)
    (sound : LogsSound env state) (began : complete → PathsFound env record.operationId ∧
      (record.status.terminal = true ∨ Unended record.history))
    (allowed : complete → KeepsUp env reference state event)
    (stepped : apiStep env state event = some next) :
    ∃ since stream, Followed complete reference id record since stream next := by
  cases event with
  | subscribe operationId =>
      obtain ⟨opened, openedFound, resumed⟩ := Option.bind_eq_some_iff.mp stepped
      exact ⟨since, (followed.openStream openedFound).resumeStream
        (sound.ends.openStream openedFound)
        began resumed⟩
  | pull other => exact ⟨since, followed.resumeStream sound.ends began stepped⟩
  | closeStream other =>
      exact ⟨since, followed.closeStream stepped fun holds same => (allowed holds).2 (by rw [same])⟩
  | _ =>
      exact followed.logStep sound (fun holds => (allowed holds).1) stepped
        (apiStep_logStep sound.lifecycle sound.subscriptions stepped rfl)

theorem opened {clock : String} {before after : State} {record : OperationRecord}
    {beforeEvents laterEvents : List Event} (complete : Prop) (found : DirectoryFound env)
    (run : Run (apiStep env) Anything (State.initial clock) beforeEvents before)
    (listed : before.find? operationId = some (id, record))
    (subscribed : apiStep env before (.subscribe operationId) = some after)
    (began : complete → PathsFound env record.operationId ∧ record.status.active = true)
    (later : Run (apiStep env)
      (fun state event => complete → KeepsUp env before.streams.fresh state event)
      after laterEvents state) :
    ∃ since stream, Followed complete before.streams.fresh id record since stream state := by
  have sound := LogsSound.of_run found run
  obtain ⟨opened, openedFound, resumed⟩ := Option.bind_eq_some_iff.mp subscribed
  obtain ⟨_, listedRecord⟩ := State.find?_eq_some.mp listed
  have same := sameLife_openStream openedFound
  have history := history_openStream openedFound
  have lives := State.life_of_record listedRecord
  have logged : before.history id = some record.history := by
    rw [State.history, listedRecord, Option.map_some]
  have goesOn (holds : complete) : PathsFound env record.operationId ∧
      (record.status.terminal = true ∨ Unended record.history) :=
    ⟨(began holds).1, .inr (sound.ends.goesOn id record.life _ lives logged (began holds).2)⟩
  have start : Followed complete before.streams.fresh id record []
      (Stream.subscribe id record.logBuffer) opened := by
    refine ⟨?_, rfl, rfl, ?_, .replaying record.logBuffer, [], [], ?_⟩
    · obtain ⟨_, again, rfl⟩ := Option.map_eq_some_iff.mp openedFound
      cases listed.symm.trans again
      exact Heap.get?_alloc_fresh _ _
    · rw [history, logged, List.append_nil]
    · refine ⟨⟨⟨rfl, rfl⟩, .inl rfl, .slnil, fun _ => rfl, fun _ => List.not_mem_nil,
        fun _ closed => by cases closed⟩, List.prefix_rfl, fun _ => rfl, ?_,
        fun _ closed => by cases closed⟩
      exact ⟨record.life, (congrFun same.life id).trans lives, rfl, fun drains => by cases drains⟩
  let Invariant (state : State) := LogsSound env state ∧
    ∃ since stream, Followed complete before.streams.fresh id record since stream state
  have first : Invariant after := by
    obtain ⟨stream, followed⟩ :=
      start.resumeStream (sound.ends.openStream openedFound) goesOn resumed
    exact ⟨sound.step found subscribed, [], stream, followed⟩
  refine (later.invariant first ?_).2
  rintro state next event ⟨sound, since, stream, followed⟩ allowed stepped
  exact ⟨sound.step found stepped, followed.step sound goesOn allowed stepped⟩

end Followed

section Results

variable {clock : String} {before after : State} {record : OperationRecord} {stream : Stream}
  {beforeEvents laterEvents : List Event}

/-- Whatever a client and the API do, a stream has yielded the log buffer that it found, or
the beginning of it, and then lines that were published since, in their order. -/
theorem stream_inOrder (found : DirectoryFound env)
    (run : Run (apiStep env) Anything (State.initial clock) beforeEvents before)
    (listed : before.find? operationId = some (id, record))
    (subscribed : apiStep env before (.subscribe operationId) = some after)
    (later : Run (apiStep env) Anything after laterEvents state) :
    ∃ stream, state.streams.get? before.streams.fresh = some stream ∧
      ((∃ remaining, record.logBuffer = stream.yielded ++ remaining) ∨
        ∃ since lines, state.history id = some (record.history ++ since) ∧
          stream.yielded = record.logBuffer ++ lines ∧ lines.Sublist (publishedLines since)) := by
  obtain ⟨since, stream, followed⟩ := Followed.opened False found run listed subscribed nofun
    (later.weaken fun _ _ _ => nofun)
  refine ⟨stream, followed.located, ?_⟩
  obtain ⟨phase, taken, heard, hearing⟩ := followed.hearing
  rw [← followed.seen]
  obtain replaying | ⟨lines, yielded, ordered⟩ := hearing.delivery.inOrder
  · exact .inl replaying
  · refine .inr ⟨since, lines, followed.history, yielded, ?_⟩
    rw [publishedLines_eq]
    exact ordered.trans (hearing.heardBefore.sublist.filterMap _)

/-- A stream of an operation that went on ends only after the end was published.  When its
client kept up, it has yielded the log buffer and every line that was published before the end,
or every such line that is not in the buffer. -/
theorem stream_complete (found : DirectoryFound env)
    (run : Run (apiStep env) Anything (State.initial clock) beforeEvents before)
    (listed : before.find? operationId = some (id, record)) (active : record.status.active = true)
    (valid : validOperationId record.operationId = true)
    (subscribed : apiStep env before (.subscribe operationId) = some after)
    (later : Run (apiStep env) (KeepsUp env before.streams.fresh) after laterEvents state)
    (located : state.streams.get? before.streams.fresh = some stream)
    (closed : stream.point = .closed) :
    ∃ since, state.history id = some (record.history ++ since) ∧ none ∈ publications since ∧
      (stream.yielded = record.logBuffer ++ linesUntilEnd (publications since) ∨
        stream.yielded = record.logBuffer ++ (linesUntilEnd (publications since)).filter
          fun line => decide (line ∉ record.logBuffer)) := by
  obtain ⟨since, current, followed⟩ := Followed.opened True found run listed subscribed
    (fun _ => ⟨found.paths valid, active⟩) (later.weaken fun _ _ keeps _ => keeps)
  cases located.symm.trans followed.located
  obtain ⟨phase, taken, heard, hearing⟩ := followed.hearing
  have ended : none ∈ heard := by
    apply (hearing.finished trivial closed).resolve_right
    intro terminal
    simp [OperationStatus.terminal_eq_not_active, active] at terminal
  obtain ⟨more, all⟩ := hearing.heardBefore
  refine ⟨since, followed.history, all ▸ List.mem_append_left more ended, ?_⟩
  rw [← all, linesUntilEnd_append ended, ← followed.seen]
  exact hearing.delivery.exact trivial closed

/-- The check that a client keeps up, for a stream whose record is stored. -/
def keepsUp (env : Environment) (reference : Nat) (state : State) (event : Event) : Bool :=
  (match state.streams.get? reference, apiStep env state event with
    | some stream, some next =>
        match state.history stream.record, next.history stream.record with
        | some before, some after => decide (stream.queue.length + (publications after).length ≤
            queueMaxsize + (publications before).length)
        | _, _ => true
    | _, _ => true) && event != .closeStream reference

theorem keepsUp_of_check (state : State) (event : Event)
    (checked : keepsUp env reference state event = true) : KeepsUp env reference state event := by
  obtain ⟨fits, open_⟩ := Bool.and_eq_true_iff.mp checked
  refine ⟨fun stream next before after located stepped old new => ?_, by simpa using open_⟩
  rw [located, stepped] at fits
  dsimp only at fits
  rw [old, new] at fits
  exact of_decide_eq_true fits

def launchedTeardown : List Event := [.request workstationTeardown, .handlerTurn 0, .handlerTurn 0]

/-- The client waits for lines, the teardown is cancelled, and the client takes what is left. -/
def followedToTheEnd : List Event :=
  [.pull 0, .cancel workstationId, .handlerTurn 1, .pull 0, .pull 0]

theorem followed_teardown : ∃ before record after state stream,
    execute (apiStep (.working false 10)) (.initial "") launchedTeardown = some before ∧
    before.find? workstationId = some (0, record) ∧ before.streams.fresh = 0 ∧
    record.status.active = true ∧ validOperationId record.operationId = true ∧
    apiStep (.working false 10) before (.subscribe workstationId) = some after ∧
    executeChecked (apiStep (.working false 10)) (keepsUp (.working false 10) 0) after
      followedToTheEnd = some state ∧
    state.streams.get? 0 = some stream ∧ stream.point = .closed := by
  have check : (do
      let before ← execute (apiStep (.working false 10)) (.initial "") launchedTeardown
      let found ← before.find? workstationId
      let after ← apiStep (.working false 10) before (.subscribe workstationId)
      let state ← executeChecked (apiStep (.working false 10)) (keepsUp (.working false 10) 0) after
        followedToTheEnd
      let stream ← state.streams.get? 0
      pure (decide (found.1 = 0 ∧ before.streams.fresh = 0 ∧ found.2.status.active = true ∧
        validOperationId found.2.operationId = true ∧ stream.point = .closed))) = some true := by
    decide
  obtain ⟨before, launched, check⟩ := Option.bind_eq_some_iff.mp check
  obtain ⟨⟨id, record⟩, listed, check⟩ := Option.bind_eq_some_iff.mp check
  obtain ⟨after, subscribed, check⟩ := Option.bind_eq_some_iff.mp check
  obtain ⟨state, followed, check⟩ := Option.bind_eq_some_iff.mp check
  obtain ⟨stream, located, check⟩ := Option.bind_eq_some_iff.mp check
  obtain ⟨rfl, fresh, active, valid, closed⟩ := of_decide_eq_true (Option.some.inj check)
  exact ⟨before, record, after, state, stream, launched, listed, fresh, active, valid, subscribed,
    followed, located, closed⟩

theorem stream_inOrder_cancelled :
    ∃ (state : State) (record : OperationRecord) (stream : Stream),
      state.streams.get? 0 = some stream ∧
      ((∃ remaining, record.logBuffer = stream.yielded ++ remaining) ∨
        ∃ since lines, state.history 0 = some (record.history ++ since) ∧
          stream.yielded = record.logBuffer ++ lines ∧ lines.Sublist (publishedLines since)) := by
  obtain ⟨before, record, after, state, _, launched, listed, fresh, -, -, subscribed,
    followed, -⟩ :=
    followed_teardown
  obtain ⟨stream, located, ordered⟩ := stream_inOrder (directoryFound_working false 10)
    (run_of_execute launched) listed subscribed
    ((run_of_executeChecked keepsUp_of_check followed).weaken fun _ _ _ => trivial)
  exact ⟨state, record, stream, fresh ▸ located, ordered⟩

theorem stream_complete_cancelled :
    ∃ (state : State) (record : OperationRecord) (stream : Stream),
      state.streams.get? 0 = some stream ∧ stream.point = .closed ∧
      ∃ since, state.history 0 = some (record.history ++ since) ∧ none ∈ publications since ∧
        (stream.yielded = record.logBuffer ++ linesUntilEnd (publications since) ∨
          stream.yielded = record.logBuffer ++ (linesUntilEnd (publications since)).filter
            fun line => decide (line ∉ record.logBuffer)) := by
  obtain ⟨before, record, after, state, stream, launched, listed, fresh, active, valid, subscribed,
    followed, located, closed⟩ := followed_teardown
  refine ⟨state, record, stream, located, closed, ?_⟩
  rw [← fresh] at followed located
  exact stream_complete (directoryFound_working false 10) (run_of_execute launched) listed active
    valid subscribed (run_of_executeChecked keepsUp_of_check followed) located closed

end Results

end GemEmulation.Api
