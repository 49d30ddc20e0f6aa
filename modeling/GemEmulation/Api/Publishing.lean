import GemEmulation.Foundations.Runs
import GemEmulation.Api.Streams

/-!
# Publishing to bounded queues

The retry loop of `_publish` on one queue, and the subscribers of a record while lines
are published and taken in any order.
-/

namespace GemEmulation.Foundations

universe u

structure Consumer (Item : Type u) where
  queue : List Item
  received : List Item

inductive QueueEvent (Item : Type u) where
  | publish (item : Item)
  | get (consumer : Nat)

structure Feed (Item : Type u) where
  published : List Item
  consumers : List (Consumer Item)

variable {Item : Type u}

/-- `put_nowait`; `none` is `QueueFull`. -/
def putNowait (maxsize : Nat) (item : Item) (queue : List Item) : Option (List Item) :=
  if 0 < maxsize ∧ maxsize ≤ queue.length then none else some (queue ++ [item])

/-- `get_nowait`; `none` is `QueueEmpty`. -/
def getNowait : List Item → Option (Item × List Item)
  | [] => none
  | oldest :: rest => some (oldest, rest)

/-- The loop of `_publish` for one queue, with as many turns as there is fuel. -/
def publishLoop (maxsize : Nat) (item : Item) : Nat → List Item → Option (List Item)
  | 0, _ => none
  | fuel + 1, queue =>
      match putNowait maxsize item queue with
      | some queue => some queue
      | none =>
          match getNowait queue with
          | some (_, rest) => publishLoop maxsize item fuel rest
          | none => some queue

def lastItems (count : Nat) (items : List Item) : List Item := items.drop (items.length - count)

/-- The loop ends within as many turns as the queue has items and one more. -/
theorem publishLoop_eq_offer {maxsize : Nat} (positive : 1 ≤ maxsize) (item : Item)
    (queue : List Item) {fuel : Nat} (enough : queue.length < fuel) :
    publishLoop maxsize item fuel queue = some (offer maxsize item queue) := by
  induction queue generalizing fuel with
  | nil =>
      obtain ⟨fuel, rfl⟩ := Nat.exists_eq_succ_of_ne_zero (Nat.ne_zero_of_lt enough)
      have room : ¬ (0 < maxsize ∧ maxsize ≤ ([] : List Item).length) := by
        simp only [List.length_nil]
        omega
      rw [publishLoop, putNowait, if_neg room]
      rfl
  | cons oldest rest inductionHypothesis =>
      obtain ⟨fuel, rfl⟩ := Nat.exists_eq_succ_of_ne_zero (Nat.ne_zero_of_lt enough)
      simp only [List.length_cons] at enough
      simp only [publishLoop, putNowait, offer]
      by_cases full : maxsize ≤ (oldest :: rest).length
      · rw [if_pos ⟨positive, full⟩, if_neg (Nat.not_lt.mpr full)]
        exact inductionHypothesis (by omega)
      · rw [if_neg (fun both => full both.2), if_pos (Nat.lt_of_not_le full)]

theorem offer_eq_lastItems {maxsize : Nat} (positive : 1 ≤ maxsize) (item : Item)
    (queue : List Item) :
    offer maxsize item queue = lastItems (min maxsize (queue.length + 1)) (queue ++ [item]) := by
  have kept : (queue ++ [item]).length - min maxsize (queue.length + 1) =
      queue.length + 1 - maxsize := by
    rw [List.length_append, List.length_singleton]
    omega
  rw [lastItems, kept, offer_eq, List.drop_append_of_le_length (by omega)]

namespace Feed

def initial (count : Nat) : Feed Item := ⟨[], List.replicate count ⟨[], []⟩⟩

def take (consumer : Consumer Item) : Option (Consumer Item) :=
  (getNowait consumer.queue).map fun (item, rest) => ⟨rest, consumer.received ++ [item]⟩

def step (maxsize : Nat) (feed : Feed Item) : QueueEvent Item → Option (Feed Item)
  | .publish item =>
      (feed.consumers.mapM fun consumer =>
        (publishLoop maxsize item (consumer.queue.length + 1) consumer.queue).map fun queue =>
          { consumer with queue }).map fun consumers => ⟨feed.published ++ [item], consumers⟩
  | .get place => do
      let consumer ← feed.consumers[place]?
      let taken ← take consumer
      some { feed with consumers := feed.consumers.set place taken }

/-- What holds of a consumer: its queue is bounded, nothing is reordered or repeated, and the
newest item is there. -/
structure Served (maxsize : Nat) (published : List Item) (consumer : Consumer Item) : Prop where
  bounded : consumer.queue.length ≤ maxsize
  ordered : (consumer.received ++ consumer.queue).Sublist published
  newest : (consumer.received ++ consumer.queue).getLast? = published.getLast?

theorem Served.publish {maxsize : Nat} (positive : 1 ≤ maxsize) {published : List Item}
    {consumer : Consumer Item} (served : Served maxsize published consumer) (item : Item) :
    Served maxsize (published ++ [item])
      { consumer with queue := offer maxsize item consumer.queue } where
  bounded := length_offer_le positive item consumer.queue
  ordered := by
    rw [offer_eq, ← List.append_assoc]
    exact (((List.Sublist.refl _).append (List.drop_sublist _ _)).trans served.ordered).append
      (.refl _)
  newest := by
    rw [offer_eq, ← List.append_assoc]
    simp

theorem Served.take {maxsize : Nat} {published : List Item} {consumer taken : Consumer Item}
    (served : Served maxsize published consumer) (takes : Feed.take consumer = some taken) :
    Served maxsize published taken := by
  obtain ⟨queue, received⟩ := consumer
  cases queue with
  | nil => cases takes
  | cons oldest rest =>
      cases takes
      have same : received ++ [oldest] ++ rest = received ++ oldest :: rest := by simp
      obtain ⟨bounded, ordered, newest⟩ := served
      refine ⟨Nat.le_of_succ_le bounded, ?_, ?_⟩
      · exact same ▸ ordered
      · exact same ▸ newest

theorem step_publish {maxsize : Nat} (positive : 1 ≤ maxsize) (feed : Feed Item) (item : Item) :
    feed.step maxsize (.publish item) = some ⟨feed.published ++ [item],
      feed.consumers.map fun consumer =>
        { consumer with queue := offer maxsize item consumer.queue }⟩ := by
  have loops : ∀ consumer : Consumer Item,
      (publishLoop maxsize item (consumer.queue.length + 1) consumer.queue).map
        (fun queue => { consumer with queue }) =
          some { consumer with queue := offer maxsize item consumer.queue } := fun consumer => by
    rw [publishLoop_eq_offer positive item consumer.queue (Nat.lt_succ_self _), Option.map_some]
  have all : (feed.consumers.mapM fun consumer : Consumer Item =>
      some { consumer with queue := offer maxsize item consumer.queue }) =
        some (feed.consumers.map fun consumer =>
          { consumer with queue := offer maxsize item consumer.queue }) := List.mapM_pure
  simp only [step, loops, all, Option.map_some]

def AllServed (maxsize : Nat) (feed : Feed Item) : Prop :=
  ∀ consumer ∈ feed.consumers, Served maxsize feed.published consumer

theorem step_served {maxsize : Nat} (positive : 1 ≤ maxsize) {feed next : Feed Item}
    {event : QueueEvent Item} (served : AllServed maxsize feed)
    (stepped : feed.step maxsize event = some next) : AllServed maxsize next := by
  cases event with
  | publish item =>
      rw [step_publish positive] at stepped
      cases stepped
      intro consumer listed
      obtain ⟨before, was, rfl⟩ := List.mem_map.mp listed
      exact (served before was).publish positive item
  | get place =>
      obtain ⟨consumer, found, stepped⟩ := Option.bind_eq_some_iff.mp stepped
      obtain ⟨taken, takes, stepped⟩ := Option.bind_eq_some_iff.mp stepped
      cases stepped
      intro other listed
      rcases List.mem_or_eq_of_mem_set listed with before | rfl
      · exact served other before
      · exact (served consumer (List.mem_of_getElem? found)).take takes

end Feed

end GemEmulation.Foundations

namespace GemEmulation.Api

open Foundations

theorem receive_queue (item : Option String) (stream : Stream) :
    publishLoop queueMaxsize item (stream.queue.length + 1) stream.queue =
      some (stream.receive item).queue :=
  publishLoop_eq_offer (by decide) item stream.queue (Nat.lt_succ_self _)

/-- The loop of `_publish` ends with the last items that fit; in every interleaving of
publishes and gets a consumer misses items but sees no others, in their order, and has
the newest one. -/
theorem publish_dropsOldest {Item : Type} {maxsize : Nat} (positive : 1 ≤ maxsize) :
    (∀ (item : Item) (queue : List Item), ∀ fuel > queue.length,
      publishLoop maxsize item fuel queue =
        some (lastItems (min maxsize (queue.length + 1)) (queue ++ [item]))) ∧
    ∀ count (events : List (QueueEvent Item)) (feed : Feed Item),
      Run (Feed.step maxsize) Anything (.initial count) events feed →
        (∀ item, (feed.step maxsize (.publish item)).isSome = true) ∧
        ∀ consumer ∈ feed.consumers,
          consumer.queue.length ≤ maxsize ∧
          (consumer.received ++ consumer.queue).Sublist feed.published ∧
          (consumer.received ++ consumer.queue).getLast? = feed.published.getLast? := by
  refine ⟨fun item queue fuel enough => ?_, fun count events feed run => ⟨fun item => ?_, ?_⟩⟩
  · rw [publishLoop_eq_offer positive item queue enough, offer_eq_lastItems positive]
  · rw [Feed.step_publish positive]
    rfl
  · have served : Feed.AllServed maxsize feed := run.invariant
      (fun consumer listed => by
        obtain ⟨-, rfl⟩ := List.mem_replicate.mp listed
        exact ⟨Nat.zero_le _, .slnil, rfl⟩)
      fun served _ stepped => Feed.step_served positive served stepped
    exact fun consumer listed =>
      ⟨(served consumer listed).bounded, (served consumer listed).ordered,
        (served consumer listed).newest⟩

theorem publish_dropsOldest_subscribers :
    (∀ (item : Option String) (queue : List (Option String)), ∀ fuel > queue.length,
      publishLoop queueMaxsize item fuel queue =
        some (lastItems (min queueMaxsize (queue.length + 1)) (queue ++ [item]))) ∧
    ∀ count (events : List (QueueEvent (Option String))) (feed : Feed (Option String)),
      Run (Feed.step queueMaxsize) Anything (.initial count) events feed →
        (∀ item, (feed.step queueMaxsize (.publish item)).isSome = true) ∧
        ∀ consumer ∈ feed.consumers,
          consumer.queue.length ≤ queueMaxsize ∧
          (consumer.received ++ consumer.queue).Sublist feed.published ∧
          (consumer.received ++ consumer.queue).getLast? = feed.published.getLast? :=
  publish_dropsOldest (by decide)

end GemEmulation.Api
