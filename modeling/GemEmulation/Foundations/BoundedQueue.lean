import Mathlib.Data.List.Basic

/-!
# Bounded queues that drop their oldest items

Offering an item to a full queue drops items from its front until the new one
fits, so the newest items are always there.
-/

namespace GemEmulation.Foundations

universe u

variable {Item : Type u}

/-- Put an item at the end of a queue, dropping the oldest ones while it is full. -/
def offer (maxsize : Nat) (item : Item) : List Item → List Item
  | [] => [item]
  | oldest :: rest =>
      if (oldest :: rest).length < maxsize then oldest :: rest ++ [item]
      else offer maxsize item rest

theorem offer_eq (maxsize : Nat) (item : Item) (queue : List Item) :
    offer maxsize item queue = queue.drop (queue.length + 1 - maxsize) ++ [item] := by
  induction queue with
  | nil => simp [offer]
  | cons oldest rest inductionHypothesis =>
      simp only [offer]
      split
      next fits =>
        have nothing : (oldest :: rest).length + 1 - maxsize = 0 := by omega
        rw [nothing, List.drop_zero]
      next full =>
        have one : (oldest :: rest).length + 1 - maxsize = rest.length + 1 - maxsize + 1 := by
          simp only [List.length_cons] at full ⊢
          omega
        rw [inductionHypothesis, one, List.drop_succ_cons]

theorem offer_of_length_lt {maxsize : Nat} (item : Item) {queue : List Item}
    (room : queue.length < maxsize) : offer maxsize item queue = queue ++ [item] := by
  cases queue with
  | nil => rfl
  | cons oldest rest => simp only [offer, if_pos room]

theorem mem_offer_self (maxsize : Nat) (item : Item) (queue : List Item) :
    item ∈ offer maxsize item queue := by
  induction queue with
  | nil => simp [offer]
  | cons oldest rest inductionHypothesis =>
      simp only [offer]
      split
      next => simp
      next => exact inductionHypothesis

theorem length_offer_le {maxsize : Nat} (positive : 0 < maxsize) (item : Item)
    (queue : List Item) : (offer maxsize item queue).length ≤ maxsize := by
  rw [offer_eq]
  simp only [List.length_append, List.length_drop, List.length_singleton]
  omega

/-- The newest item survives one more offer to a queue of two places or more. -/
theorem mem_offer_offer {maxsize : Nat} (places : 2 ≤ maxsize) (item newer : Item)
    (queue : List Item) : item ∈ offer maxsize newer (offer maxsize item queue) := by
  have short := length_offer_le (by omega : 0 < maxsize) item queue
  rw [offer_eq]
  rw [offer_eq maxsize item] at short ⊢
  simp only [List.length_append, List.length_singleton] at short
  rw [List.drop_append_of_le_length (by
    simp only [List.length_append, List.length_singleton]
    omega)]
  simp

end GemEmulation.Foundations
