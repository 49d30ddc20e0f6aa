import Mathlib.Data.List.Basic

/-!
# Heaps

Cells that are shared by reference: a reference is the position at which its
cell was allocated, and no cell is ever freed.
-/

namespace GemEmulation.Foundations

universe u

/-- The cells in the order of their allocation. -/
structure Heap (Cell : Type u) where
  cells : List Cell
  deriving DecidableEq

namespace Heap

variable {Cell : Type u}

instance : EmptyCollection (Heap Cell) := ⟨⟨[]⟩⟩

def get? (heap : Heap Cell) (ref : Nat) : Option Cell := heap.cells[ref]?

def fresh (heap : Heap Cell) : Nat := heap.cells.length

def alloc (heap : Heap Cell) (cell : Cell) : Heap Cell := ⟨heap.cells ++ [cell]⟩

def modify (heap : Heap Cell) (ref : Nat) (change : Cell → Cell) : Heap Cell :=
  ⟨heap.cells.modify ref change⟩

def map {Other : Type u} (change : Cell → Other) (heap : Heap Cell) : Heap Other :=
  ⟨heap.cells.map change⟩

@[simp]
theorem get?_map {Other : Type u} (change : Cell → Other) (heap : Heap Cell) (ref : Nat) :
    (heap.map change).get? ref = (heap.get? ref).map change := by
  simp [get?, map]

@[simp]
theorem fresh_map {Other : Type u} (change : Cell → Other) (heap : Heap Cell) :
    (heap.map change).fresh = heap.fresh := by
  simp [fresh, map]

theorem map_alloc {Other : Type u} (change : Cell → Other) (heap : Heap Cell) (cell : Cell) :
    (heap.alloc cell).map change = (heap.map change).alloc (change cell) := by
  simp [map, alloc]

theorem map_overwrite {Other : Type u} (change : Cell → Other) (heap : Heap Cell) (ref : Nat)
    (cell : Cell) :
    (heap.modify ref fun _ => cell).map change =
      (heap.map change).modify ref fun _ => change cell := by
  obtain ⟨cells⟩ := heap
  simp only [map, modify, Heap.mk.injEq]
  induction cells generalizing ref with
  | nil => simp
  | cons first rest inductionHypothesis =>
      cases ref with
      | zero => simp
      | succ ref => simpa using inductionHypothesis ref

@[simp]
theorem get?_empty (ref : Nat) : (∅ : Heap Cell).get? ref = none := rfl

theorem get?_modify (heap : Heap Cell) (ref other : Nat) (change : Cell → Cell) :
    (heap.modify ref change).get? other =
      if other = ref then (heap.get? other).map change else heap.get? other := by
  simp only [get?, modify, List.getElem?_modify]
  by_cases same : other = ref
  · simp [same]
  · simp [same, Ne.symm same]

@[simp]
theorem get?_modify_self (heap : Heap Cell) (ref : Nat) (change : Cell → Cell) :
    (heap.modify ref change).get? ref = (heap.get? ref).map change := by
  simp [get?_modify]

theorem get?_modify_of_ne (heap : Heap Cell) {ref other : Nat} (change : Cell → Cell)
    (different : other ≠ ref) : (heap.modify ref change).get? other = heap.get? other := by
  simp [get?_modify, different]

theorem modify_eq_overwrite {heap : Heap Cell} {ref : Nat} {cell : Cell}
    (found : heap.get? ref = some cell) (change : Cell → Cell) :
    heap.modify ref change = heap.modify ref fun _ => change cell := by
  simp only [modify, Heap.mk.injEq]
  apply List.ext_getElem?
  intro other
  rw [List.getElem?_modify, List.getElem?_modify]
  split
  next same =>
    subst same
    rw [get?] at found
    simp [found]
  next => rfl

theorem get?_fresh (heap : Heap Cell) : heap.get? heap.fresh = none := by
  simp [get?, fresh]

theorem get?_alloc (heap : Heap Cell) (cell : Cell) (ref : Nat) :
    (heap.alloc cell).get? ref = if ref = heap.fresh then some cell else heap.get? ref := by
  by_cases same : ref = heap.fresh
  · subst same
    simp [get?, alloc, fresh]
  · rw [if_neg same]
    have different : ref ≠ heap.cells.length := same
    simp only [get?, alloc, List.getElem?_append]
    split
    next => rfl
    next => rw [List.getElem?_eq_none (by simp only [List.length_singleton]; omega),
        List.getElem?_eq_none (by omega)]

@[simp]
theorem get?_alloc_fresh (heap : Heap Cell) (cell : Cell) :
    (heap.alloc cell).get? heap.fresh = some cell := by
  simp [get?_alloc]

theorem lt_fresh_of_get? {heap : Heap Cell} {ref : Nat} {cell : Cell}
    (found : heap.get? ref = some cell) : ref < heap.fresh :=
  (List.getElem?_eq_some_iff.mp found).1

theorem ne_fresh_of_get? {heap : Heap Cell} {ref : Nat} {cell : Cell}
    (found : heap.get? ref = some cell) : ref ≠ heap.fresh :=
  Nat.ne_of_lt (lt_fresh_of_get? found)

theorem get?_alloc_of_get? {heap : Heap Cell} {ref : Nat} {cell : Cell} (new : Cell)
    (found : heap.get? ref = some cell) : (heap.alloc new).get? ref = some cell := by
  rw [get?_alloc, if_neg (ne_fresh_of_get? found), found]

@[simp]
theorem fresh_modify (heap : Heap Cell) (ref : Nat) (change : Cell → Cell) :
    (heap.modify ref change).fresh = heap.fresh := by
  simp [fresh, modify]

@[simp]
theorem fresh_alloc (heap : Heap Cell) (cell : Cell) :
    (heap.alloc cell).fresh = heap.fresh + 1 := by
  simp [fresh, alloc]

end Heap

end GemEmulation.Foundations
