/-!
# Binary heaps

A binary heap keeps its items in an array in which no item comes before its parent, so that the
first item of the array is one that comes before all others. Where an item ends up among the others
is part of what a heap promises here: items are moved by `siftUp` and `sink` alone.
-/

namespace ChannelAccess.Heap

variable {α : Type} (before : α → α → Bool)

/-- Moves the item at a position up as long as it comes before its parent. -/
def siftUp (items : Array α) (position : Nat) : Array α :=
  if h : 0 < position ∧ position < items.size then
    if before items[position] items[(position - 1) / 2] then
      siftUp (items.swap position ((position - 1) / 2) h.2 (by omega)) ((position - 1) / 2)
    else items
  else items
termination_by position
decreasing_by omega

/-- Moves the item at a position down to the bottom, always to the side of the child that comes
first, and says where it ends up. -/
def sink (items : Array α) (position : Nat) : Array α × Nat :=
  if h : 2 * position + 2 < items.size then
    if before items[2 * position + 1] items[2 * position + 2] then
      sink (items.swap position (2 * position + 1) (by omega) (by omega)) (2 * position + 1)
    else sink (items.swap position (2 * position + 2) (by omega) h) (2 * position + 2)
  else if h : 2 * position + 1 < items.size then
    (items.swap position (2 * position + 1) (by omega) h, 2 * position + 1)
  else (items, position)
termination_by items.size - position
decreasing_by all_goals simp only [Array.size_swap]; omega

/-- Adds an item. -/
def push (items : Array α) (item : α) : Array α :=
  siftUp before (items.push item) items.size

/-- Takes out the first item. The last item of the array takes its place, sinks to the bottom and
rises from there. -/
def pop? (items : Array α) : Option (α × Array α) :=
  if h : 0 < items.size then
    let rest := (items.swap 0 (items.size - 1) h (by omega)).pop
    -- The item is compared with nothing on its way down, so it may have to rise again.
    let (rest, position) := sink before rest 0
    some (items[0], siftUp before rest position)
  else none

@[simp]
theorem size_siftUp (items : Array α) (position : Nat) :
    (siftUp before items position).size = items.size := by
  fun_induction siftUp before items position <;> simp_all

@[simp]
theorem size_sink (items : Array α) (position : Nat) :
    (sink before items position).1.size = items.size := by
  fun_induction sink before items position <;> simp_all

@[simp]
theorem size_push (items : Array α) (item : α) :
    (push before items item).size = items.size + 1 := by
  simp [push]

/-- Taking out an item leaves one fewer. -/
theorem size_of_pop? {items rest : Array α} {top : α} (h : pop? before items = some (top, rest)) :
    rest.size + 1 = items.size := by
  unfold pop? at h
  split at h
  · simp only [Option.some.injEq, Prod.mk.injEq] at h
    obtain ⟨-, rfl⟩ := h
    simp
    omega
  · contradiction

end ChannelAccess.Heap
