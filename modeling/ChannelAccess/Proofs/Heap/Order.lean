import Mathlib.Logic.Equiv.Basic
import ChannelAccess.Proofs.Heap.Contents

/-!
# The order of a heap

No item of a heap comes before its parent (`Ordered`), so none comes before the first one of the
array (`Ordered.first`). Adding an item and taking the first one out keep this: `ordered_push` and
`ordered_of_pop?`.

An item on its way up disagrees only with its parent (`OrderedAbove`), one on its way down with its
parent and its children (`OrderedAround`). In both cases its parent is in order with its children
already, which is what a swap needs.
-/

namespace ChannelAccess.Heap

variable {α : Type}

/-- What a heap needs of the relation that orders its items: no two items come before each other,
and an item that does not come before another does not come before what that does not come before
either. -/
structure Orders (before : α → α → Bool) : Prop where
  /-- Of two items at most one comes before the other. -/
  asymm : ∀ {a b}, before a b = true → before b a = false
  /-- Not to come before is transitive. -/
  trans : ∀ {a b c}, before b a = false → before c b = false → before c a = false

/-- The item at a position, if there is one, does not come before that at another. -/
def InOrder (before : α → α → Bool) (items : Array α) (upper lower : Nat) : Prop :=
  ∀ a ∈ items[upper]?, ∀ b ∈ items[lower]?, before b a = false

/-- No item comes before its parent. -/
def Ordered (before : α → α → Bool) (items : Array α) : Prop :=
  ∀ child, 0 < child → InOrder before items ((child - 1) / 2) child

/-- Only the item at a position may come before its parent, which is in order with the item's
children. -/
structure OrderedAbove (before : α → α → Bool) (items : Array α) (position : Nat) : Prop where
  /-- Every other item is in order with its parent. -/
  others : ∀ child, 0 < child → child ≠ position → InOrder before items ((child - 1) / 2) child
  /-- The parent is in order with the children. -/
  across : 0 < position → ∀ child, 0 < child → (child - 1) / 2 = position →
    InOrder before items ((position - 1) / 2) child

/-- Only the item at a position may be out of order with its parent and its children, and those are
in order with each other. -/
structure OrderedAround (before : α → α → Bool) (items : Array α) (position : Nat) : Prop where
  /-- All other items are in order with their parents. -/
  others : ∀ child, 0 < child → child ≠ position → (child - 1) / 2 ≠ position →
    InOrder before items ((child - 1) / 2) child
  /-- The parent is in order with the children. -/
  across : 0 < position → ∀ child, 0 < child → (child - 1) / 2 = position →
    InOrder before items ((position - 1) / 2) child

variable {before : α → α → Bool} {items : Array α}

/-! ## Pairs of positions -/

theorem inOrder_of_getElem {a b : Nat} (ha : a < items.size) (hb : b < items.size)
    (h : before items[b] items[a] = false) : InOrder before items a b := by
  intro first isFirst second isSecond
  rw [Array.getElem?_eq_getElem ha] at isFirst
  rw [Array.getElem?_eq_getElem hb] at isSecond
  obtain rfl := Option.some.inj isFirst
  obtain rfl := Option.some.inj isSecond
  exact h

/-- A position beyond the last item is in order with any other. -/
theorem inOrder_of_size_le {a b : Nat} (outside : items.size ≤ b) :
    InOrder before items a b := by
  intro first _ second isSecond
  rw [Array.getElem?_eq_none outside] at isSecond
  contradiction

theorem InOrder.trans (orders : Orders before) {a b c : Nat} (inside : b < items.size)
    (upper : InOrder before items a b) (lower : InOrder before items b c) :
    InOrder before items a c := by
  have middle : items[b] ∈ items[b]? := Array.getElem?_eq_getElem inside
  exact fun first isFirst last isLast =>
    orders.trans (upper first isFirst _ middle) (lower _ middle last isLast)

/-- A swap exchanges what two positions hold. -/
theorem getElem?_swap_eq {i j : Nat} (hi : i < items.size) (hj : j < items.size) (k : Nat) :
    (items.swap i j hi hj)[k]? = items[Equiv.swap i j k]? := by
  by_cases right : j = k
  · subst right
    rw [Array.getElem?_swap, if_pos rfl, Equiv.swap_apply_right, Array.getElem?_eq_getElem hi]
  · by_cases left : i = k
    · subst left
      rw [Array.getElem?_swap, if_neg right, if_pos rfl, Equiv.swap_apply_left,
        Array.getElem?_eq_getElem hj]
    · rw [Array.getElem?_swap, if_neg right, if_neg left,
        Equiv.swap_apply_of_ne_of_ne (Ne.symm left) (Ne.symm right)]

/-- What a swap brings into order is what was in order before, with the positions exchanged. -/
theorem inOrder_swap {i j : Nat} (hi : i < items.size) (hj : j < items.size) {a b : Nat}
    (h : InOrder before items (Equiv.swap i j a) (Equiv.swap i j b)) :
    InOrder before (items.swap i j hi hj) a b := by
  intro first isFirst last isLast
  rw [getElem?_swap_eq] at isFirst isLast
  exact h first isFirst last isLast

/-- Positions that a swap does not touch stay in order. -/
theorem InOrder.swap_of_ne {i j a b : Nat} (hi : i < items.size) (hj : j < items.size)
    (h : InOrder before items a b) (ai : a ≠ i) (aj : a ≠ j) (bi : b ≠ i) (bj : b ≠ j) :
    InOrder before (items.swap i j hi hj) a b := by
  apply inOrder_swap
  rw [Equiv.swap_apply_of_ne_of_ne ai aj, Equiv.swap_apply_of_ne_of_ne bi bj]
  exact h

/-! ## On the way up -/

/-- An item that is in order with its parent leaves nothing out of order. -/
theorem OrderedAbove.finish {position : Nat} (h : OrderedAbove before items position)
    (last : 0 < position → InOrder before items ((position - 1) / 2) position) :
    Ordered before items := by
  intro child positive
  by_cases here : child = position
  · rw [here] at positive ⊢
    exact last positive
  · exact h.others child positive here

/-- An item that comes before its parent is as far out of order when they have changed places. -/
theorem OrderedAbove.swap (orders : Orders before) {position : Nat}
    (h : OrderedAbove before items position) (positive : 0 < position)
    (inside : position < items.size) (parentInside : (position - 1) / 2 < items.size)
    (comesBefore : before items[position] items[(position - 1) / 2] = true) :
    OrderedAbove before (items.swap position ((position - 1) / 2) inside parentInside)
      ((position - 1) / 2) := by
  generalize hParent : (position - 1) / 2 = parent at *
  have differ : parent ≠ position := by omega
  -- The item is in order with what its parent is in order with.
  have above : InOrder before items position parent :=
    inOrder_of_getElem inside parentInside (orders.asymm comesBefore)
  have grandparent : 0 < parent → InOrder before items ((parent - 1) / 2) parent :=
    fun higher => h.others parent higher differ
  constructor
  · intro child childPositive notParent
    by_cases isPosition : child = position
    · -- The old parent is now below the item.
      subst isPosition
      apply inOrder_swap
      rw [hParent, Equiv.swap_apply_right, Equiv.swap_apply_left]
      exact above
    · have pair := h.others child childPositive isPosition
      by_cases ofPosition : (child - 1) / 2 = position
      · -- The children of the item are now those of the old parent.
        have across := h.across positive child childPositive ofPosition
        rw [hParent] at across
        apply inOrder_swap
        rw [ofPosition, Equiv.swap_apply_left, Equiv.swap_apply_of_ne_of_ne isPosition notParent]
        exact across
      · by_cases ofParent : (child - 1) / 2 = parent
        · -- The item's sibling is now a child of the item.
          rw [ofParent] at pair ⊢
          apply inOrder_swap
          rw [Equiv.swap_apply_right, Equiv.swap_apply_of_ne_of_ne isPosition notParent]
          exact above.trans orders parentInside pair
        · exact pair.swap_of_ne inside parentInside ofPosition ofParent isPosition notParent
  · -- The item's new parent was its grandparent, which is in order with all below it.
    intro higher child childPositive ofParent
    have upper := grandparent higher
    have grandparentBelow : (parent - 1) / 2 ≠ position ∧ (parent - 1) / 2 ≠ parent := by omega
    apply inOrder_swap
    rw [Equiv.swap_apply_of_ne_of_ne grandparentBelow.1 grandparentBelow.2]
    by_cases isPosition : child = position
    · rw [isPosition, Equiv.swap_apply_left]
      exact upper
    · have notParent : child ≠ parent := by omega
      rw [Equiv.swap_apply_of_ne_of_ne isPosition notParent]
      have lower := h.others child childPositive isPosition
      rw [ofParent] at lower
      exact upper.trans orders parentInside lower

/-- Moving an item up until its parent comes first leaves a heap. -/
theorem ordered_siftUp (orders : Orders before) {position : Nat}
    (h : OrderedAbove before items position) : Ordered before (siftUp before items position) := by
  fun_induction siftUp before items position with
  | case1 items position bounds comesBefore ih =>
    exact ih (h.swap orders bounds.1 bounds.2 (by omega) comesBefore)
  | case2 items position bounds stays =>
    refine h.finish fun _ => ?_
    exact inOrder_of_getElem (by omega) bounds.2 (Bool.eq_false_iff.mpr stays)
  | case3 items position outside =>
    exact h.finish fun positive => inOrder_of_size_le (by omega)

/-- A heap to which an item was added is a heap. -/
theorem ordered_push (orders : Orders before) (h : Ordered before items) (item : α) :
    Ordered before (push before items item) := by
  apply ordered_siftUp orders
  have earlier : ∀ {position : Nat}, position < items.size →
      (items.push item)[position]? = items[position]? := by
    intro position inside
    rw [Array.getElem?_push, if_neg (by omega)]
  constructor
  · intro child positive notLast first isFirst second isSecond
    have inside : child < items.size := by
      have bound := (Array.getElem?_eq_some_iff.mp isSecond).1
      rw [Array.size_push] at bound
      omega
    rw [earlier (by omega)] at isFirst
    rw [earlier inside] at isSecond
    exact h child positive first isFirst second isSecond
  · intro _ child positive ofLast
    exact inOrder_of_size_le (by rw [Array.size_push]; omega)

/-! ## On the way down -/

/-- An item that has no children on its way down is only out of order with its parent. -/
theorem OrderedAround.above {position : Nat} (h : OrderedAround before items position)
    (bottom : items.size ≤ 2 * position + 1) : OrderedAbove before items position := by
  constructor
  · intro child positive differs first isFirst second isSecond
    have inside := (Array.getElem?_eq_some_iff.mp isSecond).1
    exact h.others child positive differs (by omega) first isFirst second isSecond
  · exact h.across

/-- An item that changes places with the child that comes first is as far out of order there. -/
theorem OrderedAround.swap {position lower : Nat} (h : OrderedAround before items position)
    (positive : 0 < lower) (isChild : (lower - 1) / 2 = position) (inside : position < items.size)
    (lowerInside : lower < items.size)
    (least : ∀ child, 0 < child → (child - 1) / 2 = position → child ≠ lower →
      InOrder before items lower child) :
    OrderedAround before (items.swap position lower inside lowerInside) lower := by
  constructor
  · intro child childPositive notLower notBelow
    by_cases isPosition : child = position
    · -- The child that moved up is in order with the parent of the item.
      subst isPosition
      have parentElsewhere : (child - 1) / 2 ≠ child := by omega
      apply inOrder_swap
      rw [Equiv.swap_apply_left, Equiv.swap_apply_of_ne_of_ne parentElsewhere notBelow]
      exact h.across childPositive lower positive isChild
    · by_cases sibling : (child - 1) / 2 = position
      · -- It comes before the other child, too.
        apply inOrder_swap
        rw [sibling, Equiv.swap_apply_left, Equiv.swap_apply_of_ne_of_ne isPosition notLower]
        exact least child childPositive sibling notLower
      · exact (h.others child childPositive isPosition sibling).swap_of_ne inside lowerInside
          sibling notBelow isPosition notLower
  · intro _ child childPositive ofLower
    have elsewhere : child ≠ position ∧ child ≠ lower := by omega
    have pair := h.others child childPositive elsewhere.1 (by omega)
    rw [ofLower] at pair
    apply inOrder_swap
    rw [isChild, Equiv.swap_apply_left, Equiv.swap_apply_of_ne_of_ne elsewhere.1 elsewhere.2]
    exact pair

/-- An item that has sunk to the bottom is only out of order with its parent. -/
theorem orderedAbove_sink (orders : Orders before) {position : Nat}
    (h : OrderedAround before items position) :
    OrderedAbove before (sink before items position).1 (sink before items position).2 := by
  fun_induction sink before items position with
  | case1 items position bound leftFirst ih =>
    refine ih (h.swap (by omega) (by omega) (by omega) (by omega) ?_)
    intro child positive isChild notLeft
    obtain rfl : child = 2 * position + 2 := by omega
    exact inOrder_of_getElem (by omega) bound (orders.asymm leftFirst)
  | case2 items position bound rightFirst ih =>
    refine ih (h.swap (by omega) (by omega) (by omega) (by omega) ?_)
    intro child positive isChild notRight
    obtain rfl : child = 2 * position + 1 := by omega
    exact inOrder_of_getElem bound (by omega) (Bool.eq_false_iff.mpr rightFirst)
  | case3 items position noRight bound =>
    refine OrderedAround.above (h.swap (by omega) (by omega) (by omega) bound ?_) ?_
    · exact fun child positive isChild notLeft => inOrder_of_size_le (by omega)
    · rw [Array.size_swap]
      omega
  | case4 items position noRight noLeft => exact h.above (by omega)

/-- What is left of a heap when an item was taken out is a heap. -/
theorem ordered_of_pop? (orders : Orders before) {rest : Array α} {top : α}
    (h : Ordered before items) (popped : pop? before items = some (top, rest)) :
    Ordered before rest := by
  unfold pop? at popped
  split at popped
  · rename_i nonempty
    simp only [Option.some.injEq, Prod.mk.injEq] at popped
    obtain ⟨-, rfl⟩ := popped
    apply ordered_siftUp orders
    apply orderedAbove_sink orders
    -- Only the item that came to the top may be out of order.
    have earlier : ∀ {position : Nat}, 0 < position → ∀ item,
        (items.swap 0 (items.size - 1) nonempty (by omega)).pop[position]? = some item →
          items[position]? = some item := by
      intro position positive item isItem
      have inside := (Array.getElem?_eq_some_iff.mp isItem).1
      rw [Array.size_pop, Array.size_swap] at inside
      rw [Array.getElem?_pop, Array.size_swap, if_pos inside, getElem?_swap_eq,
        Equiv.swap_apply_of_ne_of_ne (by omega) (by omega)] at isItem
      exact isItem
    constructor
    · intro child positive notTop parentNotTop first isFirst second isSecond
      exact h child positive first (earlier (by omega) first isFirst) second
        (earlier positive second isSecond)
    · exact fun positive => absurd positive (Nat.lt_irrefl 0)
  · contradiction

/-! ## The first item -/

/-- No item of a heap comes before its first one. -/
theorem Ordered.first (orders : Orders before) (h : Ordered before items) (position : Nat) :
    position ≠ 0 → InOrder before items 0 position := by
  induction position using Nat.strongRecOn with
  | ind position ih =>
    intro positive
    have parent := h position (by omega)
    by_cases atTop : (position - 1) / 2 = 0
    · rw [atTop] at parent
      exact parent
    · -- The first item is in order with the parent, and so with what is below it.
      intro first isFirst second isSecond
      have inside := (Array.getElem?_eq_some_iff.mp isSecond).1
      exact (ih ((position - 1) / 2) (by omega) atTop).trans orders (by omega) parent
        first isFirst second isSecond

/-- The first item of a heap is one that no other comes before. -/
theorem Ordered.before_first (orders : Orders before) (h : Ordered before items) {top item : α}
    (isTop : items[0]? = some top) (member : item ∈ items) : before item top = false := by
  obtain ⟨position, isItem⟩ := Array.mem_iff_getElem?.mp member
  by_cases atTop : position = 0
  · rw [atTop, isTop] at isItem
    obtain rfl := Option.some.inj isItem
    cases comesBefore : before top top with
    | false => rfl
    | true => exact comesBefore.symm.trans (orders.asymm comesBefore)
  · exact h.first orders position atTop top isTop item isItem

end ChannelAccess.Heap
