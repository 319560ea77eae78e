import ChannelAccess.Heap

/-!
# What a heap holds

The operations of a binary heap only move its items about: adding an item adds that one
(`toList_push_perm`), and taking one out removes the first of the array and nothing else
(`toList_perm_of_pop?`). The order of the items plays no part in this.
-/

namespace ChannelAccess.Heap

variable {α : Type} (before : α → α → Bool)

/-- Moving an item up leaves the items as they are, up to their places. -/
theorem siftUp_perm (items : Array α) (position : Nat) :
    (siftUp before items position).toList.Perm items.toList := by
  fun_induction siftUp before items position with
  | case1 items position bounds _ ih => exact ih.trans (Array.swap_perm _ _).toList
  | case2 => exact List.Perm.refl _
  | case3 => exact List.Perm.refl _

/-- Moving an item to the bottom leaves the items as they are, up to their places. -/
theorem sink_perm (items : Array α) (position : Nat) :
    (sink before items position).1.toList.Perm items.toList := by
  fun_induction sink before items position with
  | case1 items position bound _ ih => exact ih.trans (Array.swap_perm _ _).toList
  | case2 items position bound _ ih => exact ih.trans (Array.swap_perm _ _).toList
  | case3 => exact (Array.swap_perm _ _).toList
  | case4 => exact List.Perm.refl _

/-- A heap to which an item was added holds it beside the items from before. -/
theorem toList_push_perm (items : Array α) (item : α) :
    (push before items item).toList.Perm (item :: items.toList) := by
  have added := siftUp_perm before (items.push item) items.size
  rw [Array.toList_push] at added
  exact added.trans (List.perm_append_singleton item items.toList)

/-- Only an empty heap has no item to take out. -/
theorem pop?_eq_none_iff {items : Array α} : pop? before items = none ↔ items = #[] := by
  unfold pop?
  split
  · rename_i nonempty
    have differs : items ≠ #[] := by
      rintro rfl
      exact absurd nonempty (Nat.lt_irrefl 0)
    exact iff_of_false nofun differs
  · rename_i empty
    exact iff_of_true rfl (Array.eq_empty_of_size_eq_zero (by omega))

/-- The item that is taken out is the first one of the array. -/
theorem getElem?_zero_of_pop? {items rest : Array α} {top : α}
    (h : pop? before items = some (top, rest)) : items[0]? = some top := by
  unfold pop? at h
  split at h
  · rename_i nonempty
    simp only [Option.some.injEq, Prod.mk.injEq] at h
    rw [Array.getElem?_eq_getElem nonempty, h.1]
  · contradiction

/-- An array holds its last item and what is left when that is cut off. -/
theorem toList_perm_last (items : Array α) (nonempty : 0 < items.size) :
    items.toList.Perm (items[items.size - 1] :: items.pop.toList) := by
  have notNil : items.toList ≠ [] := by
    intro isNil
    rw [Array.toList_eq_nil_iff] at isNil
    rw [isNil] at nonempty
    exact absurd nonempty (Nat.lt_irrefl 0)
  have cut : items.pop.toList ++ [items[items.size - 1]] = items.toList := by
    have ends := List.dropLast_concat_getLast notNil
    rw [List.getLast_eq_getElem, ← Array.toList_pop] at ends
    exact ends
  rw [← cut]
  exact List.perm_append_singleton _ _

/-- A heap holds the item that is taken out and what is left afterwards. -/
theorem toList_perm_of_pop? {items rest : Array α} {top : α}
    (h : pop? before items = some (top, rest)) : items.toList.Perm (top :: rest.toList) := by
  unfold pop? at h
  split at h
  · rename_i nonempty
    simp only [Option.some.injEq, Prod.mk.injEq] at h
    obtain ⟨rfl, rfl⟩ := h
    have size : 0 < (items.swap 0 (items.size - 1) nonempty (by omega)).size := by
      rw [Array.size_swap]
      exact nonempty
    have cut := toList_perm_last _ size
    simp only [Array.size_swap, Array.getElem_swap_right] at cut
    -- The first item changes places with the last one and is cut off. The other one sinks and rises
    -- among what is left, in which no item is lost.
    calc items.toList.Perm (items.swap 0 (items.size - 1) nonempty (by omega)).toList :=
          (Array.swap_perm _ _).toList.symm
      List.Perm _ (items[0] ::
          (items.swap 0 (items.size - 1) nonempty (by omega)).pop.toList) := cut
      List.Perm _ _ := ((siftUp_perm before _ _).trans (sink_perm before _ 0)).symm.cons _
  · contradiction

end ChannelAccess.Heap
