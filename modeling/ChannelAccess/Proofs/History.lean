import Mathlib.Logic.Basic

/-!
# What holds since something happened

A history lists what happened, the latest last. `Since` says that something began and has not ended
since. Only the last thing that happened has to be looked at to carry this on (`since_concat`).
-/

namespace ChannelAccess

variable {α : Type} {begins ends : α → Prop}

/-- Something began, and nothing that happened since has ended it. -/
def Since (begins ends : α → Prop) (history : List α) : Prop :=
  ∃ earlier record later, history = earlier ++ record :: later ∧ begins record ∧
    ∀ other ∈ later, ¬ ends other

/-- Nothing has begun before anything happened. -/
theorem not_since_nil : ¬ Since begins ends [] := by
  rintro ⟨earlier, record, later, empty, -⟩
  exact List.append_ne_nil_of_right_ne_nil earlier (List.cons_ne_nil record later) empty.symm

/-- What happened last begins it, or leaves it as it was unless it ends it. -/
theorem since_concat {history : List α} {last : α} :
    Since begins ends (history ++ [last]) ↔
      begins last ∨ Since begins ends history ∧ ¬ ends last := by
  constructor
  · rintro ⟨earlier, record, later, same, began, lasts⟩
    rcases List.eq_nil_or_concat later with rfl | ⟨between, latest, rfl⟩
    · obtain rfl : last = record := List.singleton_inj.mp (List.append_inj' same rfl).2
      exact .inl began
    · rw [List.concat_eq_append] at same lasts
      have split : history ++ [last] = (earlier ++ record :: between) ++ [latest] := by
        rw [same, List.append_assoc, List.cons_append]
      obtain ⟨isHistory, isLast⟩ := List.append_inj' split rfl
      obtain rfl : last = latest := List.singleton_inj.mp isLast
      refine .inr ⟨⟨earlier, record, between, isHistory, began, fun other member => ?_⟩, ?_⟩
      · exact lasts other (List.mem_append_left _ member)
      · exact lasts last (List.mem_append_right _ List.mem_cons_self)
  · rintro (began | ⟨⟨earlier, record, later, rfl, began, lasts⟩, goesOn⟩)
    · exact ⟨history, last, [], rfl, began, fun _ member => absurd member List.not_mem_nil⟩
    · refine ⟨earlier, record, later ++ [last], by rw [List.append_assoc, List.cons_append], began,
        fun other member => ?_⟩
      rcases List.mem_append.mp member with before | isLast
      · exact lasts other before
      · rwa [List.mem_singleton.mp isLast]

end ChannelAccess
