import Mathlib.Data.List.Nodup

/-!
# Tables

A table is a list of keys with their values, in which a key is looked up by `List.find?`. The lemmas
say what is found after an entry was taken out, added or put in the place of another.
-/

namespace ChannelAccess.Table

variable {κ ν : Type} [BEq κ]

/-- The keys that are left when one was taken out. -/
theorem map_fst_filter (table : List (κ × ν)) (key : κ) :
    (table.filter (·.1 != key)).map (·.1) = (table.map (·.1)).filter (· != key) :=
  (@List.filter_map _ _ Prod.fst (· != key) table).symm

/-- No key is there twice when one was taken out. -/
theorem nodup_filter {table : List (κ × ν)} (nodup : (table.map (·.1)).Nodup) (key : κ) :
    ((table.filter (·.1 != key)).map (·.1)).Nodup := by
  rw [map_fst_filter]
  exact nodup.filter _

variable [LawfulBEq κ]

/-- No key is there twice when an entry took the place of others. -/
theorem nodup_replace {table : List (κ × ν)} (nodup : (table.map (·.1)).Nodup) (key : κ)
    (value : ν) : ((table.filter (·.1 != key) ++ [(key, value)]).map (·.1)).Nodup := by
  rw [List.map_append, map_fst_filter]
  refine List.nodup_append.mpr ⟨nodup.filter _, List.nodup_singleton key, ?_⟩
  rintro other member _ isKey rfl
  rw [List.mem_singleton.mp isKey] at member
  exact bne_iff_ne.mp (List.mem_filter.mp member).2 rfl

/-- Nothing is found under a key exactly if it is not in the table. -/
theorem find?_eq_none_iff {table : List (κ × ν)} {key : κ} :
    table.find? (·.1 == key) = none ↔ key ∉ table.map (·.1) := by
  rw [List.find?_eq_none, List.mem_map]
  constructor
  · rintro unlike ⟨entry, member, rfl⟩
    exact unlike entry member (beq_self_eq_true _)
  · intro missing entry member isKey
    exact missing ⟨entry, member, beq_iff_eq.mp isKey⟩

/-- A key that is added unless it is there. -/
theorem mem_add {keys : List κ} {key other : κ} :
    other ∈ (if keys.contains key then keys else keys ++ [key]) ↔ other ∈ keys ∨ other = key := by
  split
  · rename_i already
    refine (or_iff_left_of_imp ?_).symm
    rintro rfl
    exact List.contains_iff_mem.mp already
  · rw [List.mem_append, List.mem_singleton]

/-- No key is there twice when one was added unless it was there. -/
theorem nodup_add {keys : List κ} (nodup : keys.Nodup) (key : κ) :
    (if keys.contains key then keys else keys ++ [key]).Nodup := by
  split
  · exact nodup
  · rename_i fresh
    refine List.nodup_append.mpr ⟨nodup, List.nodup_singleton key, ?_⟩
    rintro other member _ isKey rfl
    rw [List.mem_singleton.mp isKey] at member
    exact fresh (List.contains_iff_mem.mpr member)

/-- Changing the value of an entry leaves its key. -/
theorem fst_update (entry : κ × ν) (key : κ) (value : ν) :
    (if entry.1 == key then (key, value) else entry).1 = entry.1 := by
  split
  · rename_i isKey
    exact (beq_iff_eq.mp isKey).symm
  · rfl

/-- Changing the value of an entry leaves the keys. -/
theorem map_fst_update (table : List (κ × ν)) (key : κ) (value : ν) :
    (table.map fun entry => if entry.1 == key then (key, value) else entry).map (·.1) =
      table.map (·.1) := by
  rw [List.map_map]
  exact List.map_congr_left fun entry _ => fst_update entry key value

variable [DecidableEq κ]

/-- A key that was taken out is found no more, and every other key as before. -/
theorem find?_filter (table : List (κ × ν)) (key other : κ) :
    (table.filter (·.1 != key)).find? (·.1 == other) =
      if other = key then none else table.find? (·.1 == other) := by
  split
  · rename_i same
    rw [List.find?_eq_none]
    intro entry member isOther
    obtain ⟨-, stays⟩ := List.mem_filter.mp member
    exact bne_iff_ne.mp stays ((beq_iff_eq.mp isOther).trans same)
  · rename_i differs
    have sameKey : (fun entry : κ × ν =>
        decide ((entry.1 != key) = true ∧ (entry.1 == other) = true)) = (·.1 == other) := by
      funext entry
      rw [Bool.eq_iff_iff, decide_eq_true_iff, bne_iff_ne, beq_iff_eq]
      refine and_iff_right_of_imp ?_
      rintro rfl
      exact differs
    rw [List.find?_filter, sameKey]

/-- An entry that is added is found under its key, if nothing was before. -/
theorem find?_concat (table : List (κ × ν)) (key : κ) (value : ν) (other : κ) :
    (table ++ [(key, value)]).find? (·.1 == other) =
      (table.find? (·.1 == other)).or (if other = key then some (key, value) else none) := by
  rw [List.find?_append, List.find?_cons, List.find?_nil]
  by_cases same : other = key
  · rw [if_pos same, beq_iff_eq.mpr same.symm]
  · rw [if_neg same, beq_eq_false_iff_ne.mpr (Ne.symm same)]

/-- An entry that takes the place of others is found under its key, and nothing else changes. -/
theorem find?_replace (table : List (κ × ν)) (key : κ) (value : ν) (other : κ) :
    (table.filter (·.1 != key) ++ [(key, value)]).find? (·.1 == other) =
      if other = key then some (key, value) else table.find? (·.1 == other) := by
  rw [find?_concat, find?_filter]
  split
  · rfl
  · exact Option.or_none

/-- An entry whose value was changed is found with it, and every other entry as before. -/
theorem find?_update (table : List (κ × ν)) (key : κ) (value : ν) (other : κ) :
    (table.map fun entry => if entry.1 == key then (key, value) else entry).find? (·.1 == other) =
      (table.find? (·.1 == other)).map fun entry =>
        if other = key then (key, value) else entry := by
  induction table with
  | nil => rfl
  | cons entry later ih =>
    rw [List.map_cons, List.find?_cons, List.find?_cons, fst_update]
    cases isOther : entry.1 == other with
    | false => exact ih
    | true =>
      obtain rfl := beq_iff_eq.mp isOther
      rw [Option.map_some]
      by_cases same : entry.1 = key
      · rw [if_pos same, if_pos (beq_iff_eq.mpr same)]
      · rw [if_neg same, if_neg (mt beq_iff_eq.mp same)]

end ChannelAccess.Table
