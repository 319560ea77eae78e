import ChannelAccess.Codec.Basic

/-!
# Slices of one size

Codecs read their elements from slices of the payload, one after the other. Cutting slices off and
putting them together again are inverse: slices of bytes that are long enough are these bytes
(`flatten_slices`), and what was put together from parts of the size is cut into these parts
(`slices_flatten`). The number of elements is the one asked for: `filled` says which elements a
payload holds if there are more or fewer.
-/

namespace ChannelAccess.Codec

/-- The first slices of some bytes, each of a size. -/
def slices (size : Nat) : (count : Nat) → (raw : List UInt8) → List (List UInt8)
  | 0, _ => []
  | count + 1, raw => raw.take size :: slices size count (raw.drop size)

variable {size count : Nat} {raw : List UInt8}

@[simp]
theorem length_slices (size count : Nat) (raw : List UInt8) :
    (slices size count raw).length = count := by
  induction count generalizing raw with
  | zero => rfl
  | succ count ih => rw [slices, List.length_cons, ih]

/-- Slices of bytes that are long enough have the size asked for. -/
theorem length_of_mem_slices (enough : count * size ≤ raw.length) :
    ∀ slice ∈ slices size count raw, slice.length = size := by
  induction count generalizing raw with
  | zero => exact fun slice member => absurd member List.not_mem_nil
  | succ count ih =>
    have split : (count + 1) * size = count * size + size := Nat.succ_mul count size
    have left : count * size ≤ (raw.drop size).length := by
      rw [List.length_drop]
      omega
    rw [slices, List.forall_mem_cons]
    refine ⟨?_, ih left⟩
    rw [List.length_take]
    omega

/-- Slices put together are the bytes that they were cut from, as far as they go. -/
theorem flatten_slices (size count : Nat) (raw : List UInt8) :
    (slices size count raw).flatten = raw.take (count * size) := by
  induction count generalizing raw with
  | zero => rw [Nat.zero_mul, List.take_zero, slices, List.flatten_nil]
  | succ count ih =>
    calc (slices size (count + 1) raw).flatten
        = raw.take size ++ (raw.drop size).take (count * size) := by
          rw [slices, List.flatten_cons, ih]
      _ = raw.take (size + count * size) := List.take_add.symm
      _ = raw.take ((count + 1) * size) := by rw [Nat.succ_mul, Nat.add_comm]

/-- Parts of the size are cut off again, one after the other. -/
theorem slices_flatten {parts : List (List UInt8)} (sized : ∀ part ∈ parts, part.length = size) :
    slices size parts.length parts.flatten = parts := by
  induction parts with
  | nil => rfl
  | cons part parts ih =>
    rw [List.forall_mem_cons] at sized
    rw [List.length_cons, slices, List.flatten_cons, List.take_left' sized.1,
      List.drop_left' sized.1, ih sized.2]

/-- Parts of one size take as many bytes as there are parts, times the size. -/
theorem length_flatten_of_sized {parts : List (List UInt8)}
    (sized : ∀ part ∈ parts, part.length = size) :
    parts.flatten.length = parts.length * size := by
  induction parts with
  | nil => rw [List.flatten_nil, List.length_nil, List.length_nil, Nat.zero_mul]
  | cons part parts ih =>
    rw [List.forall_mem_cons] at sized
    rw [List.flatten_cons, List.length_append, sized.1, ih sized.2, List.length_cons, Nat.succ_mul,
      Nat.add_comm]

/-- What reads one element from each slice, onto those already read, ends with the elements of the
slices in their order. -/
theorem toList_of_slices {α : Type} {read : List UInt8 → α}
    {decode : Array α → Nat → List UInt8 → Array α}
    (done : ∀ decoded raw, decode decoded 0 raw = decoded)
    (step : ∀ decoded count raw, decode decoded (count + 1) raw =
      decode (decoded.push (read (raw.take size))) count (raw.drop size))
    (decoded : Array α) (count : Nat) (raw : List UInt8) :
    (decode decoded count raw).toList = decoded.toList ++ (slices size count raw).map read := by
  induction count generalizing decoded raw with
  | zero => rw [done, slices, List.map_nil, List.append_nil]
  | succ count ih =>
    calc (decode decoded (count + 1) raw).toList
        = (decoded.push (read (raw.take size))).toList ++
            (slices size count (raw.drop size)).map read := by rw [step, ih]
      _ = decoded.toList ++ (slices size (count + 1) raw).map read := by
          rw [Array.toList_push, slices, List.map_cons, List.append_assoc, List.singleton_append]

/-- All of some bytes that come in elements are decoded, whether their number is given or not. -/
theorem elementCount_of_length (positive : 0 < size) (whole : raw.length = count * size) :
    elementCount size raw count = count := by
  rw [elementCount]
  split
  · rename_i unsaid
    rw [whole, Nat.mul_div_cancel count positive, unsaid]
  · rfl

/-! ## The elements of a payload -/

section Filled

variable {α : Type}

/-- The first elements of an array, with fillers after them where there are too few. -/
def filled (filler : α) (values : Array α) (count : Nat) : Array α :=
  values.take count ++ Array.replicate (count - values.size) filler

@[simp]
theorem size_filled (filler : α) (values : Array α) (count : Nat) :
    (filled filler values count).size = count := by
  rw [filled, Array.size_append, Array.size_extract, Array.size_replicate]
  omega

/-- An array of the size asked for is left as it is. -/
theorem filled_of_size {values : Array α} {count : Nat} (filler : α)
    (size : values.size = count) : filled filler values count = values := by
  simp [filled, ← size]

theorem getElem?_filled (filler : α) (values : Array α) {count i : Nat} (inside : i < count) :
    (filled filler values count)[i]? = some (values[i]?.getD filler) := by
  rw [filled, Array.getElem?_append, Array.size_extract]
  by_cases present : i < values.size
  · have taken : (values.extract 0 count)[i]? = some values[i] := by
      rw [Array.getElem?_extract, if_pos (by omega), Nat.zero_add,
        Array.getElem?_eq_getElem present]
    rw [if_pos (by omega), Array.getElem?_eq_getElem present, Option.getD_some]
    exact taken
  · rw [if_neg (by omega), Array.getElem?_replicate, if_pos (by omega),
      Array.getElem?_eq_none (Nat.not_lt.mp present), Option.getD_none]

/-- An element is one of the array, or the filler. -/
theorem mem_filled {filler element : α} {values : Array α} {count : Nat}
    (member : element ∈ filled filler values count) : element ∈ values ∨ element = filler := by
  rw [filled, Array.mem_append] at member
  rcases member with taken | added
  · obtain ⟨i, inside, rfl⟩ := Array.mem_extract_iff_getElem.mp taken
    exact .inl (Array.getElem_mem _)
  · exact .inr (Array.eq_of_mem_replicate added)

end Filled

end ChannelAccess.Codec
