import ChannelAccess.Circuit.Reception

/-!
# Moving leftovers to the front

Leftovers are moved down within their buffer, where source and target may overlap.
`ReceiveBuffer.MovesToFront` says what the buffer holds afterwards, and there is only one such
buffer (`MovesToFront.eq_moveBlock`). Bytes that are moved one by one leave it too: the first ones
are moved first, so a byte is read before another is written over it (`MovesToFront.next`). This is
why `compact` may take either way (`compact_moves_exactly`).
-/

namespace ChannelAccess.ReceiveBuffer

/-- The buffer after some of its bytes, those from `start` on, were moved to its front. -/
structure MovesToFront (data : List UInt8) (start count : Nat) (after : List UInt8) : Prop where
  /-- The bytes are at the front, in the same order. -/
  moved : after.take count = (data.drop start).take count
  /-- Behind them everything is as it was. -/
  kept : after.drop count = data.drop count
  /-- The buffer is as long as it was. -/
  length : after.length = data.length

/-! ## As a block -/

/-- Moving a block keeps the length of the buffer. -/
theorem length_moveBlock {data : List UInt8} {start count : Nat}
    (h : start + count ≤ data.length) : (moveBlock data start count).length = data.length := by
  rw [moveBlock, List.length_append, List.length_take, List.length_drop, List.length_drop]
  omega

/-- The bytes that a block is moved onto are those that stood at its source. -/
theorem take_moveBlock {data : List UInt8} {start count : Nat} (h : start + count ≤ data.length) :
    (moveBlock data start count).take count = (data.drop start).take count := by
  have length : ((data.drop start).take count).length = count := by
    rw [List.length_take, List.length_drop]
    omega
  rw [moveBlock, List.take_append_of_le_length (Nat.le_of_eq length.symm),
    List.take_of_length_le (Nat.le_of_eq length)]

/-- Bytes past the target of a block stay as they were. -/
theorem drop_moveBlock {data : List UInt8} {start count : Nat} (h : start + count ≤ data.length) :
    (moveBlock data start count).drop count = data.drop count := by
  have length : ((data.drop start).take count).length = count := by
    rw [List.length_take, List.length_drop]
    omega
  rw [moveBlock, List.drop_append_of_le_length (Nat.le_of_eq length.symm),
    List.drop_of_length_le (Nat.le_of_eq length), List.nil_append]

/-- Moving a block moves it to the front. -/
theorem movesToFront_moveBlock {data : List UInt8} {start count : Nat}
    (h : start + count ≤ data.length) :
    MovesToFront data start count (moveBlock data start count) :=
  ⟨take_moveBlock h, drop_moveBlock h, length_moveBlock h⟩

/-- What moving to the front leaves is determined. -/
theorem MovesToFront.eq_moveBlock {data after : List UInt8} {start count : Nat}
    (h : MovesToFront data start count after) : after = moveBlock data start count := by
  rw [moveBlock, ← h.moved, ← h.kept, List.take_append_drop]

/-! ## One by one -/

/-- Behind the bytes that were moved each byte is the one that stood there. -/
theorem MovesToFront.getElem?_eq {data after : List UInt8} {start count i : Nat}
    (h : MovesToFront data start count after) (behind : count ≤ i) : after[i]? = data[i]? := by
  obtain ⟨distance, rfl⟩ := Nat.exists_eq_add_of_le behind
  rw [← List.getElem?_drop, h.kept, List.getElem?_drop]

/-- One more byte is moved to the front by writing what stands now where it stood. -/
theorem MovesToFront.next {data after : List UInt8} {start count : Nat}
    (h : MovesToFront data start count after) (inside : start + count < data.length) :
    MovesToFront data start (count + 1) (after.set count (after.getD (start + count) 0)) := by
  -- Its place is not before the new places, so it was not written over yet.
  have read : after.getD (start + count) 0 = data[start + count] := by
    rw [List.getD_eq_getElem?_getD, h.getElem?_eq (Nat.le_add_left count start),
      List.getElem?_eq_getElem inside, Option.getD_some]
  have room : count < (after.set count data[start + count]).length := by
    rw [List.length_set, h.length]
    omega
  have source : count < (data.drop start).length := by
    rw [List.length_drop]
    omega
  rw [read]
  refine ⟨?_, ?_, ?_⟩
  · rw [List.take_succ_eq_append_getElem room, List.take_set_of_le (Nat.le_refl count), h.moved,
      List.getElem_set_self, List.take_succ_eq_append_getElem source, List.getElem_drop]
  · rw [List.drop_set_of_lt (Nat.lt_add_one count), ← List.drop_drop, ← List.drop_drop, h.kept]
  · rw [List.length_set, h.length]

/-- Moving bytes one by one moves them to the front. -/
theorem movesToFront_moveEach {data : List UInt8} {start count : Nat}
    (h : start + count ≤ data.length) :
    MovesToFront data start count (moveEach data start count) := by
  induction count with
  | zero => exact ⟨rfl, rfl, rfl⟩
  | succ count ih => exact (ih (by omega)).next (by omega)

/-- Moving bytes one by one is moving them as a block. -/
theorem moveEach_eq_moveBlock {data : List UInt8} {start count : Nat}
    (h : start + count ≤ data.length) : moveEach data start count = moveBlock data start count :=
  (movesToFront_moveEach h).eq_moveBlock

/-! ## Either way -/

/-- Leftovers are moved to the front as a block, whichever way is taken. -/
theorem compact_eq {data : List UInt8} {start stop : Nat} (hs : start ≤ stop)
    (h : stop ≤ data.length) :
    compact data start stop = (stop - start, moveBlock data start (stop - start)) := by
  unfold compact
  dsimp only
  split
  · rename_i zero
    rw [zero, Nat.sub_zero, moveBlock, List.drop_zero, List.take_append_drop]
  · split
    · rw [moveEach_eq_moveBlock (by omega)]
    · rfl

/-- **Leftovers are moved to the front exactly.** `compact` says how many there are, and moves them
to the front. So does either way that it may take, whether or not source and target overlap, and
both leave the same buffer. -/
theorem compact_moves_exactly {data : List UInt8} {start stop : Nat} (ordered : start ≤ stop)
    (inside : stop ≤ data.length) :
    (compact data start stop).1 = stop - start ∧
      MovesToFront data start (stop - start) (compact data start stop).2 ∧
      MovesToFront data start (stop - start) (moveEach data start (stop - start)) ∧
      MovesToFront data start (stop - start) (moveBlock data start (stop - start)) ∧
      moveEach data start (stop - start) = moveBlock data start (stop - start) := by
  have fits : start + (stop - start) ≤ data.length := by omega
  have block := movesToFront_moveBlock fits
  have compacted := compact_eq ordered inside
  refine ⟨?_, ?_, movesToFront_moveEach fits, block, moveEach_eq_moveBlock fits⟩
  · rw [compacted]
  · rw [compacted]
    exact block

/-- Eighty bytes that are all different. -/
def eightyBytes : List UInt8 := (List.range 80).map UInt8.ofNat

/-- Seventy of them are moved by eight places, so that source and target overlap. -/
theorem compact_moves_exactly_eightyBytes :
    (8 ≤ 78 ∧ 78 ≤ eightyBytes.length) ∧
      (compact eightyBytes 8 78).1 = 70 ∧
      (compact eightyBytes 8 78).2.take 70 = (List.range' 8 70).map UInt8.ofNat ∧
      (compact eightyBytes 8 78).2.drop 70 = (List.range' 70 10).map UInt8.ofNat ∧
      moveEach eightyBytes 8 70 = moveBlock eightyBytes 8 70 := by
  have ordered : 8 ≤ 78 := by decide
  have inside : 78 ≤ eightyBytes.length := by decide
  obtain ⟨number, compacted, -, -, same⟩ := compact_moves_exactly ordered inside
  exact ⟨⟨ordered, inside⟩, number, compacted.moved.trans (by decide),
    compacted.kept.trans (by decide), same⟩

end ChannelAccess.ReceiveBuffer
