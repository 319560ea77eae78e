import ChannelAccess.Proofs.Circuit.Compaction
import ChannelAccess.Proofs.Framing.Stream

/-!
# What a receive buffer delivers

The frames that `ReceiveBuffer.scan` finds are the accepted frames of the bytes received, and what
`ReceiveBuffer.deliver` keeps is what cutting these bytes leaves over. Nothing here depends on how
the bytes came into the buffer.
-/

namespace ChannelAccess.ReceiveBuffer

/-- The bytes received fit the buffer. -/
def WellFilled (buffer : ReceiveBuffer) : Prop := buffer.filled ≤ buffer.capacity

/-! ## Filling -/

/-- The received bytes of a buffer are as many as were filled in. -/
theorem length_received {buffer : ReceiveBuffer} (h : buffer.WellFilled) :
    buffer.received.length = buffer.filled := by
  rw [received, List.length_take]
  exact Nat.min_eq_left h

/-- Filling a buffer does not change its size. -/
theorem capacity_fill {buffer : ReceiveBuffer} {bytes : List UInt8}
    (h : buffer.WellFilled) (hb : bytes.length ≤ buffer.free) :
    (buffer.fill bytes).capacity = buffer.capacity := by
  simp only [WellFilled, free, capacity] at h hb
  simp only [fill, capacity, List.length_append, List.length_take, List.length_drop]
  omega

/-- What is filled in comes after what was received before. -/
theorem received_fill {buffer : ReceiveBuffer} (h : buffer.WellFilled) (bytes : List UInt8) :
    (buffer.fill bytes).received = buffer.received ++ bytes := by
  have length :
      (buffer.data.take buffer.filled ++ bytes).length = buffer.filled + bytes.length := by
    rw [List.length_append, ← received, length_received h]
  rw [received, fill, List.take_append_of_le_length (Nat.le_of_eq length.symm),
    List.take_of_length_le (Nat.le_of_eq length), received]

/-- A buffer stays well filled when the bytes filled in fit. -/
theorem wellFilled_fill {buffer : ReceiveBuffer} {bytes : List UInt8}
    (h : buffer.WellFilled) (hb : bytes.length ≤ buffer.free) :
    (buffer.fill bytes).WellFilled := by
  have same := capacity_fill h hb
  simp only [WellFilled, free] at h hb
  rw [WellFilled, same]
  show buffer.filled + bytes.length ≤ buffer.capacity
  omega

/-! ## Scanning -/

/-- Nothing stands at the front as long as the first frame is not complete and none too long is
declared. -/
theorem front_of_incomplete {capacity : Nat} {bytes : List UInt8}
    (h : Frame.parse? bytes = none)
    (short : ∀ header rest, Header.parse? bytes = some (header, rest) →
      header.frameLength ≤ capacity) : front capacity bytes = .incomplete := by
  unfold front
  cases parsed : Header.parse? bytes with
  | none => rfl
  | some result =>
    obtain ⟨header, rest⟩ := result
    have fits := short header rest parsed
    have total := Header.length_of_parse? parsed
    have missing : rest.length < header.payloadSize.toNat := by
      rw [← Nat.not_le]
      intro enough
      rw [Frame.parse?, parsed] at h
      dsimp only at h
      rw [if_neg (Nat.not_lt.mpr enough)] at h
      contradiction
    dsimp only
    rw [if_neg (Nat.not_lt.mpr fits), if_pos (by rw [Header.frameLength]; omega)]

/-- A header that declares too much is noticed before its payload has come. -/
theorem front_of_long {capacity : Nat} {bytes rest : List UInt8} {header : Header}
    (h : Header.parse? bytes = some (header, rest)) (long : capacity < header.frameLength) :
    front capacity bytes = .oversized header.frameLength := by
  rw [front, h]
  dsimp only
  rw [if_pos long]

/-- A complete frame that fits stands at the front with its payload. -/
theorem front_of_fits {capacity : Nat} {bytes rest : List UInt8} {frame : Frame}
    (h : Frame.parse? bytes = some (frame, rest)) (hf : frame.header.frameLength ≤ capacity) :
    front capacity bytes = .complete frame frame.header.frameLength := by
  unfold Frame.parse? at h
  split at h
  · contradiction
  · rename_i header after parsed
    have total := Header.length_of_parse? parsed
    split at h
    · contradiction
    · simp only [Option.some.injEq, Prod.mk.injEq] at h
      obtain ⟨rfl, rfl⟩ := h
      rw [front, parsed]
      dsimp only at hf ⊢
      rw [if_neg (Nat.not_lt.mpr hf), if_neg (by rw [Header.frameLength]; omega),
        Header.drop_of_parse? parsed, Header.frameLength, Nat.add_sub_cancel_left]

/-- Scanning stops at a frame that is not complete. -/
theorem scan_of_incomplete {capacity : Nat} {bytes : List UInt8}
    (h : front capacity bytes = .incomplete) : scan capacity bytes = {} := by
  rw [scan]
  split <;> simp_all

/-- Scanning stops at a frame that does not fit. -/
theorem scan_of_oversized {capacity length : Nat} {bytes : List UInt8}
    (h : front capacity bytes = .oversized length) :
    scan capacity bytes = { oversized := some length } := by
  rw [scan]
  split <;> simp_all

/-- Scanning goes on after a complete frame. -/
theorem scan_of_complete {capacity length : Nat} {bytes : List UInt8} {frame : Frame}
    (h : front capacity bytes = .complete frame length) :
    scan capacity bytes =
      { scan capacity (bytes.drop length) with
        frames := frame :: (scan capacity (bytes.drop length)).frames
        consumed := length + (scan capacity (bytes.drop length)).consumed } := by
  rw [scan]
  split <;> simp_all

/-- Scanning finds the accepted frames and the bytes that they take, and reports a header that
declares too much if one was reached. -/
theorem scan_spec (capacity : Nat) (bytes : List UInt8) :
    (scan capacity bytes).frames = Frame.accepted capacity bytes ∧
      (scan capacity bytes).consumed = Frame.totalLength (Frame.accepted capacity bytes) ∧
      ((scan capacity bytes).oversized = none ↔ ¬ Frame.Oversteps capacity bytes) := by
  induction bytes using Frame.induction_on_accepted capacity with
  | incomplete bytes none short =>
    rw [scan_of_incomplete (front_of_incomplete none short), Frame.accepted_of_none none]
    exact ⟨rfl, rfl, iff_of_true rfl (Frame.not_oversteps_of_none none short)⟩
  | long bytes header rest parsed beyond =>
    rw [scan_of_oversized (front_of_long parsed beyond), Frame.accepted_of_long parsed beyond]
    exact ⟨rfl, rfl, iff_of_false (Option.some_ne_none _)
      (not_not_intro (Frame.oversteps_of_long parsed beyond))⟩
  | fitting bytes frame rest parsed hf ih =>
    obtain ⟨frames, consumed, oversized⟩ := ih
    rw [scan_of_complete (front_of_fits parsed hf), Frame.drop_of_parse? parsed,
      Frame.accepted_of_fits parsed hf, Frame.oversteps_of_fits parsed hf]
    exact ⟨congrArg (frame :: ·) frames,
      congrArg (frame.header.frameLength + ·) consumed, oversized⟩

/-! ## Delivering -/

/-- A buffer that no header has overstepped delivers all frames in it and keeps what cutting its
bytes leaves over. -/
theorem deliver_of_not_oversteps {buffer : ReceiveBuffer} (h : buffer.WellFilled)
    (ho : ¬ Frame.Oversteps buffer.capacity buffer.received) :
    buffer.deliver.1.oversized = none ∧
      buffer.deliver.1.frames = (Frame.split buffer.received).1 ∧
      buffer.deliver.2.received = (Frame.split buffer.received).2 ∧
      buffer.deliver.2.capacity = buffer.capacity ∧ buffer.deliver.2.WellFilled := by
  obtain ⟨frames, consumed, oversized⟩ := scan_spec buffer.capacity buffer.received
  have reported := oversized.mpr ho
  have total := Frame.length_split buffer.received
  rw [Frame.accepted_of_not_oversteps ho] at frames consumed
  rw [length_received h] at total
  generalize hfound : scan buffer.capacity buffer.received = found at *
  have inside : found.consumed + (buffer.filled - found.consumed) ≤ buffer.data.length := by
    have bound : buffer.filled ≤ buffer.data.length := h
    omega
  have moved : compact buffer.data found.consumed buffer.filled =
      (buffer.filled - found.consumed,
        moveBlock buffer.data found.consumed (buffer.filled - found.consumed)) :=
    compact_eq (by omega) h
  have delivered : buffer.deliver = (found,
      { data := moveBlock buffer.data found.consumed (buffer.filled - found.consumed)
        filled := buffer.filled - found.consumed }) := by
    rw [deliver, hfound]
    simp only [reported, moved]
  rw [delivered]
  refine ⟨reported, frames, ?_, length_moveBlock inside, ?_⟩
  · show (moveBlock buffer.data found.consumed (buffer.filled - found.consumed)).take
      (buffer.filled - found.consumed) = (Frame.split buffer.received).2
    rw [take_moveBlock inside, ← Frame.drop_totalLength_split, ← consumed, received,
      List.drop_take]
  · show buffer.filled - found.consumed ≤
      (moveBlock buffer.data found.consumed (buffer.filled - found.consumed)).length
    rw [length_moveBlock inside]
    omega

/-- A buffer that a header has overstepped delivers the frames before it and reports it. -/
theorem deliver_of_oversteps {buffer : ReceiveBuffer}
    (ho : Frame.Oversteps buffer.capacity buffer.received) :
    buffer.deliver.1.oversized ≠ none ∧
      buffer.deliver.1.frames = Frame.accepted buffer.capacity buffer.received := by
  obtain ⟨frames, -, oversized⟩ := scan_spec buffer.capacity buffer.received
  have reported : (scan buffer.capacity buffer.received).oversized ≠ none :=
    fun none => oversized.mp none ho
  have found : buffer.deliver.1 = scan buffer.capacity buffer.received := by
    rw [deliver]
    dsimp only
    split <;> rfl
  rw [found]
  exact ⟨reported, frames⟩

end ChannelAccess.ReceiveBuffer
