import Mathlib.Data.List.TakeWhile
import ChannelAccess.Proofs.Circuit.Receiving
import ChannelAccess.Proofs.Wire.MessageCodec
import ChannelAccess.Transport.Datagrams

/-!
# One way to cut bytes into frames

Datagrams, circuits and readers of messages each find the end of a frame in their own way: a
datagram by the length that the header reports, a circuit by positions in its buffer, a reader of
messages by what reading the header leaves. `framers_agree` says that they find the same frames and
leave the same bytes, and that these are the frames of the longest beginning that consists of whole
frames.

Each of the three is related to `Frame.split` on its own: `DatagramTransport.unpack_eq_split`,
`Message.readAll_flatten_append`, and `ReceiveBuffer.deliver_of_not_oversteps`.
-/

namespace ChannelAccess

/-! ## Datagrams -/

namespace DatagramTransport

variable {bytes rest : List UInt8} {frame : Frame}

/-- A datagram that starts with no complete frame is dropped. -/
theorem unpack_of_none (none : Frame.parse? bytes = none) : unpack bytes = ([], bytes) := by
  unfold unpack
  cases bytes with
  | nil => rfl
  | cons byte later =>
    unfold Frame.parse? at none
    rw [List.isEmpty_cons, if_neg Bool.false_ne_true]
    cases parsed : Header.parse? (byte :: later) with
    | none => rfl
    | some result =>
      -- The header is read, so that it is the payload that is not complete.
      obtain ⟨header, after⟩ := result
      have total := Header.length_of_parse? parsed
      rw [parsed] at none
      simp only [ite_eq_left_iff, reduceCtorEq, imp_false, Decidable.not_not] at none
      have missing : (byte :: later).length < header.frameLength := by
        rw [total, Header.frameLength]
        omega
      dsimp only
      rw [dif_pos missing]

/-- The first frame of a datagram is handed over, then the rest is unpacked. -/
theorem unpack_of_some (stands : Frame.parse? bytes = some (frame, rest)) :
    unpack bytes = (frame :: (unpack rest).1, (unpack rest).2) := by
  have length := Frame.length_of_parse? stands
  have positive := Frame.frameLength_pos frame.header
  obtain ⟨after, header⟩ := Frame.header_of_parse? stands
  have enough : ¬ bytes.length < frame.header.frameLength := by omega
  have nonempty : ¬ bytes.isEmpty = true := by
    intro empty
    rw [List.isEmpty_iff.mp empty, List.length_nil] at length
    omega
  have dropped := Frame.drop_of_parse? stands
  -- The payload stands between the end of the header and the end of the frame.
  have payload : (bytes.drop frame.header.encodedLength).take
      (frame.header.frameLength - frame.header.encodedLength) = frame.payload := by
    obtain ⟨piece, ⟨front, layout, rfl, size⟩, rfl⟩ := Frame.parse?_eq_some_iff.mp stands
    rw [List.append_assoc, List.drop_left' layout.length_eq, Header.frameLength,
      Nat.add_sub_cancel_left, List.take_left' size]
  rw [unpack, if_neg nonempty, header]
  dsimp only
  rw [dif_neg enough, payload, dropped]

/-- A datagram is cut like a stream that nothing follows. -/
theorem unpack_eq_split (bytes : List UInt8) : unpack bytes = Frame.split bytes := by
  induction bytes using Frame.induction_on_split with
  | none bytes h => rw [unpack_of_none h, Frame.split_of_none h]
  | some bytes frame rest h ih => rw [unpack_of_some h, Frame.split_of_some h, ih]

end DatagramTransport

/-! ## Messages -/

namespace Message

/-- The messages that are read one after the other until reading fails, each with the bytes that it
was read from, and the bytes where reading fails. -/
def readAll (bytes : List UInt8) : List (Message × List UInt8) × List UInt8 :=
  match h : parse bytes with
  | .error _ => ([], bytes)
  | .ok (message, rest) =>
    have := length_of_parse h
    let (read, left) := readAll rest
    ((message, bytes.take (bytes.length - rest.length)) :: read, left)
termination_by bytes.length
decreasing_by simp only [standardHeaderLength] at this; omega

/-- No message is read where no frame is complete. -/
theorem readAll_of_none {bytes : List UInt8} (none : Frame.parse? bytes = none) :
    readAll bytes = ([], bytes) := by
  obtain ⟨error, fails⟩ := exists_error_of_none none
  rw [readAll]
  split
  · rfl
  · rename_i read
    rw [fails] at read
    contradiction

/-- The message of the first frame is read from its bytes, then reading goes on behind them. -/
theorem readAll_append {frame : Frame} {piece : List UInt8} (layout : frame.Layout piece)
    (rest : List UInt8) :
    readAll (piece ++ rest) =
      ((ofFrame frame.header frame.payload, piece) :: (readAll rest).1, (readAll rest).2) := by
  have reads := parse_eq_ok_iff.mpr ⟨frame, layout.parse?_append rest, rfl⟩
  rw [readAll]
  split
  · rename_i fails
    rw [reads] at fails
    contradiction
  · rename_i read
    rw [reads] at read
    simp only [Except.ok.injEq, Prod.mk.injEq] at read
    obtain ⟨rfl, rfl⟩ := read
    have isPiece : (piece ++ rest).take ((piece ++ rest).length - rest.length) = piece := by
      rw [List.length_append, Nat.add_sub_cancel, List.take_left]
    dsimp only
    rw [isPiece]

/-- Reading messages where some frames stand reads the message of each from its bytes. -/
theorem readAll_flatten_append {frames : List Frame} {pieces : List (List UInt8)}
    (layouts : List.Forall₂ Frame.Layout frames pieces) {rest : List UInt8}
    (none : Frame.parse? rest = none) :
    readAll (pieces.flatten ++ rest) =
      ((frames.map fun frame => ofFrame frame.header frame.payload).zip pieces, rest) := by
  induction layouts with
  | nil => exact readAll_of_none none
  | cons layout _ ih =>
    rw [List.flatten_cons, List.append_assoc, readAll_append layout, ih]
    rfl

end Message

/-! ## Circuits -/

/-- No header stops a receiver if all frames fit it and the header of what is left over would. -/
theorem Frame.not_oversteps_of_fits {capacity : Nat} {bytes : List UInt8}
    (fits : ∀ frame ∈ (split bytes).1, frame.header.frameLength ≤ capacity)
    (fitsLast : ∀ header rest, Header.parse? (split bytes).2 = some (header, rest) →
      header.frameLength ≤ capacity) : ¬ Oversteps capacity bytes := by
  -- No frame is too long, so that the receiver comes as far as the last of them.
  have all : accepted capacity bytes = (split bytes).1 := by
    unfold accepted
    rw [List.takeWhile_eq_self_iff]
    intro frame member
    exact decide_eq_true (fits frame member)
  rintro ⟨header, rest, parsed, long⟩
  rw [all, drop_totalLength_split] at parsed
  exact Nat.not_lt.mpr (fitsLast header rest parsed) long

/-- The three ways to cut bytes into frames agree. All find the frames of the longest beginning that
consists of whole frames: each has the header that is read from its first byte and the payload that
this header declares. Unpacking a datagram hands over these frames and drops the bytes after them;
reading messages until it fails reads from each frame's bytes a message with the frame's values and
stops after the last; a circuit whose receive buffer holds the bytes, and whose size no header met
exceeds, delivers the same frames and keeps the bytes that a datagram drops. -/
theorem framers_agree (bytes : List UInt8) :
    ∃ frames pieces left, Frame.LongestCut bytes frames pieces left ∧
      List.Forall₂ (fun frame piece =>
        Header.parse? piece = some (frame.header, frame.payload) ∧
          frame.payload.length = frame.header.payloadSize.toNat) frames pieces ∧
      DatagramTransport.unpack bytes = (frames, left) ∧
      (∀ transport : DatagramTransport, transport.closed = false →
        transport.receive bytes = frames) ∧
      Message.readAll bytes =
        ((frames.map fun frame => Message.ofFrame frame.header frame.payload).zip pieces, left) ∧
      ∀ buffer : ReceiveBuffer, buffer.WellFilled → buffer.received = bytes →
        (∀ frame ∈ frames, frame.header.frameLength ≤ buffer.capacity) →
        (∀ header rest, Header.parse? left = some (header, rest) →
          header.frameLength ≤ buffer.capacity) →
        buffer.deliver.1.frames = frames ∧ buffer.deliver.1.oversized = none ∧
          buffer.deliver.2.received = left := by
  obtain ⟨pieces, cut⟩ := Frame.longestCut_split bytes
  have stops := Frame.parse?_split_snd bytes
  have unpacked := DatagramTransport.unpack_eq_split bytes
  have read := Message.readAll_flatten_append cut.layouts stops
  rw [← cut.whole] at read
  -- All three are compared with cutting the stream.
  refine ⟨_, pieces, _, cut, ?_, unpacked, ?_, read, ?_⟩
  · refine cut.layouts.imp fun frame piece layout => ⟨layout.parse?_header, ?_⟩
    obtain ⟨front, -, -, size⟩ := layout
    exact size
  · intro transport isOpen
    rw [DatagramTransport.receive, isOpen, unpacked]
    rfl
  · rintro buffer filled rfl fits fitsLast
    obtain ⟨oversized, frames, received, -, -⟩ := ReceiveBuffer.deliver_of_not_oversteps filled
      (Frame.not_oversteps_of_fits fits fitsLast)
    exact ⟨frames, oversized, received⟩

/-- A heartbeat, an extended header whose values would fit the standard form with its payload, and
a header that declares more than follows. -/
def truncatedDatagram : List UInt8 :=
  [0, 23, 0, 0, 0, 0, 0, 0, 0, 0, 0, 0, 0, 0, 0, 0] ++ roomyBytes ++ List.replicate 8 0xEE ++
    [0, 1, 0, 8, 0, 6, 0, 1, 0, 0, 0, 1, 0, 0, 0, 2, 7, 7]

/-- A receive buffer that just holds these bytes. -/
def truncatedBuffer : ReceiveBuffer where
  data := truncatedDatagram
  filled := truncatedDatagram.length

/-- Two frames are found, and the last 18 bytes are left. -/
theorem framers_agree_truncatedDatagram :
    (truncatedBuffer.deliver.1.frames.map fun frame => frame.header.command) = [23, 15] ∧
      truncatedBuffer.deliver.2.received = truncatedDatagram.drop 48 := by
  obtain ⟨frames, pieces, left, -, -, unpacked, -, -, delivers⟩ := framers_agree truncatedDatagram
  have isFrames : (DatagramTransport.unpack truncatedDatagram).1 = frames := by rw [unpacked]
  have isLeft : (DatagramTransport.unpack truncatedDatagram).2 = left := by rw [unpacked]
  subst isFrames isLeft
  have fits : ∀ frame ∈ (DatagramTransport.unpack truncatedDatagram).1,
      frame.header.frameLength ≤ truncatedBuffer.capacity := by decide +kernel
  have left : (DatagramTransport.unpack truncatedDatagram).2 = truncatedDatagram.drop 48 := by
    decide +kernel
  have last : Header.parse? (truncatedDatagram.drop 48) =
      some (⟨1, 8, 6, 1, 1, 2, false⟩, [7, 7]) := by decide +kernel
  have fitsLast : ∀ header rest,
      Header.parse? (DatagramTransport.unpack truncatedDatagram).2 = some (header, rest) →
        header.frameLength ≤ truncatedBuffer.capacity := by
    intro header rest parsed
    rw [left, last, Option.some.injEq, Prod.mk.injEq] at parsed
    rw [← parsed.1]
    decide
  obtain ⟨frames, -, received⟩ := delivers truncatedBuffer (Nat.le_refl _) (List.take_length ..)
    fits fitsLast
  rw [frames, received, left]
  exact ⟨by decide +kernel, rfl⟩

end ChannelAccess
