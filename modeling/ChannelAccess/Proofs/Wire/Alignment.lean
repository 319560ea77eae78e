import Mathlib.Order.Bounds.Basic
import ChannelAccess.Proofs.Wire.MessageCodec

/-!
# Messages are aligned frames

The payload of a message is padded when it is written, and the header declares the padded length, so
that a message comes back with the padding in its payload (`Message.padded`). `Message.FramedBy`
says what the bytes of a message are to a reader who knows nothing else: a frame of a multiple of
eight bytes that says where it ends and holds the message's values.

Padding is the only thing that a round trip changes, and it is done once: a padded message is
written as the same bytes (`Message.toBytes_padded`). So a message that was read may be written and
read again any number of times.
-/

namespace ChannelAccess

/-- Padding is the least number of bytes that brings a length to a multiple of eight. -/
theorem Terminated.isLeast_padding (length : Nat) :
    IsLeast {zeros | 8 ∣ length + zeros} (padding length) := by
  constructor
  · exact Nat.dvd_of_mod_eq_zero (add_padding_mod length)
  · -- A shorter padding would leave the length between two multiples.
    intro zeros aligned
    have whole : (length + zeros) % 8 = 0 := Nat.mod_eq_zero_of_dvd aligned
    unfold padding
    omega

namespace Message

/-- The message with its payload padded, as it is read back. -/
def padded (message : Message) : Message :=
  { message with payload := Terminated.pad message.payload }

/-- The bytes are one frame of the message. -/
structure FramedBy (message : Message) (bytes : List UInt8) : Prop where
  /-- The frame is a multiple of eight bytes long. -/
  aligned : 8 ∣ bytes.length
  /-- Whatever follows, the message is read from the frame with the fewest zeros behind its payload
  that make this a multiple of eight bytes long. -/
  isRead : ∃ zeros, IsLeast {zeros | 8 ∣ message.payload.length + zeros} zeros ∧
    ∀ rest, parse (bytes ++ rest) =
      .ok ({ message with payload := message.payload ++ List.replicate zeros 0 }, rest)
  /-- The header says how long the frame is. -/
  declared : ∀ rest, ∃ header after, Header.parse? (bytes ++ rest) = some (header, after) ∧
    header.frameLength = bytes.length

/-- Header and padded payload are each a multiple of eight bytes long. -/
theorem dvd_length_toBytes (message : Message) : 8 ∣ message.toBytes.length := by
  have payload := Nat.dvd_of_mod_eq_zero (Terminated.length_pad_mod message.payload)
  have header : 8 ∣ message.header.encodedLength := by
    rw [Header.encodedLength_eq]
    split <;> decide
  rw [toBytes, List.length_append, Header.length_toBytes]
  exact Nat.dvd_add header payload

/-- A message is written as one frame of it, if the header can declare the padded payload. -/
theorem framedBy_toBytes (message : Message)
    (fits : (Terminated.pad message.payload).length < 2 ^ 32) :
    message.FramedBy message.toBytes := by
  have layout := message.layout_toBytes fits
  refine ⟨message.dvd_length_toBytes,
    ⟨_, Terminated.isLeast_padding _, message.parse_toBytes_append fits⟩, fun rest => ?_⟩
  exact ⟨_, _, Header.parse?_append layout.parse?_header rest, layout.length_eq.symm⟩

/-- Padding a message does not change how it is written. -/
theorem toBytes_padded (message : Message) : message.padded.toBytes = message.toBytes := by
  unfold toBytes header padded
  rw [Terminated.pad_pad]

/-- What is read has a payload whose length a header could declare. -/
theorem length_payload_of_parse {bytes rest : List UInt8} {message : Message}
    (read : parse bytes = .ok (message, rest)) : message.payload.length < 2 ^ 32 := by
  obtain ⟨frame, stands, rfl⟩ := parse_eq_ok_iff.mp read
  obtain ⟨piece, ⟨front, -, -, size⟩, -⟩ := Frame.parse?_eq_some_iff.mp stands
  show frame.payload.length < 2 ^ 32
  rw [size]
  exact frame.header.payloadSize.toNat_lt

/-- A message comes back from its bytes exactly if the header can declare the padded payload. -/
theorem parse_toBytes_iff (message : Message) :
    parse message.toBytes = .ok (message.padded, []) ↔
      (Terminated.pad message.payload).length < 2 ^ 32 := by
  refine ⟨length_payload_of_parse, fun fits => ?_⟩
  have read := message.parse_toBytes_append fits []
  rwa [List.append_nil] at read

end Message

/-- Everything that is sent is one aligned frame that describes itself: any message, and any request
as the message that it is, provided that the header can declare its padded payload. Reading the
frame gives the message back with its payload padded. So does reading what a message that was read
from anywhere is written as, under the same condition and only under it. From then on writing and
reading undo each other: the message that comes back is written as the bytes that it was read
from. -/
theorem requests_are_aligned_frames :
    (∀ message : Message, (Terminated.pad message.payload).length < 2 ^ 32 →
      message.FramedBy message.toBytes) ∧
    (∀ request : Request, (Terminated.pad request.message.payload).length < 2 ^ 32 →
      request.message.FramedBy request.toBytes) ∧
    ∀ (bytes rest : List UInt8) (message : Message), Message.parse bytes = .ok (message, rest) →
      (Message.parse message.toBytes = .ok (message.padded, []) ↔
        (Terminated.pad message.payload).length < 2 ^ 32) ∧
      message.padded.toBytes = message.toBytes := by
  refine ⟨Message.framedBy_toBytes, ?_, ?_⟩
  · intro request fits
    exact request.message.framedBy_toBytes fits
  · intro bytes rest message _
    exact ⟨message.parse_toBytes_iff, message.toBytes_padded⟩

/-- A write of three bytes that counts more elements than a standard header can. -/
def longWrite : Request :=
  .writeNotify { dataType := 4, dataCount := 0x10000, serverId := 1, requestId := 2 } [1, 2, 3]

/-- A frame with a payload of three bytes. -/
def unpaddedFrame : List UInt8 := [0, 15, 0, 3, 0, 4, 0, 3, 0, 0, 0, 1, 0, 0, 0, 2, 1, 2, 3]

/-- The write is read back with five zeros behind its payload, and the frame is read differently
only once it has been written again. -/
theorem requests_are_aligned_frames_longWrite :
    Message.parse (longWrite.toBytes ++ [9]) =
        .ok ({ longWrite.message with payload := [1, 2, 3, 0, 0, 0, 0, 0] }, [9]) ∧
      Message.parse unpaddedFrame = .ok (⟨15, 4, 3, 1, 2, [1, 2, 3]⟩, []) ∧
      Message.parse (⟨15, 4, 3, 1, 2, [1, 2, 3]⟩ : Message).toBytes =
        .ok (⟨15, 4, 3, 1, 2, [1, 2, 3, 0, 0, 0, 0, 0]⟩, []) := by
  obtain ⟨-, framed, again⟩ := requests_are_aligned_frames
  obtain ⟨-, ⟨zeros, least, isRead⟩, -⟩ := framed longWrite (by decide)
  have five : zeros = 5 := least.unique (Terminated.isLeast_padding 3)
  have read : Message.parse unpaddedFrame = .ok (⟨15, 4, 3, 1, 2, [1, 2, 3]⟩, []) := by decide
  subst five
  exact ⟨isRead [9], read, (again _ _ _ read).1.mpr (by decide)⟩

end ChannelAccess
