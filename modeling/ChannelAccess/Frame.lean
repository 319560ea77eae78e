import ChannelAccess.Wire.Header

/-!
# Frames

A frame is a header and the payload that it declares. `Frame.parse?` takes the frame off the front
of some bytes, and `Frame.split` takes frames off until the first that is not complete. Datagrams
and circuits each have a loop of their own that finds these frames where they stand.
-/

namespace ChannelAccess

/-- A header and the payload that it declares. -/
structure Frame where
  /-- The header. -/
  header : Header
  /-- The payload. -/
  payload : List UInt8
  deriving DecidableEq, Repr, Inhabited

namespace Frame

/-- The frame at the front of some bytes and the bytes after it; `none` if it is not complete. -/
def parse? (bytes : List UInt8) : Option (Frame × List UInt8) :=
  match Header.parse? bytes with
  | none => none
  | some (header, rest) =>
    if rest.length < header.payloadSize.toNat then none
    else
      some (⟨header, rest.take header.payloadSize.toNat⟩, rest.drop header.payloadSize.toNat)

/-- A frame takes as many bytes as its header says. -/
theorem length_of_parse? {bytes rest : List UInt8} {frame : Frame}
    (h : parse? bytes = some (frame, rest)) :
    bytes.length = frame.header.frameLength + rest.length := by
  unfold parse? at h
  split at h
  · simp at h
  · rename_i header after hparse
    have hlength := Header.length_of_parse? hparse
    split at h
    · simp at h
    · simp only [Option.some.injEq, Prod.mk.injEq] at h
      obtain ⟨rfl, rfl⟩ := h
      simp only [Header.frameLength, List.length_drop]
      omega

/-- A frame takes at least one byte. -/
theorem frameLength_pos (header : Header) : 0 < header.frameLength := by
  unfold Header.frameLength Header.encodedLength extendedHeaderLength standardHeaderLength
  split <;> omega

/-- The frames that some bytes start with, and the bytes after the last of them. -/
def split (bytes : List UInt8) : List Frame × List UInt8 :=
  match h : parse? bytes with
  | none => ([], bytes)
  | some (frame, rest) =>
    have := length_of_parse? h
    have := frameLength_pos frame.header
    let (frames, left) := split rest
    (frame :: frames, left)
termination_by bytes.length

end Frame

end ChannelAccess
