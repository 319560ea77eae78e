import ChannelAccess.Frame

/-!
# Reception on a circuit

A circuit reads into a buffer of fixed size. After each read, `ReceiveBuffer.deliver` takes every
complete frame from its front and moves what is left to the front. A frame that would not fit the
buffer is never read; the circuit that it comes on is closed.

`compact` moves short leftovers byte by byte and longer ones as a block.
-/

namespace ChannelAccess

/-- A buffer of fixed size that is filled from the front. -/
structure ReceiveBuffer where
  /-- All bytes of the buffer, those that were not filled among them. -/
  data : List UInt8
  /-- How many of the bytes were received. -/
  filled : Nat := 0
  deriving DecidableEq, Repr

/-- What stands at the front of the bytes received. -/
inductive FrontOfStream where
  /-- A frame that is not complete yet. -/
  | incomplete
  /-- A frame of some length that does not fit the buffer. -/
  | oversized (length : Nat)
  /-- A frame, with the bytes that it takes. -/
  | complete (frame : Frame) (length : Nat)
  deriving DecidableEq, Repr

/-- The frames found in the bytes received. -/
structure StreamScan where
  /-- The frames. -/
  frames : List Frame := []
  /-- The bytes that they take. -/
  consumed : Nat := 0
  /-- The length of the frame after them, if it does not fit the buffer. -/
  oversized : Option Nat := none
  deriving DecidableEq, Repr

namespace ReceiveBuffer

/-- An empty buffer of some size. -/
def ofCapacity (capacity : Nat) : ReceiveBuffer := { data := List.replicate capacity 0 }

/-- Bytes that the buffer can hold. -/
def capacity (buffer : ReceiveBuffer) : Nat := buffer.data.length

/-- Bytes that can still be received. -/
def free (buffer : ReceiveBuffer) : Nat := buffer.capacity - buffer.filled

/-- The bytes received. -/
def received (buffer : ReceiveBuffer) : List UInt8 := buffer.data.take buffer.filled

/-- No more bytes can be received. -/
def isFull (buffer : ReceiveBuffer) : Bool := buffer.filled == buffer.capacity

/-- Adds bytes, which have to fit. -/
def fill (buffer : ReceiveBuffer) (bytes : List UInt8) : ReceiveBuffer where
  data :=
    buffer.data.take buffer.filled ++ bytes ++ buffer.data.drop (buffer.filled + bytes.length)
  filled := buffer.filled + bytes.length

/-- What stands at the front of bytes received into a buffer of some size. -/
def front (capacity : Nat) (available : List UInt8) : FrontOfStream :=
  match Header.parse? available with
  | none => .incomplete
  | some (header, _) =>
    let length := header.frameLength
    if capacity < length then .oversized length
    else if available.length < length then .incomplete
    else
      .complete
        ⟨header, (available.drop header.encodedLength).take (length - header.encodedLength)⟩ length

/-- A complete frame takes some of the bytes. -/
theorem length_of_front {capacity length : Nat} {available : List UInt8} {frame : Frame}
    (h : front capacity available = .complete frame length) :
    0 < length ∧ length ≤ available.length := by
  unfold front at h
  split at h
  · simp at h
  · rename_i header _ _
    have := Frame.frameLength_pos header
    simp only at h
    split at h
    · simp at h
    · split at h
      · simp at h
      · simp only [FrontOfStream.complete.injEq] at h
        obtain ⟨-, rfl⟩ := h
        omega

/-- The frames at the front of bytes received into a buffer of some size. -/
def scan (capacity : Nat) (available : List UInt8) : StreamScan :=
  match h : front capacity available with
  | .incomplete => {}
  | .oversized length => { oversized := some length }
  | .complete frame length =>
    have := length_of_front h
    let after := scan capacity (available.drop length)
    { after with frames := frame :: after.frames, consumed := length + after.consumed }
termination_by available.length
decreasing_by simp only [List.length_drop]; omega

/-- Leftovers shorter than this are moved byte by byte. -/
def blockThreshold : Nat := 64

/-- Moves bytes to the front one by one. -/
def moveEach (data : List UInt8) (start : Nat) : (count : Nat) → List UInt8
  | 0 => data
  | count + 1 =>
    let data := moveEach data start count
    data.set count (data.getD (start + count) 0)

/-- Moves bytes to the front as a block. -/
def moveBlock (data : List UInt8) (start count : Nat) : List UInt8 :=
  (data.drop start).take count ++ data.drop count

/-- Moves the bytes between two places to the front. Also says how many there are. -/
def compact (data : List UInt8) (start stop : Nat) : Nat × List UInt8 :=
  let remaining := stop - start
  if start = 0 then (remaining, data)
  else if remaining < blockThreshold then (remaining, moveEach data start remaining)
  else (remaining, moveBlock data start remaining)

/-- Takes the complete frames from the front, and moves what is left there. A buffer in which an
oversized frame was found is left as it is. -/
def deliver (buffer : ReceiveBuffer) : StreamScan × ReceiveBuffer :=
  let found := scan buffer.capacity buffer.received
  match found.oversized with
  | some _ => (found, buffer)
  | none =>
    let (filled, data) := compact buffer.data found.consumed buffer.filled
    (found, { data, filled })

end ReceiveBuffer

end ChannelAccess
