import ChannelAccess.Text.Utf8

/-!
# Zero-terminated text

Names travel as UTF-8 with at least one zero byte after them. `terminate` writes a text so, in a
field whose length is a multiple of eight; `ofField` reads a field of any length up to its first
zero byte, or all of it when there is none.
-/

namespace ChannelAccess.Terminated

/-- Zero bytes that bring a length up to a multiple of eight. -/
def padding (length : Nat) : Nat := (8 - length % 8) % 8

/-- Padding brings a length to a multiple of eight. -/
theorem add_padding_mod (length : Nat) : (length + padding length) % 8 = 0 := by
  unfold padding
  omega

/-- Fewer than eight bytes of padding are ever needed. -/
theorem padding_lt (length : Nat) : padding length < 8 := by
  unfold padding
  omega

/-- Bytes followed by the least number of zeros that makes their length a multiple of eight. -/
def pad (bytes : List UInt8) : List UInt8 :=
  bytes ++ List.replicate (padding bytes.length) 0

@[simp]
theorem length_pad (bytes : List UInt8) :
    (pad bytes).length = bytes.length + padding bytes.length := by
  simp [pad]

/-- Padded bytes come in groups of eight. -/
theorem length_pad_mod (bytes : List UInt8) : (pad bytes).length % 8 = 0 := by
  rw [length_pad]
  exact add_padding_mod bytes.length

/-- Bytes that come in groups of eight are not padded. -/
theorem pad_of_aligned {bytes : List UInt8} (aligned : bytes.length % 8 = 0) :
    pad bytes = bytes := by
  have nothing : padding bytes.length = 0 := by rw [padding, aligned]
  rw [pad, nothing, List.replicate_zero, List.append_nil]

/-- Padding is done once. -/
theorem pad_pad (bytes : List UInt8) : pad (pad bytes) = pad bytes :=
  pad_of_aligned (length_pad_mod bytes)

/-- A text with its terminating zero byte, padded with zeros to a multiple of eight. -/
def terminate (text : String) : List UInt8 :=
  pad (Utf8.encode text ++ [0])

/-- The text of a field: what stands before the first zero byte. -/
def ofField (field : List UInt8) : String :=
  Utf8.decode (field.takeWhile (· != 0))

end ChannelAccess.Terminated
