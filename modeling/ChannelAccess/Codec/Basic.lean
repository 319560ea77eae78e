/-!
# Codecs

A codec turns payload bytes into values of one type and back. Whoever drives it may hand in a value
that is no longer needed, so that its storage can be used again; what is decoded never depends on
that value.
-/

namespace ChannelAccess

/-- Why payload bytes are no value. -/
inductive DecodeError where
  /-- Fewer bytes than the elements need. -/
  | truncated (needed available : Nat)
  deriving DecidableEq, Repr

/-- The text of the error. -/
def DecodeError.message : DecodeError → String
  | .truncated needed available =>
    s!"Payload too short: need {needed} bytes but only {available} available"

/-- How values of one type travel in a payload. -/
structure Codec (α : Type) where
  /-- Wire type of the elements. -/
  wireType : UInt16
  /-- The element count that is always asked for, if it is not the channel's own. -/
  forcedCount : Option Nat
  /-- Decodes a number of elements, zero for as many as there are. The spare value lends its
  storage. -/
  decode (spare : Option α) (raw : List UInt8) (count : Nat) : Except DecodeError α
  /-- Bytes that are set aside before a number of elements is encoded. -/
  setAside (count : Nat) : Nat
  /-- Encodes a number of elements of a value. -/
  encode (value : α) (count : Nat) : List UInt8

/-- The most bytes that can be set aside at once. -/
def mostBytes : Nat := 0x7FFFFFFFFFFFFFFF

/-- The bytes of a number of elements, counted in a machine word: past its end the count starts from
zero again. -/
def byteCount (size count : Nat) : Nat := count * size % 0x10000000000000000

/-- Encodes a number of elements of a value, if bytes can be set aside for them. -/
def Codec.encode? {α : Type} (codec : Codec α) (value : α) (count : Nat) : Option (List UInt8) :=
  if codec.setAside count ≤ mostBytes then some (codec.encode value count) else none

/-- Refuses bytes that are too few. -/
def requireLength (raw : List UInt8) (needed : Nat) : Except DecodeError Unit :=
  if raw.length < needed then .error (.truncated needed raw.length) else .ok ()

/-- The number of elements to decode: the one asked for, or as many as fit when none is. -/
def elementCount (size : Nat) (raw : List UInt8) (count : Nat) : Nat :=
  if count = 0 then raw.length / size else count

end ChannelAccess
