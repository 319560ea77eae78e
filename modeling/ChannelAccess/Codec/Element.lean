import ChannelAccess.Wire.BigEndian

/-!
# Numeric elements

The numeric types that payloads hold. Each is a word of fixed size, most significant byte first.
Floating-point elements are kept as the words that encode them, so that every bit of them passes
through unchanged.
-/

namespace ChannelAccess

/-- The bits of a single precision number. -/
structure SingleBits where
  /-- The encoding of the number. -/
  bits : UInt32
  deriving DecidableEq, Repr, Inhabited

/-- The bits of a double precision number. -/
structure DoubleBits where
  /-- The encoding of the number. -/
  bits : UInt64
  deriving DecidableEq, Repr, Inhabited

/-- A number that payloads hold as a word of fixed size. -/
class WireElement (α : Type) where
  /-- Wire type of the element. -/
  wireType : UInt16
  /-- Bytes of the element. -/
  size : Nat
  /-- The element that fills up a payload. -/
  zero : α
  /-- The bytes of an element. -/
  toBytes : α → List UInt8
  /-- The element that bytes spell. -/
  ofBytes : List UInt8 → α

/-- Elements have a size, and their bytes are a faithful copy of them. -/
class LawfulWireElement (α : Type) [WireElement α] : Prop where
  /-- An element takes some bytes. -/
  size_pos : 0 < WireElement.size α
  /-- Every element takes the bytes of its size. -/
  length_toBytes (element : α) : (WireElement.toBytes element).length = WireElement.size α
  /-- Elements read back unchanged. -/
  ofBytes_toBytes (element : α) : WireElement.ofBytes (WireElement.toBytes element) = element
  /-- Bytes of the right number are the bytes of the element that they spell. -/
  toBytes_ofBytes (bytes : List UInt8) (h : bytes.length = WireElement.size α) :
    WireElement.toBytes (WireElement.ofBytes bytes : α) = bytes

instance : WireElement Int8 where
  wireType := 4
  size := 1
  zero := 0
  toBytes element := BigEndian.ofNat 1 element.toUInt8.toNat
  ofBytes bytes := (UInt8.ofNat (BigEndian.toNat bytes)).toInt8

instance : WireElement Int16 where
  wireType := 1
  size := 2
  zero := 0
  toBytes element := BigEndian.ofNat 2 element.toUInt16.toNat
  ofBytes bytes := (UInt16.ofNat (BigEndian.toNat bytes)).toInt16

instance : WireElement UInt16 where
  wireType := 3
  size := 2
  zero := 0
  toBytes element := BigEndian.ofNat 2 element.toNat
  ofBytes bytes := UInt16.ofNat (BigEndian.toNat bytes)

instance : WireElement Int32 where
  wireType := 5
  size := 4
  zero := 0
  toBytes element := BigEndian.ofNat 4 element.toUInt32.toNat
  ofBytes bytes := (UInt32.ofNat (BigEndian.toNat bytes)).toInt32

instance : WireElement SingleBits where
  wireType := 2
  size := 4
  zero := ⟨0⟩
  toBytes element := BigEndian.ofNat 4 element.bits.toNat
  ofBytes bytes := ⟨UInt32.ofNat (BigEndian.toNat bytes)⟩

instance : WireElement DoubleBits where
  wireType := 6
  size := 8
  zero := ⟨0⟩
  toBytes element := BigEndian.ofNat 8 element.bits.toNat
  ofBytes bytes := ⟨UInt64.ofNat (BigEndian.toNat bytes)⟩

/-- Reading a word of `width` bytes and keeping it as a word loses nothing. -/
theorem BigEndian.toNat_lt_of_length {bytes : List UInt8} {width : Nat}
    (h : bytes.length = width) : toNat bytes < range width := h ▸ toNat_lt bytes

/-- Bytes of a given number are the word of the number that they spell. -/
theorem BigEndian.ofNat_toNat_of_length {bytes : List UInt8} {width : Nat}
    (h : bytes.length = width) : ofNat width (toNat bytes) = bytes := h ▸ ofNat_toNat bytes

instance : LawfulWireElement Int8 where
  size_pos := by decide
  length_toBytes element := BigEndian.length_ofNat ..
  ofBytes_toBytes element := by
    have fits : element.toUInt8.toNat < BigEndian.range 1 := element.toUInt8.toNat_lt
    simp [WireElement.ofBytes, WireElement.toBytes, BigEndian.toNat_ofNat_of_lt fits]
  toBytes_ofBytes bytes h := by
    have fits := BigEndian.toNat_lt_of_length h
    have back := BigEndian.ofNat_toNat_of_length h
    simp only [WireElement.size] at fits back
    simp only [WireElement.ofBytes, WireElement.toBytes, UInt8.toUInt8_toInt8]
    rw [UInt8.toNat_ofNat_of_lt' (by simpa [BigEndian.range] using fits), back]

instance : LawfulWireElement Int16 where
  size_pos := by decide
  length_toBytes element := BigEndian.length_ofNat ..
  ofBytes_toBytes element := by
    have fits : element.toUInt16.toNat < BigEndian.range 2 := element.toUInt16.toNat_lt
    simp [WireElement.ofBytes, WireElement.toBytes, BigEndian.toNat_ofNat_of_lt fits]
  toBytes_ofBytes bytes h := by
    have fits := BigEndian.toNat_lt_of_length h
    have back := BigEndian.ofNat_toNat_of_length h
    simp only [WireElement.size] at fits back
    simp only [WireElement.ofBytes, WireElement.toBytes, UInt16.toUInt16_toInt16]
    rw [UInt16.toNat_ofNat_of_lt' (by simpa [BigEndian.range] using fits), back]

instance : LawfulWireElement UInt16 where
  size_pos := by decide
  length_toBytes element := BigEndian.length_ofNat ..
  ofBytes_toBytes element := by
    have fits : element.toNat < BigEndian.range 2 := element.toNat_lt
    simp [WireElement.ofBytes, WireElement.toBytes, BigEndian.toNat_ofNat_of_lt fits]
  toBytes_ofBytes bytes h := by
    have fits := BigEndian.toNat_lt_of_length h
    have back := BigEndian.ofNat_toNat_of_length h
    simp only [WireElement.size] at fits back
    simp only [WireElement.ofBytes, WireElement.toBytes]
    rw [UInt16.toNat_ofNat_of_lt' (by simpa [BigEndian.range] using fits), back]

instance : LawfulWireElement Int32 where
  size_pos := by decide
  length_toBytes element := BigEndian.length_ofNat ..
  ofBytes_toBytes element := by
    have fits : element.toUInt32.toNat < BigEndian.range 4 := element.toUInt32.toNat_lt
    simp [WireElement.ofBytes, WireElement.toBytes, BigEndian.toNat_ofNat_of_lt fits]
  toBytes_ofBytes bytes h := by
    have fits := BigEndian.toNat_lt_of_length h
    have back := BigEndian.ofNat_toNat_of_length h
    simp only [WireElement.size] at fits back
    simp only [WireElement.ofBytes, WireElement.toBytes, UInt32.toUInt32_toInt32]
    rw [UInt32.toNat_ofNat_of_lt' (by simpa [BigEndian.range] using fits), back]

instance : LawfulWireElement SingleBits where
  size_pos := by decide
  length_toBytes element := BigEndian.length_ofNat ..
  ofBytes_toBytes element := by
    have fits : element.bits.toNat < BigEndian.range 4 := element.bits.toNat_lt
    simp [WireElement.ofBytes, WireElement.toBytes, BigEndian.toNat_ofNat_of_lt fits]
  toBytes_ofBytes bytes h := by
    have fits := BigEndian.toNat_lt_of_length h
    have back := BigEndian.ofNat_toNat_of_length h
    simp only [WireElement.size] at fits back
    simp only [WireElement.ofBytes, WireElement.toBytes]
    rw [UInt32.toNat_ofNat_of_lt' (by simpa [BigEndian.range] using fits), back]

instance : LawfulWireElement DoubleBits where
  size_pos := by decide
  length_toBytes element := BigEndian.length_ofNat ..
  ofBytes_toBytes element := by
    have fits : element.bits.toNat < BigEndian.range 8 := element.bits.toNat_lt
    simp [WireElement.ofBytes, WireElement.toBytes, BigEndian.toNat_ofNat_of_lt fits]
  toBytes_ofBytes bytes h := by
    have fits := BigEndian.toNat_lt_of_length h
    have back := BigEndian.ofNat_toNat_of_length h
    simp only [WireElement.size] at fits back
    simp only [WireElement.ofBytes, WireElement.toBytes]
    rw [UInt64.toNat_ofNat_of_lt' (by simpa [BigEndian.range] using fits), back]

end ChannelAccess
