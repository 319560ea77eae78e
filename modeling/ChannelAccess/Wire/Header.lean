import ChannelAccess.Wire.BigEndian

/-!
# Message headers

Every message starts with a header of 16 bytes, or of 24 bytes when the payload size or the element
count does not fit 16 bits. The long form carries the sentinel `0xFFFF` in the short size field and
zero in the short count field, and both values follow as 32-bit words after the two parameters.

`Header.toBytes` writes a header, `Header.parse?` reads one. Reading fails in one way only: the
header is not complete yet.
-/

namespace ChannelAccess

/-- Bytes of a header in the standard form. -/
def standardHeaderLength : Nat := 16

/-- Bytes of a header in the extended form. -/
def extendedHeaderLength : Nat := 24

/-- The value of the short size field that announces the extended form. -/
def extendedSentinel : UInt16 := 0xFFFF

/-- A message header, with the fields of the extended form folded in. -/
structure Header where
  /-- What kind of message follows. -/
  command : UInt16
  /-- Bytes of payload after the header. -/
  payloadSize : UInt32
  /-- Type of the elements in the payload, or another 16-bit value, by command. -/
  dataType : UInt16
  /-- Number of elements in the payload, or another value, by command. -/
  dataCount : UInt32
  /-- First parameter, by command. -/
  parameter1 : UInt32
  /-- Second parameter, by command. -/
  parameter2 : UInt32
  /-- The header was read in the extended form, or is to be written so although it would fit. -/
  extended : Bool := false
  deriving DecidableEq, Repr, Inhabited

namespace Header

/-- A header that was read keeps its form; any other takes the extended form exactly when its
payload size or element count needs it. The sentinel itself is no standard payload size, but a
standard element count. -/
def isExtended (header : Header) : Bool :=
  header.extended || decide (extendedSentinel.toNat ≤ header.payloadSize.toNat) ||
    decide (extendedSentinel.toNat < header.dataCount.toNat)

/-- Bytes that the header takes on the wire. -/
def encodedLength (header : Header) : Nat :=
  if header.isExtended then extendedHeaderLength else standardHeaderLength

/-- Bytes of the header together with the payload that it declares. -/
def frameLength (header : Header) : Nat :=
  header.encodedLength + header.payloadSize.toNat

/-- The header on the wire. -/
def toBytes (header : Header) : List UInt8 :=
  let parameters := BigEndian.word32 header.parameter1 ++ BigEndian.word32 header.parameter2
  BigEndian.word16 header.command ++
    if header.isExtended then
      BigEndian.word16 extendedSentinel ++ BigEndian.word16 header.dataType ++
        -- The short count field is unused: the count follows after the size.
        BigEndian.word16 0 ++ parameters ++
        BigEndian.word32 header.payloadSize ++ BigEndian.word32 header.dataCount
    else
      BigEndian.word16 header.payloadSize.toUInt16 ++ BigEndian.word16 header.dataType ++
        BigEndian.word16 header.dataCount.toUInt16 ++ parameters

/-- The header at the front and the bytes after it; `none` while it is incomplete. The payload is
not looked at. -/
def parse? (bytes : List UInt8) : Option (Header × List UInt8) := do
  let (command, bytes) ← BigEndian.read16 bytes
  let (shortSize, bytes) ← BigEndian.read16 bytes
  let (dataType, bytes) ← BigEndian.read16 bytes
  let (shortCount, bytes) ← BigEndian.read16 bytes
  let (parameter1, bytes) ← BigEndian.read32 bytes
  let (parameter2, bytes) ← BigEndian.read32 bytes
  if shortSize = extendedSentinel then
    let (payloadSize, bytes) ← BigEndian.read32 bytes
    let (dataCount, bytes) ← BigEndian.read32 bytes
    some ({ command, payloadSize, dataType, dataCount, parameter1, parameter2, extended := true },
      bytes)
  else
    some ({ command, payloadSize := shortSize.toUInt32, dataType, dataCount := shortCount.toUInt32,
            parameter1, parameter2, extended := false }, bytes)

/-- A written header takes the bytes that `encodedLength` says. -/
@[simp]
theorem length_toBytes (header : Header) : header.toBytes.length = header.encodedLength := by
  unfold toBytes encodedLength
  split <;> simp [extendedHeaderLength, standardHeaderLength]

/-- Reading a header takes as many bytes as the form it stood in. -/
theorem length_of_parse? {bytes rest : List UInt8} {header : Header}
    (h : parse? bytes = some (header, rest)) :
    bytes.length = header.encodedLength + rest.length := by
  simp only [parse?, Option.bind_eq_bind, Option.bind_eq_some_iff, Prod.exists] at h
  obtain ⟨command, b₁, h₁, shortSize, b₂, h₂, dataType, b₃, h₃, shortCount, b₄, h₄,
    parameter1, b₅, h₅, parameter2, b₆, h₆, h⟩ := h
  rw [BigEndian.read16_eq_some_iff] at h₁ h₂ h₃ h₄
  rw [BigEndian.read32_eq_some_iff] at h₅ h₆
  subst h₁ h₂ h₃ h₄ h₅ h₆
  split at h
  · simp only [Option.bind_eq_some_iff, Prod.exists] at h
    obtain ⟨payloadSize, b₇, h₇, dataCount, b₈, h₈, h⟩ := h
    rw [BigEndian.read32_eq_some_iff] at h₇ h₈
    subst h₇ h₈
    simp only [Option.some.injEq, Prod.mk.injEq] at h
    obtain ⟨rfl, rfl⟩ := h
    simp [encodedLength, isExtended, extendedHeaderLength]
    omega
  · rename_i short
    simp only [Option.some.injEq, Prod.mk.injEq] at h
    obtain ⟨rfl, rfl⟩ := h
    have size := shortSize.toNat_lt
    have count := shortCount.toNat_lt
    have differs : shortSize.toNat ≠ 65535 := fun same => short (UInt16.toNat_inj.mp same)
    have notExtended : ¬ (65535 ≤ shortSize.toNat ∨ 65535 < shortCount.toNat) := by omega
    simp [encodedLength, isExtended, extendedSentinel, standardHeaderLength]
    simp only [not_or, Nat.not_le, Nat.not_lt] at notExtended
    rw [if_neg (by omega)]
    omega

end Header

end ChannelAccess
