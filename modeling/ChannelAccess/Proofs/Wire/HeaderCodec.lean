import ChannelAccess.Wire.Header

/-!
# Headers on the wire

`Header.Layout` says which bytes a header may stand as, form by form. Reading is that relation read
from the front (`Header.parse?_eq_some_iff`), and writing gives one of a header's layouts
(`Header.layout_toBytes`), so that what was written is read back whatever follows it. The two forms
differ only in the short size field, which is why a header is missing exactly from fewer bytes than
the form announced there takes (`Header.parse?_eq_none_iff`).

`headers_roundTrip` puts both directions together.
-/

namespace ChannelAccess

namespace BigEndian

/-- Two bytes are enough for a 16-bit word to stand at the front. -/
theorem exists_word16 (bytes : List UInt8) (h : 2 ≤ bytes.length) :
    ∃ value rest, bytes = word16 value ++ rest ∧ bytes.length = 2 + rest.length := by
  cases read : read16 bytes with
  | none =>
    rw [read16_eq_none_iff] at read
    omega
  | some result =>
    have stands := read16_eq_some_iff.mp read
    refine ⟨result.1, result.2, stands, ?_⟩
    rw [stands, List.length_append, length_word16]

/-- Four bytes are enough for a 32-bit word to stand at the front. -/
theorem exists_word32 (bytes : List UInt8) (h : 4 ≤ bytes.length) :
    ∃ value rest, bytes = word32 value ++ rest ∧ bytes.length = 4 + rest.length := by
  cases read : read32 bytes with
  | none =>
    rw [read32_eq_none_iff] at read
    omega
  | some result =>
    have stands := read32_eq_some_iff.mp read
    refine ⟨result.1, result.2, stands, ?_⟩
    rw [stands, List.length_append, length_word32]

/-- Different 16-bit words are different bytes. -/
theorem word16_inj {a b : UInt16} (h : word16 a = word16 b) : a = b := by
  have read := read16_word16_append a []
  rw [h, read16_word16_append] at read
  simpa using read.symm

end BigEndian

namespace Header

open BigEndian

/-- The bytes that a header may stand as. Where the short size field is no sentinel, the header is
in the standard form. Otherwise it is in the extended form: size and count follow the parameters,
and the short count field holds any word at all. -/
inductive Layout : Header → List UInt8 → Prop where
  /-- The standard form. -/
  | standard (command size dataType count : UInt16) (parameter1 parameter2 : UInt32)
      (short : size ≠ extendedSentinel) :
    Layout
      { command, payloadSize := size.toUInt32, dataType, dataCount := count.toUInt32, parameter1,
        parameter2, extended := false }
      (word16 command ++ word16 size ++ word16 dataType ++ word16 count ++ word32 parameter1 ++
        word32 parameter2)
  /-- The extended form. -/
  | extended (command dataType unused : UInt16)
      (parameter1 parameter2 payloadSize dataCount : UInt32) :
    Layout
      { command, payloadSize, dataType, dataCount, parameter1, parameter2, extended := true }
      (word16 command ++ word16 extendedSentinel ++ word16 dataType ++ word16 unused ++
        word32 parameter1 ++ word32 parameter2 ++ word32 payloadSize ++ word32 dataCount)

variable {header : Header} {bytes front rest : List UInt8}

namespace Layout

/-- A header that stands on the wire needs the form that it stands in. -/
theorem isExtended_eq (layout : Layout header front) : header.isExtended = header.extended := by
  cases layout with
  | standard command size dataType count parameter1 parameter2 short =>
    have sizeBound := size.toNat_lt
    have countBound := count.toNat_lt
    -- The sentinel is excluded as a short size, but allowed as a short count.
    have below : size.toNat ≠ 65535 := fun same => short (UInt16.toNat_inj.mp same)
    have fitsSize : ¬ extendedSentinel.toNat ≤ size.toUInt32.toNat := by
      show ¬ 65535 ≤ size.toUInt32.toNat
      rw [UInt16.toNat_toUInt32]
      omega
    have fitsCount : ¬ extendedSentinel.toNat < count.toUInt32.toNat := by
      show ¬ 65535 < count.toUInt32.toNat
      rw [UInt16.toNat_toUInt32]
      omega
    rw [isExtended, decide_eq_false fitsSize, decide_eq_false fitsCount]
    rfl
  | extended command dataType unused parameter1 parameter2 payloadSize dataCount =>
    rw [isExtended, Bool.true_or, Bool.true_or]

/-- A header takes the bytes of its form. -/
theorem length_eq (layout : Layout header front) : front.length = header.encodedLength := by
  have form := layout.isExtended_eq
  cases layout with
  | standard =>
    rw [encodedLength, form]
    simp only [List.length_append, length_word16, length_word32]
    rfl
  | extended =>
    rw [encodedLength, form]
    simp only [List.length_append, length_word16, length_word32]
    rfl

/-- A header that stands on the wire is read from there, whatever follows it. -/
theorem parse?_append (layout : Layout header front) (rest : List UInt8) :
    parse? (front ++ rest) = some (header, rest) := by
  cases layout with
  | standard command size dataType count parameter1 parameter2 short =>
    simp only [parse?, List.append_assoc, read16_word16_append, read32_word32_append,
      Option.bind_eq_bind, Option.bind_some]
    rw [if_neg short]
  | extended command dataType unused parameter1 parameter2 payloadSize dataCount =>
    simp only [parse?, List.append_assoc, read16_word16_append, read32_word32_append,
      Option.bind_eq_bind, Option.bind_some, if_true]

/-- Writing a header that stood on the wire gives the same bytes, apart from the unused count field
of an extended header: that is written as zero. -/
theorem toBytes_eq (layout : Layout header front) :
    header.toBytes =
      if header.isExtended then front.take 6 ++ [0, 0] ++ front.drop 8 else front := by
  have form := layout.isExtended_eq
  rw [toBytes, form]
  cases layout with
  | standard command size dataType count parameter1 parameter2 short =>
    simp only [Bool.false_eq_true, if_false, UInt16.toUInt16_toUInt32, List.append_assoc]
  | extended command dataType unused parameter1 parameter2 payloadSize dataCount =>
    -- The count field stands after three words and is one word long.
    generalize hbefore : word16 command ++ word16 extendedSentinel ++ word16 dataType = before
    generalize hafter : word32 parameter1 ++ word32 parameter2 ++ word32 payloadSize ++
      word32 dataCount = after
    have length : before.length = 6 := by
      rw [← hbefore]
      simp only [List.length_append, length_word16]
    have whole : before ++ word16 unused ++ word32 parameter1 ++ word32 parameter2 ++
        word32 payloadSize ++ word32 dataCount = before ++ (word16 unused ++ after) := by
      rw [← hafter]
      simp only [List.append_assoc]
    have lengthField : (before ++ word16 unused).length = 8 := by
      rw [List.length_append, length, length_word16]
    rw [if_pos rfl, if_pos rfl, whole, List.take_left' length, ← List.append_assoc before,
      List.drop_left' lengthField, ← hbefore, ← hafter]
    simp only [List.append_assoc]
    rfl

end Layout

/-- A header is read exactly from where it stands on the wire. -/
theorem parse?_eq_some_iff :
    parse? bytes = some (header, rest) ↔ ∃ front, Layout header front ∧ bytes = front ++ rest := by
  constructor
  · intro h
    simp only [parse?, Option.bind_eq_bind, Option.bind_eq_some_iff, Prod.exists] at h
    obtain ⟨command, b₁, h₁, shortSize, b₂, h₂, dataType, b₃, h₃, shortCount, b₄, h₄,
      parameter1, b₅, h₅, parameter2, b₆, h₆, h⟩ := h
    -- Each value was read from where it stands, so that the bytes are these words in a row.
    rw [read16_eq_some_iff] at h₁ h₂ h₃ h₄
    rw [read32_eq_some_iff] at h₅ h₆
    subst h₁ h₂ h₃ h₄ h₅ h₆
    split at h
    · rename_i sentinel
      simp only [Option.bind_eq_some_iff, Prod.exists] at h
      obtain ⟨payloadSize, b₇, h₇, dataCount, b₈, h₈, h⟩ := h
      rw [read32_eq_some_iff] at h₇ h₈
      subst h₇ h₈ sentinel
      simp only [Option.some.injEq, Prod.mk.injEq] at h
      obtain ⟨rfl, rfl⟩ := h
      refine ⟨_, .extended command dataType shortCount parameter1 parameter2 payloadSize dataCount,
        ?_⟩
      simp only [List.append_assoc]
    · rename_i short
      simp only [Option.some.injEq, Prod.mk.injEq] at h
      obtain ⟨rfl, rfl⟩ := h
      refine ⟨_, .standard command shortSize dataType shortCount parameter1 parameter2 short, ?_⟩
      simp only [List.append_assoc]
  · rintro ⟨front, layout, rfl⟩
    exact layout.parse?_append rest

/-- Bytes after a header do not change how it is read. -/
theorem parse?_append (h : parse? bytes = some (header, rest)) (more : List UInt8) :
    parse? (bytes ++ more) = some (header, rest ++ more) := by
  obtain ⟨front, layout, rfl⟩ := parse?_eq_some_iff.mp h
  rw [List.append_assoc]
  exact layout.parse?_append (rest ++ more)

/-- What follows a header comes after the bytes of its form. -/
theorem drop_of_parse? (h : parse? bytes = some (header, rest)) :
    bytes.drop header.encodedLength = rest := by
  obtain ⟨front, layout, rfl⟩ := parse?_eq_some_iff.mp h
  exact List.drop_left' layout.length_eq

/-! ## Headers that are not complete -/

/-- A header takes the bytes of one of the two forms. -/
theorem encodedLength_eq (header : Header) :
    header.encodedLength = if header.isExtended then 24 else 16 := rfl

/-- The short size field of a header that stands on the wire holds the sentinel exactly in the
extended form. -/
theorem Layout.sizeField_eq_iff (layout : Layout header front) (rest : List UInt8) :
    ((front ++ rest).drop 2).take 2 = [0xFF, 0xFF] ↔ header.extended = true := by
  have sentinel : word16 extendedSentinel = [0xFF, 0xFF] := by decide
  have field : ∀ (command size : UInt16) (more : List UInt8),
      ((word16 command ++ (word16 size ++ more)).drop 2).take 2 = word16 size := by
    intro command size more
    rw [List.drop_left' (length_word16 command), List.take_left' (length_word16 size)]
  cases layout with
  | standard command size dataType count parameter1 parameter2 short =>
    simp only [List.append_assoc, field, ← sentinel]
    exact iff_of_false (fun same => short (word16_inj same)) Bool.false_ne_true
  | extended command dataType unused parameter1 parameter2 payloadSize dataCount =>
    simp only [List.append_assoc, field]
    exact iff_of_true sentinel trivial

/-- Bytes long enough for the form that their short size field announces start with a header. -/
theorem exists_layout (long : 16 ≤ bytes.length)
    (extended : (bytes.drop 2).take 2 = [0xFF, 0xFF] → 24 ≤ bytes.length) :
    ∃ header front rest, Layout header front ∧ bytes = front ++ rest := by
  obtain ⟨command, b₁, rfl, l₁⟩ := exists_word16 bytes (by omega)
  obtain ⟨size, b₂, rfl, l₂⟩ := exists_word16 b₁ (by omega)
  obtain ⟨dataType, b₃, rfl, l₃⟩ := exists_word16 b₂ (by omega)
  obtain ⟨count, b₄, rfl, l₄⟩ := exists_word16 b₃ (by omega)
  obtain ⟨parameter1, b₅, rfl, l₅⟩ := exists_word32 b₄ (by omega)
  obtain ⟨parameter2, b₆, rfl, l₆⟩ := exists_word32 b₅ (by omega)
  by_cases sentinel : size = extendedSentinel
  · subst sentinel
    have enough : 24 ≤ _ := extended (by
      rw [List.drop_left' (length_word16 command), List.take_left' (length_word16 _)]
      decide)
    obtain ⟨payloadSize, b₇, rfl, l₇⟩ := exists_word32 b₆ (by omega)
    obtain ⟨dataCount, b₈, rfl, l₈⟩ := exists_word32 b₇ (by omega)
    refine ⟨_, _, b₈, .extended command dataType count parameter1 parameter2 payloadSize dataCount,
      ?_⟩
    simp only [List.append_assoc]
  · refine ⟨_, _, b₆, .standard command size dataType count parameter1 parameter2 sentinel, ?_⟩
    simp only [List.append_assoc]

/-- A header is missing exactly from bytes that are too short for the form that their short size
field announces. -/
theorem parse?_eq_none_iff :
    parse? bytes = none ↔
      bytes.length < 16 ∨ ((bytes.drop 2).take 2 = [0xFF, 0xFF] ∧ bytes.length < 24) := by
  constructor
  · intro none
    rcases Nat.lt_or_ge bytes.length 16 with short | long
    · exact .inl short
    · refine .inr (Decidable.byContradiction fun enough => ?_)
      have extended : (bytes.drop 2).take 2 = [0xFF, 0xFF] → 24 ≤ bytes.length :=
        fun announced => Nat.not_lt.mp fun short => enough ⟨announced, short⟩
      obtain ⟨header, front, rest, layout, rfl⟩ := exists_layout long extended
      rw [layout.parse?_append rest] at none
      contradiction
  · intro short
    cases parsed : parse? bytes with
    | none => rfl
    | some result =>
      -- A header that is read takes the bytes of the form that its short size field announces.
      obtain ⟨header, rest⟩ := result
      obtain ⟨front, layout, rfl⟩ := parse?_eq_some_iff.mp parsed
      have field := layout.sizeField_eq_iff rest
      have length := layout.length_eq
      rw [encodedLength_eq, layout.isExtended_eq] at length
      rw [field, List.length_append, length] at short
      cases form : header.extended with
      | true =>
        simp only [form, if_true, true_and] at short
        omega
      | false =>
        simp only [form, Bool.false_eq_true, if_false, false_and, or_false] at short
        omega

/-- A header is complete at the latest when an extended one would be. -/
theorem length_lt_of_parse?_eq_none (h : parse? bytes = none) :
    bytes.length < extendedHeaderLength := by
  show bytes.length < 24
  rcases parse?_eq_none_iff.mp h with short | ⟨-, short⟩ <;> omega

/-! ## Headers that are written -/

/-- A written header stands on the wire in the form that it takes. -/
theorem layout_toBytes (header : Header) :
    Layout { header with extended := header.isExtended } header.toBytes := by
  obtain ⟨command, payloadSize, dataType, dataCount, parameter1, parameter2, extended⟩ := header
  unfold toBytes
  generalize hform : isExtended _ = form
  cases form with
  | true =>
    have layout := Layout.extended command dataType 0 parameter1 parameter2 payloadSize dataCount
    simpa only [if_true, List.append_assoc] using layout
  | false =>
    simp only [isExtended, Bool.or_eq_false_iff, decide_eq_false_iff_not, Nat.not_le,
      Nat.not_lt] at hform
    obtain ⟨⟨-, size⟩, count⟩ := hform
    have sizeBound : payloadSize.toNat < 65535 := size
    have countBound : dataCount.toNat ≤ 65535 := count
    -- Size and count fit their short fields, and the size is not the sentinel.
    have shortSize : payloadSize.toUInt16.toUInt32 = payloadSize := by
      apply UInt32.toNat_inj.mp
      rw [UInt16.toNat_toUInt32, UInt32.toNat_toUInt16]
      omega
    have shortCount : dataCount.toUInt16.toUInt32 = dataCount := by
      apply UInt32.toNat_inj.mp
      rw [UInt16.toNat_toUInt32, UInt32.toNat_toUInt16]
      omega
    have standard : payloadSize.toUInt16 ≠ extendedSentinel := by
      intro same
      have number := congrArg UInt16.toNat same
      rw [UInt32.toNat_toUInt16] at number
      have sentinel : extendedSentinel.toNat = 65535 := rfl
      omega
    have layout := Layout.standard command payloadSize.toUInt16 dataType dataCount.toUInt16
      parameter1 parameter2 standard
    rw [shortSize, shortCount] at layout
    simpa only [Bool.false_eq_true, if_false, List.append_assoc] using layout

/-- What was written is read back, whatever follows it. A header that takes the extended form is
read as one. -/
theorem parse?_toBytes_append (header : Header) (rest : List UInt8) :
    parse? (header.toBytes ++ rest) =
      some ({ header with extended := header.isExtended }, rest) :=
  (layout_toBytes header).parse?_append rest

/-- A header of which the end is missing is not read. -/
theorem parse?_of_prefix {header : Header} (start : front <+: header.toBytes)
    (strict : front ≠ header.toBytes) : parse? front = none := by
  cases parsed : parse? front with
  | none => rfl
  | some result =>
    obtain ⟨other, rest⟩ := result
    obtain ⟨missing, whole⟩ := start
    -- The beginning would be read in full, and with it the whole header, with nothing left over.
    have readWhole := parse?_append parsed missing
    have readBack := parse?_toBytes_append header []
    rw [whole] at readWhole
    rw [List.append_nil, readWhole] at readBack
    simp only [Option.some.injEq, Prod.mk.injEq, List.append_eq_nil_iff] at readBack
    obtain ⟨-, -, rfl⟩ := readBack
    rw [List.append_nil] at whole
    exact absurd whole strict

end Header

/-- Headers survive the wire in both directions. A written header takes as many bytes as its form,
and is read back from them, whatever follows, in the form that it took; nothing is read from a part
of them that lacks the end. Nothing is read exactly from fewer than 16 bytes, or from fewer than 24
where the short size field announces the extended form. What is read stood in front, in as many
bytes as its form takes, and writing it gives these bytes again, except that the unused count field
of an extended header becomes zero. -/
theorem headers_roundTrip :
    (∀ (header : Header) (rest : List UInt8),
      header.toBytes.length = header.encodedLength ∧
        Header.parse? (header.toBytes ++ rest) =
          some ({ header with extended := header.isExtended }, rest) ∧
        ∀ front, front <+: header.toBytes → front ≠ header.toBytes →
          Header.parse? front = none) ∧
      (∀ bytes : List UInt8, Header.parse? bytes = none ↔
        bytes.length < 16 ∨ ((bytes.drop 2).take 2 = [0xFF, 0xFF] ∧ bytes.length < 24)) ∧
      ∀ (bytes rest : List UInt8) (header : Header), Header.parse? bytes = some (header, rest) →
        ∃ front, header.Layout front ∧ bytes = front ++ rest ∧
          front.length = header.encodedLength ∧
          header.toBytes =
            if header.isExtended then front.take 6 ++ [0, 0] ++ front.drop 8 else front := by
  refine ⟨fun header rest => ⟨header.length_toBytes, header.parse?_toBytes_append rest, ?_⟩,
    fun bytes => Header.parse?_eq_none_iff, fun bytes rest header read => ?_⟩
  · intro front start strict
    exact Header.parse?_of_prefix start strict
  · obtain ⟨front, layout, whole⟩ := Header.parse?_eq_some_iff.mp read
    exact ⟨front, layout, whole, layout.length_eq, layout.toBytes_eq⟩

/-- The header of a frame of eight bytes that came in the extended form. -/
def roomyHeader : Header where
  command := 15
  payloadSize := 8
  dataType := 6
  dataCount := 1
  parameter1 := 1
  parameter2 := 2
  extended := true

/-- That header as it came, with its unused count field filled. -/
def roomyBytes : List UInt8 :=
  [0, 15, 0xFF, 0xFF, 0, 6, 0xAB, 0xCD, 0, 0, 0, 1, 0, 0, 0, 2, 0, 0, 0, 8, 0, 0, 0, 1]

/-- It is written in the extended form again, with zeros in the count field, and is not read from
the 16 bytes that a standard header takes. -/
theorem headers_roundTrip_roomyHeader :
    Header.parse? (roomyBytes ++ [7]) = some (roomyHeader, [7]) ∧
      roomyHeader.toBytes = roomyBytes.take 6 ++ [0, 0] ++ roomyBytes.drop 8 ∧
      Header.parse? (roomyHeader.toBytes.take 16) = none := by
  have read : Header.parse? (roomyBytes ++ [7]) = some (roomyHeader, [7]) := by decide
  obtain ⟨written, -, kept⟩ := headers_roundTrip
  obtain ⟨front, -, whole, -, toBytes⟩ := kept _ _ _ read
  have isFront : roomyBytes = front := List.append_cancel_right whole
  refine ⟨read, ?_, ?_⟩
  · rw [isFront]
    exact toBytes
  · exact (written roomyHeader []).2.2 _ (List.take_prefix 16 _) (by decide)

end ChannelAccess
