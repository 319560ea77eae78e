import ChannelAccess.Text.Terminated

/-!
# Text that was written is read back

Decoding the bytes of a text gives the text (`Utf8.decode_encode`): each character's bytes decode to
that character and nothing else (`Utf8.decodeFirst_of_char`). The bytes of a text without a NUL
character hold no zero byte, so such a text is also read back from a zero-terminated field
(`Terminated.ofField_terminate`).

The classes of bytes are first said as bounds on numbers, in which each case is linear arithmetic.
-/

namespace ChannelAccess.Utf8

theorem within_iff {low high byte : UInt8} :
    within low high byte = true ↔ low.toNat ≤ byte.toNat ∧ byte.toNat ≤ high.toNat := by
  rw [within, Bool.and_eq_true, decide_eq_true_iff, decide_eq_true_iff, UInt8.le_iff_toNat_le,
    UInt8.le_iff_toNat_le]

theorem isContinuation_iff {byte : UInt8} :
    isContinuation byte = true ↔ 0x80 ≤ byte.toNat ∧ byte.toNat ≤ 0xBF :=
  within_iff

/-- A byte between the bounds that its lead byte allows may come second of three. -/
theorem isSecondOfThree_of {lead byte : UInt8} (continues : isContinuation byte = true)
    (notOverlong : lead.toNat = 0xE0 → 0xA0 ≤ byte.toNat)
    (noSurrogate : lead.toNat = 0xED → byte.toNat ≤ 0x9F) :
    isSecondOfThree lead byte = true := by
  have bounds := isContinuation_iff.mp continues
  unfold isSecondOfThree
  split
  · rename_i least
    exact within_iff.mpr ⟨notOverlong (congrArg UInt8.toNat least), bounds.2⟩
  · split
    · rename_i surrogate
      exact within_iff.mpr ⟨bounds.1, noSurrogate (congrArg UInt8.toNat surrogate)⟩
    · exact continues

/-- A byte between the bounds that its lead byte allows may come second of four. -/
theorem isSecondOfFour_of {lead byte : UInt8} (continues : isContinuation byte = true)
    (notOverlong : lead.toNat = 0xF0 → 0x90 ≤ byte.toNat)
    (notTooLarge : lead.toNat = 0xF4 → byte.toNat ≤ 0x8F) :
    isSecondOfFour lead byte = true := by
  have bounds := isContinuation_iff.mp continues
  unfold isSecondOfFour
  split
  · rename_i least
    exact within_iff.mpr ⟨notOverlong (congrArg UInt8.toNat least), bounds.2⟩
  · split
    · rename_i greatest
      exact within_iff.mpr ⟨bounds.1, notTooLarge (congrArg UInt8.toNat greatest)⟩
    · exact continues

/-! ## The four lengths -/

theorem not_lt_of_le (bound : UInt8) {lead : UInt8} (h : bound.toNat ≤ lead.toNat) :
    ¬ lead < bound := by
  rw [UInt8.lt_iff_toNat_lt]
  exact Nat.not_lt.mpr h

theorem decodeFirst_one {lead : UInt8} (h : lead.toNat < 0x80) (rest : List UInt8) :
    decodeFirst lead rest = (codePoint lead.toNat [], rest) := by
  unfold decodeFirst
  rw [if_pos (UInt8.lt_iff_toNat_lt.mpr h)]

theorem decodeFirst_two {lead b : UInt8} (low : 0xC2 ≤ lead.toNat) (high : lead.toNat < 0xE0)
    (second : isContinuation b = true) (rest : List UInt8) :
    decodeFirst lead (b :: rest) = (codePoint (lead.toNat % 32) [b], rest) := by
  unfold decodeFirst
  rw [if_neg (not_lt_of_le 0x80 (Nat.le_trans (by decide) low)), if_neg (not_lt_of_le 0xC2 low),
    if_pos (UInt8.lt_iff_toNat_lt.mpr high)]
  dsimp only
  rw [if_pos second]

theorem decodeFirst_three {lead b c : UInt8} (low : 0xE0 ≤ lead.toNat) (high : lead.toNat < 0xF0)
    (second : isSecondOfThree lead b = true) (third : isContinuation c = true)
    (rest : List UInt8) :
    decodeFirst lead (b :: c :: rest) = (codePoint (lead.toNat % 16) [b, c], rest) := by
  unfold decodeFirst
  rw [if_neg (not_lt_of_le 0x80 (Nat.le_trans (by decide) low)),
    if_neg (not_lt_of_le 0xC2 (Nat.le_trans (by decide) low)), if_neg (not_lt_of_le 0xE0 low),
    if_pos (UInt8.lt_iff_toNat_lt.mpr high)]
  dsimp only
  rw [if_pos second, if_pos third]

theorem decodeFirst_four {lead b c d : UInt8} (low : 0xF0 ≤ lead.toNat)
    (high : lead.toNat < 0xF5) (second : isSecondOfFour lead b = true)
    (third : isContinuation c = true) (fourth : isContinuation d = true) (rest : List UInt8) :
    decodeFirst lead (b :: c :: d :: rest) = (codePoint (lead.toNat % 8) [b, c, d], rest) := by
  unfold decodeFirst
  rw [if_neg (not_lt_of_le 0x80 (Nat.le_trans (by decide) low)),
    if_neg (not_lt_of_le 0xC2 (Nat.le_trans (by decide) low)),
    if_neg (not_lt_of_le 0xE0 (Nat.le_trans (by decide) low)), if_neg (not_lt_of_le 0xF0 low),
    if_pos (UInt8.lt_iff_toNat_lt.mpr high)]
  dsimp only
  rw [if_pos second, if_pos third, if_pos fourth]

/-! ## Characters -/

/-- A character is no surrogate and none beyond the last code point. -/
theorem toNat_of_char (c : Char) :
    c.toNat < 0xD800 ∨ (0xE000 ≤ c.toNat ∧ c.toNat < 0x110000) := by
  have valid : c.val.toNat < 0xD800 ∨ (0xDFFF < c.val.toNat ∧ c.val.toNat < 0x110000) := c.valid
  show c.val.toNat < 0xD800 ∨ (0xE000 ≤ c.val.toNat ∧ c.val.toNat < 0x110000)
  omega

/-- A byte below 256 is the number that it was made of. -/
theorem toNat_byte (value : Nat) (h : value < 256) : (UInt8.ofNat value).toNat = value :=
  UInt8.toNat_ofNat_of_lt h

/-- The bytes of a character are a lead byte and others, with which decoding gives that character
and leaves what follows. -/
theorem decodeFirst_of_char (c : Char) (rest : List UInt8) :
    ∃ lead tail, String.utf8EncodeChar c = lead :: tail ∧
      decodeFirst lead (tail ++ rest) = (c, rest) := by
  have valid := toNat_of_char c
  have same : ∀ value, value = c.toNat → Char.ofNat value = c := by
    rintro value rfl
    exact Char.ofNat_toNat c
  unfold String.utf8EncodeChar
  generalize number : c.val.toNat = v
  have isNumber : c.toNat = v := number
  rw [isNumber] at valid same
  dsimp only
  have last := toNat_byte (v % 0x40 + 0x80) (by omega)
  have middle := toNat_byte (v / 64 % 0x40 + 0x80) (by omega)
  -- One case for each length. What is asked of the second byte follows from `valid`: there are no
  -- surrogates, and the encoder takes the shortest length.
  split
  · have lead := toNat_byte v (by omega)
    refine ⟨_, _, rfl, ?_⟩
    rw [List.nil_append, decodeFirst_one (by omega), lead]
    exact congrArg (·, rest) (same v rfl)
  · split
    · have lead := toNat_byte (v / 64 % 0x20 + 0xC0) (by omega)
      refine ⟨_, _, rfl, ?_⟩
      rw [List.singleton_append, decodeFirst_two (by omega) (by omega)
        (isContinuation_iff.mpr (by omega))]
      refine congrArg (·, rest) (same _ ?_)
      simp only [List.foldl_cons, List.foldl_nil, lead, last]
      omega
    · split
      · have lead := toNat_byte (v / 4096 % 0x10 + 0xE0) (by omega)
        refine ⟨_, _, rfl, ?_⟩
        show decodeFirst _ (_ :: _ :: rest) = _
        rw [decodeFirst_three (by omega) (by omega)
          (isSecondOfThree_of (isContinuation_iff.mpr (by omega)) (by omega) (by omega))
          (isContinuation_iff.mpr (by omega))]
        refine congrArg (·, rest) (same _ ?_)
        simp only [List.foldl_cons, List.foldl_nil, lead, middle, last]
        omega
      · have lead := toNat_byte (v / 262144 % 0x08 + 0xF0) (by omega)
        have second := toNat_byte (v / 4096 % 0x40 + 0x80) (by omega)
        refine ⟨_, _, rfl, ?_⟩
        show decodeFirst _ (_ :: _ :: _ :: rest) = _
        rw [decodeFirst_four (by omega) (by omega)
          (isSecondOfFour_of (isContinuation_iff.mpr (by omega)) (by omega) (by omega))
          (isContinuation_iff.mpr (by omega)) (isContinuation_iff.mpr (by omega))]
        refine congrArg (·, rest) (same _ ?_)
        simp only [List.foldl_cons, List.foldl_nil, lead, second, middle, last]
        omega

/-! ## Texts -/

/-- Decoding the bytes of some characters gives these after those already decoded. -/
theorem decodeOnto_flatMap (decoded chars : List Char) :
    decodeOnto decoded (chars.flatMap String.utf8EncodeChar) = chars.reverse ++ decoded := by
  induction chars generalizing decoded with
  | nil =>
    rw [List.flatMap_nil, decodeOnto]
    rfl
  | cons c later ih =>
    obtain ⟨lead, tail, bytes, first⟩ :=
      decodeFirst_of_char c (later.flatMap String.utf8EncodeChar)
    rw [List.flatMap_cons, bytes, List.cons_append, decodeOnto, first, ih, List.reverse_cons,
      List.append_assoc]
    rfl

/-- Decoding the bytes of a text gives the text. -/
theorem decode_encode (text : String) : decode (encode text) = text := by
  rw [decode, encode, decodeOnto_flatMap, List.append_nil, List.reverse_reverse,
    String.ofList_toList]

/-- Only the bytes of the NUL character hold a zero byte. -/
theorem zero_not_mem_of_char {c : Char} (h : c ≠ '\x00') :
    0 ∉ String.utf8EncodeChar c := by
  have positive : c.val.toNat ≠ 0 := by
    intro zero
    have isNumber : c.toNat = 0 := zero
    exact h (by rw [← Char.ofNat_toNat c, isNumber])
  have nonzero : ∀ value, 0 < value → value < 256 → (0 : UInt8) ≠ UInt8.ofNat value := by
    intro value some small same
    have number := congrArg UInt8.toNat same
    rw [toNat_byte value small] at number
    exact absurd number (Nat.ne_of_lt some)
  unfold String.utf8EncodeChar
  generalize c.val.toNat = v at positive
  dsimp only
  split
  · simp only [List.mem_singleton]
    exact nonzero v (by omega) (by omega)
  · split
    · simp only [List.mem_cons, List.not_mem_nil, or_false, not_or]
      exact ⟨nonzero _ (by omega) (by omega), nonzero _ (by omega) (by omega)⟩
    · split
      · simp only [List.mem_cons, List.not_mem_nil, or_false, not_or]
        exact ⟨nonzero _ (by omega) (by omega), nonzero _ (by omega) (by omega),
          nonzero _ (by omega) (by omega)⟩
      · simp only [List.mem_cons, List.not_mem_nil, or_false, not_or]
        exact ⟨nonzero _ (by omega) (by omega), nonzero _ (by omega) (by omega),
          nonzero _ (by omega) (by omega), nonzero _ (by omega) (by omega)⟩

/-- The bytes of a text without a NUL character hold no zero byte. -/
theorem zero_not_mem_encode {text : String} (h : '\x00' ∉ text.toList) :
    0 ∉ encode text := by
  rw [encode, List.mem_flatMap]
  rintro ⟨c, member, zero⟩
  refine zero_not_mem_of_char (fun isNul => ?_) zero
  rw [isNul] at member
  exact h member

end ChannelAccess.Utf8

namespace ChannelAccess.Terminated

/-- What stands before the first zero byte is read. -/
theorem ofField_append_zero {bytes : List UInt8} (h : 0 ∉ bytes) (after : List UInt8) :
    ofField (bytes ++ 0 :: after) = Utf8.decode bytes := by
  have none : ∀ byte ∈ bytes, (byte != 0) = true := by
    intro byte member
    refine bne_iff_ne.mpr fun zero => ?_
    rw [zero] at member
    exact h member
  rw [ofField, List.takeWhile_append_of_pos none, List.takeWhile_cons_of_neg (by decide),
    List.append_nil]

/-- A text without a NUL character is read back from its zero-terminated field, whatever follows
the first zero byte. -/
theorem ofField_encode {text : String} (h : '\x00' ∉ text.toList) (after : List UInt8) :
    ofField (Utf8.encode text ++ 0 :: after) = text := by
  rw [ofField_append_zero (Utf8.zero_not_mem_encode h), Utf8.decode_encode]

/-- A text without a NUL character is read back from its terminated and padded form. -/
theorem ofField_terminate {text : String} (h : '\x00' ∉ text.toList) :
    ofField (terminate text) = text := by
  rw [terminate, pad, List.append_assoc]
  exact ofField_encode h _

/-- A field that was written is as long as it is padded to, so padding it again does nothing. -/
theorem pad_terminate (text : String) : pad (terminate text) = terminate text :=
  pad_pad (Utf8.encode text ++ [0])

end ChannelAccess.Terminated
