import ChannelAccess.Proofs.Text.Utf8Codec

/-!
# Bytes of texts that are cut

What is read from a part of a text's bytes. Up to the first zero byte there stands what comes before
the first NUL character (`takeWhile_encodeChars`). After some bytes there stands an end of the text,
but if a character is cut, each byte that is left of it is read as a replacement character
(`decode_drop_inside`). That is never the whole text, unless it began with replacement characters
itself (`decode_drop_encode_eq_iff`).
-/

namespace ChannelAccess.Utf8

/-- Bytes of some characters. -/
def encodeChars (chars : List Char) : List UInt8 := chars.flatMap String.utf8EncodeChar

theorem encode_eq (text : String) : encode text = encodeChars text.toList := rfl

theorem encode_ofList (chars : List Char) : encode (String.ofList chars) = encodeChars chars := by
  rw [encode, String.toList_ofList, encodeChars]

theorem encodeChars_cons (c : Char) (later : List Char) :
    encodeChars (c :: later) = String.utf8EncodeChar c ++ encodeChars later :=
  List.flatMap_cons

/-- What stands before the first zero byte of some characters' bytes is what stands before the first
NUL character. -/
theorem takeWhile_encodeChars (chars : List Char) (after : List UInt8) :
    (encodeChars chars ++ 0 :: after).takeWhile (· != 0) =
      encodeChars (chars.takeWhile (· != '\x00')) := by
  induction chars with
  | nil => rfl
  | cons c later ih =>
    by_cases isNul : c = '\x00'
    · subst isNul
      rfl
    · have none : ∀ byte ∈ String.utf8EncodeChar c, (byte != 0) = true := by
        intro byte member
        refine bne_iff_ne.mpr ?_
        rintro rfl
        exact zero_not_mem_of_char isNul member
      have keeps : (c :: later).takeWhile (· != '\x00') = c :: later.takeWhile (· != '\x00') :=
        List.takeWhile_cons_of_pos (bne_iff_ne.mpr isNul)
      rw [encodeChars_cons, List.append_assoc, List.takeWhile_append_of_pos none, ih, keeps,
        encodeChars_cons]

/-! ## Cutting the front -/

theorem encodeChars_append (front back : List Char) :
    encodeChars (front ++ back) = encodeChars front ++ encodeChars back :=
  List.flatMap_append

/-- All bytes of a character but the first continue it. -/
theorem isContinuation_of_mem_tail {c : Char} {byte : UInt8}
    (member : byte ∈ (String.utf8EncodeChar c).tail) : isContinuation byte = true := by
  have continues (value : Nat) :
      isContinuation (UInt8.ofNat (value % 0x40 + 0x80)) = true := by
    have number := toNat_byte (value % 0x40 + 0x80) (by omega)
    exact isContinuation_iff.mpr (by omega)
  unfold String.utf8EncodeChar at member
  generalize c.val.toNat = v at member
  dsimp only at member
  -- One case for each length.
  split at member
  · exact absurd member List.not_mem_nil
  · split at member
    · rw [List.tail_cons, List.mem_singleton] at member
      rw [member]
      exact continues v
    · split at member
      · simp only [List.tail_cons, List.mem_cons, List.not_mem_nil, or_false] at member
        rcases member with rfl | rfl
        · exact continues (v / 64)
        · exact continues v
      · simp only [List.tail_cons, List.mem_cons, List.not_mem_nil, or_false] at member
        rcases member with rfl | rfl | rfl
        · exact continues (v / 4096)
        · exact continues (v / 64)
        · exact continues v

/-- A byte that continues no character is read as a replacement character. -/
theorem decodeFirst_continuation {byte : UInt8} (continues : isContinuation byte = true)
    (rest : List UInt8) : decodeFirst byte rest = (replacement, rest) := by
  have bounds := isContinuation_iff.mp continues
  have below : byte < 0xC2 := by
    rw [UInt8.lt_iff_toNat_lt]
    show byte.toNat < 0xC2
    omega
  unfold decodeFirst
  rw [if_neg (not_lt_of_le 0x80 bounds.1), if_pos below]

theorem decodeOnto_continuations {bytes : List UInt8}
    (all : ∀ byte ∈ bytes, isContinuation byte = true) (decoded : List Char)
    (rest : List UInt8) :
    decodeOnto decoded (bytes ++ rest) =
      decodeOnto (List.replicate bytes.length replacement ++ decoded) rest := by
  induction bytes generalizing decoded with
  | nil => rfl
  | cons byte bytes ih =>
    rw [List.forall_mem_cons] at all
    have one : List.replicate bytes.length replacement ++ replacement :: decoded =
        List.replicate (bytes.length + 1) replacement ++ decoded := by
      rw [List.replicate_succ', List.append_assoc, List.singleton_append]
    rw [List.cons_append, decodeOnto, decodeFirst_continuation all.1, ih all.2, one,
      List.length_cons]

theorem decode_encodeChars (chars : List Char) :
    decode (encodeChars chars) = String.ofList chars := by
  rw [← encode_ofList, decode_encode]

/-- Where a character is cut, each byte that is left of it is read as a replacement character. -/
theorem decode_drop_inside {c : Char} {cut : Nat} (some : 0 < cut) (back : List Char) :
    decode ((String.utf8EncodeChar c).drop cut ++ encodeChars back) =
      String.ofList (List.replicate (c.utf8Size - cut) replacement ++ back) := by
  have left : ∀ byte ∈ (String.utf8EncodeChar c).drop cut, isContinuation byte = true := by
    intro byte member
    obtain ⟨later, rfl⟩ := Nat.exists_eq_add_of_lt some
    rw [Nat.zero_add, ← List.drop_tail] at member
    exact isContinuation_of_mem_tail (List.mem_of_mem_drop member)
  have number : ((String.utf8EncodeChar c).drop cut).length = c.utf8Size - cut := by
    rw [List.length_drop, String.length_utf8EncodeChar]
  rw [decode, decodeOnto_continuations left, number, encodeChars, decodeOnto_flatMap,
    List.append_nil, List.reverse_append, List.reverse_reverse, List.reverse_replicate]

/-- Any place among the bytes of some characters is in one of them. -/
theorem exists_character_at {chars : List Char} {n : Nat}
    (inside : n < (encodeChars chars).length) :
    ∃ front c back cut, chars = front ++ c :: back ∧ cut < c.utf8Size ∧
      n = (encodeChars front).length + cut := by
  induction chars generalizing n with
  | nil => exact absurd inside (Nat.not_lt_zero n)
  | cons d later ih =>
    rw [encodeChars_cons, List.length_append, String.length_utf8EncodeChar] at inside
    by_cases here : n < d.utf8Size
    · exact ⟨[], d, later, n, rfl, here, (Nat.zero_add n).symm⟩
    · obtain ⟨front, c, back, cut, rfl, isCut, place⟩ := ih (n := n - d.utf8Size) (by omega)
      refine ⟨d :: front, c, back, cut, rfl, isCut, ?_⟩
      rw [encodeChars_cons, List.length_append, String.length_utf8EncodeChar]
      omega

theorem drop_encodeChars (front back : List Char) {c : Char} {cut : Nat}
    (isCut : cut < c.utf8Size) :
    (encodeChars (front ++ c :: back)).drop ((encodeChars front).length + cut) =
      (String.utf8EncodeChar c).drop cut ++ encodeChars back := by
  have length : cut ≤ (String.utf8EncodeChar c).length := by
    rw [String.length_utf8EncodeChar]
    exact Nat.le_of_lt isCut
  rw [encodeChars_append, encodeChars_cons, List.drop_length_add_append,
    List.drop_append_of_le_length length]

theorem length_encodeChars_replicate (c : Char) (number : Nat) :
    (encodeChars (List.replicate number c)).length = number * c.utf8Size := by
  induction number with
  | zero => rw [List.replicate_zero, Nat.zero_mul]; rfl
  | succ number ih =>
    rw [List.replicate_succ, encodeChars_cons, List.length_append, String.length_utf8EncodeChar, ih,
      Nat.succ_mul, Nat.add_comm]

/-- The text looks whole without its first bytes: it begins with one replacement character that
lost two of its three bytes, or with two that lost four of their six. Each byte that is left is read
as a replacement character. -/
def LooksWhole (cut : Nat) (text : String) : Prop :=
  ∃ number, (number = 1 ∨ number = 2) ∧ cut = 2 * number ∧
    List.replicate number replacement <+: text.toList

theorem LooksWhole.decode_drop {cut : Nat} {text : String} (looks : LooksWhole cut text) :
    decode ((encode text).drop cut) = text := by
  obtain ⟨number, oneOrTwo, rfl, back, whole⟩ := looks
  -- The last of the replacement characters is the one that is cut.
  generalize isFront : List.replicate (number - 1) replacement = front
  have split : text.toList = front ++ replacement :: back := by
    rw [← whole, ← isFront]
    rcases oneOrTwo with rfl | rfl <;> rfl
  have size : replacement.utf8Size = 3 := by decide
  have place : 2 * number = (encodeChars front).length + (3 - number) := by
    rw [← isFront, length_encodeChars_replicate, size]
    omega
  have left : replacement.utf8Size - (3 - number) = number := by omega
  rw [encode_eq, split, place, drop_encodeChars front back (by omega),
    decode_drop_inside (by omega), left, whole, String.ofList_toList]

/-- Without its first bytes a text is not read as it was, unless it looks whole. -/
theorem decode_drop_encode_eq_iff {cut : Nat} {text : String} (some : 0 < cut)
    (nonempty : text ≠ "") :
    decode ((encode text).drop cut) = text ↔ LooksWhole cut text := by
  refine ⟨fun same => ?_, LooksWhole.decode_drop⟩
  have inside : cut < (encodeChars text.toList).length := by
    refine Nat.lt_of_not_le fun beyond => nonempty ?_
    rw [← same, encode_eq, List.drop_eq_nil_of_le beyond]
    exact decode_encode ""
  obtain ⟨front, c, back, lost, isText, isCut, rfl⟩ := exists_character_at inside
  rw [encode_eq, isText, drop_encodeChars front back isCut] at same
  rcases Nat.eq_zero_or_pos lost with rfl | part
  · -- No character is cut. Then some are missing, as some bytes are.
    rw [List.drop_zero, ← encodeChars_cons, decode_encodeChars] at same
    have chars : c :: back = front ++ c :: back := by
      rw [← isText, ← same, String.toList_ofList]
    have none : front = [] := List.self_eq_append_left.mp chars
    rw [none] at some
    exact absurd some (Nat.lt_irrefl 0)
  · -- What is left of the character that is cut, and what came before it, are as many replacement
    -- characters.
    rw [decode_drop_inside part] at same
    generalize isLeft : c.utf8Size - lost = left at same
    have chars : List.replicate left replacement ++ back = (front ++ [c]) ++ back := by
      rw [List.append_assoc, List.singleton_append, ← isText, ← same, String.toList_ofList]
    have before : front ++ [c] = List.replicate left replacement :=
      (List.append_cancel_right chars).symm
    obtain ⟨-, isFront, isLast⟩ := List.append_eq_replicate_iff.mp before
    have isReplacement : c = replacement := by
      simpa using isLast
    have size : c.utf8Size = 3 := by
      rw [isReplacement]
      decide
    have length : front.length + 1 = left := by
      simpa using congrArg List.length before
    have oneOrTwo : left = 1 ∨ left = 2 := by omega
    refine ⟨left, oneOrTwo, ?_, back, ?_⟩
    · rw [isFront, length_encodeChars_replicate, ← isReplacement, size]
      omega
    · rw [isText, chars, List.append_assoc, List.singleton_append]

end ChannelAccess.Utf8
