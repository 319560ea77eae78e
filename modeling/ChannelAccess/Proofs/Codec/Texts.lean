import Mathlib.Data.List.TakeWhile
import ChannelAccess.Codec.Text
import ChannelAccess.Proofs.Codec.Slices
import ChannelAccess.Proofs.Text.Cuts

/-!
# Texts that fit their fields come back

A list of texts travels as fields of forty bytes. `texts_roundTrip` says what comes back for any
texts and any number of them: each is cut to its longest beginning of whole characters that leaves
room for a zero byte, and then at its first NUL character. So texts that fit and hold no NUL come
back as they were, and encoding what was decoded gives the same bytes again. The bytes of all fields
have to be such as can be set aside at once; of any more not all are written
(`Codec.encode?_texts_full_iff`).

The fields are slices of the payload (`decode_texts`, `encode_texts`), so that what is to be shown
is what one field holds: `fitting` is the longest beginning that fits
(`longestBeginning_cutToField`), and reading the field finds the first zero byte where the first NUL
character is, or else after the text (`ofField_textField`).
-/

namespace ChannelAccess

/-- A text up to its first NUL character. -/
def beforeNul (text : String) : String := String.ofList (text.toList.takeWhile (· != '\x00'))

theorem beforeNul_of_not_mem {text : String} (none : '\x00' ∉ text.toList) :
    beforeNul text = text := by
  have all : ∀ c ∈ text.toList, (c != '\x00') = true := by
    intro c member
    refine bne_iff_ne.mpr ?_
    rintro rfl
    exact none member
  rw [beforeNul, List.takeWhile_eq_self_iff.mpr all, String.ofList_toList]

/-- The longest beginning of a text, in whole characters, whose UTF-8 takes no more bytes than there
is room for. -/
structure LongestBeginning (room : Nat) (text beginning : String) : Prop where
  /-- The text begins so. -/
  begins : beginning.toList <+: text.toList
  /-- There is room for it. -/
  fits : (Utf8.encode beginning).length ≤ room
  /-- Any other that there is room for is a part of it. -/
  longest : ∀ other : String, other.toList <+: text.toList → (Utf8.encode other).length ≤ room →
    other.toList <+: beginning.toList

namespace Codec

/-! ## One field -/

theorem fitting_prefix (room : Nat) (chars : List Char) : fitting room chars <+: chars := by
  induction chars generalizing room with
  | nil => exact List.prefix_refl []
  | cons c later ih =>
    rw [fitting]
    split
    · exact (List.prefix_cons_inj c).mpr (ih _)
    · exact List.nil_prefix

theorem length_fitting (room : Nat) (chars : List Char) :
    (Utf8.encodeChars (fitting room chars)).length ≤ room := by
  induction chars generalizing room with
  | nil => exact Nat.zero_le room
  | cons c later ih =>
    rw [fitting]
    split
    · rename_i fits
      have rest := ih (room - c.utf8Size)
      rw [Utf8.encodeChars_cons, List.length_append, String.length_utf8EncodeChar]
      omega
    · exact Nat.zero_le room

/-- A beginning that there is room for is a part of what fits. -/
theorem prefix_fitting {room : Nat} {chars other : List Char} (begins : other <+: chars)
    (fits : (Utf8.encodeChars other).length ≤ room) : other <+: fitting room chars := by
  induction chars generalizing room other with
  | nil => exact begins
  | cons c later ih =>
    cases other with
    | nil => exact List.nil_prefix
    | cons d rest =>
      -- Both begin with `c`, and there is room for it, as there is for all of `other`.
      obtain ⟨rfl, laterBegins⟩ := List.cons_prefix_cons.mp begins
      rw [Utf8.encodeChars_cons, List.length_append, String.length_utf8EncodeChar] at fits
      rw [fitting, if_pos (by omega), List.cons_prefix_cons]
      exact ⟨rfl, ih laterBegins (by omega)⟩

/-- A text is cut to its longest beginning that leaves room for a zero byte. -/
theorem longestBeginning_cutToField (text : String) :
    LongestBeginning 39 text (cutToField text) := by
  refine ⟨?_, ?_, ?_⟩
  · rw [cutToField, String.toList_ofList]
    exact fitting_prefix _ _
  · rw [cutToField, Utf8.encode_ofList]
    exact length_fitting _ _
  · intro other begins fits
    rw [cutToField, String.toList_ofList]
    exact prefix_fitting begins fits

/-- A character of two bytes does not fit after thirty-eight bytes. -/
example : cutToField (String.ofList (List.replicate 38 'a' ++ ['é'])) =
    String.ofList (List.replicate 38 'a') := by
  decide

/-- A text that there is room for is not cut. -/
theorem cutToField_of_fits {text : String} (fits : (Utf8.encode text).length ≤ 39) :
    cutToField text = text := by
  have cut := longestBeginning_cutToField text
  -- Of the beginnings that there is room for the text itself is one.
  have whole : text.toList <+: (cutToField text).toList :=
    cut.longest text (List.prefix_refl _) fits
  exact String.toList_injective (cut.begins.eq_of_length_le whole.length_le)

/-- Cutting a text adds no NUL character. -/
theorem nul_not_mem_cutToField {text : String} (none : '\x00' ∉ text.toList) :
    '\x00' ∉ (cutToField text).toList :=
  fun member => none ((longestBeginning_cutToField text).begins.subset member)

/-- The cut text is followed by at least one zero byte in its field. -/
theorem textField_eq (text : String) :
    textField text = Utf8.encode (cutToField text) ++
      0 :: List.replicate (39 - (Utf8.encode (cutToField text)).length) 0 := by
  have fits := (longestBeginning_cutToField text).fits
  have room : textFieldLength - (Utf8.encode (cutToField text)).length =
      39 - (Utf8.encode (cutToField text)).length + 1 := by
    rw [textFieldLength]
    omega
  rw [textField, room, List.replicate_succ]

theorem length_textField (text : String) : (textField text).length = textFieldLength := by
  have fits := (longestBeginning_cutToField text).fits
  rw [textField_eq, List.length_append, List.length_cons, List.length_replicate, textFieldLength]
  omega

theorem zero_mem_textField (text : String) : 0 ∈ textField text := by
  rw [textField_eq]
  exact List.mem_append_right _ List.mem_cons_self

/-- Reading a field gives the cut text up to its first NUL character. -/
theorem ofField_textField (text : String) :
    Terminated.ofField (textField text) = beforeNul (cutToField text) := by
  generalize cut : cutToField text = beginning
  rw [textField_eq, cut, Terminated.ofField, Utf8.encode_eq, Utf8.takeWhile_encodeChars,
    Utf8.decode_encodeChars, beforeNul]

/-- A text without a NUL character that fits is read back from its field. -/
theorem beforeNul_cutToField {text : String} (none : '\x00' ∉ text.toList)
    (fits : (Utf8.encode text).length ≤ 39) : beforeNul (cutToField text) = text := by
  rw [cutToField_of_fits fits, beforeNul_of_not_mem none]

/-- What was read from the field of a text without a NUL character has that field. -/
theorem textField_beforeNul_cutToField {text : String} (none : '\x00' ∉ text.toList) :
    textField (beforeNul (cutToField text)) = textField text := by
  have again : cutToField (cutToField text) = cutToField text :=
    cutToField_of_fits (longestBeginning_cutToField text).fits
  rw [beforeNul_of_not_mem (nul_not_mem_cutToField none), textField, textField, again]

/-! ## Any number of fields -/

theorem sized_textFields (values : List String) :
    ∀ field ∈ values.map textField, field.length = textFieldLength := by
  intro field member
  obtain ⟨text, -, rfl⟩ := List.mem_map.mp member
  exact length_textField text

/-- Bytes for which there is room are counted as they are. -/
theorem byteCount_of_room {size count : Nat} (room : count * size ≤ mostBytes) :
    byteCount size count = count * size :=
  Nat.mod_eq_of_lt (Nat.lt_of_le_of_lt room (by decide))

/-- Texts are decoded from fields, one after the other. -/
theorem toList_decodeTexts (decoded : Array String) (count : Nat) (raw : List UInt8) :
    (decodeTexts decoded count raw).toList =
      decoded.toList ++ (slices textFieldLength count raw).map Terminated.ofField :=
  toList_of_slices (fun _ _ => rfl) (fun _ _ _ => rfl) decoded count raw

/-- As many bytes are written as were counted. -/
theorem length_encode_texts (values : Array String) (count : Nat) :
    (texts.encode values count).length = byteCount textFieldLength count := by
  unfold texts
  dsimp only
  generalize byteCount textFieldLength count = length
  have taken : ((values.toList.take (length / textFieldLength)).flatMap textField).length ≤
      length := by
    rw [List.flatMap, length_flatten_of_sized (sized_textFields _), List.length_map,
      List.length_take]
    exact Nat.le_trans (Nat.mul_le_mul_right _ (Nat.min_le_left _ _)) (Nat.div_mul_le_self _ _)
  rw [List.length_append, List.length_replicate]
  omega

/-- All fields are written just when the bytes of all of them can be set aside. -/
theorem encode?_texts_full_iff (values : Array String) (count : Nat) :
    (∃ bytes, texts.encode? values count = some bytes ∧
        bytes.length = count * textFieldLength) ↔
      count * textFieldLength ≤ mostBytes := by
  constructor
  · rintro ⟨bytes, encoded, full⟩
    obtain ⟨room, isEncoded⟩ := Option.ite_none_right_eq_some.mp encoded
    obtain rfl := Option.some.inj isEncoded
    rw [← full, length_encode_texts]
    exact room
  · intro room
    have counted := byteCount_of_room room
    have setAside : texts.setAside count ≤ mostBytes := Nat.le_trans (Nat.le_of_eq counted) room
    exact ⟨_, if_pos setAside, (length_encode_texts values count).trans counted⟩

section
variable {count : Nat} (room : count * textFieldLength ≤ mostBytes)
include room

/-- Encoding in terms of the field of each text. -/
theorem encode_texts (values : Array String) :
    texts.encode values count = ((filled "" values count).toList.map textField).flatten := by
  have empty : textField "" = List.replicate textFieldLength 0 := by decide
  have asked : count * textFieldLength / textFieldLength = count :=
    Nat.mul_div_cancel count (by decide)
  have taken : ((values.toList.take count).flatMap textField).length =
      min count values.size * textFieldLength := by
    rw [List.flatMap, length_flatten_of_sized (sized_textFields _), List.length_map,
      List.length_take, Array.length_toList]
  have left : count * textFieldLength - min count values.size * textFieldLength =
      (count - values.size) * textFieldLength := by
    rw [← Nat.sub_mul]
    congr 1
    omega
  unfold texts
  dsimp only
  rw [byteCount_of_room room, asked, taken, left]
  simp [filled, empty, List.flatMap, List.flatten_replicate_replicate]

/-- The fields of encoded texts. -/
theorem slices_encode_texts (values : Array String) :
    slices textFieldLength count (texts.encode values count) =
      (filled "" values count).toList.map textField := by
  have number : ((filled "" values count).toList.map textField).length = count := by
    rw [List.length_map, Array.length_toList, size_filled]
  have cut := slices_flatten (sized_textFields (filled "" values count).toList)
  rwa [number, ← encode_texts room] at cut

/-- Fields that are complete are decoded. -/
theorem decode_texts {raw : List UInt8} (spare : Option (Array String))
    (whole : raw.length = count * textFieldLength) :
    texts.decode spare raw count =
      .ok ((slices textFieldLength count raw).map Terminated.ofField).toArray := by
  have nothing : ((spare.getD #[]).shrink 0).toList = [] := by simp
  have read : decodeTexts ((spare.getD #[]).shrink 0) count raw =
      ((slices textFieldLength count raw).map Terminated.ofField).toArray := by
    rw [← Array.toList_inj, toList_decodeTexts, nothing, List.nil_append]
  have enough : requireLength raw (count * textFieldLength) = .ok () := by
    rw [requireLength, if_neg (by omega)]
  have asked : min count (raw.length / textFieldLength) = count := by
    rw [whole, Nat.mul_div_cancel count (by decide), Nat.min_self]
  unfold texts
  dsimp only
  rw [elementCount_of_length (by decide) whole, byteCount_of_room room, enough, asked, read]
  -- A lone text is read whatever its length, others after their length was found to be enough.
  split
  · rename_i lone
    rw [← read, lone]
  · rfl

/-- What is decoded from encoded texts. -/
theorem decode_encode_texts (values : Array String) (spare : Option (Array String)) :
    texts.decode spare (texts.encode values count) count =
      .ok ((filled "" values count).map fun text => beforeNul (cutToField text)) := by
  have whole : (texts.encode values count).length = count * textFieldLength :=
    (length_encode_texts values count).trans (byteCount_of_room room)
  rw [decode_texts room spare whole, slices_encode_texts room, List.map_map]
  have read : Terminated.ofField ∘ textField = fun text => beforeNul (cutToField text) :=
    funext ofField_textField
  rw [read, ← Array.toList_map, Array.toArray_toList]

/-- What was decoded from texts without NUL characters is encoded as these texts were. -/
theorem encode_map_texts {values : Array String}
    (none : ∀ text ∈ values, '\x00' ∉ text.toList) :
    texts.encode ((filled "" values count).map fun text => beforeNul (cutToField text)) count =
      texts.encode values count := by
  have size : ((filled "" values count).map fun text => beforeNul (cutToField text)).size =
      count := by
    rw [Array.size_map, size_filled]
  have same : ∀ text ∈ filled "" values count,
      textField (beforeNul (cutToField text)) = textField text := by
    intro text member
    refine textField_beforeNul_cutToField ?_
    rcases mem_filled member with given | rfl
    · exact none text given
    · -- The filler is the empty text.
      decide
  rw [encode_texts room, encode_texts room, filled_of_size "" size, Array.toList_map,
    List.map_map]
  refine congrArg List.flatten (List.map_congr_left fun text member => ?_)
  exact same text (Array.mem_toList_iff.mp member)

/-- Texts for which there is room are encoded. -/
theorem encode?_texts (values : Array String) :
    texts.encode? values count = some (texts.encode values count) :=
  if_pos (Nat.le_trans (Nat.le_of_eq (byteCount_of_room room)) room)

end

end Codec

/-- **Texts come back as far as they fit their fields.** As long as the bytes of all fields can be
set aside, forty bytes for each text are written, a zero byte among them. Each text is read as its
longest beginning of whole characters that takes at most 39 bytes, up to the first NUL character in
it; where there are too few texts, empty ones are read. Texts without NUL characters are read as
they were if they fit, and anyway they are written again as the same bytes. -/
theorem texts_roundTrip (values : Array String) (count : Nat) (spare : Option (Array String))
    (room : 40 * count ≤ mostBytes) :
    ∃ bytes, Codec.texts.encode? values count = some bytes ∧ bytes.length = 40 * count ∧
      (∀ field ∈ Codec.slices 40 count bytes, 0 ∈ field) ∧
      ∃ decoded, Codec.texts.decode spare bytes count = .ok decoded ∧
        decoded.size = count ∧
        (∀ i text, i < count → values[i]? = some text →
          ∃ beginning, LongestBeginning 39 text beginning ∧
            decoded[i]? = some (beforeNul beginning)) ∧
        (∀ i, values.size ≤ i → i < count → decoded[i]? = some "") ∧
        (values.size = count →
          (∀ text ∈ values, '\x00' ∉ text.toList ∧ (Utf8.encode text).length ≤ 39) →
          decoded = values) ∧
        ((∀ text ∈ values, '\x00' ∉ text.toList) →
          Codec.texts.encode? decoded count = some bytes) := by
  rw [Nat.mul_comm] at room
  generalize result : ((Codec.filled "" values count).map fun text =>
    beforeNul (Codec.cutToField text)) = decoded
  have size : decoded.size = count := by rw [← result, Array.size_map, Codec.size_filled]
  have element (i : Nat) (inside : i < count) :
      decoded[i]? = some (beforeNul (Codec.cutToField (values[i]?.getD ""))) := by
    rw [← result, Array.getElem?_map, Codec.getElem?_filled "" values inside, Option.map_some]
  refine ⟨_, Codec.encode?_texts room values, ?_, ?_, decoded, ?_, size, ?_, ?_, ?_, ?_⟩
  · rw [Codec.length_encode_texts, Nat.mul_comm]
    exact Codec.byteCount_of_room room
  · show ∀ field ∈ Codec.slices Codec.textFieldLength count _, _
    rw [Codec.slices_encode_texts room]
    intro field member
    obtain ⟨text, -, rfl⟩ := List.mem_map.mp member
    exact Codec.zero_mem_textField text
  · rw [Codec.decode_encode_texts room, result]
  · intro i text inside present
    refine ⟨_, Codec.longestBeginning_cutToField text, ?_⟩
    rw [element i inside, present, Option.getD_some]
  · intro i beyond inside
    rw [element i inside, Array.getElem?_eq_none beyond, Option.getD_none]
    rfl
  · intro all fit
    rw [← result, Codec.filled_of_size "" all]
    refine (Array.map_congr_left fun text member => ?_).trans (Array.map_id values)
    exact Codec.beforeNul_cutToField (fit text member).1 (fit text member).2
  · intro none
    rw [← result, Codec.encode?_texts room, Codec.encode_map_texts room none]

/-- A text that fits comes back beside one that is cut before its last character. -/
theorem texts_roundTrip_cutText :
    let long := String.ofList (List.replicate 38 'a' ++ ['é'])
    40 * 2 ≤ mostBytes ∧
      ∃ bytes decoded, Codec.texts.encode? #["first", long] 2 = some bytes ∧
        Codec.texts.decode none bytes 2 = .ok decoded ∧ decoded.size = 2 ∧
        Codec.texts.encode? decoded 2 = some bytes := by
  intro long
  have room : 40 * 2 ≤ mostBytes := by decide
  obtain ⟨bytes, encoded, -, -, decoded, isDecoded, size, -, -, -, again⟩ :=
    texts_roundTrip #["first", long] 2 none room
  refine ⟨room, bytes, decoded, encoded, isDecoded, size, again ?_⟩
  simp [long]

/-- One text more than there is room for is not written at all. Of so many that a machine word
counts no byte of them nothing is written, and nothing comes back. -/
theorem not_texts_roundTrip_tooMany :
    Codec.texts.encode? #[] 230584300921369396 = none ∧
      Codec.texts.encode? #["first"] 0x2000000000000000 = some [] ∧
      Codec.texts.decode none [] 0x2000000000000000 = .ok #[] :=
  ⟨rfl, rfl, rfl⟩

end ChannelAccess
