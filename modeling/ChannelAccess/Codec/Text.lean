import ChannelAccess.Codec.Basic
import ChannelAccess.Text.Terminated

/-!
# Codec of texts

Texts travel in fields of forty bytes. A text is cut to whole characters so that a zero byte always
follows it, and the rest of the field is zero.
-/

namespace ChannelAccess.Codec

/-- Bytes of a text field. -/
def textFieldLength : Nat := 40

/-- The longest part of a text from its start whose UTF-8 takes no more than `room` bytes. -/
def fitting (room : Nat) : List Char → List Char
  | [] => []
  | c :: rest => if c.utf8Size ≤ room then c :: fitting (room - c.utf8Size) rest else []

/-- What a text becomes in its field: cut to whole characters that leave room for a zero byte. -/
def cutToField (text : String) : String :=
  String.ofList (fitting (textFieldLength - 1) text.toList)

/-- The field of a text. -/
def textField (text : String) : List UInt8 :=
  let bytes := Utf8.encode (cutToField text)
  bytes ++ List.replicate (textFieldLength - bytes.length) 0

/-- Decodes text fields one after the other onto the texts already decoded. -/
def decodeTexts (decoded : Array String) : (count : Nat) → (raw : List UInt8) → Array String
  | 0, _ => decoded
  | count + 1, raw =>
    decodeTexts (decoded.push (Terminated.ofField (raw.take textFieldLength))) count
      (raw.drop textFieldLength)

/-- Any number of texts. A lone text may come without its full padding, so it is never too
short. -/
def texts : Codec (Array String) where
  wireType := 0
  forcedCount := none
  decode spare raw count := do
    let count := elementCount textFieldLength raw count
    let decoded := (spare.getD #[]).shrink 0
    if count = 1 then
      .ok (decodeTexts decoded 1 raw)
    else
      requireLength raw (byteCount textFieldLength count)
      -- There may be fewer fields than were asked for when their bytes are too many to count.
      .ok (decodeTexts decoded (min count (raw.length / textFieldLength)) raw)
  setAside := byteCount textFieldLength
  encode value count :=
    let length := byteCount textFieldLength count
    let fields := (value.toList.take (length / textFieldLength)).flatMap textField
    fields ++ List.replicate (length - fields.length) 0

end ChannelAccess.Codec
