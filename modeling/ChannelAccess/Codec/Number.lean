import ChannelAccess.Codec.Basic
import ChannelAccess.Codec.Element

/-!
# Codecs of numbers

`Codec.array` carries any number of elements of a numeric type, `Codec.scalar` exactly one.
-/

namespace ChannelAccess.Codec

variable {α : Type} [WireElement α]

/-- Decodes elements one after the other onto those already decoded. -/
def decodeElements (decoded : Array α) : (count : Nat) → (raw : List UInt8) → Array α
  | 0, _ => decoded
  | count + 1, raw =>
    decodeElements (decoded.push (WireElement.ofBytes (raw.take (WireElement.size α)))) count
      (raw.drop (WireElement.size α))

/-- Any number of elements. Too few elements for the count are followed by zeros. -/
def array (α : Type) [WireElement α] : Codec (Array α) where
  wireType := WireElement.wireType α
  forcedCount := none
  decode spare raw count := do
    let count := elementCount (WireElement.size α) raw count
    requireLength raw (count * WireElement.size α)
    .ok (decodeElements ((spare.getD #[]).shrink 0) count raw)
  setAside := byteCount (WireElement.size α)
  encode value count :=
    (value.toList.take count).flatMap WireElement.toBytes ++
      (List.replicate (count - value.size) (WireElement.zero : α)).flatMap WireElement.toBytes

/-- A single element, whatever the count. -/
def scalar (α : Type) [WireElement α] : Codec α where
  wireType := WireElement.wireType α
  forcedCount := some 1
  decode _ raw _ := do
    requireLength raw (WireElement.size α)
    .ok (WireElement.ofBytes (raw.take (WireElement.size α)))
  setAside _ := WireElement.size α
  encode value _ := WireElement.toBytes value

end ChannelAccess.Codec
