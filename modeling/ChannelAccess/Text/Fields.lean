/-!
# Parts of a text

Cutting a text at a separator, white space around it, and case among the ASCII letters. Texts are
taken as lists of characters.
-/

namespace ChannelAccess.Fields

/-- The character is white space, as Unicode counts it. -/
def isBlank (c : Char) : Bool :=
  (0x09 ≤ c.toNat && c.toNat ≤ 0x0D) || c.toNat == 0x20 || c.toNat == 0x85 || c.toNat == 0xA0 ||
    c.toNat == 0x1680 || (0x2000 ≤ c.toNat && c.toNat ≤ 0x200A) || c.toNat == 0x2028 ||
    c.toNat == 0x2029 || c.toNat == 0x202F || c.toNat == 0x205F || c.toNat == 0x3000

/-- The character is white space among the ASCII characters; a vertical tab is not. -/
def isAsciiBlank (c : Char) : Bool :=
  c == ' ' || c == '\t' || c == '\n' || c == '\x0c' || c == '\r'

/-- Characters without the white space at both ends. -/
def trim (chars : List Char) : List Char :=
  ((chars.dropWhile isBlank).reverse.dropWhile isBlank).reverse

/-- A character before the first of some parts. -/
def consFirst (c : Char) : List (List Char) → List (List Char)
  | [] => [[c]]
  | first :: rest => (c :: first) :: rest

/-- The parts between separators, one more than there are separators. -/
def splitAll (isSeparator : Char → Bool) (chars : List Char) : List (List Char) :=
  chars.foldr (fun c parts => if isSeparator c then [] :: parts else consFirst c parts) [[]]

/-- The parts between separators that are not empty. -/
def words (isSeparator : Char → Bool) (chars : List Char) : List (List Char) :=
  (splitAll isSeparator chars).filter (· ≠ [])

/-- Two texts are the same but for the case of ASCII letters. -/
def sameIgnoringCase (a b : List Char) : Bool :=
  a.map Char.toLower == b.map Char.toLower

/-- Cutting keeps at least one part. -/
theorem splitAll_ne_nil (isSeparator : Char → Bool) (chars : List Char) :
    splitAll isSeparator chars ≠ [] := by
  cases chars with
  | nil => simp [splitAll]
  | cons c rest =>
    simp only [splitAll, List.foldr_cons]
    split
    · simp
    · generalize List.foldr _ _ rest = parts
      cases parts <;> simp [consFirst]

end ChannelAccess.Fields
