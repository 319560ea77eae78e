import ChannelAccess.Number.Natural
import ChannelAccess.Number.Rounding

/-!
# Single precision numbers in text

A decimal number in text stands for the single precision number nearest to it, a tie going to the
even significand. Every finite single precision number is a whole multiple of 2⁻¹⁴⁹, and is kept
here as that multiple, so that all arithmetic is exact.
-/

namespace ChannelAccess

/-- A single precision number. -/
inductive Single where
  /-- No number. -/
  | nan
  /-- Beyond all finite numbers. -/
  | infinite (negative : Bool)
  /-- A whole multiple of 2⁻¹⁴⁹. -/
  | finite (negative : Bool) (units : Nat)
  deriving DecidableEq, Repr

namespace Single

/-- A number whose magnitude is `units` times 2⁻ to the power of `unitBits`. -/
def unitBits : Nat := 149

/-- Bits of a significand. -/
def significandBits : Nat := 24

/-- The least multiple of 2⁻¹⁴⁹ that is too large for a finite number: 2¹²⁸. -/
def unitsLimit : Nat := 1 <<< (128 + unitBits)

/-- The number nearest to `numerator / denominator`. -/
def ofQuotient (negative : Bool) (numerator denominator : Nat) : Single :=
  let scaled := numerator <<< unitBits
  let bits := Nat.log2 (scaled / denominator) + 1
  -- Numbers with no more bits than a significand are multiples of the unit itself.
  let spare := 1 <<< (bits - significandBits)
  let units := roundDiv scaled (denominator * spare) * spare
  if unitsLimit ≤ units then .infinite negative else .finite negative units

/-- The number nearest to `digits` times ten to the power of `exponent`, where the digits are
`length` many after leading zeros. Powers far beyond the range of the type are not worked out. -/
def ofDecimal (negative : Bool) (digits length : Nat) (exponent : Int) : Single :=
  let magnitude := exponent + length
  -- The value lies between 10 to the power of the magnitude and a tenth of that.
  if digits = 0 ∨ magnitude < -60 then .finite negative 0
  else if 60 < magnitude then .infinite negative
  else if exponent < 0 then ofQuotient negative digits (Nat.pow 10 exponent.natAbs)
  else ofQuotient negative (digits * Nat.pow 10 exponent.natAbs) 1

/-- A sign and what follows it. -/
def splitSign : List Char → Bool × List Char
  | '+' :: rest => (false, rest)
  | '-' :: rest => (true, rest)
  | chars => (false, chars)

/-- An exponent that has reached this size takes no more digits. -/
def exponentLimit : Nat := 0x10000

/-- The size of an exponent. -/
def exponentOfDigits (digits : List Char) : Nat :=
  digits.foldl
    (fun size c => if size < exponentLimit then 10 * size + Natural.ofDigits [c] else size) 0

/-- The exponent after the digits of a number: nothing, or a mark, an optional sign and digits. -/
def readExponent? : List Char → Option Int
  | [] => some 0
  | mark :: rest =>
    let (negative, digits) := splitSign rest
    if mark.toLower = 'e' ∧ digits ≠ [] ∧ digits.all Char.isDigit then
      some (if negative then -(exponentOfDigits digits : Int) else exponentOfDigits digits)
    else none

/-- The number that a text without its sign spells: digits with at most one point among or around
them, and an exponent. -/
def readUnsigned? (negative : Bool) (chars : List Char) : Option Single :=
  let whole := chars.takeWhile Char.isDigit
  let rest := chars.dropWhile Char.isDigit
  let (fraction, rest) :=
    match rest with
    | '.' :: rest => (rest.takeWhile Char.isDigit, rest.dropWhile Char.isDigit)
    | rest => ([], rest)
  let digits := (whole ++ fraction).dropWhile (· == '0')
  if whole ++ fraction = [] then none
  else do
    let exponent ← readExponent? rest
    some (ofDecimal negative (Natural.ofDigits digits) digits.length (exponent - fraction.length))

/-- The number that a text spells. Words for infinity and for no number count in any case. -/
def read? (chars : List Char) : Option Single :=
  let (negative, rest) := splitSign chars
  let word := String.ofList (rest.map Char.toLower)
  if word = "nan" then some .nan
  else if word = "inf" ∨ word = "infinity" then some (.infinite negative)
  else readUnsigned? negative rest

/-- The larger of a number and a finite bound that is not negative. No number counts as less than
every bound. -/
def atLeast (bound : Nat) : Single → Single
  | .nan => .finite false bound
  | .infinite negative => if negative then .finite false bound else .infinite false
  | .finite negative units =>
    if negative then .finite false bound else .finite false (max units bound)

end Single

end ChannelAccess
