/-!
# Natural numbers in text

A natural number is written as decimal digits, with or without a plus sign before them and with any
number of leading zeros.
-/

namespace ChannelAccess.Natural

/-- The number that decimal digits spell. -/
def ofDigits (digits : List Char) : Nat :=
  digits.foldl (fun value c => value * 10 + (c.toNat - '0'.toNat)) 0

/-- The characters after a plus sign, if they start with one. -/
def dropPlus : List Char → List Char
  | '+' :: rest => rest
  | chars => chars

/-- The number below `bound` that digits without a sign spell. -/
def readDigits? (bound : Nat) (digits : List Char) : Option Nat :=
  if digits ≠ [] ∧ digits.all Char.isDigit ∧ ofDigits digits < bound then some (ofDigits digits)
  else none

/-- The number below `bound` that a text spells. -/
def read? (bound : Nat) (chars : List Char) : Option Nat := readDigits? bound (dropPlus chars)

/-- One more than the largest number of 16 bits. -/
def bound16 : Nat := 0x10000

/-- One more than the largest number of 32 bits. -/
def bound32 : Nat := 0x100000000

/-- One more than the largest number of 64 bits. -/
def bound64 : Nat := 0x10000000000000000

/-- A number that was read is below the bound. -/
theorem lt_of_read? {bound value : Nat} {chars : List Char} (h : read? bound chars = some value) :
    value < bound := by
  unfold read? readDigits? at h
  split at h
  · rename_i digits
    simp only [Option.some.injEq] at h
    exact h ▸ digits.2.2
  · contradiction

end ChannelAccess.Natural
