/-!
# Rounding a quotient

`roundDiv` is the whole number nearest to a quotient of natural numbers; a quotient half-way between
two whole numbers goes to the even one.
-/

namespace ChannelAccess

/-- The whole number nearest to `numerator / denominator`, and of two equally near the even one. -/
def roundDiv (numerator denominator : Nat) : Nat :=
  let whole := numerator / denominator
  let twice := 2 * (numerator % denominator)
  if twice < denominator then whole
  else if denominator < twice then whole + 1
  else whole + whole % 2

end ChannelAccess
