import ChannelAccess.Duration

/-!
# Durations as double precision numbers of seconds

Ratios and weighted means of durations are worked out in double precision. A duration becomes the
sum of its whole seconds and its part of a second; a number of seconds becomes the duration nearest
to the number's exact value.
-/

namespace ChannelAccess.Double

/-- Numerator and denominator of the exact value of a finite number that is not negative. -/
def quotient (x : Float) : Nat × Nat :=
  let bits := x.toBits.toNat
  let exponent := (bits >>> 52) % (1 <<< 11)
  let fraction := bits % (1 <<< 52)
  -- The smallest numbers have no leading one and all the same unit.
  if exponent = 0 then (fraction, 1 <<< 1074)
  else (((1 <<< 52) + fraction) <<< (exponent - 1075), 1 <<< (1075 - exponent))

/-- A duration in seconds. -/
def ofDuration (d : Duration) : Float :=
  d.seconds.toUInt64.toFloat + d.subNanos.toUInt64.toFloat / 1e9

/-- The duration nearest to a number of seconds, of two equally near the even one. -/
def toDuration (seconds : Float) : Duration :=
  let (numerator, denominator) := quotient seconds
  ⟨roundDiv (numerator * Duration.perSecond) denominator⟩

/-- A duration times a factor, to the nearest nanosecond. -/
def scale (factor : Float) (d : Duration) : Duration := toDuration (factor * ofDuration d)

end ChannelAccess.Double
