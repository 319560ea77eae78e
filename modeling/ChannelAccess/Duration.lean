import ChannelAccess.Number.Rounding

/-!
# Durations

Durations and moments are counted in whole nanoseconds. A duration has at most 2⁶⁴ - 1 whole
seconds.
-/

namespace ChannelAccess

/-- A length of time, or a moment as the time since some fixed one. -/
structure Duration where
  /-- The time in nanoseconds. -/
  nanos : Nat
  deriving DecidableEq, Repr, Inhabited

/-- A moment, as the time since the clock's own start. -/
abbrev Moment := Duration

namespace Duration

/-- Nanoseconds of a second. -/
def perSecond : Nat := 1000000000

/-- The time of whole seconds and further nanoseconds. -/
def ofParts (seconds nanos : Nat) : Duration := ⟨seconds * perSecond + nanos⟩

/-- The time of whole seconds. -/
def ofSeconds (seconds : Nat) : Duration := ofParts seconds 0

/-- The time of whole milliseconds. -/
def ofMillis (millis : Nat) : Duration := ⟨millis * 1000000⟩

/-- Whole seconds of a duration. -/
def seconds (d : Duration) : Nat := d.nanos / perSecond

/-- Nanoseconds of a duration beyond its whole seconds. -/
def subNanos (d : Duration) : Nat := d.nanos % perSecond

/-- The longest duration. -/
def longest : Duration := ofParts 0xFFFFFFFFFFFFFFFF 999999999

instance : LE Duration := ⟨fun a b => a.nanos ≤ b.nanos⟩

instance : LT Duration := ⟨fun a b => a.nanos < b.nanos⟩

instance (a b : Duration) : Decidable (a ≤ b) := inferInstanceAs (Decidable (a.nanos ≤ b.nanos))

instance (a b : Duration) : Decidable (a < b) := inferInstanceAs (Decidable (a.nanos < b.nanos))

instance : Add Duration := ⟨fun a b => ⟨a.nanos + b.nanos⟩⟩

/-- What is left of a time after another, nothing when the other is longer. -/
instance : Sub Duration := ⟨fun a b => ⟨a.nanos - b.nanos⟩⟩

instance : Min Duration := ⟨fun a b => ⟨min a.nanos b.nanos⟩⟩

instance : Max Duration := ⟨fun a b => ⟨max a.nanos b.nanos⟩⟩

/-- No time at all. -/
def zero : Duration := ⟨0⟩

theorem le_def {a b : Duration} : a ≤ b ↔ a.nanos ≤ b.nanos := Iff.rfl

theorem lt_def {a b : Duration} : a < b ↔ a.nanos < b.nanos := Iff.rfl

@[simp]
theorem nanos_add (a b : Duration) : (a + b).nanos = a.nanos + b.nanos := rfl

@[simp]
theorem nanos_sub (a b : Duration) : (a - b).nanos = a.nanos - b.nanos := rfl

@[simp]
theorem nanos_min (a b : Duration) : (min a b).nanos = min a.nanos b.nanos := rfl

@[simp]
theorem nanos_max (a b : Duration) : (max a b).nanos = max a.nanos b.nanos := rfl

/-- Durations of the same number of nanoseconds are the same. -/
@[ext]
theorem ext {a b : Duration} (h : a.nanos = b.nanos) : a = b := by
  cases a
  cases b
  simpa using h

/-- A multiple of a duration, or the longest duration if that is less. -/
def saturatingMul (d : Duration) (factor : Nat) : Duration := min ⟨d.nanos * factor⟩ longest

/-- The duration nearest to `numerator / denominator` seconds, if there is one that long. -/
def ofQuotient? (numerator denominator : Nat) : Option Duration :=
  let nanos := roundDiv (numerator * perSecond) denominator
  if nanos ≤ longest.nanos then some ⟨nanos⟩ else none

end Duration

/-- The last moment that a clock with 64 bits for its seconds shows, one of them for the sign. -/
def Moment.last : Moment := .ofParts 0x7FFFFFFFFFFFFFFF 999999999

/-- The moment after a delay, if it is not past the last one that the clock shows. -/
def Moment.after? (last? : Option Moment) (now : Moment) (delay : Duration) : Option Moment :=
  if last?.all (now + delay ≤ ·) then some (now + delay) else none

end ChannelAccess
