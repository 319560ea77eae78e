import ChannelAccess.Duration

/-!
# Tuning of searches

How often a search is repeated, and how repetitions share datagrams. The delay before each
repetition is a multiple of the one before, kept between two bounds.
-/

namespace ChannelAccess

/-- How often a search is repeated, and how repetitions share datagrams. -/
structure SearchConfig where
  /-- The least delay between two requests for a channel. -/
  minInterval : Duration := Duration.ofMillis 100
  /-- The greatest delay between two requests for a channel. -/
  maxInterval : Duration := Duration.ofSeconds 30
  /-- How many times longer each delay is than the one before. -/
  multiplier : UInt32 := 2
  /-- Requests due within this time share a datagram. -/
  coalesceWindow : Duration := Duration.ofMillis 3
  /-- Datagrams that may follow each other at once before a pause. -/
  maxImmediateFlushes : Nat := 5
  /-- The pause. -/
  flushPause : Duration := Duration.ofMillis 10
  deriving DecidableEq, Repr, Inhabited

namespace SearchConfig

/-- The bounds of the delay are in order, as whoever searches has to see to. -/
def Ordered (config : SearchConfig) : Prop := config.minInterval ≤ config.maxInterval

instance (config : SearchConfig) : Decidable config.Ordered :=
  inferInstanceAs (Decidable (config.minInterval ≤ config.maxInterval))

/-- The delay after the given one. With bounds out of order there is none. -/
def nextDelay? (config : SearchConfig) (delay : Duration) : Option Duration :=
  if config.Ordered then
    some (min (max (delay.saturatingMul config.multiplier.toNat) config.minInterval)
      config.maxInterval)
  else none

/-- The next delays, each after the one before, as long as there are any. -/
def nextDelays? (config : SearchConfig) : (times : Nat) → Duration → Option (List Duration)
  | 0, _ => some []
  | times + 1, delay => do
    let next ← config.nextDelay? delay
    let later ← config.nextDelays? times next
    some (next :: later)

end SearchConfig

end ChannelAccess
