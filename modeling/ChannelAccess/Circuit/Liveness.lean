import ChannelAccess.Duration

/-!
# Liveness of a circuit

A circuit on which nothing was received for half of a timeout is probed with an echo. It is dead
when nothing was received for a whole timeout after that.
-/

namespace ChannelAccess

/-- What is known about the peer of a circuit. -/
structure Liveness where
  /-- When something was received last. -/
  lastReceived : Moment
  /-- When an echo was sent, if nothing was received since. -/
  echoSent : Option Moment := none
  deriving DecidableEq, Repr

/-- What a check of a circuit finds. -/
inductive LivenessVerdict where
  /-- Nothing is to be done. -/
  | quiet
  /-- An echo is to be sent. -/
  | probe
  /-- The circuit is to be closed. -/
  | dead
  deriving DecidableEq, Repr

namespace Liveness

/-- Something was received. -/
def received (now : Moment) : Liveness := { lastReceived := now }

/-- Checks a circuit. -/
def check (liveness : Liveness) (now : Moment) (timeout : Duration) :
    LivenessVerdict × Liveness :=
  match liveness.echoSent with
  | some sent => (if timeout ≤ now - sent then .dead else .quiet, liveness)
  | none =>
    if timeout.nanos / 2 ≤ (now - liveness.lastReceived).nanos then
      (.probe, { liveness with echoSent := some now })
    else (.quiet, liveness)

end Liveness

end ChannelAccess
