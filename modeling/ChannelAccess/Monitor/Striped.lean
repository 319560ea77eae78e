import ChannelAccess.Monitor.Service
import ChannelAccess.Stripe.Run

/-!
# Striped delivery

Each consumer is a stripe of a shared pool, and each value a job of it. As many values wait as are
published, and none is lost.

`StripedNotifier.step` gives the steps of publishers, workers and closer, in any order; `publish`
and `finish` are what they come to when nobody interferes.
-/

namespace ChannelAccess

/-- Delivers values to one consumer through a stripe. -/
structure StripedNotifier (α : Type) where
  /-- The stripe whose jobs are the values, and the pool that it runs them on. -/
  workers : StripedPool α
  /-- Storage to decode the next value into. -/
  spare : Option α := none
  /-- No value is accepted any more. -/
  closed : Bool := false

/-- What happens at a notifier, one thing at a time. -/
inductive StripedStep (α : Type) where
  /-- A publisher makes a value a job of the stripe. -/
  | publish (thread : ThreadId) (value : α)
  /-- Those who see to the stripe's jobs go on. -/
  | drain (step : StripeStep α)
  /-- Nothing more is accepted from now on. -/
  | close
  deriving DecidableEq, Repr

namespace StripedNotifier

variable {α : Type}

/-- A notifier with a pool of some threads to itself. -/
def ofThreads (threads : Nat) : StripedNotifier α where
  workers := .ofThreads "ca-stripe" threads 1

/-- The notifier after a step, if the step can happen. Jobs come from publishers alone. -/
def step (notifier : StripedNotifier α) : StripedStep α → Option (StripedNotifier α)
  | .publish thread value =>
    if notifier.closed then some notifier
    else
      (notifier.workers.stepStripe? 0 (.enqueue thread value)).map fun workers =>
        { notifier with workers }
  | .drain (.enqueue _ _) => none
  | .drain step =>
    (notifier.workers.stepStripe? 0 step).map fun workers => { notifier with workers }
  | .close => some { notifier with closed := true }

/-- Takes a step, if it can happen. -/
def tryStep (notifier : StripedNotifier α) (step : StripedStep α) : StripedNotifier α :=
  (notifier.step step).getD notifier

/-- Lets the workers go on until a value is being delivered or there is nothing to do. -/
def settle (notifier : StripedNotifier α) : StripedNotifier α :=
  { notifier with workers := notifier.workers.settleHeld }

/-- The value that is being delivered. -/
def delivering? (notifier : StripedNotifier α) : Option α := notifier.workers.runningJob? 0

/-- Values accepted and not delivered. -/
def backlog (notifier : StripedNotifier α) : Nat := (notifier.workers.stripe 0).outstanding

/-- Publishes a value. Says whether it was accepted. -/
def publish (notifier : StripedNotifier α) (value : α) : Bool × StripedNotifier α :=
  (!notifier.closed, (notifier.tryStep (.publish StripedPool.caller value)).settle)

/-- The consumer is done with its value, which becomes spare storage unless the consumer failed. The
next delivery starts. -/
def finish (notifier : StripedNotifier α) (failed : Bool) : StripedNotifier α :=
  match notifier.delivering? with
  | none => notifier
  | some value =>
    let notifier := (notifier.tryStep (.drain (.finish 0))).settle
    { notifier with spare := if failed then notifier.spare else some value }

/-- Accepts no more values. -/
def close (notifier : StripedNotifier α) : StripedNotifier α := notifier.tryStep .close

/-- A close from outside the consumer has returned: nothing is accepted any more, and every value
accepted was delivered. -/
def isDrained (notifier : StripedNotifier α) : Bool := notifier.closed && notifier.backlog == 0

/-- What the engine promises. -/
def qualityOfService (notifier : StripedNotifier α) : QualityOfService where
  bufferSize := none
  threadsPerConsumer := notifier.workers.pool.threads
  allowsNull := false

end StripedNotifier

end ChannelAccess
