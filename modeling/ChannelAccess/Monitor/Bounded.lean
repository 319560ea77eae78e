import ChannelAccess.Monitor.Service
import ChannelAccess.Stripe.Run

/-!
# Bounded delivery

Values wait for their consumer in a bounded queue, and each has a job of the consumer's stripe to
deliver it. When the queue is full the oldest value is lost, and its job delivers a later one; so
the newest value always gets through.

`BoundedNotifier.step` gives the steps of publishers, delivery jobs and closer, in any order;
`publish` and `finish` are what they come to when nobody interferes.
-/

namespace ChannelAccess

/-- Values that wait, no more than some number of them. -/
structure BoundedQueue (α : Type) where
  /-- Values that can wait at most. -/
  capacity : Nat
  /-- The values, the oldest first. -/
  values : List α := []
  deriving DecidableEq, Repr

namespace BoundedQueue

variable {α : Type}

/-- An empty queue for some number of values, at least one. -/
def ofCapacity (capacity : Nat) : BoundedQueue α := { capacity := max 1 capacity }

/-- Adds a value. A full queue loses its oldest value, which is given back. -/
def push (queue : BoundedQueue α) (value : α) : Option α × BoundedQueue α :=
  let kept :=
    if queue.capacity ≤ queue.values.length then queue.values.tail else queue.values
  let lost := if queue.capacity ≤ queue.values.length then queue.values.head? else none
  (lost, { queue with values := kept ++ [value] })

/-- Takes the oldest value. -/
def pop? (queue : BoundedQueue α) : Option (α × BoundedQueue α) :=
  match queue.values with
  | [] => none
  | value :: values => some (value, { queue with values })

end BoundedQueue

/-- Delivers values to one consumer through a bounded queue. -/
structure BoundedNotifier (α : Type) where
  /-- The values that wait. -/
  queue : BoundedQueue α
  /-- Publishers that are about to submit the delivery job of a value on the queue. -/
  submitting : Nat := 0
  /-- The stripe that runs the delivery jobs, and the pool that it runs them on. -/
  workers : StripedPool Unit
  /-- The value that is being delivered. -/
  delivering : Option α := none
  /-- Storage to decode the next value into. -/
  spare : Option α := none
  /-- No value is accepted any more. -/
  closed : Bool := false

/-- What happens at a notifier, one thing at a time. -/
inductive BoundedStep (α : Type) where
  /-- A publisher puts a value on the queue. -/
  | push (value : α)
  /-- A publisher whose value took no other's place submits a delivery job. -/
  | submit (thread : ThreadId)
  /-- Those who see to the stripe's jobs go on. -/
  | drain (step : StripeStep Unit)
  /-- The delivery job that runs takes the oldest value. -/
  | take
  /-- The delivery job that runs is done, and so is the consumer, who may have failed. -/
  | finish (failed : Bool)
  /-- Nothing more is accepted, once no publisher is on its way. -/
  | close
  deriving DecidableEq, Repr

namespace BoundedNotifier

variable {α : Type}

/-- A notifier with a pool of some threads to itself. -/
def ofThreads (threads capacity : Nat) : BoundedNotifier α where
  queue := .ofCapacity capacity
  workers := .ofThreads "ca-monitor" threads 1

/-- Puts a value on the queue. Says whether it was accepted without another being lost; then its
delivery job is still to be submitted. -/
def push (notifier : BoundedNotifier α) (value : α) : Bool × BoundedNotifier α :=
  if notifier.closed then (false, notifier)
  else
    match notifier.queue.push value with
    | (some lost, queue) => (false, { notifier with queue, spare := some lost })
    | (none, queue) => (true, { notifier with queue, submitting := notifier.submitting + 1 })

/-- The notifier after a step of those who see to the stripe's jobs. Jobs come from publishers and
end with their delivery, and so not here. -/
def drain (notifier : BoundedNotifier α) : StripeStep Unit → Option (BoundedNotifier α)
  | .enqueue _ _ | .finish _ => none
  | step => (notifier.workers.stepStripe? 0 step).map fun workers => { notifier with workers }

/-- The notifier after a step, if the step can happen. -/
def step (notifier : BoundedNotifier α) : BoundedStep α → Option (BoundedNotifier α)
  | .push value => some (notifier.push value).2
  | .submit thread =>
    match notifier.submitting with
    | 0 => none
    | submitting + 1 =>
      (notifier.workers.stepStripe? 0 (.enqueue thread ())).map fun workers =>
        { notifier with submitting, workers }
  | .drain step => notifier.drain step
  | .take =>
    match notifier.delivering, notifier.workers.runningJob? 0, notifier.queue.pop? with
    | none, some _, some (value, queue) => some { notifier with queue, delivering := some value }
    | _, _, _ => none
  | .finish failed =>
    -- A job that is given no value ends only when there is none.
    match notifier.delivering, notifier.queue.values with
    | some value, _ =>
      (notifier.workers.stepStripe? 0 (.finish 0)).map fun workers =>
        { notifier with
          delivering := none
          spare := if failed then notifier.spare else some value
          workers }
    | none, [] =>
      (notifier.workers.stepStripe? 0 (.finish 0)).map fun workers => { notifier with workers }
    | none, _ :: _ => none
  | .close => if notifier.submitting = 0 then some { notifier with closed := true } else none

/-- Takes a step, if it can happen. -/
def tryStep (notifier : BoundedNotifier α) (step : BoundedStep α) : BoundedNotifier α :=
  (notifier.step step).getD notifier

/-- Lets the workers go on until a value is being delivered or there is nothing to do. -/
def settle (notifier : BoundedNotifier α) : BoundedNotifier α :=
  { notifier with workers := notifier.workers.settleHeld }.tryStep .take

/-- Publishes a value. Says whether it was accepted without another being lost. -/
def publish (notifier : BoundedNotifier α) (value : α) : Bool × BoundedNotifier α :=
  match notifier.push value with
  | (true, notifier) => (true, (notifier.tryStep (.submit StripedPool.caller)).settle)
  | (false, notifier) => (false, notifier)

/-- The consumer is done with its value, which becomes spare storage unless the consumer failed. The
next delivery starts. -/
def finish (notifier : BoundedNotifier α) (failed : Bool) : BoundedNotifier α :=
  match notifier.delivering with
  | none => notifier
  | some _ => (notifier.tryStep (.finish failed)).settle

/-- Accepts no more values. -/
def close (notifier : BoundedNotifier α) : BoundedNotifier α := notifier.tryStep .close

/-- A close from outside the consumer has returned: nothing is accepted any more, and all delivery
jobs are done. -/
def isDrained (notifier : BoundedNotifier α) : Bool :=
  notifier.closed && (notifier.workers.stripe 0).outstanding == 0

/-- What the engine promises. -/
def qualityOfService (notifier : BoundedNotifier α) : QualityOfService where
  bufferSize := some notifier.queue.capacity
  threadsPerConsumer := notifier.workers.pool.threads
  allowsNull := false

end BoundedNotifier

end ChannelAccess
