import ChannelAccess.Monitor.Service

/-!
# Delivery of the latest update

One slot holds the newest update that the consumer has not picked up; a newer one takes its place.
A thread of the consumer's own picks updates up and delivers them, one after the other. Whoever
closes the notifier waits for that thread and delivers what was left in the slot.

`LatestNotifier.step` gives the steps of publishers, consumer and closer, in any order.
-/

namespace ChannelAccess

/-- Where the consumer's thread stands. -/
inductive ConsumerThread (α : Type) where
  /-- It was not started. -/
  | unstarted
  /-- It is about to look into the slot. -/
  | looking
  /-- It delivers an update. -/
  | delivering (update : Update α)
  /-- It found the slot empty and is about to ask whether the notifier is closed. -/
  | asking
  /-- It has stopped for good. -/
  | stopped
  deriving DecidableEq, Repr

/-- Where the one who closes a notifier from outside stands. -/
inductive Closer (α : Type) where
  /-- Nobody closes the notifier from outside. -/
  | absent
  /-- It waits for the consumer's thread. -/
  | waiting
  /-- It delivers what was left. -/
  | delivering (update : Update α)
  /-- It has returned. -/
  | returned
  deriving DecidableEq, Repr

/-- Delivers the newest update to one consumer. -/
structure LatestNotifier (α : Type) where
  /-- The newest update that was not picked up. -/
  pending : Option (Update α) := none
  /-- The consumer's thread. -/
  thread : ConsumerThread α := .unstarted
  /-- The one who closes the notifier. -/
  closer : Closer α := .absent
  /-- Storage to decode the next value into. -/
  spare : Option α := none
  /-- No update is accepted any more. -/
  closed : Bool := false
  deriving DecidableEq, Repr

/-- What happens at a notifier, one thing at a time. -/
inductive LatestStep (α : Type) where
  /-- An update is published. -/
  | publish (update : Update α)
  /-- The consumer's thread is started. -/
  | start
  /-- The thread looks into the slot. -/
  | look
  /-- The consumer returns from a delivery, or fails. -/
  | finish
  /-- The thread asks whether the notifier is closed. -/
  | ask
  /-- Somebody else than the consumer closes the notifier. -/
  | close
  /-- The consumer closes its own notifier while it is given an update. -/
  | closeFromConsumer
  /-- The closer asks for the thread, is done waiting for it, and looks into the slot. Nobody starts
  a thread meanwhile. -/
  | join
  deriving DecidableEq, Repr

namespace LatestNotifier

variable {α : Type}

/-- Keeps the storage of an update that is done with. -/
def recycle (notifier : LatestNotifier α) (update : Update α) : LatestNotifier α :=
  { notifier with spare := update.storage? <|> notifier.spare }

/-- Publishes an update. Says whether it was accepted without another being lost. -/
def publish (notifier : LatestNotifier α) (update : Update α) : Bool × LatestNotifier α :=
  if notifier.closed then (false, notifier)
  else
    match notifier.pending with
    | none => (true, { notifier with pending := some update })
    | some lost => (false, { notifier.recycle lost with pending := some update })

/-- The notifier after a step, if the step can happen. The thread may be started at any time but
within the last step of a closer, so that a closer who finds no thread has the slot to itself. -/
def step (notifier : LatestNotifier α) : LatestStep α → Option (LatestNotifier α)
  | .publish update => some (notifier.publish update).2
  | .start =>
    match notifier.thread with
    | .unstarted => some { notifier with thread := .looking }
    | _ => some notifier
  | .look =>
    match notifier.thread, notifier.pending with
    | .looking, some update =>
      some { notifier with pending := none, thread := .delivering update }
    | .looking, none => some { notifier with thread := .asking }
    | _, _ => none
  | .finish =>
    match notifier.thread, notifier.closer with
    | .delivering update, _ => some { notifier.recycle update with thread := .looking }
    | _, .delivering update => some { notifier.recycle update with closer := .returned }
    | _, _ => none
  | .ask =>
    match notifier.thread with
    | .asking =>
      some { notifier with thread := if notifier.closed then .stopped else .looking }
    | _ => none
  | .close =>
    -- Only the first one to close waits for the consumer.
    if notifier.closed then some notifier
    else some { notifier with closed := true, closer := .waiting }
  | .closeFromConsumer =>
    match notifier.thread with
    | .delivering _ => some { notifier with closed := true }
    | _ => none
  | .join =>
    match notifier.closer, notifier.thread, notifier.pending with
    | .waiting, .unstarted, some update | .waiting, .stopped, some update =>
      some { notifier with pending := none, closer := .delivering update }
    | .waiting, .unstarted, none | .waiting, .stopped, none =>
      some { notifier with closer := .returned }
    | _, _, _ => none

/-- Takes a step, if it can happen. -/
def tryStep (notifier : LatestNotifier α) (step : LatestStep α) : LatestNotifier α :=
  (notifier.step step).getD notifier

/-- Lets the thread and the closer go on until an update is being delivered or there is nothing to
do. -/
def settle (notifier : LatestNotifier α) : LatestNotifier α :=
  ((notifier.tryStep .look).tryStep .ask).tryStep .join

/-- The update that is being delivered. -/
def delivering? (notifier : LatestNotifier α) : Option (Update α) :=
  match notifier.thread, notifier.closer with
  | .delivering update, _ => some update
  | _, .delivering update => some update
  | _, _ => none

/-- What the engine promises: one update is delivered while another waits. -/
def qualityOfService (_notifier : LatestNotifier α) : QualityOfService where
  bufferSize := some 2
  threadsPerConsumer := 1
  allowsNull := true

end LatestNotifier

end ChannelAccess
