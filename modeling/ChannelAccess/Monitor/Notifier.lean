import ChannelAccess.Codec.Basic
import ChannelAccess.Config.Engine
import ChannelAccess.Monitor.Bounded
import ChannelAccess.Monitor.Latest
import ChannelAccess.Monitor.Striped

/-!
# Notifiers

A notifier of whichever engine was chosen. Updates are published as values, as marks that there is
no value, or as the bytes of a value; the consumer is given them in the order of publishing, one at
a time.
-/

namespace ChannelAccess

/-- Delivers updates to one consumer. -/
inductive Notifier (α : Type) where
  /-- Through a bounded queue. -/
  | bounded (notifier : BoundedNotifier α)
  /-- Only the latest. -/
  | latest (notifier : LatestNotifier α)
  /-- Through a stripe. -/
  | striped (notifier : StripedNotifier α)

/-- The text of the error of publishing bytes that hold no value. -/
def DecodeError.updateMessage (error : DecodeError) : String :=
  s!"Could not decode update: {error.message}"

namespace Notifier

variable {α : Type}

/-- A notifier of an engine. A thread of its own is not started yet. -/
def unstarted : MonitorEngine → Notifier α
  | .blockingQueue threads bufferSize => .bounded (.ofThreads threads bufferSize)
  | .ringBuffer => .latest {}
  | .striped threads => .striped (.ofThreads threads)

/-- Starts the consumer's own thread, if the engine has one. -/
def start : Notifier α → Notifier α
  | .latest notifier => .latest (notifier.tryStep .start).settle
  | notifier => notifier

/-- A notifier that is ready to deliver. -/
def ofEngine (engine : MonitorEngine) : Notifier α := (unstarted engine).start

/-- Publishes a value. Says whether it was accepted without another being lost. -/
def publish (notifier : Notifier α) (value : α) : Bool × Notifier α :=
  match notifier with
  | .bounded notifier => (notifier.publish value).map id .bounded
  | .latest notifier => (notifier.publish (.value value)).map id fun n => .latest n.settle
  | .striped notifier => (notifier.publish value).map id .striped

/-- Publishes a mark that there is no value, if the engine knows one. -/
def publishNull (notifier : Notifier α) : Bool × Notifier α :=
  match notifier with
  | .latest notifier => (notifier.publish .noValue).map id fun n => .latest n.settle
  | notifier => (false, notifier)

/-- Storage that a value can be decoded into. -/
def spare? : Notifier α → Option α
  | .bounded notifier => notifier.spare
  | .latest notifier => notifier.spare
  | .striped notifier => notifier.spare

/-- The notifier without its spare storage. -/
def withoutSpare : Notifier α → Notifier α
  | .bounded notifier => .bounded { notifier with spare := none }
  | .latest notifier => .latest { notifier with spare := none }
  | .striped notifier => .striped { notifier with spare := none }

/-- Publishes the value that some bytes hold, decoded into spare storage if there is any. -/
def publishRaw (notifier : Notifier α) (codec : Codec α) (raw : List UInt8) (count : Nat) :
    Except DecodeError Bool × Notifier α :=
  let emptied := notifier.withoutSpare
  match codec.decode notifier.spare? raw (codec.forcedCount.getD count) with
  | .ok value => (emptied.publish value).map .ok id
  | .error error => (.error error, emptied)

/-- The update that is being delivered. -/
def delivering? : Notifier α → Option (Update α)
  | .bounded notifier => notifier.delivering.map .value
  | .latest notifier => notifier.delivering?
  | .striped notifier => notifier.delivering?.map .value

/-- How many values wait behind the one that is being delivered, where there is a queue of them. -/
def waiting? (notifier : Notifier α) : Option Nat :=
  match notifier with
  | .bounded notifier => some notifier.queue.values.length
  | .latest _ => none
  | .striped notifier => some (notifier.backlog - notifier.delivering?.toList.length)

/-- The consumer is done with its update, or failed on it. The next delivery starts. -/
def finish (notifier : Notifier α) (failed : Bool) : Notifier α :=
  match notifier with
  | .bounded notifier => .bounded (notifier.finish failed)
  | .latest notifier => .latest (notifier.tryStep .finish).settle
  | .striped notifier => .striped (notifier.finish failed)

/-- Accepts no more updates. Those accepted are still delivered. -/
def close : Notifier α → Notifier α
  | .bounded notifier => .bounded notifier.close
  | .latest notifier => .latest (notifier.tryStep .close).settle
  | .striped notifier => .striped notifier.close

/-- The consumer closes its own notifier while it is given an update. -/
def closeFromConsumer : Notifier α → Notifier α
  | .bounded notifier => .bounded notifier.close
  | .latest notifier => .latest (notifier.tryStep .closeFromConsumer)
  | .striped notifier => .striped notifier.close

/-- What the engine promises. -/
def qualityOfService : Notifier α → QualityOfService
  | .bounded notifier => notifier.qualityOfService
  | .latest notifier => notifier.qualityOfService
  | .striped notifier => notifier.qualityOfService

/-- Shuts the pool of the engine down, if it has one. Says whether all workers have stopped. -/
def shutdownPool : Notifier α → Bool × Notifier α
  | .bounded notifier =>
    notifier.workers.shutdown.map id fun workers => .bounded { notifier with workers }
  | .latest notifier => (true, .latest notifier)
  | .striped notifier =>
    notifier.workers.shutdown.map id fun workers => .striped { notifier with workers }

end Notifier

end ChannelAccess
