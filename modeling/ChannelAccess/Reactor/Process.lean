import ChannelAccess.Reactor.Basic

/-!
# Waiting on the poll

The poll reports a socket when it is armed and ready for something that it is watched for, and when
something arrives at it. `Reactor.process` hands out one report, and waits for one if there is none.
-/

namespace ChannelAccess

/-- What the sockets are like while the reactor waits. -/
structure SocketStates where
  /-- What each socket is ready for. -/
  readiness : SelectionKey → Readiness
  /-- The sockets at which something has arrived since the last wait. -/
  arrived : List SelectionKey := []

/-- What comes of one turn of the reactor. -/
structure ReactorTurn (C : Type) where
  /-- The reactor afterwards. -/
  reactor : Reactor C
  /-- It was not shut down. -/
  isOpen : Bool
  /-- What is handed to the handler of a key. -/
  event : Option (SelectionKey × Readiness) := none
  /-- The closers that ran. -/
  closers : List C := []

namespace Reactor

variable {C : Type}

/-- The part of what a socket is ready for that it is watched for. Trouble is always of interest. -/
def ofInterest (readiness : Readiness) (interest : Interest) : Readiness :=
  { readiness with
    readable := readiness.readable && interest.read
    writable := readiness.writable && interest.write }

/-- Reports a key, if it is watched and ready for something. -/
def reportReady (states : SocketStates) (reactor : Reactor C) (key : SelectionKey) : Reactor C :=
  match reactor.poll.find? (·.1 == key) with
  | none => reactor
  | some (_, interest) =>
    let readiness := ofInterest (states.readiness key) interest
    if readiness = {} then reactor else reactor.report key readiness

/-- Something that arrived is reported of keys that are watched for reading. -/
def watchesReading (reactor : Reactor C) (key : SelectionKey) : Bool :=
  reactor.poll.any fun watched => watched.1 == key && watched.2.read

/-- Carries out all requests and waits. The closers that ran are given. -/
def wait (reactor : Reactor C) (states : SocketStates) : Reactor C × List C :=
  let (reactor, armed, closers) := reactor.drainRequests false
  -- What arrives is reported only to who is watched for reading by then.
  let arrived := states.arrived.filter reactor.watchesReading
  ((armed ++ arrived).eraseDups.foldl (reportReady states) reactor, closers)

/-- One turn: hands out a report, for which it waits if there is none. -/
def process (reactor : Reactor C) (states : SocketStates) : ReactorTurn C :=
  if reactor.closed then { reactor, isOpen := false }
  else if reactor.ready.isEmpty then
    let (reactor, closers) := reactor.wait states
    let (event, reactor) := reactor.nextEvent
    { reactor, isOpen := true, event, closers }
  else
    let (event, reactor) := reactor.nextEvent
    { reactor, isOpen := true, event }

/-- What comes of several turns. -/
structure Turns (C : Type) where
  /-- The reactor afterwards. -/
  reactor : Reactor C
  /-- What was handed out, in order. -/
  events : List (SelectionKey × Readiness) := []
  /-- The closers that ran, in order. -/
  closers : List C := []

/-- Takes at most `fuel` turns, as long as there is something to do. -/
def processWithin (states : SocketStates) : (fuel : Nat) → Turns C → Turns C
  | 0, turns => turns
  | fuel + 1, turns =>
    let reactor := turns.reactor
    if reactor.closed || reactor.requests.isEmpty && reactor.ready.isEmpty &&
      states.arrived.isEmpty then turns
    else
      let turn := reactor.process states
      processWithin { states with arrived := if reactor.ready.isEmpty then [] else states.arrived }
        fuel
        { reactor := turn.reactor
          events := turns.events ++ turn.event.toList
          closers := turns.closers ++ turn.closers }

/-- Takes turns until nothing more happens while the handlers leave the reactor alone. A turn hands
out a report, or carries out the requests after which every key is reported once at most. -/
def processAll (reactor : Reactor C) (states : SocketStates) : Turns C :=
  processWithin states (reactor.ready.length + reactor.keys.length + 2) { reactor }

end Reactor

end ChannelAccess
