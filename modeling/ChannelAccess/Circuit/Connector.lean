import ChannelAccess.Circuit.Registry
import ChannelAccess.Transport.Network

/-!
# Connecting

A client that connects to a server shares the circuit that is registered for the server and the
priority, or opens a new one. Clients that open a circuit under one key take turns by a lock of that
key, so that those who come later share the circuit of the first. A circuit is registered under the
address at the other end of its connection, which need not be the one that was asked for.

`Connector.step` is the next step of one call; the calls of several clients take their steps in any
order. `Connector.connect` is a call that nobody disturbs.
-/

namespace ChannelAccess

/-- How far a call has come. Locks and circuits are given by their numbers. -/
inductive ConnectPhase where
  /-- It is about to look for a circuit to share. -/
  | looking
  /-- It is about to look up the lock of its key. -/
  | fetchingLock
  /-- It waits for the lock. -/
  | locking (lock : Nat)
  /-- It has the lock, and is about to look for a circuit again. -/
  | lookingAgain (lock : Nat)
  /-- It is about to connect to the server. -/
  | connecting (lock : Nat)
  /-- It is connected, and about to make a circuit of the connection. -/
  | opening (lock : Nat)
  /-- It is about to register its circuit. -/
  | registering (lock circuit : Nat)
  /-- It is about to send the first messages. -/
  | greeting (lock circuit : Nat)
  /-- It is about to take a step to close its circuit, because of an error. -/
  | closing (lock circuit : Nat) (error : TransportError)
  /-- It is about to become an owner of its circuit. -/
  | acquiring (lock circuit : Nat)
  /-- It has given the lock back, and is about to see whether anyone else needs it. -/
  | cleaning (lock : Nat) (result : Except TransportError Nat)
  /-- It is about to forget the lock. -/
  | leaving (lock : Nat) (result : Except TransportError Nat)
  /-- It has returned a circuit or an error. -/
  | returned (result : Except TransportError Nat)

namespace ConnectPhase

/-- The lock that a call knows. -/
def lock? : ConnectPhase → Option Nat
  | .looking | .fetchingLock | .returned _ => none
  | .locking lock | .lookingAgain lock | .connecting lock | .opening lock | .registering lock _
  | .greeting lock _ | .closing lock _ _ | .acquiring lock _ | .cleaning lock _
  | .leaving lock _ => some lock

/-- The call has its lock. -/
def holdsLock : ConnectPhase → Bool
  | .lookingAgain _ | .connecting _ | .opening _ | .registering _ _ | .greeting _ _
  | .closing _ _ _ | .acquiring _ _ => true
  | _ => false

/-- The call opens a circuit. -/
def isOpening : ConnectPhase → Bool
  | .connecting _ | .opening _ | .registering _ _ | .greeting _ _ | .closing _ _ _
  | .acquiring _ _ => true
  | _ => false

/-- What the call has returned. -/
def result? : ConnectPhase → Option (Except TransportError Nat)
  | .returned result => some result
  | _ => none

end ConnectPhase

/-- A call of a client to connect. -/
structure ConnectCall where
  /-- The client. -/
  client : ClientId
  /-- The server and the priority that it asks for. -/
  key : CircuitKey
  /-- How far the call has come. -/
  phase : ConnectPhase := .looking

/-- What is the same for all circuits that are opened. -/
structure ConnectorSettings where
  /-- Bytes that a circuit can hold before they are delivered. -/
  receiveCapacity : Nat
  /-- The name of the user. -/
  clientName : String
  /-- The name of the host. -/
  hostName : String
  deriving DecidableEq, Repr

/-- The world that a step meets. -/
structure ConnectWorld where
  /-- Why the server cannot be connected to. -/
  connectFailure? : Option TransportError := none
  /-- The address at the other end of a connection, by the one that was asked for. An unspecified
  address, which stands for the own host, leads to another. -/
  leadsTo : SocketAddress → SocketAddress := id
  /-- The reactor takes no more sockets. -/
  reactorClosed : Bool := false
  /-- What the socket does when it is written to. -/
  writes : List WriteOutcome := []
  /-- What time it is. -/
  now : Moment := Duration.zero

/-- Circuits and the calls that open them. -/
structure Connector where
  /-- What is the same for all circuits. -/
  settings : ConnectorSettings
  /-- The circuits. -/
  registry : CircuitRegistry := {}
  /-- The lock of each key that has one. -/
  locks : List (CircuitKey × Nat) := []
  /-- Locks made so far. -/
  lockCount : Nat := 0
  /-- The calls. -/
  calls : List ConnectCall := []

namespace Connector

/-- The lock of a key. -/
def lock? (connector : Connector) (key : CircuitKey) : Option Nat :=
  (connector.locks.find? (·.1 == key)).map (·.2)

/-- Somebody has a lock. -/
def isLocked (connector : Connector) (lock : Nat) : Bool :=
  connector.calls.any fun call => call.phase.holdsLock && call.phase.lock? == some lock

/-- How many know a lock, the table of locks among them. -/
def knowing (connector : Connector) (lock : Nat) : Nat :=
  connector.calls.countP (·.phase.lock? == some lock) +
    connector.locks.countP (·.2 == lock)

/-- Shares the open circuit under a key with a client. -/
def share? (connector : Connector) (client : ClientId) (key : CircuitKey) :
    Option (Nat × Connector) :=
  (connector.registry.get? key).bind fun number =>
    (connector.registry.circuits[number]?).bind fun circuit =>
      match circuit.acquire client with
      | (true, circuit) =>
        some (number, { connector with registry := connector.registry.set number circuit })
      | (false, _) => none

/-- Changes how far a call has come. -/
def enter (connector : Connector) (index : Nat) (phase : ConnectPhase) : Connector :=
  { connector with calls := connector.calls.modify index fun call => { call with phase } }

/-- Uses a circuit. Without the circuit there is nothing to do. -/
def useCircuit {α : Type} (connector : Connector) (number : Nat) (writes : List WriteOutcome)
    (action : CircuitRun → α × CircuitRun) : Option (α × Connector × List CircuitEffect) :=
  (connector.registry.use number writes action).map fun (result, registry, run) =>
    (result, { connector with registry }, run.effects)

/-- The next step of a call, if it can be taken, and what others see of the call's circuit. -/
def step (connector : Connector) (index : Nat) (world : ConnectWorld) :
    Option (Connector × List CircuitEffect) :=
  (connector.calls[index]?).bind fun call =>
    let quiet (connector : Connector) (phase : ConnectPhase) :
        Option (Connector × List CircuitEffect) := some (connector.enter index phase, [])
    match call.phase with
    | .looking =>
      match connector.share? call.client call.key with
      | some (number, connector) => quiet connector (.returned (.ok number))
      | none => quiet connector .fetchingLock
    | .fetchingLock =>
      match connector.lock? call.key with
      | some lock => quiet connector (.locking lock)
      | none =>
        let lock := connector.lockCount
        quiet
          { connector with locks := connector.locks ++ [(call.key, lock)], lockCount := lock + 1 }
          (.locking lock)
    | .locking lock =>
      -- Whoever had the lock before may have opened the circuit, so the call looks again.
      if connector.isLocked lock then none else quiet connector (.lookingAgain lock)
    | .lookingAgain lock =>
      match connector.share? call.client call.key with
      | some (number, connector) => quiet connector (.cleaning lock (.ok number))
      | none => quiet connector (.connecting lock)
    | .connecting lock =>
      match world.connectFailure? with
      | some error => quiet connector (.cleaning lock (.error error))
      | none => quiet connector (.opening lock)
    | .opening lock =>
      if world.reactorClosed then quiet connector (.cleaning lock (.error .reactorClosed))
      else
        let circuit := Circuit.connected (world.leadsTo call.key.1) call.key.2
          connector.settings.receiveCapacity world.now
        let registry := connector.registry
        quiet { connector with registry := registry.add circuit }
          (.registering lock registry.circuits.length)
    | .registering lock number =>
      quiet { connector with registry := connector.registry.put number } (.greeting lock number)
    | .greeting lock number =>
      (connector.useCircuit number world.writes
        (·.handshake connector.settings.clientName connector.settings.hostName)).map
        fun (error, connector, effects) =>
          match error with
          | none => (connector.enter index (.acquiring lock number), effects)
          | some error => (connector.enter index (.closing lock number error), effects)
    | .closing lock number error =>
      (connector.useCircuit number world.writes fun run => ((), run.close true)).map
        fun (_, connector, effects) =>
          (connector.enter index (.cleaning lock (.error error)), effects)
    | .acquiring lock number =>
      (connector.registry.circuits[number]?).bind fun circuit =>
        let (acquired, circuit) := circuit.acquire call.client
        let connector := { connector with registry := connector.registry.set number circuit }
        quiet connector (.cleaning lock (if acquired then .ok number else .error .closed))
    | .cleaning lock result =>
      -- The table and this very call know the lock; anyone else still needs it.
      let locks :=
        if connector.knowing lock ≤ 2 then connector.locks.filter (·.1 != call.key)
        else connector.locks
      quiet { connector with locks } (.leaving lock result)
    | .leaving _ result => quiet connector (.returned result)
    | .returned _ => none

/-- Takes the steps of a call, at most `fuel` of them. -/
def runCall (connector : Connector) (index : Nat) (world : ConnectWorld) :
    (fuel : Nat) → Connector × List CircuitEffect
  | 0 => (connector, [])
  | fuel + 1 =>
    match connector.step index world with
    | none => (connector, [])
    | some (connector, effects) =>
      let (connector, more) := connector.runCall index world fuel
      (connector, effects ++ more)

/-- A client connects to a server, and nobody disturbs it. A call takes at most twelve steps. -/
def connect (connector : Connector) (client : ClientId) (key : CircuitKey)
    (world : ConnectWorld) : Except TransportError Nat × Connector × List CircuitEffect :=
  let index := connector.calls.length
  let call : ConnectCall := { client, key }
  let connector := { connector with calls := connector.calls ++ [call] }
  let (connector, effects) := connector.runCall index world 12
  let result := (connector.calls[index]?).bind (·.phase.result?)
  (result.getD (.error .closed), { connector with calls := connector.calls.take index },
    effects)

end Connector

end ChannelAccess
