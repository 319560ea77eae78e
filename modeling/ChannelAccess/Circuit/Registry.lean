import ChannelAccess.Circuit.Basic

/-!
# The registry of circuits

All circuits that were opened, numbered in that order, and those of them that are registered under
their server and priority. A circuit under a key takes the place of an earlier one, and closing a
circuit takes only that very circuit out.
-/

namespace ChannelAccess

/-- What a circuit is registered under: its server and its priority. -/
abbrev CircuitKey := SocketAddress × UInt16

/-- The key of a circuit. -/
def Circuit.key (circuit : Circuit) : CircuitKey := (circuit.server, circuit.priority)

/-- Circuits, and which of them are registered. -/
structure CircuitRegistry where
  /-- All circuits that were opened. -/
  circuits : List Circuit := []
  /-- The numbers of the registered ones, by key. -/
  registered : List (CircuitKey × Nat) := []
  deriving Repr

namespace CircuitRegistry

/-- The number registered under a key. -/
def lookup? (registry : CircuitRegistry) (key : CircuitKey) : Option Nat :=
  (registry.registered.find? (·.1 == key)).map (·.2)

/-- The circuit with a number is closed. -/
def isClosed (registry : CircuitRegistry) (number : Nat) : Bool :=
  (registry.circuits[number]?).any Circuit.isClosed

/-- The open circuit registered under a key. -/
def get? (registry : CircuitRegistry) (key : CircuitKey) : Option Nat :=
  (registry.lookup? key).filter fun number => !registry.isClosed number

/-- Registers a circuit. -/
def put (registry : CircuitRegistry) (number : Nat) : CircuitRegistry :=
  match registry.circuits[number]? with
  | none => registry
  | some circuit =>
    { registry with
      registered :=
        registry.registered.filter (·.1 != circuit.key) ++ [(circuit.key, number)] }

/-- Takes a circuit out, if it is the one under its key. Says whether it was. -/
def remove (registry : CircuitRegistry) (number : Nat) : Bool × CircuitRegistry :=
  match registry.circuits[number]? with
  | none => (false, registry)
  | some circuit =>
    if registry.lookup? circuit.key = some number then
      (true,
        { registry with registered := registry.registered.filter (·.1 != circuit.key) })
    else (false, registry)

/-- The registered circuits to a server, at any priority. -/
def forServer (registry : CircuitRegistry) (server : SocketAddress) : List Nat :=
  (registry.registered.filter (·.1.1 == server)).map (·.2)

/-- All registered circuits. -/
def all (registry : CircuitRegistry) : List Nat := registry.registered.map (·.2)

/-- How many circuits are registered. -/
def size (registry : CircuitRegistry) : Nat := registry.registered.length

/-- Adds a circuit, which is not registered yet. Its number is the number of circuits before it. -/
def add (registry : CircuitRegistry) (circuit : Circuit) : CircuitRegistry :=
  { registry with circuits := registry.circuits ++ [circuit] }

/-- Changes a circuit. -/
def set (registry : CircuitRegistry) (number : Nat) (circuit : Circuit) : CircuitRegistry :=
  { registry with circuits := registry.circuits.set number circuit }

/-- Puts a circuit back after it was used, and unregisters it if that was asked for. -/
def settle (registry : CircuitRegistry) (number : Nat) (run : CircuitRun) : CircuitRegistry :=
  let registry := registry.set number run.circuit
  if run.effects.contains .unregistered then (registry.remove number).2 else registry

/-- Uses a circuit. Also gives what others see of it. -/
def use {α : Type} (registry : CircuitRegistry) (number : Nat) (writes : List WriteOutcome)
    (action : CircuitRun → α × CircuitRun) : Option (α × CircuitRegistry × CircuitRun) :=
  (registry.circuits[number]?).map fun circuit =>
    let (result, run) := action { circuit, writes }
    (result, registry.settle number run, run)

/-- Closes a circuit. -/
def close (registry : CircuitRegistry) (number : Nat) (peerGone : Bool) :
    CircuitRegistry × List CircuitEffect :=
  match registry.use number [] fun run => ((), run.close peerGone) with
  | none => (registry, [])
  | some (_, registry, run) => (registry, run.effects)

/-- Closes every registered circuit. Also gives what others see of each. -/
def closeAll (registry : CircuitRegistry) : CircuitRegistry × List (Nat × CircuitEffect) :=
  let (registry, effects) :=
    registry.all.foldl (fun (registry, effects) number =>
      let (registry, more) := registry.close number false
      (registry, effects ++ more.map (number, ·))) (registry, [])
  ({ registry with registered := [] }, effects)

/-- Something was received from a server: all its registered circuits are alive. -/
def markAlive (registry : CircuitRegistry) (server : SocketAddress) (now : Moment) :
    CircuitRegistry :=
  (registry.forServer server).foldl (fun registry number =>
    match registry.circuits[number]? with
    | none => registry
    | some circuit => registry.set number (circuit.markAlive now)) registry

/-- Checks every registered circuit. Also gives what others see of each. -/
def checkLiveness (registry : CircuitRegistry) (now : Moment) (timeout : Duration) :
    CircuitRegistry × List (Nat × CircuitEffect) :=
  registry.all.foldl (fun (registry, effects) number =>
    match registry.use number [] (·.checkLiveness now timeout) with
    | none => (registry, effects)
    | some (_, registry, run) => (registry, effects ++ run.effects.map (number, ·)))
    (registry, [])

end CircuitRegistry

end ChannelAccess
