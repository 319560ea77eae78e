import ChannelAccess.Circuit.Connector
import ChannelAccess.Proofs.Circuit.Registry

/-!
# Steps of connecting

Everything that the step of a call to connect can do to circuits, locks and the call itself
(`Connector.Move`). A call goes on with what it has and uses one circuit at most, or it learns the
lock of its key, is given the lock, is to open a circuit, makes it, registers it, or takes the lock
from the table. `Connector.run` has the steps of any number of calls in any order, with what others
do with the circuits meanwhile.
-/

namespace ChannelAccess

namespace ConnectPhase

/-- The lock that has to be in the table as long as the call is not about to forget it. -/
def guards? : ConnectPhase → Option Nat
  | .leaving _ _ => none
  | phase => phase.lock?

/-- The lock that the call has. -/
def holds? (phase : ConnectPhase) : Option Nat := if phase.holdsLock then phase.lock? else none

/-- The circuit that the call has opened and not given to its client yet. -/
def circuit? : ConnectPhase → Option Nat
  | .registering _ circuit | .greeting _ circuit | .closing _ circuit _
  | .acquiring _ circuit => some circuit
  | _ => none

/-- What the call returns, once that is decided. -/
def decided? : ConnectPhase → Option (Except TransportError Nat)
  | .cleaning _ result | .leaving _ result | .returned result => some result
  | _ => none

theorem guards?_of_holds? {phase : ConnectPhase} {lock : Nat} (h : phase.holds? = some lock) :
    phase.guards? = some lock := by
  cases phase <;> first | exact h | contradiction

theorem lock?_of_guards? {phase : ConnectPhase} {lock : Nat} (h : phase.guards? = some lock) :
    phase.lock? = some lock := by
  cases phase <;> first | exact h | contradiction

theorem isOpening_of_circuit? {phase : ConnectPhase} {circuit : Nat}
    (h : phase.circuit? = some circuit) : phase.isOpening = true := by
  cases phase <;> first | rfl | contradiction

/-- How a call goes on with the lock and the circuit that it has. -/
inductive Next : ConnectPhase → ConnectPhase → Prop
  /-- There is no circuit to share. -/
  | misses : Next .looking .fetchingLock
  /-- It shares a circuit. -/
  | shares {result : Except TransportError Nat} : Next .looking (.returned result)
  /-- It shares a circuit that was opened while it waited for the lock. -/
  | sharesAfterAll {lock : Nat} {result : Except TransportError Nat} :
    Next (.lookingAgain lock) (.cleaning lock result)
  /-- It is connected to the server. -/
  | connects {lock : Nat} : Next (.connecting lock) (.opening lock)
  /-- The server cannot be connected to. -/
  | fails {lock : Nat} {result : Except TransportError Nat} :
    Next (.connecting lock) (.cleaning lock result)
  /-- No circuit can be made of the connection. -/
  | refused {lock : Nat} {result : Except TransportError Nat} :
    Next (.opening lock) (.cleaning lock result)
  /-- The first messages are sent. -/
  | greets {lock circuit : Nat} : Next (.greeting lock circuit) (.acquiring lock circuit)
  /-- They cannot be sent. -/
  | givesUp {lock circuit : Nat} {error : TransportError} :
    Next (.greeting lock circuit) (.closing lock circuit error)
  /-- It closes its circuit. -/
  | closes {lock circuit : Nat} {error : TransportError}
      {result : Except TransportError Nat} :
    Next (.closing lock circuit error) (.cleaning lock result)
  /-- It becomes an owner of its circuit, or the circuit is closed already. -/
  | acquires {lock circuit : Nat} {result : Except TransportError Nat} :
    Next (.acquiring lock circuit) (.cleaning lock result)
  /-- It returns. -/
  | returns {lock : Nat} {result : Except TransportError Nat} :
    Next (.leaving lock result) (.returned result)

namespace Next

variable {before after : ConnectPhase} {lock : Nat}

theorem guards? (next : Next before after) (guards : after.guards? = some lock) :
    before.guards? = some lock := by
  cases next <;> exact guards

theorem holds? (next : Next before after) (holds : after.holds? = some lock) :
    before.holds? = some lock := by
  cases next <;> first | exact holds | contradiction

/-- A call that opens a circuit did so before, and has the circuit that it had. -/
theorem isOpening (next : Next before after) (opens : after.isOpening = true) :
    before.isOpening = true ∧ after.circuit? = before.circuit? := by
  cases next <;> first | exact ⟨rfl, rfl⟩ | contradiction

theorem ne_registering (next : Next before after) (lock circuit : Nat) :
    before ≠ .registering lock circuit := by
  rintro rfl
  cases next

/-- What is decided stays so. -/
theorem decided? (next : Next before after) {result : Except TransportError Nat}
    (decided : before.decided? = some result) : after.decided? = some result := by
  cases next <;> first | exact decided | contradiction

end Next

theorem exists_holds? {phase : ConnectPhase} (h : phase.isOpening = true) :
    ∃ lock, phase.holds? = some lock := by
  cases phase <;> first | exact ⟨_, rfl⟩ | contradiction

end ConnectPhase

/-- What others do with a circuit. -/
inductive CircuitDeed where
  /-- An owner releases the circuit. If it was the last one, it closes it afterwards. -/
  | disown (client : ClientId)
  /-- Somebody starts to close it. -/
  | beginClose (peerGone : Bool)
  /-- Somebody takes the next step to close it. -/
  | closeStep

/-- What becomes of the circuit. -/
def CircuitDeed.act (run : CircuitRun) : CircuitDeed → CircuitRun
  | disown client => { run with circuit := (run.circuit.disown client).2 }
  | beginClose peerGone => { run with circuit := run.circuit.beginClose peerGone }
  | closeStep => run.closeStep

/-- What happens to circuits and the calls that open them. -/
inductive ConnectorEvent where
  /-- A client calls to connect. -/
  | call (client : ClientId) (key : CircuitKey)
  /-- A call takes its next step, if it can. -/
  | advance (index : Nat) (world : ConnectWorld)
  /-- Somebody does something with a circuit. -/
  | use (number : Nat) (writes : List WriteOutcome) (deed : CircuitDeed)

namespace Connector

/-- What an event does. -/
def happen (connector : Connector) : ConnectorEvent → Connector
  | .call client key => { connector with calls := connector.calls ++ [{ client, key }] }
  | .advance index world =>
    match connector.step index world with
    | none => connector
    | some (connector, _) => connector
  | .use number writes deed =>
    match connector.useCircuit number writes fun run => ((), deed.act run) with
    | none => connector
    | some (_, connector, _) => connector

/-- What some events do, one after the other. -/
def run (connector : Connector) (events : List ConnectorEvent) : Connector :=
  events.foldl happen connector

/-! ## Steps of one call -/

/-- An open circuit under the key is shared. -/
theorem share?_eq_some {connector after : Connector} {client : ClientId} {key : CircuitKey}
    {number : Nat} (filed : connector.registry.Filed)
    (h : connector.share? client key = some (number, after)) :
    ∃ registry, after = { connector with registry } ∧
      connector.registry.Wanes number registry ∧ registry.OpenUnder key number := by
  obtain ⟨found, isFound, h⟩ := Option.bind_eq_some_iff.mp h
  obtain ⟨circuit, present, h⟩ := Option.bind_eq_some_iff.mp h
  obtain ⟨registered, -⟩ := Option.filter_eq_some_iff.mp isFound
  rcases acquires : circuit.acquire client with ⟨succeeds, changed⟩
  obtain ⟨wanes, opens⟩ := CircuitRegistry.wanes_acquire present acquires
  rw [acquires] at h
  cases succeeds with
  | false => contradiction
  | true =>
    obtain ⟨rfl, rfl⟩ := Prod.mk.inj (Option.some.inj h)
    exact ⟨_, rfl, wanes, (opens key).mpr ⟨filed key found registered, rfl⟩⟩

/-- No circuit is shared only if there is no open one under the key. -/
theorem not_open_of_share? {connector : Connector} {client : ClientId} {key : CircuitKey}
    {number : Nat} (h : connector.share? client key = none)
    (registered : connector.registry.lookup? key = some number) :
    ¬ connector.registry.OpenUnder key number := by
  rintro ⟨circuit, present, -, isOpen⟩
  have shared : connector.registry.get? key = some number := by
    refine Option.filter_eq_some_iff.mpr ⟨registered, ?_⟩
    rw [CircuitRegistry.isClosed, present, Option.any_some, isOpen]
    rfl
  obtain ⟨acquired, -⟩ := circuit.acquire_spec client
  rw [share?, shared, Option.bind_some, present, Option.bind_some] at h
  rw [isOpen] at acquired
  generalize circuit.acquire client = result at acquired h
  obtain ⟨succeeds, changed⟩ := result
  obtain rfl : succeeds = true := acquired
  contradiction

/-- A lock that is added is the lock of its key, unless the key had one. -/
theorem lock?_concat (connector : Connector) (key other : CircuitKey) (lock lockCount : Nat) :
    ({ connector with locks := connector.locks ++ [(key, lock)], lockCount } : Connector).lock?
        other =
      (connector.lock? other).or (if other = key then some lock else none) := by
  rw [lock?, Table.find?_concat, Option.map_or, lock?]
  split <;> rfl

/-- A circuit is used, which leaves all else alone. -/
theorem useCircuit_eq_some {α : Type} {connector after : Connector} {number : Nat}
    {writes : List WriteOutcome} {action : CircuitRun → α × CircuitRun} {result : α}
    {effects : List CircuitEffect} (wanes : ∀ before, CircuitRun.Wanes before (action before).2)
    (used : connector.useCircuit number writes action = some (result, after, effects)) :
    ∃ registry, after = { connector with registry } ∧
      connector.registry.Wanes number registry ∧
      ((∀ before, (action before).2.circuit.isClosed = true) →
        ∀ key, ¬ registry.OpenUnder key number) := by
  obtain ⟨⟨given, registry, run⟩, uses, same⟩ := Option.map_eq_some_iff.mp used
  obtain ⟨-, same⟩ := Prod.mk.inj same
  obtain ⟨rfl, -⟩ := Prod.mk.inj same
  exact ⟨registry, rfl, CircuitRegistry.wanes_use wanes uses⟩

/-- What a call is to return, by what has become of the circuits: an open circuit, which it has
opened itself or which is under its key, or an error while it opens a circuit, which is not open. -/
def Justified (registry : CircuitRegistry) (call : ConnectCall) :
    Except TransportError Nat → Prop
  | .ok number => (call.phase.circuit? = some number ∧ ∃ key, registry.OpenUnder key number) ∨
      (call.phase.circuit? = none ∧ registry.OpenUnder call.key number)
  | .error _ => call.phase.isOpening = true ∧
      ∀ number, call.phase.circuit? = some number → ∀ key, ¬ registry.OpenUnder key number

/-- Two keys are the same as far as the direct ones go: both are the same direct key, or neither is
one. -/
def Alike (direct : CircuitKey → Prop) (key other : CircuitKey) : Prop :=
  ∀ wanted, direct wanted → (key = wanted ↔ other = wanted)

theorem Alike.refl (direct : CircuitKey → Prop) (key : CircuitKey) : Alike direct key key :=
  fun _ _ => Iff.rfl

/-- A connection that the call makes has the key that the call asked for, as far as the direct ones
go. -/
def LeadsTo (direct : CircuitKey → Prop) (call : ConnectCall) (world : ConnectWorld) : Prop :=
  Alike direct (world.leadsTo call.key.1, call.key.2) call.key

/-- Where connections lead to: an unspecified address stands for the own host. -/
def toOwnHost (server : SocketAddress) : SocketAddress :=
  if server.ip = .unspecified then { server with ip := .loopback } else server

/-- Everything that the step of a call can do. -/
inductive Move (connector : Connector) (direct : CircuitKey → Prop) (index : Nat)
    (call : ConnectCall) : Connector → Prop
  /-- The call goes on with what it has, and a circuit is used at most. -/
  | proceeds {registry : CircuitRegistry} {phase : ConnectPhase} {number : Nat}
      (wanes : connector.registry.Wanes number registry)
      (used : ∀ own, call.phase.circuit? = some own → number = own)
      (next : call.phase.Next phase)
      (decided : ∀ result, phase.decided? = some result →
        call.phase.decided? = some result ∨ Justified registry call result) :
      Move connector direct index call ({ connector with registry }.enter index phase)
  /-- The call learns the lock of its key, which is made if there is none. -/
  | learns {locks : List (CircuitKey × Nat)} {lock lockCount : Nat}
      (looks : call.phase = .fetchingLock)
      (found : ({ connector with locks, lockCount } : Connector).lock? call.key = some lock)
      (kept : ∀ key lock, connector.lock? key = some lock →
        ({ connector with locks, lockCount } : Connector).lock? key = some lock) :
      Move connector direct index call
        ({ connector with locks, lockCount }.enter index (.locking lock))
  /-- The call is given the lock, which nobody has. -/
  | locks {lock : Nat} (waits : call.phase = .locking lock)
      (free : connector.isLocked lock = false) :
      Move connector direct index call (connector.enter index (.lookingAgain lock))
  /-- The call finds no open circuit registered, and is to open one. -/
  | begins {lock : Nat} (looks : call.phase = .lookingAgain lock)
      (none : ∀ number, connector.registry.lookup? call.key = some number →
        ¬ connector.registry.OpenUnder call.key number) :
      Move connector direct index call (connector.enter index (.connecting lock))
  /-- The call makes a circuit. -/
  | opens {lock : Nat} {circuit : Circuit} (connected : call.phase = .opening lock)
      (alike : Alike direct circuit.key call.key) :
      Move connector direct index call
        ({ connector with registry := connector.registry.add circuit }.enter index
          (.registering lock connector.registry.circuits.length))
  /-- The call registers its circuit. -/
  | registers {lock number : Nat} (opened : call.phase = .registering lock number) :
      Move connector direct index call
        ({ connector with registry := connector.registry.put number }.enter index
          (.greeting lock number))
  /-- The call takes the lock from the table, unless somebody else knows it. -/
  | cleans {lock : Nat} {result : Except TransportError Nat}
      (done : call.phase = .cleaning lock result) :
      Move connector direct index call
        ({ connector with
          locks :=
            if connector.knowing lock ≤ 2 then connector.locks.filter (·.1 != call.key)
            else connector.locks }.enter index (.leaving lock result))

/-- A step that can be taken is one of these. -/
theorem move_of_step {connector after : Connector} {direct : CircuitKey → Prop} {index : Nat}
    {world : ConnectWorld} {effects : List CircuitEffect} (filed : connector.registry.Filed)
    {call : ConnectCall} (here : connector.calls[index]? = some call)
    (leads : ∀ lock, call.phase = .opening lock → LeadsTo direct call world)
    (steps : connector.step index world = some (after, effects)) :
    connector.Move direct index call after := by
  rw [step, here, Option.bind_some] at steps
  obtain ⟨client, key, phase⟩ := call
  -- In most phases no circuit is used, and any number does for it.
  have unused := CircuitRegistry.Wanes.refl 0 connector.registry
  cases phase with
  | looking =>
    dsimp only at steps
    cases shares : connector.share? client key with
    | none =>
      rw [shares] at steps
      obtain ⟨rfl, -⟩ := Prod.mk.inj (Option.some.inj steps)
      exact .proceeds unused nofun .misses nofun
    | some found =>
      obtain ⟨number, shared⟩ := found
      rw [shares] at steps
      obtain ⟨rfl, -⟩ := Prod.mk.inj (Option.some.inj steps)
      obtain ⟨registry, rfl, wanes, isOpen⟩ := share?_eq_some filed shares
      refine .proceeds wanes nofun .shares fun result decided => .inr ?_
      obtain rfl := Option.some.inj decided
      exact .inr ⟨rfl, isOpen⟩
  | fetchingLock =>
    dsimp only at steps
    cases found : connector.lock? key with
    | some lock =>
      rw [found] at steps
      obtain ⟨rfl, -⟩ := Prod.mk.inj (Option.some.inj steps)
      exact .learns rfl found fun _ _ => id
    | none =>
      rw [found] at steps
      obtain ⟨rfl, -⟩ := Prod.mk.inj (Option.some.inj steps)
      refine .learns rfl ?_ fun other lock known => ?_
      · rw [lock?_concat, found, if_pos rfl]
        rfl
      · rw [lock?_concat, known]
        rfl
  | locking lock =>
    dsimp only at steps
    split at steps
    · contradiction
    · rename_i free
      obtain ⟨rfl, -⟩ := Prod.mk.inj (Option.some.inj steps)
      exact .locks rfl (Bool.eq_false_iff.mpr free)
  | lookingAgain lock =>
    dsimp only at steps
    cases shares : connector.share? client key with
    | none =>
      rw [shares] at steps
      obtain ⟨rfl, -⟩ := Prod.mk.inj (Option.some.inj steps)
      exact .begins rfl fun _ => not_open_of_share? shares
    | some found =>
      obtain ⟨number, shared⟩ := found
      rw [shares] at steps
      obtain ⟨rfl, -⟩ := Prod.mk.inj (Option.some.inj steps)
      obtain ⟨registry, rfl, wanes, isOpen⟩ := share?_eq_some filed shares
      refine .proceeds wanes nofun .sharesAfterAll fun result decided => .inr ?_
      obtain rfl := Option.some.inj decided
      exact .inr ⟨rfl, isOpen⟩
  | connecting lock =>
    dsimp only at steps
    split at steps
    · obtain ⟨rfl, -⟩ := Prod.mk.inj (Option.some.inj steps)
      refine .proceeds unused nofun .fails fun result decided => .inr ?_
      obtain rfl := Option.some.inj decided
      exact ⟨rfl, nofun⟩
    · obtain ⟨rfl, -⟩ := Prod.mk.inj (Option.some.inj steps)
      exact .proceeds unused nofun .connects nofun
  | opening lock =>
    dsimp only at steps
    split at steps
    · obtain ⟨rfl, -⟩ := Prod.mk.inj (Option.some.inj steps)
      refine .proceeds unused nofun .refused fun result decided => .inr ?_
      obtain rfl := Option.some.inj decided
      exact ⟨rfl, nofun⟩
    · obtain ⟨rfl, -⟩ := Prod.mk.inj (Option.some.inj steps)
      exact .opens rfl (leads lock rfl)
  | registering lock number =>
    obtain ⟨rfl, -⟩ := Prod.mk.inj (Option.some.inj steps)
    exact .registers rfl
  | greeting lock number =>
    obtain ⟨⟨failure, used, more⟩, greets, same⟩ := Option.map_eq_some_iff.mp steps
    obtain ⟨registry, rfl, wanes, -⟩ :=
      useCircuit_eq_some (fun before => before.wanes_send _ .flush) greets
    cases failure with
    | none =>
      obtain ⟨rfl, -⟩ := Prod.mk.inj same
      exact .proceeds wanes (fun _ => Option.some.inj) .greets nofun
    | some error =>
      obtain ⟨rfl, -⟩ := Prod.mk.inj same
      exact .proceeds wanes (fun _ => Option.some.inj) .givesUp nofun
  | closing lock number error =>
    obtain ⟨⟨_, used, more⟩, closes, same⟩ := Option.map_eq_some_iff.mp steps
    obtain ⟨registry, rfl, wanes, closed⟩ :=
      useCircuit_eq_some (fun before => before.wanes_close true) closes
    obtain ⟨rfl, -⟩ := Prod.mk.inj same
    refine .proceeds wanes (fun _ => Option.some.inj) .closes fun result decided => .inr ?_
    obtain rfl := Option.some.inj decided
    refine ⟨rfl, fun own isOwn => ?_⟩
    obtain rfl := Option.some.inj isOwn
    exact closed fun before => (before.close_spec true).2
  | acquiring lock number =>
    obtain ⟨circuit, present, steps⟩ := Option.bind_eq_some_iff.mp steps
    rcases acquires : circuit.acquire client with ⟨succeeds, changed⟩
    obtain ⟨wanes, opens⟩ := CircuitRegistry.wanes_acquire present acquires
    rw [acquires] at steps
    obtain ⟨rfl, -⟩ := Prod.mk.inj (Option.some.inj steps)
    refine .proceeds wanes (fun _ => Option.some.inj) .acquires fun result decided => .inr ?_
    obtain rfl := Option.some.inj decided
    cases succeeds with
    | true =>
      exact .inl ⟨rfl, circuit.key, (opens circuit.key).mpr ⟨CircuitRegistry.key?_eq present, rfl⟩⟩
    | false =>
      -- Somebody has closed the circuit meanwhile.
      refine ⟨rfl, fun other isOther key isOpen => ?_⟩
      obtain rfl := Option.some.inj isOther
      exact Bool.false_ne_true ((opens key).mp isOpen).2
  | cleaning lock result =>
    obtain ⟨rfl, -⟩ := Prod.mk.inj (Option.some.inj steps)
    exact .cleans rfl
  | leaving lock result =>
    obtain ⟨rfl, -⟩ := Prod.mk.inj (Option.some.inj steps)
    exact .proceeds unused nofun .returns fun _ => .inl
  | returned result => contradiction

end Connector

end ChannelAccess
