import ChannelAccess.Proofs.Circuit.Connecting
import ChannelAccess.Proofs.Circuit.Holders

/-!
# Connecting undisturbed

A client that connects while nobody else does needs no lock: `Connector.connect_eq` says that the
steps of its call come to the plain program `Connector.connectAlone`, and that no lock is left
afterwards. So a client that is given a circuit becomes its owner, and a circuit whose first
messages cannot be sent is closed and has no owner (`Connector.connect_balances`). Open circuits
stay registered if the connection leads where it was asked to: no circuit is open under the key
then, so that the new one displaces none.
-/

namespace ChannelAccess

/-- Shares the open circuit under a key with a client. -/
def CircuitRegistry.share? (registry : CircuitRegistry) (client : ClientId) (key : CircuitKey) :
    Option (Nat × CircuitRegistry) :=
  (registry.get? key).bind fun number =>
    (registry.circuits[number]?).bind fun circuit =>
      match circuit.acquire client with
      | (true, circuit) => some (number, registry.set number circuit)
      | (false, _) => none

namespace Connector

/-- Nobody connects, and there is no lock. -/
structure Idle (connector : Connector) : Prop where
  /-- There are no calls. -/
  calls : connector.calls = []
  /-- No key has a lock. -/
  locks : connector.locks = []

/-- Sends the first messages on a circuit and makes the client an owner, or closes the circuit if
they cannot be sent. -/
def greetAlone (settings : ConnectorSettings) (registry : CircuitRegistry) (number : Nat)
    (circuit : Circuit) (client : ClientId) (world : ConnectWorld) :
    Except TransportError Nat × CircuitRegistry × List CircuitEffect :=
  let greeted := CircuitRun.handshake { circuit, writes := world.writes } settings.clientName
    settings.hostName
  let registry := registry.settle number greeted.2
  match greeted.1 with
  | none =>
    let acquired := greeted.2.circuit.acquire client
    (if acquired.1 then .ok number else .error .closed, registry.set number acquired.2,
      greeted.2.effects)
  | some error =>
    let closed := CircuitRun.close { circuit := greeted.2.circuit, writes := world.writes } true
    (.error error, registry.settle number closed, greeted.2.effects ++ closed.effects)

/-- Opens a circuit, registers it, sends the first messages and makes the client an owner. -/
def openAlone (connector : Connector) (client : ClientId) (key : CircuitKey)
    (world : ConnectWorld) : Except TransportError Nat × CircuitRegistry × List CircuitEffect :=
  let number := connector.registry.circuits.length
  let circuit :=
    Circuit.connected (world.leadsTo key.1) key.2 connector.settings.receiveCapacity world.now
  greetAlone connector.settings ((connector.registry.add circuit).put number) number circuit client
    world

/-- Shares a circuit, or opens one if the server can be connected to. -/
def connectAlone (connector : Connector) (client : ClientId) (key : CircuitKey)
    (world : ConnectWorld) : Except TransportError Nat × CircuitRegistry × List CircuitEffect :=
  match connector.registry.share? client key with
  | some (number, registry) => (.ok number, registry, [])
  | none =>
    match world.connectFailure? with
    | some error => (.error error, connector.registry, [])
    | none =>
      if world.reactorClosed then (.error .reactorClosed, connector.registry, [])
      else connector.openAlone client key world

/-! ## The steps of one call -/

/-- Only the registry counts for which circuit is shared. -/
theorem share?_eq (connector : Connector) (client : ClientId) (key : CircuitKey) :
    connector.share? client key =
      (connector.registry.share? client key).map fun (number, registry) =>
        (number, { connector with registry }) := by
  unfold share? CircuitRegistry.share?
  cases connector.registry.get? key with
  | none => rfl
  | some number =>
    rw [Option.bind_some, Option.bind_some]
    cases connector.registry.circuits[number]? with
    | none => rfl
    | some circuit =>
      rw [Option.bind_some, Option.bind_some]
      rcases circuit.acquire client with ⟨_ | _, changed⟩ <;> rfl

/-- A circuit that was added and registered has the next number. -/
theorem getElem?_opened (registry : CircuitRegistry) (circuit : Circuit) :
    ((registry.add circuit).put registry.circuits.length).circuits[registry.circuits.length]? =
      some circuit := by
  rw [CircuitRegistry.circuits_put, CircuitRegistry.getElem?_add, if_pos rfl]

/-- A circuit that was used is there under its number. -/
theorem getElem?_settle {registry : CircuitRegistry} {number : Nat} {circuit : Circuit}
    (present : registry.circuits[number]? = some circuit) (run : CircuitRun) :
    (registry.settle number run).circuits[number]? = some run.circuit := by
  obtain ⟨inRange, -⟩ := List.getElem?_eq_some_iff.mp present
  rw [CircuitRegistry.circuits_settle, List.getElem?_set_self inRange]

/-- A circuit is used that there is. -/
theorem useCircuit_of_present {α : Type} (connector : Connector) {number : Nat} {circuit : Circuit}
    (present : connector.registry.circuits[number]? = some circuit) (writes : List WriteOutcome)
    (action : CircuitRun → α × CircuitRun) :
    connector.useCircuit number writes action =
      some ((action { circuit, writes }).1,
        { connector with
          registry := connector.registry.settle number (action { circuit, writes }).2 },
        (action { circuit, writes }).2.effects) := by
  rw [useCircuit, CircuitRegistry.use, present]
  rfl

/-- A step of the call, and those after it. -/
theorem runCall_succ {connector between after : Connector} {world : ConnectWorld} {fuel : Nat}
    {first later : List CircuitEffect} (steps : connector.step 0 world = some (between, first))
    (goesOn : between.runCall 0 world fuel = (after, later)) :
    connector.runCall 0 world (fuel + 1) = (after, first ++ later) := by
  rw [runCall, steps]
  dsimp only
  rw [goesOn]

/-- A step of which others see nothing, and those after it. -/
theorem runCall_quiet {connector between : Connector} {world : ConnectWorld} {fuel : Nat}
    {result : Connector × List CircuitEffect} (steps : connector.step 0 world = some (between, []))
    (goesOn : between.runCall 0 world fuel = result) :
    connector.runCall 0 world (fuel + 1) = result :=
  runCall_succ steps goesOn

/-- There is one call, which has come so far and knows the only lock. -/
def within (connector : Connector) (client : ClientId) (key : CircuitKey) (lock : Nat)
    (registry : CircuitRegistry) (phase : ConnectPhase) : Connector :=
  { connector with registry, locks := [(key, lock)], calls := [⟨client, key, phase⟩] }

/-- There is one call, which has returned, and no lock. -/
def returned (connector : Connector) (client : ClientId) (key : CircuitKey)
    (registry : CircuitRegistry) (result : Except TransportError Nat) : Connector :=
  { connector with registry, locks := [], calls := [⟨client, key, .returned result⟩] }

section OneCall

variable (connector : Connector) (client : ClientId) (key : CircuitKey) (lock : Nat)
  (registry : CircuitRegistry) (world : ConnectWorld) (fuel : Nat)

/-- A call that gives its lock back is the last one to need it, and returns. -/
theorem runCall_cleaning (result : Except TransportError Nat) :
    (connector.within client key lock registry (.cleaning lock result)).runCall 0 world
        (fuel + 2) =
      (connector.returned client key registry result, []) := by
  have cleans : (connector.within client key lock registry (.cleaning lock result)).step 0 world =
      some ({ connector with
        registry, locks := [], calls := [⟨client, key, .leaving lock result⟩] }, []) := by
    simp [within, step, knowing, ConnectPhase.lock?, enter]
  refine runCall_quiet cleans (runCall_quiet rfl ?_)
  cases fuel <;> rfl

/-- A call that sent the first messages makes its client an owner. -/
theorem runCall_acquiring {number : Nat} {circuit : Circuit}
    (present : registry.circuits[number]? = some circuit) :
    (connector.within client key lock registry (.acquiring lock number)).runCall 0 world
        (fuel + 3) =
      (connector.returned client key (registry.set number (circuit.acquire client).2)
        (if (circuit.acquire client).1 then .ok number else .error .closed), []) := by
  have acquires : (connector.within client key lock registry (.acquiring lock number)).step 0
      world = some (connector.within client key lock
        (registry.set number (circuit.acquire client).2) (.cleaning lock
          (if (circuit.acquire client).1 then .ok number else .error .closed)), []) := by
    simp [within, step, present, enter]
  exact runCall_quiet acquires (runCall_cleaning ..)

/-- A call that could not send the first messages closes its circuit. -/
theorem runCall_closing {number : Nat} {circuit : Circuit} {error : TransportError}
    (present : registry.circuits[number]? = some circuit) :
    let closed := CircuitRun.close { circuit, writes := world.writes } true
    (connector.within client key lock registry (.closing lock number error)).runCall 0 world
        (fuel + 3) =
      (connector.returned client key (registry.settle number closed) (.error error),
        closed.effects) := by
  intro closed
  have closes := useCircuit_of_present
    (connector.within client key lock registry (.closing lock number error)) present world.writes
    fun run => ((), run.close true)
  have shuts : (connector.within client key lock registry (.closing lock number error)).step 0
      world = some (connector.within client key lock (registry.settle number closed)
        (.cleaning lock (.error error)), closed.effects) := by
    rw [within] at closes
    simp [within, step, closes, enter, closed]
  have goesOn := runCall_succ shuts (runCall_cleaning connector client key lock _ world fuel _)
  rwa [List.append_nil] at goesOn

/-- A call that has registered its circuit returns what comes of the first messages. -/
theorem runCall_greeting {number : Nat} {circuit : Circuit}
    (present : registry.circuits[number]? = some circuit) :
    let greeted := greetAlone connector.settings registry number circuit client world
    (connector.within client key lock registry (.greeting lock number)).runCall 0 world
        (fuel + 4) =
      (connector.returned client key greeted.2.1 greeted.1, greeted.2.2) := by
  intro greeted
  simp only [greeted, greetAlone]
  have greets := useCircuit_of_present
    (connector.within client key lock registry (.greeting lock number)) present world.writes
    (·.handshake connector.settings.clientName connector.settings.hostName)
  generalize CircuitRun.handshake { circuit, writes := world.writes }
    connector.settings.clientName connector.settings.hostName = result at greets ⊢
  obtain ⟨failure, run⟩ := result
  have back := getElem?_settle present run
  cases failure with
  | none =>
    have sends : (connector.within client key lock registry (.greeting lock number)).step 0 world =
        some (connector.within client key lock (registry.settle number run)
          (.acquiring lock number), run.effects) := by
      rw [within] at greets
      simp [within, step, greets, enter]
    have goesOn := runCall_succ sends
      (runCall_acquiring connector client key lock _ world fuel back)
    rwa [List.append_nil] at goesOn
  | some error =>
    have sends : (connector.within client key lock registry (.greeting lock number)).step 0 world =
        some (connector.within client key lock (registry.settle number run)
          (.closing lock number error), run.effects) := by
      rw [within] at greets
      simp [within, step, greets, enter]
    exact runCall_succ sends (runCall_closing connector client key lock _ world fuel back)

/-- A call that nobody stops opens a circuit, and returns what comes of that. -/
theorem runCall_opening (isOpen : world.reactorClosed = false) :
    let opened := openAlone connector client key world
    (connector.within client key lock connector.registry (.opening lock)).runCall 0 world
        (fuel + 6) =
      (connector.returned client key opened.2.1 opened.1, opened.2.2) := by
  intro opened
  have opens : (connector.within client key lock connector.registry (.opening lock)).step 0 world =
      some (connector.within client key lock (connector.registry.add
          (.connected (world.leadsTo key.1) key.2 connector.settings.receiveCapacity world.now))
        (.registering lock connector.registry.circuits.length), []) := by
    rw [step, within, List.getElem?_cons_zero, Option.bind_some]
    dsimp only
    rw [isOpen]
    rfl
  exact runCall_quiet opens (runCall_quiet rfl
    (runCall_greeting connector client key lock _ world fuel (getElem?_opened ..)))

/-- A call that found nothing to share connects to the server. -/
theorem runCall_connecting (nothing : connector.registry.share? client key = none) :
    let alone := connector.connectAlone client key world
    (connector.within client key lock connector.registry (.connecting lock)).runCall 0 world
        (fuel + 7) =
      (connector.returned client key alone.2.1 alone.1, alone.2.2) := by
  intro alone
  simp only [alone, connectAlone, nothing]
  cases fails : world.connectFailure? with
  | some error =>
    have fails : (connector.within client key lock connector.registry (.connecting lock)).step 0
        world = some (connector.within client key lock connector.registry
          (.cleaning lock (.error error)), []) := by
      simp [within, step, fails, enter]
    exact runCall_quiet fails (runCall_cleaning ..)
  | none =>
    have goesOn : (connector.within client key lock connector.registry (.connecting lock)).step 0
        world = some (connector.within client key lock connector.registry (.opening lock), []) := by
      simp [within, step, fails, enter]
    refine runCall_quiet goesOn ?_
    cases isOpen : world.reactorClosed with
    | true =>
      have refused : (connector.within client key lock connector.registry (.opening lock)).step 0
          world = some (connector.within client key lock connector.registry
            (.cleaning lock (.error .reactorClosed)), []) := by
        simp [within, step, isOpen, enter]
      exact runCall_quiet refused (runCall_cleaning ..)
    | false => exact runCall_opening _ _ _ _ _ fuel isOpen

end OneCall

/-- A client that connects undisturbed does so as if there were no locks, and leaves none. -/
theorem connect_eq {connector : Connector} (idle : connector.Idle) (client : ClientId)
    (key : CircuitKey) (world : ConnectWorld) :
    let alone := connector.connectAlone client key world
    ∃ lockCount, connector.connect client key world =
      (alone.1, { connector with registry := alone.2.1, lockCount }, alone.2.2) := by
  obtain ⟨settings, registry, locks, lockCount, calls⟩ := connector
  obtain ⟨rfl, rfl⟩ : calls = [] ∧ locks = [] := ⟨idle.calls, idle.locks⟩
  intro alone
  -- It is enough to say where the call comes to.
  suffices ends : ∃ lockCount', runCall ⟨settings, registry, [], lockCount,
      [⟨client, key, .looking⟩]⟩ 0 world 12 = (⟨settings, alone.2.1, [], lockCount',
        [⟨client, key, .returned alone.1⟩]⟩, alone.2.2) by
    obtain ⟨lockCount', ends⟩ := ends
    refine ⟨lockCount', ?_⟩
    unfold connect
    dsimp only [List.length_nil, List.nil_append]
    rw [ends]
    rfl
  cases shares : registry.share? client key with
  | some found =>
    obtain ⟨number, shared⟩ := found
    have steps : step ⟨settings, registry, [], lockCount, [⟨client, key, .looking⟩]⟩ 0 world =
        some (⟨settings, shared, [], lockCount, [⟨client, key, .returned (.ok number)⟩]⟩, []) := by
      simp [step, share?_eq, shares, enter]
    refine ⟨lockCount, ?_⟩
    simp only [alone, connectAlone, shares]
    exact runCall_quiet steps rfl
  | none =>
    have looks : step ⟨settings, registry, [], lockCount, [⟨client, key, .looking⟩]⟩ 0 world =
        some (⟨settings, registry, [], lockCount, [⟨client, key, .fetchingLock⟩]⟩, []) := by
      simp [step, share?_eq, shares, enter]
    have again : step ⟨settings, registry, [(key, lockCount)], lockCount + 1,
        [⟨client, key, .lookingAgain lockCount⟩]⟩ 0 world =
          some (⟨settings, registry, [(key, lockCount)], lockCount + 1,
            [⟨client, key, .connecting lockCount⟩]⟩, []) := by
      simp [step, share?_eq, shares, enter]
    exact ⟨lockCount + 1, runCall_quiet looks (runCall_quiet rfl (runCall_quiet rfl
      (runCall_quiet again (runCall_connecting ⟨settings, registry, [], lockCount + 1, []⟩ client
        key lockCount world 1 shares))))⟩

/-! ## What connecting does to owners -/

end Connector

namespace CircuitRegistry

/-- The client becomes an owner of the circuit that it is given, unless it is one already. -/
def joinedBy {ε : Type} (registry : CircuitRegistry) (client : ClientId) :
    Except ε Nat → List ClientId
  | .ok number => if registry.owns number client then [] else [client]
  | .error _ => []

theorem joinedBy_mapError {ε ε' : Type} (registry : CircuitRegistry) (client : ClientId)
    (result : Except ε Nat) (change : ε → ε') :
    registry.joinedBy client (result.mapError change) = registry.joinedBy client result := by
  cases result <;> rfl

/-- A circuit that is shared is open, and the client is made an owner of it. -/
theorem share?_eq_some {registry after : CircuitRegistry} {client : ClientId} {key : CircuitKey}
    {number : Nat} (h : registry.share? client key = some (number, after)) :
    ∃ circuit, registry.circuits[number]? = some circuit ∧ circuit.isClosed = false ∧
      after = registry.set number (circuit.acquire client).2 := by
  obtain ⟨found, -, h⟩ := Option.bind_eq_some_iff.mp h
  obtain ⟨circuit, present, h⟩ := Option.bind_eq_some_iff.mp h
  have acquired := (circuit.acquire_spec client).1
  generalize isChanged : circuit.acquire client = result at h acquired
  obtain ⟨succeeds, changed⟩ := result
  cases succeeds with
  | false => contradiction
  | true =>
    obtain ⟨rfl, rfl⟩ := Prod.mk.inj (Option.some.inj h)
    refine ⟨circuit, present, ?_, by rw [isChanged]⟩
    rwa [eq_comm, Bool.not_eq_true'] at acquired

/-- A new circuit has no owner. It takes the place of a closed one, if none is open under its key.
-/
theorem balances_opened {registry : CircuitRegistry} {circuit : Circuit} {direct : Prop}
    (isOpen : circuit.isClosed = false) (unowned : circuit.owners = [])
    (free : direct → registry.Listed → ∀ number, ¬ registry.OpenUnder circuit.key number) :
    Balances registry ((registry.add circuit).put registry.circuits.length) [] [] [] direct := by
  have isKey := key?_add_self registry circuit
  have circuits : ((registry.add circuit).put registry.circuits.length).circuits =
      registry.circuits ++ [circuit] := circuits_put _ _
  refine ⟨?_, ?_, fun whole => ⟨fun other member closed => ?_, fun other member => ?_⟩,
    fun isDirect listed key number is => ?_⟩
  · rw [holders, holders, circuits, List.flatMap_append]
    simp [unowned, toldOf]
  · rw [closedCircuits, closedCircuits, circuits, List.length_append, List.length_singleton,
      List.range_succ, List.filter_append]
    have same : ∀ number ∈ List.range registry.circuits.length,
        CircuitRegistry.isClosed ((registry.add circuit).put registry.circuits.length) number =
          registry.isClosed number := by
      intro number member
      rw [CircuitRegistry.isClosed, circuits,
        List.getElem?_append_left (List.mem_range.mp member)]
      rfl
    have last : CircuitRegistry.isClosed ((registry.add circuit).put registry.circuits.length)
        registry.circuits.length = false := by
      rw [CircuitRegistry.isClosed, circuits, List.getElem?_concat_length]
      exact isOpen
    rw [List.filter_congr same, List.filter_singleton, last]
    exact List.Perm.refl _
  · rw [circuits, List.mem_append, List.mem_singleton] at member
    rcases member with before | rfl
    · exact whole.unowned other before closed
    · exact unowned
  · rw [circuits, List.mem_append, List.mem_singleton] at member
    rcases member with before | rfl
    · exact whole.nodup other before
    · rw [unowned]
      exact List.nodup_nil
  · rw [lookup?_put isKey]
    rcases openUnder_add (openUnder_put.mp is) with ⟨rfl, rfl⟩ | before
    · rw [if_pos rfl]
    · -- An open circuit is not displaced, since none was open under the key.
      split
      · rename_i same
        exact absurd (same ▸ before) (free isDirect listed number)
      · exact listed key number before

end CircuitRegistry

namespace Connector

open CircuitRegistry

/-- A client that greets the server of a new circuit becomes its owner, or the circuit is closed and
has none. -/
theorem balances_greetAlone (settings : ConnectorSettings) {before registry : CircuitRegistry}
    {direct : Prop} (opens : Balances before registry [] [] [] direct) (whole : before.Whole)
    {number : Nat}
    {circuit : Circuit} (present : registry.circuits[number]? = some circuit)
    (isOpen : circuit.isClosed = false) (unowned : circuit.owners = []) {client : ClientId}
    (never : before.owns number client = false) (world : ConnectWorld) :
    let greeted := greetAlone settings registry number circuit client world
    Balances before greeted.2.1 (before.joinedBy client greeted.1) []
      (greeted.2.2.map (number, ·)) direct := by
  intro greeted
  simp only [greeted, greetAlone]
  obtain ⟨settles, stays⟩ := CircuitRun.handshake_spec { circuit, writes := world.writes }
    settings.clientName settings.hostName
  generalize CircuitRun.handshake { circuit, writes := world.writes } settings.clientName
    settings.hostName = result at settles stays ⊢
  obtain ⟨failure, run⟩ := result
  have greets := opens.trans ((passes_settle present settles).balances direct)
  have back := getElem?_settle present run
  cases failure with
  | none =>
    have stillOpen : run.circuit.isClosed = false :=
      (congrArg (· != ClosePhase.isOpen) (stays rfl)).trans isOpen
    have nobody : (registry.settle number run).owns number client = false := by
      rw [owns_eq back]
      cases settles.fate with
      | stays _ owners =>
        rw [owners, unowned]
        rfl
      | closes _ closed => exact absurd (stillOpen.symm.trans closed) Bool.false_ne_true
    have acquired : (run.circuit.acquire client).1 = true := by
      rw [(run.circuit.acquire_spec client).1, stillOpen]
      rfl
    have joins := passes_acquire (greets.whole whole) back stillOpen client
    rw [nobody] at joins
    simpa [acquired, joinedBy, never] using greets.trans (joins.balances direct)
  | some error =>
    have closes := passes_settle back
      (.close { circuit := run.circuit, writes := world.writes } true)
    simpa [joinedBy] using greets.trans (closes.balances direct)

/-- A client that opens a circuit is its only owner, or the circuit is closed and has none. -/
theorem balances_openAlone {connector : Connector} (whole : connector.registry.Whole)
    {key : CircuitKey}
    (free : connector.registry.Listed → ∀ number, ¬ connector.registry.OpenUnder key number)
    (client : ClientId) (world : ConnectWorld) :
    let opened := connector.openAlone client key world
    Balances connector.registry opened.2.1 (connector.registry.joinedBy client opened.1) []
      (opened.2.2.map (connector.registry.circuits.length, ·))
      (world.leadsTo key.1 = key.1) := by
  have never : connector.registry.owns connector.registry.circuits.length client = false := by
    rw [owns, List.getElem?_eq_none (Nat.le_refl _), Option.any_none]
  let circuit :=
    Circuit.connected (world.leadsTo key.1) key.2 connector.settings.receiveCapacity world.now
  have opens : Balances connector.registry
      ((connector.registry.add circuit).put connector.registry.circuits.length) [] [] []
      (world.leadsTo key.1 = key.1) := by
    refine balances_opened rfl rfl fun leads listed number isOpen => free listed number ?_
    rwa [show key = (world.leadsTo key.1, key.2) by rw [leads]]
  exact balances_greetAlone connector.settings opens whole (getElem?_opened ..) rfl rfl never world

/-- A client that connects undisturbed becomes an owner of the circuit that it is given. Otherwise
nobody becomes an owner, and a circuit that was opened is closed. It is direct if the connection
leads where it was asked to. -/
theorem connect_balances {connector : Connector} (idle : connector.Idle)
    (whole : connector.registry.Whole) (client : ClientId) (key : CircuitKey)
    (world : ConnectWorld) :
    let (result, after, effects) := connector.connect client key world
    after.Idle ∧ Balances connector.registry after.registry
      (connector.registry.joinedBy client result) []
      (effects.map (connector.registry.circuits.length, ·)) (world.leadsTo key.1 = key.1) := by
  obtain ⟨lockCount, same⟩ := connect_eq idle client key world
  rw [same]
  refine ⟨⟨idle.calls, idle.locks⟩, ?_⟩
  dsimp only
  unfold connectAlone
  cases shares : connector.registry.share? client key with
  | some found =>
    obtain ⟨number, shared⟩ := found
    obtain ⟨circuit, present, isOpen, rfl⟩ := CircuitRegistry.share?_eq_some shares
    exact (passes_acquire whole present isOpen client).balances _
  | none =>
    have free : connector.registry.Listed →
        ∀ number, ¬ connector.registry.OpenUnder key number := by
      intro listed number isOpen
      have nothing : connector.share? client key = none := by
        rw [share?_eq, shares]
        rfl
      exact not_open_of_share? nothing (listed key number isOpen) isOpen
    dsimp only
    split
    · exact .refl connector.registry _
    · split
      · exact .refl connector.registry _
      · exact balances_openAlone whole free client world

end Connector

end ChannelAccess
