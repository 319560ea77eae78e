import ChannelAccess.Proofs.Client.Observing

/-!
# What a client keeps in order

A client is asked for things and things happen to it, one after the other (`ClientDeed`). It is
remembered who became an owner of a circuit, who left one and who was told that one is closed
(`ClientHistory`). Every deed keeps the client `Sound`: its closed circuits have no owner, the
promised replies are accounted for, and the closer of every closed circuit has run or waits in the
reactor. It also keeps the account of owners (`ClientHistory.Sound.perform`). Open circuits stay
registered while connections lead where they were asked to (`ClientHistory.Sound.listed_run`).
-/

namespace ChannelAccess

/-- What is done with a client, or happens to it. -/
inductive ClientDeed where
  /-- A search is started. -/
  | search (now : Moment) (channelId : UInt32) (name : String)
  /-- A search with a promised reply is started. -/
  | searchWithReply (now : Moment) (channelId : UInt32) (name : String)
  /-- A search is given up. -/
  | cancelSearch (now : Moment) (channelId : UInt32)
  /-- The timer's thread runs what is due. -/
  | runSearches (now : Moment)
  /-- A datagram comes to the search socket. -/
  | searchReply (now : Moment) (source : SocketAddress) (bytes : List UInt8)
  /-- A datagram comes to the beacon socket. -/
  | beacon (now : Moment) (source : SocketAddress) (bytes : List UInt8)
  /-- An owner connects to a server. -/
  | connect (owner : ClientId) (key : CircuitKey) (world : ConnectWorld)
  /-- An owner leaves a circuit. -/
  | release (now : Moment) (circuit : Nat) (owner : ClientId)
  /-- A circuit is read, until the peer has closed it or as far as there is anything. -/
  | read (now : Moment) (circuit : Nat) (reads : List ReadOutcome) (writes : List WriteOutcome)
  /-- Something is sent on a circuit. -/
  | send (now : Moment) (circuit : Nat) (bytes : List UInt8) (finish : SendEnd)
    (writes : List WriteOutcome)
  /-- All circuits are checked. -/
  | checkLiveness (now : Moment)
  /-- A notifier is made, which is no part of the client. -/
  | createNotifier
  /-- The reactor takes a turn. -/
  | takeTurn (states : SocketStates)
  /-- The client is shut down. -/
  | shutdown (now : Moment)

/-- What is refused once the client was shut down. -/
def ClientDeed.isRefused : ClientDeed → Bool
  | .search .. | .searchWithReply .. | .connect .. | .createNotifier => true
  | _ => false

/-- A connection leads where it was asked to. -/
def ClientDeed.LeadsThere : ClientDeed → Prop
  | .connect _ key world => world.leadsTo key.1 = key.1
  | _ => True

/-- A client, and what became of the owners of its circuits so far. -/
structure ClientHistory where
  /-- The client. -/
  client : Client
  /-- Those who became owners of a circuit, once for each time. -/
  joined : List ClientId := []
  /-- Those who left a circuit that they owned. -/
  left : List ClientId := []
  /-- Those who were told that a circuit of theirs is closed. -/
  told : List ClientId := []

namespace ClientHistory

/-- A client that has just started. -/
def start (config : ClientConfig) (loginName ownHost : String) (listening : Bool) :
    ClientHistory where
  client := .start config loginName ownHost listening

/-- A turn of the client is over, in which these owners came and left. -/
def follow (history : ClientHistory) (turn : ClientTurn) (joined left : List ClientId) :
    ClientHistory where
  client := turn.client
  joined := history.joined ++ joined
  left := history.left ++ left
  told := history.told ++ turn.told

/-- What a deed does. A client that refuses stays as it is. -/
def perform (history : ClientHistory) (deed : ClientDeed) : ClientHistory :=
  let client := history.client
  let registry := client.connector.registry
  match deed with
  | .search now channelId name =>
    match client.search now channelId name with
    | .error _ => history
    | .ok client => { history with client }
  | .searchWithReply now channelId name =>
    match client.searchWithReply now channelId name with
    | .error _ => history
    | .ok client => { history with client }
  | .cancelSearch now channelId =>
    { history with client := (client.cancelSearch now channelId).2 }
  | .runSearches now =>
    { history with client := client.mapSearch fun manager => (manager.runAllDue now).2 }
  | .searchReply now source bytes =>
    history.follow (client.receiveSearchReply now source bytes) [] []
  | .beacon now source bytes => history.follow (client.receiveBeacon now source bytes) [] []
  | .connect owner key world =>
    let (result, turn) := client.connect owner key world
    history.follow turn (registry.joinedBy owner result) []
  | .release now circuit owner =>
    history.follow (client.release now circuit owner) []
      (if registry.owns circuit owner then [owner] else [])
  | .read now circuit reads writes =>
    history.follow (client.readCircuit now circuit reads writes) [] []
  | .send now circuit bytes finish writes =>
    history.follow (client.useCircuit now circuit writes fun run => (run.send bytes finish).2) [] []
  | .checkLiveness now => history.follow (client.checkLiveness now) [] []
  | .createNotifier => history
  | .takeTurn states =>
    let turn := client.reactor.process states
    { history with
      client :=
        { client with
          reactor := turn.reactor
          disconnected := client.disconnected ++ turn.closers } }
  | .shutdown now => history.follow (client.shutdown now) [] []

/-- What some deeds do, one after the other. -/
def run (history : ClientHistory) (deeds : List ClientDeed) : ClientHistory :=
  deeds.foldl perform history

end ClientHistory

/-! ## What is kept in order -/

namespace Client

/-- What is in order in every client, be it shut down or not. -/
structure Ordered (client : Client) : Prop where
  /-- Circuits, their owners and the registry. -/
  whole : client.connector.registry.Whole
  /-- Nobody connects. -/
  idle : client.connector.Idle
  /-- Searches and promised replies. -/
  owes : ∃ manager ledger, client.handler.search = some manager ∧ manager.Owes ledger
  /-- The closers of closed circuits. -/
  closers : (client.closers client.connector.registry.closedCircuits).Sound

/-- What is over in a client that was shut down. -/
structure Over (client : Client) : Prop where
  /-- No circuit is registered. -/
  registered : client.connector.registry.registered = []
  /-- Nothing is searched for. -/
  searches : client.pendingSearches = []
  /-- The reactor was shut down. -/
  reactor : client.reactor.closed = true

/-- The invariant of clients. -/
structure Sound (client : Client) : Prop extends Ordered client where
  /-- A client that was shut down is over. -/
  ended : client.closed = true → client.Over

/-- The replies that were promised so far. -/
def replies (client : Client) : Array ReplyStatus :=
  (client.handler.search.map (·.replies)).getD #[]

/-- The account of what was done: the client is sound afterwards, and owners came, left or were
told. Open circuits stay registered if what was done is direct. -/
structure Keeps (before after : Client) (joined left told : List ClientId)
    (direct : Prop := True) : Prop where
  /-- The client is sound. -/
  sound : after.Sound
  /-- It stays shut down. -/
  closed : before.closed = true → after.closed = true
  /-- Owners came, left or were told. -/
  owners : (before.connector.registry.holders ++ joined).Perm
    (left ++ told ++ after.connector.registry.holders)
  /-- When the client was shut down nothing more becomes of the replies. -/
  replies : before.closed = true → after.replies = before.replies
  /-- No circuit is opened then. -/
  circuits : before.closed = true →
    after.connector.registry.circuits.length = before.connector.registry.circuits.length
  /-- Open circuits stay registered. -/
  listed : direct → before.connector.registry.Listed → after.connector.registry.Listed

/-- What is done without connecting is direct anyway. -/
theorem Keeps.anyway {before after : Client} {joined left told : List ClientId}
    (h : Keeps before after joined left told) (direct : Prop) :
    Keeps before after joined left told direct :=
  ⟨h.sound, h.closed, h.owners, h.replies, h.circuits, fun _ => h.listed trivial⟩

/-- The closers may be listed in another order. -/
theorem closers_perm {client : Client} {passed passed' : List Nat}
    (sound : (client.closers passed).Sound) (same : passed'.Perm passed) :
    (client.closers passed').Sound :=
  ⟨sound.seen, sound.empty, same.trans sound.balance⟩

/-- What becomes of searches of which none is started. -/
theorem Ordered.answers {client : Client} (h : client.Ordered) {handler : ResponseHandler}
    (answers : client.handler.Answers handler) :
    (∃ manager ledger, handler.search = some manager ∧ manager.Owes ledger) ∧
      (client.pendingSearches = [] →
        (handler.search.map (·.pending)).getD [] = [] ∧
          (handler.search.map (·.replies)).getD #[] = client.replies) := by
  obtain ⟨manager, ledger, isManager, owes⟩ := h.owes
  obtain ⟨later, ledger', isLater, owesLater, quiet⟩ := answers manager ledger isManager owes
  refine ⟨⟨later, ledger', isLater, owesLater⟩, ?_⟩
  rw [pendingSearches, replies, isManager, isLater]
  exact quiet

/-- Circuits are used, and the client sees to what others see of that. -/
theorem Ordered.seesTo {client : Client} (h : client.Ordered) {connector : Connector}
    (idle : connector.Idle) {joined left : List ClientId}
    {effects : List (Nat × CircuitEffect)} {direct : Prop}
    (balances : CircuitRegistry.Balances client.connector.registry connector.registry joined left
      effects direct)
    {turn : ClientTurn} (sees : Sees { client := { client with connector } } turn effects) :
    turn.client.Ordered ∧ (client.connector.registry.holders ++ joined).Perm
      (left ++ turn.told ++ turn.client.connector.registry.holders) ∧
      (direct → client.connector.registry.Listed → turn.client.connector.registry.Listed) := by
  have total := balances.trans (sees.passes.balances direct)
  rw [List.append_nil, List.append_nil, List.append_nil] at total
  refine ⟨⟨total.whole h.whole, ?_, (h.answers sees.answers).1, ?_⟩, ?_, total.listed⟩
  · rw [sees.connector]
    exact ⟨idle.calls, idle.locks⟩
  · exact closers_perm (sees.closers _ h.closers) total.shut
  · rw [sees.told]
    exact total.owners

theorem Sound.seesTo {client : Client} (h : client.Sound) {connector : Connector}
    (idle : connector.Idle) {joined left : List ClientId}
    {effects : List (Nat × CircuitEffect)} {direct : Prop}
    (balances : CircuitRegistry.Balances client.connector.registry connector.registry joined left
      effects direct)
    (quiet : client.closed = true → connector.registry.registered = [] ∧
      connector.registry.circuits.length = client.connector.registry.circuits.length)
    {turn : ClientTurn} (sees : Sees { client := { client with connector } } turn effects) :
    Keeps client turn.client joined left turn.told direct := by
  obtain ⟨ordered, owners, listed⟩ := h.toOrdered.seesTo idle balances sees
  obtain ⟨-, searches⟩ := h.answers sees.answers
  refine ⟨⟨ordered, fun closed => ?_⟩, sees.closed.trans, owners,
    fun closed => (searches (h.ended closed).searches).2,
    fun closed => sees.passes.length.trans (quiet closed).2, listed⟩
  have wasClosed : client.closed = true := sees.closed.symm.trans closed
  exact ⟨sees.passes.empty (quiet wasClosed).1, (searches (h.ended wasClosed).searches).1,
    sees.reactor.trans (h.ended wasClosed).reactor⟩

/-- Circuits are used, of which none is opened. -/
theorem Sound.passes {client : Client} (h : client.Sound) {registry : CircuitRegistry}
    {left : List ClientId} {effects : List (Nat × CircuitEffect)}
    (passes : CircuitRegistry.Passes client.connector.registry registry [] left effects)
    (now : Moment) :
    let turn := { client with
      connector := { client.connector with registry } }.observeAll now effects
    Keeps client turn.client [] left turn.told :=
  @Sound.seesTo _ h { client.connector with registry } ⟨h.idle.calls, h.idle.locks⟩ _ _ _ True
    passes.toBalances (fun closed => ⟨passes.empty (h.ended closed).registered, passes.length⟩) _
    (sees_observeAll _ now effects)

/-- A deed that leaves circuits, sockets and searches alone. -/
theorem Sound.same {client : Client} (h : client.Sound) : Keeps client client [] [] [] :=
  ⟨h, id, (List.append_nil _).symm ▸ .refl _, fun _ => rfl, fun _ => rfl, fun _ => id⟩

/-- Searches may end, and none is started. -/
theorem Sound.handler {client : Client} (h : client.Sound) {handler : ResponseHandler}
    (answers : client.handler.Answers handler) : Keeps client { client with handler } [] [] [] := by
  have sees : Sees { client } { client := { client with handler } } [] :=
    ⟨rfl, rfl, rfl, .refl _, answers, fun _ => closers_same rfl rfl rfl, rfl⟩
  exact h.seesTo h.idle (.refl _ True) (fun closed => ⟨(h.ended closed).registered, rfl⟩) sees

/-- A search is started, which a client that was shut down refuses. -/
theorem Sound.asks {client : Client} (h : client.Sound) (isOpen : client.closed = false)
    {change : SearchManager → SearchManager}
    (owes : ∀ manager ledger, manager.Owes ledger → ∃ ledger', (change manager).Owes ledger') :
    Keeps client (client.mapSearch change) [] [] [] := by
  have never : ∀ {p : Prop}, client.closed = true → p := fun closed =>
    absurd (isOpen.symm.trans closed) Bool.false_ne_true
  obtain ⟨manager, ledger, isManager, before⟩ := h.owes
  obtain ⟨ledger', after⟩ := owes manager ledger before
  refine ⟨⟨⟨h.whole, h.idle, ⟨change manager, ledger', ?_, after⟩, h.closers⟩, never⟩, never,
    (List.append_nil _).symm ▸ .refl _, never, never, fun _ => id⟩
  rw [mapSearch, isManager]
  rfl

/-! ## Single deeds -/

/-- A circuit is used. -/
theorem Sound.useCircuit {client : Client} (h : client.Sound) (now : Moment) (circuit : Nat)
    (writes : List WriteOutcome) {action : CircuitRun → CircuitRun}
    (settles : ∀ run, CircuitRun.Settles run (action run)) :
    Keeps client (client.useCircuit now circuit writes action).client [] []
      (client.useCircuit now circuit writes action).told := by
  unfold Client.useCircuit
  split
  · exact h.same
  · rename_i used
    exact h.passes (CircuitRegistry.passes_use settles used) now

/-- An owner leaves a circuit. -/
theorem Sound.release {client : Client} (h : client.Sound) (now : Moment) (circuit : Nat)
    (owner : ClientId) :
    Keeps client (client.release now circuit owner).client []
      (if client.connector.registry.owns circuit owner then [owner] else [])
      (client.release now circuit owner).told := by
  unfold Client.release Client.useCircuit
  split
  · rename_i missing
    have nobody : client.connector.registry.owns circuit owner = false := by
      rw [CircuitRegistry.owns, Option.map_eq_none_iff.mp missing, Option.any_none]
    rw [nobody]
    exact h.same
  · rename_i used
    exact h.passes (CircuitRegistry.passes_release h.whole used) now

/-- The socket of a new circuit is watched. -/
theorem watch_spec (client : Client) (circuit : Nat) :
    (client.watch circuit).closed = client.closed ∧
      (client.watch circuit).connector = client.connector ∧
      (client.watch circuit).handler = client.handler ∧
      (client.Sound → (client.watch circuit).Sound) := by
  unfold watch
  cases registers : client.reactor.register { read := true } with
  | error refused => exact ⟨rfl, rfl, rfl, id⟩
  | ok result =>
    obtain ⟨key, reactor⟩ := result
    refine ⟨rfl, rfl, rfl, fun h => ?_⟩
    have happens := h.closers.happen (.register { read := true })
    have closers : (client.closers client.connector.registry.closedCircuits).reactor.register
        { read := true } = .ok (key, reactor) := registers
    rw [ReactorHistory.happen, closers] at happens
    refine ⟨⟨h.whole, h.idle, h.owes, happens⟩, fun closed => ?_⟩
    rw [Reactor.register, if_pos (h.ended closed).reactor] at registers
    contradiction

theorem connect_of_closed {client : Client} (closed : client.closed = true) (owner : ClientId)
    (key : CircuitKey) (world : ConnectWorld) :
    client.connect owner key world = (.error .shutDown, { client }) := by
  rw [connect, if_pos closed]

/-- An owner connects to a server. That is direct if the connection leads there, or if the client
was shut down. -/
theorem Sound.connect {client : Client} (h : client.Sound) (owner : ClientId) (key : CircuitKey)
    (world : ConnectWorld) :
    Keeps client (client.connect owner key world).2.client
      (client.connector.registry.joinedBy owner (client.connect owner key world).1) []
      (client.connect owner key world).2.told
      (client.closed = false → world.leadsTo key.1 = key.1) := by
  cases closed : client.closed with
  | true =>
    rw [connect_of_closed closed]
    exact h.same.anyway _
  | false =>
    rw [Client.connect, if_neg (Bool.eq_false_iff.mp closed)]
    have never : ∀ {p : Prop}, client.closed = true → p := fun isClosed =>
      absurd (closed.symm.trans isClosed) Bool.false_ne_true
    have connects := Connector.connect_balances h.idle h.whole owner key
      { world with reactorClosed := client.reactor.closed }
    dsimp only
    generalize client.connector.connect owner key
      { world with reactorClosed := client.reactor.closed } = connected at connects ⊢
    obtain ⟨result, connector, effects⟩ := connected
    obtain ⟨idle, balances⟩ := connects
    dsimp only
    -- The socket of a new circuit is watched before the client sees to anything.
    have watched : ∃ after : Client, (if client.connector.registry.circuits.length <
        connector.registry.circuits.length then
          client.watch client.connector.registry.circuits.length else client) = after ∧
        after.closed = client.closed ∧ after.connector = client.connector ∧ after.Sound := by
      refine ⟨_, rfl, ?_⟩
      split
      · obtain ⟨still, same, -, sound⟩ :=
          client.watch_spec client.connector.registry.circuits.length
        exact ⟨still, same, sound h⟩
      · exact ⟨rfl, rfl, h⟩
    obtain ⟨after, isAfter, still, same, sound⟩ := watched
    rw [isAfter, CircuitRegistry.joinedBy_mapError]
    rw [← same] at balances
    have keeps := sound.seesTo idle balances (fun isClosed => never (still.symm.trans isClosed))
      (sees_observeAll { after with connector } world.now _)
    have owners := keeps.owners
    have listed := keeps.listed
    rw [same] at keeps owners listed
    exact ⟨keeps.sound, never, owners, never, never, fun leads => listed (leads rfl)⟩

/-- All circuits are checked. -/
theorem Sound.checkLiveness {client : Client} (h : client.Sound) (now : Moment) :
    Keeps client (client.checkLiveness now).client [] [] (client.checkLiveness now).told :=
  h.passes (CircuitRegistry.passes_checkLiveness _ now _) now

/-- The frames of a datagram are handled. -/
theorem Sound.handleFrames {client : Client} (h : client.Sound) (now : Moment)
    (source : SocketAddress) (frames : List Frame) :
    Keeps client (client.handleFrames now source frames).client [] []
      (client.handleFrames now source frames).told :=
  h.seesTo h.idle (.refl _ True) (fun closed => ⟨(h.ended closed).registered, rfl⟩)
    (client.sees_handleFrames now source frames)

/-- A search is given up. -/
theorem Sound.cancelSearch {client : Client} (h : client.Sound) (now : Moment)
    (channelId : UInt32) : Keeps client (client.cancelSearch now channelId).2 [] [] [] := by
  obtain ⟨manager, -, isManager, -⟩ := h.owes
  rw [Client.cancelSearch, isManager]
  refine h.handler fun same ledger isSame owes => ?_
  obtain rfl : manager = same := Option.some.inj (isManager.symm.trans isSame)
  refine ⟨_, _, rfl, owes.unregister now channelId, fun quiet => ?_⟩
  rw [SearchManager.unregister_eq, SearchManager.find?_of_quiet quiet]
  exact ⟨quiet, rfl⟩

/-- The timer's thread runs what is due. -/
theorem Sound.runSearches {client : Client} (h : client.Sound) (now : Moment) :
    Keeps client (client.mapSearch fun manager => (manager.runAllDue now).2) [] [] [] :=
  h.handler (.of_same rfl fun manager => manager.samePromises_runDue _ now)

/-- The reactor takes a turn. -/
theorem Sound.takeTurn {client : Client} (h : client.Sound) (states : SocketStates) :
    Keeps client { client with
      reactor := (client.reactor.process states).reactor
      disconnected := client.disconnected ++ (client.reactor.process states).closers }
      [] [] [] := by
  have happens := h.closers.happen (.process states)
  refine ⟨⟨⟨h.whole, h.idle, h.owes, ⟨happens.seen, happens.empty, happens.balance⟩⟩,
    fun closed => ⟨(h.ended closed).registered, (h.ended closed).searches, ?_⟩⟩, id,
    (List.append_nil _).symm ▸ .refl _, fun _ => rfl, fun _ => rfl, fun _ => id⟩
  show (client.reactor.process states).reactor.closed = true
  rw [Reactor.process_of_closed (h.ended closed).reactor]
  exact (h.ended closed).reactor

/-! ## Shutting down -/

/-- The client after the first step: its searches are over. -/
def ending (client : Client) : Client :=
  ({ client with closed := true } : Client).mapSearch (·.shutdown)

/-- The client after the second step: its circuits are closed, and it has seen to that. -/
def closing (client : Client) (now : Moment) : ClientTurn :=
  { client.ending with
    connector := { client.connector with
      registry := client.connector.registry.closeAll.1 } }.observeAll now
    client.connector.registry.closeAll.2

/-- The client after the last step: its sockets are closed and its reactor is shut down. -/
def stopped (client : Client) : Client :=
  { client with
    searchTransport := client.searchTransport.close
    beaconListener := client.beaconListener.map (·.close)
    reactor := client.reactor.shutdown.2
    disconnected := client.disconnected ++ client.reactor.shutdown.1 }

theorem shutdown_of_closed {client : Client} (closed : client.closed = true) (now : Moment) :
    client.shutdown now = { client } := by
  rw [shutdown, if_pos closed]

theorem shutdown_of_open {client : Client} (isOpen : client.closed = false) (now : Moment) :
    client.shutdown now =
      { client.closing now with client := (client.closing now).client.stopped } := by
  rw [shutdown, if_neg (Bool.eq_false_iff.mp isOpen)]
  rfl

/-- Without searches the replies that were open are closed. -/
theorem Ordered.ending {client : Client} (h : client.Ordered) :
    client.ending.Ordered ∧ client.ending.pendingSearches = [] ∧
      ∀ number : Nat, client.ending.replies[number]? =
        client.replies[number]?.map (·.followedBy .closed) := by
  obtain ⟨manager, ledger, isManager, owes⟩ := h.owes
  have search : client.ending.handler.search = some manager.shutdown := by
    rw [Client.ending, mapSearch, isManager]
    rfl
  refine ⟨⟨h.whole, h.idle, ⟨manager.shutdown, _, search, owes.shutdown⟩, h.closers⟩, ?_,
    fun number => ?_⟩
  · rw [pendingSearches, search]
    rfl
  · have closes := owes.shutdown.replies number
    rw [ReplyLedger.getElem?_resolve, Option.map_map] at closes
    rw [replies, replies, search, isManager]
    refine closes.trans ?_
    show _ = Option.map _ manager.replies[number]?
    rw [owes.replies, Option.map_map]
    rfl

/-- Once its reactor is shut down the client is over. -/
theorem Ordered.stopped {client : Client} (h : client.Ordered) :
    client.stopped.Ordered ∧ client.stopped.reactor.closed = true := by
  have happens := h.closers.happen .shutdown
  refine ⟨⟨h.whole, h.idle, h.owes, happens⟩, ?_⟩
  show client.reactor.shutdown.2.closed = true
  cases state : client.reactor.closed with
  | true =>
    rw [Reactor.shutdown, if_pos state]
    exact state
  | false =>
    have seen : client.reactor.SeenTo client.reactor.requests := h.closers.seen state
    rw [seen.shutdown_eq state]

/-- When nothing is searched for, no reply is open. -/
theorem Ordered.replies_ne_waiting {client : Client} (h : client.Ordered)
    (quiet : client.pendingSearches = []) (number : Nat) :
    client.replies[number]? ≠ some .waiting := by
  obtain ⟨manager, ledger, isManager, owes⟩ := h.owes
  rw [pendingSearches, isManager] at quiet
  rw [replies, isManager]
  intro waiting
  obtain ⟨⟨channelId, status⟩, listed, rfl⟩ :=
    Option.map_eq_some_iff.mp ((owes.replies number).symm.trans waiting)
  have carried := (owes.carried channelId number).mp listed
  rw [SearchManager.pending_eq_nil_iff.mp quiet] at carried
  exact List.not_mem_nil carried

/-- When a client is shut down all registered circuits and all open replies are closed. -/
theorem Sound.shutdown {client : Client} (h : client.Sound) (now : Moment) :
    Keeps client (client.shutdown now).client [] [] (client.shutdown now).told ∧
      (client.shutdown now).client.closed = true ∧
      (client.shutdown now).client.connector.registry.circuits.length =
        client.connector.registry.circuits.length ∧
      (∀ number < client.connector.registry.circuits.length,
        (client.shutdown now).client.connector.registry.isClosed number = true ↔
          client.connector.registry.isClosed number = true ∨
            number ∈ client.connector.registry.all) ∧
      ∀ number : Nat, (client.shutdown now).client.replies[number]? =
        client.replies[number]?.map (·.followedBy .closed) := by
  cases closed : client.closed with
  | true =>
    -- Nothing is searched for any more, so that no reply is open.
    rw [shutdown_of_closed closed]
    refine ⟨h.same, closed, rfl, fun number _ => ?_, fun number => ?_⟩
    · rw [CircuitRegistry.all, (h.ended closed).registered]
      exact (or_iff_left List.not_mem_nil).symm
    have none := h.replies_ne_waiting (h.ended closed).searches number
    cases found : client.replies[number]? with
    | none => rfl
    | some status =>
      cases status with
      | waiting => exact absurd found none
      | answered | closed => rfl
  | false =>
    have never : ∀ {p : Prop}, client.closed = true → p := fun isClosed =>
      absurd (closed.symm.trans isClosed) Bool.false_ne_true
    obtain ⟨closes, registered, shut⟩ := CircuitRegistry.closeAll_spec client.connector.registry
    -- Searches end first. The reactor is last, as closers wait in it until then.
    obtain ⟨ended, nothing, replies⟩ := h.toOrdered.ending
    have sees : Sees _ (client.closing now) _ := sees_observeAll _ now _
    obtain ⟨ordered, owners, listed⟩ := @Ordered.seesTo _ ended
      { client.connector with registry := client.connector.registry.closeAll.1 }
      ⟨h.idle.calls, h.idle.locks⟩ _ _ _ True closes.toBalances _ sees
    obtain ⟨nothingLater, repliesLater⟩ := (ended.answers sees.answers).2 nothing
    obtain ⟨stopped, reactor⟩ := ordered.stopped
    rw [shutdown_of_open closed]
    refine ⟨⟨⟨stopped, fun _ => ⟨sees.passes.empty registered, nothingLater, reactor⟩⟩,
      fun _ => sees.closed, owners, never, never, listed⟩, sees.closed,
      sees.passes.length.trans closes.length, fun number inRange => ?_, fun number => ?_⟩
    · exact (sees.passes.isClosed_iff number).trans (shut number inRange)
    · rw [← replies number, ← repliesLater]
      rfl

end Client

/-! ## Whole histories -/

namespace ClientHistory

/-- Everything that a deed can do. -/
inductive Move (history : ClientHistory) (direct : Prop) : ClientHistory → Prop
  /-- Owners came, left or were told. None comes once the client was shut down. -/
  | mk {client : Client} {joined left told : List ClientId}
      (keeps : history.client.Keeps client joined left told direct)
      (refuses : history.client.closed = true → joined = []) :
      Move history direct
        { client
          joined := history.joined ++ joined
          left := history.left ++ left
          told := history.told ++ told }

/-- A deed in which no owner comes, leaves or is told. -/
theorem Move.of_client {history : ClientHistory} {client : Client} {direct : Prop}
    (keeps : history.client.Keeps client [] [] []) :
    history.Move direct { history with client } := by
  have move := Move.mk (keeps.anyway direct) fun _ => rfl
  rwa [List.append_nil, List.append_nil, List.append_nil] at move

/-- Every deed is of this kind. It is direct if a connection leads where it was asked to, or is
refused. -/
theorem move_perform {history : ClientHistory} (h : history.client.Sound) (deed : ClientDeed) :
    history.Move (history.client.closed = false → deed.LeadsThere) (history.perform deed) := by
  cases deed with
  | search now channelId name =>
    rw [perform, Client.search, Client.requireOpen]
    cases closed : history.client.closed with
    | true => exact .of_client h.same
    | false => exact .of_client (h.asks closed fun manager ledger owes =>
        ⟨_, owes.register now channelId name⟩)
  | searchWithReply now channelId name =>
    rw [perform, Client.searchWithReply, Client.requireOpen]
    cases closed : history.client.closed with
    | true => exact .of_client h.same
    | false => exact .of_client (h.asks closed fun manager ledger owes =>
        ⟨_, owes.registerWithReply now channelId name⟩)
  | cancelSearch now channelId => exact .of_client (h.cancelSearch now channelId)
  | runSearches now => exact .of_client (h.runSearches now)
  | searchReply now source bytes =>
    exact .mk ((h.handleFrames now source _).anyway _) fun _ => rfl
  | beacon now source bytes => exact .mk ((h.handleFrames now source _).anyway _) fun _ => rfl
  | connect owner key world =>
    have refuses : history.client.closed = true → history.client.connector.registry.joinedBy owner
        (history.client.connect owner key world).1 = [] := by
      intro closed
      rw [Client.connect_of_closed closed]
      rfl
    exact .mk (h.connect owner key world) refuses
  | release now circuit owner =>
    exact .mk ((h.release now circuit owner).anyway _) fun _ => rfl
  | read now circuit reads writes =>
    exact .mk ((h.useCircuit now circuit writes fun run => .readAll run now reads).anyway _)
      fun _ => rfl
  | send now circuit bytes finish writes =>
    exact .mk ((h.useCircuit now circuit writes fun run => .send run bytes finish).anyway _)
      fun _ => rfl
  | checkLiveness now => exact .mk ((h.checkLiveness now).anyway _) fun _ => rfl
  | createNotifier => exact .of_client h.same
  | takeTurn states => exact .of_client (h.takeTurn states)
  | shutdown now => exact .mk ((h.shutdown now).1.anyway _) fun _ => rfl

/-- The invariant: the client is in order, and whoever became an owner of a circuit has left it, was
told that it is closed, or owns it still, once for each time. -/
structure Sound (history : ClientHistory) : Prop where
  /-- The client is in order. -/
  client : history.client.Sound
  /-- The account of owners. -/
  owners : history.joined.Perm
    (history.left ++ history.told ++ history.client.connector.registry.holders)

theorem Sound.start (config : ClientConfig) (loginName ownHost : String) (listening : Bool) :
    (start config loginName ownHost listening).Sound where
  client :=
    { whole := ⟨nofun, nofun⟩
      idle := ⟨rfl, rfl⟩
      owes := ⟨_, [], rfl, List.nodup_nil, fun _ => rfl,
        fun _ _ => iff_of_false nofun List.not_mem_nil⟩
      closers := .new
      ended := nofun }
  owners := .refl []

/-- Every deed keeps the account. -/
theorem Sound.move {history after : ClientHistory} {direct : Prop} (h : history.Sound)
    (move : history.Move direct after) : after.Sound := by
  cases move with
  | mk keeps refuses =>
    refine ⟨keeps.sound, ?_⟩
    -- For each client the account before and that of the deed add up.
    rw [List.perm_iff_count]
    intro client
    have before := h.owners.count_eq client
    have moved := keeps.owners.count_eq client
    simp only [List.count_append] at before moved ⊢
    omega

theorem Sound.perform {history : ClientHistory} (h : history.Sound) (deed : ClientDeed) :
    (history.perform deed).Sound :=
  h.move (move_perform h.client deed)

theorem Sound.run {history : ClientHistory} (h : history.Sound) (deeds : List ClientDeed) :
    (history.run deeds).Sound := by
  induction deeds generalizing history with
  | nil => exact h
  | cons deed later ih => exact ih (h.perform deed)

theorem listed_start (config : ClientConfig) (loginName ownHost : String) (listening : Bool) :
    (start config loginName ownHost listening).client.connector.registry.Listed :=
  fun _ _ isOpen => nomatch isOpen.choose_spec.1

theorem Move.listed {history after : ClientHistory} {direct : Prop}
    (move : history.Move direct after) (isDirect : direct)
    (listed : history.client.connector.registry.Listed) :
    after.client.connector.registry.Listed := by
  cases move with
  | mk keeps => exact keeps.listed isDirect listed

/-- Open circuits stay registered while connections lead where they were asked to. -/
theorem Sound.listed_run {history : ClientHistory} (h : history.Sound)
    (listed : history.client.connector.registry.Listed) {deeds : List ClientDeed}
    (leads : ∀ deed ∈ deeds, deed.LeadsThere) :
    (history.run deeds).client.connector.registry.Listed := by
  induction deeds generalizing history with
  | nil => exact listed
  | cons deed later ih =>
    obtain ⟨here, leadsLater⟩ := List.forall_mem_cons.mp leads
    have move := move_perform h.client deed
    exact ih (h.perform deed) (move.listed (fun _ => here) listed) leadsLater

end ClientHistory

end ChannelAccess
