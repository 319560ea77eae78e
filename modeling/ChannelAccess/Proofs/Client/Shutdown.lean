import ChannelAccess.Proofs.Client.Deeds

/-!
# Shutting a client down

`shutdown_settles` says what becomes of a client that is shut down after any deeds: replies that are
open are closed, and the others stay; no circuit is registered and nothing is searched for; the
circuits that were registered are closed, and the closer of every closed circuit has run once. If
all open circuits were registered, which they are when connections lead where they were asked to,
whoever still owns an open circuit is told, once for each circuit, and nobody else. Then the client
is `Client.Settled` and stays so whatever is done later, and nobody is told any more. It refuses to
search, to connect and to make a notifier in any case.

The closers run last, when the reactor is shut down: those of the circuits that are closed on the
way wait for their sockets to leave the poll until then. That none is forgotten follows from the
account of closers that every deed keeps (`Client.Ordered.closers`).
-/

namespace ChannelAccess

namespace Client

/-- All that a client has was settled. -/
structure Settled (client : Client) : Prop where
  /-- No circuit is registered. -/
  registered : client.connector.registry.registered = []
  /-- All circuits are closed, and nobody owns one. -/
  circuits : ∀ circuit ∈ client.connector.registry.circuits,
    circuit.isClosed = true ∧ circuit.owners = []
  /-- The closer of each circuit has run once. -/
  disconnected : client.disconnected.Perm (List.range client.connector.registry.circuits.length)
  /-- Nothing is searched for. -/
  searches : client.pendingSearches = []
  /-- No reply is open. -/
  replies : ∀ number : Nat, client.replies[number]? ≠ some .waiting

/-- No closer waits in a client that was shut down. -/
theorem Sound.disconnected_perm {client : Client} (h : client.Sound)
    (closed : client.closed = true) :
    client.disconnected.Perm client.connector.registry.closedCircuits := by
  obtain ⟨-, -, reactor⟩ := h.ended closed
  obtain ⟨nextKey, empty⟩ := h.closers.empty reactor
  have balance := h.closers.balance
  have none : (client.closers client.connector.registry.closedCircuits).waiting = [] := by
    rw [ReactorHistory.waiting, empty]
    rfl
  rw [none, List.append_nil] at balance
  exact balance.symm

/-- A client that was shut down is settled, if its open circuits were registered. -/
theorem Sound.settled {client : Client} (h : client.Sound) (closed : client.closed = true)
    (complete : client.connector.registry.Complete) : client.Settled := by
  obtain ⟨registered, searches, -⟩ := h.ended closed
  have allClosed : ∀ number < client.connector.registry.circuits.length,
      client.connector.registry.isClosed number = true := by
    intro number inRange
    by_contra isOpen
    have member := complete number inRange (Bool.eq_false_iff.mpr isOpen)
    rw [CircuitRegistry.all, registered] at member
    exact List.not_mem_nil member
  refine ⟨registered, fun circuit member => ?_, ?_, searches, h.replies_ne_waiting searches⟩
  · obtain ⟨number, present⟩ := List.getElem?_of_mem member
    have isClosed := allClosed number (List.getElem?_eq_some_iff.mp present).1
    rw [CircuitRegistry.isClosed_eq present] at isClosed
    exact ⟨isClosed, h.whole.unowned circuit member isClosed⟩
  · have all : client.connector.registry.closedCircuits =
        List.range client.connector.registry.circuits.length :=
      List.filter_eq_self.mpr fun number member => allClosed number (List.mem_range.mp member)
    exact all ▸ h.disconnected_perm closed

/-- No circuit of a settled client is open. -/
theorem Settled.isClosed {client : Client} (h : client.Settled) {number : Nat}
    (inRange : number < client.connector.registry.circuits.length) :
    client.connector.registry.isClosed number = true := by
  have present := List.getElem?_eq_getElem inRange
  rw [CircuitRegistry.isClosed_eq present]
  exact (h.circuits _ (List.mem_of_getElem? present)).1

theorem Settled.listed {client : Client} (h : client.Settled) :
    client.connector.registry.Listed := by
  rintro key number ⟨circuit, present, -, isOpen⟩
  have closed := (h.circuits circuit (List.mem_of_getElem? present)).1
  exact absurd (isOpen.symm.trans closed) Bool.false_ne_true

theorem Settled.holders_eq_nil {client : Client} (h : client.Settled) :
    client.connector.registry.holders = [] :=
  List.flatMap_eq_nil_iff.mpr fun circuit member => (h.circuits circuit member).2

end Client

namespace ClientHistory

/-- Nothing more becomes of a client that was shut down. If it was settled it stays so, and nobody
is told any more. -/
theorem Sound.perform_of_closed {history : ClientHistory} (h : history.Sound)
    (closed : history.client.closed = true) (deed : ClientDeed) :
    let after := history.perform deed
    after.client.closed = true ∧ after.client.replies = history.client.replies ∧
      after.client.connector.registry.circuits.length =
        history.client.connector.registry.circuits.length ∧
      (history.client.Settled → after.client.Settled ∧ after.told = history.told) := by
  intro after
  have sound : after.Sound := h.perform deed
  have move : history.Move (history.client.closed = false → deed.LeadsThere) after :=
    move_perform h.client deed
  generalize after = last at sound move ⊢
  cases move with
  | @mk _ joined _ told keeps refuses =>
    refine ⟨keeps.closed closed, keeps.replies closed, keeps.circuits closed,
      fun settled => ⟨?_, ?_⟩⟩
    · refine keeps.sound.settled (keeps.closed closed) (CircuitRegistry.Listed.complete ?_)
      exact keeps.listed (fun isOpen => absurd (isOpen.symm.trans closed) Bool.false_ne_true)
        settled.listed
    · have owners := keeps.owners
      rw [settled.holders_eq_nil, refuses closed] at owners
      have none := List.append_eq_nil_iff.mp (List.append_eq_nil_iff.mp owners.nil_eq.symm).1
      show history.told ++ told = history.told
      rw [none.2, List.append_nil]

theorem Sound.run_of_closed {history : ClientHistory} (h : history.Sound)
    (closed : history.client.closed = true) (later : List ClientDeed) :
    let last := history.run later
    last.client.closed = true ∧ last.client.replies = history.client.replies ∧
      last.client.connector.registry.circuits.length =
        history.client.connector.registry.circuits.length ∧
      (history.client.Settled → last.client.Settled ∧ last.told = history.told) := by
  induction later generalizing history with
  | nil => exact ⟨closed, rfl, rfl, fun settled => ⟨settled, rfl⟩⟩
  | cons deed later ih =>
    obtain ⟨still, replies, circuits, settles⟩ := h.perform_of_closed closed deed
    obtain ⟨stays, repliesLater, circuitsLater, settlesLater⟩ := ih (h.perform deed) still
    refine ⟨stays, repliesLater.trans replies, circuitsLater.trans circuits, fun settled => ?_⟩
    obtain ⟨settledNext, told⟩ := settles settled
    exact (settlesLater settledNext).imp_right fun toldLater => toldLater.trans told

/-- A client that was shut down refuses, and stays as it is. -/
theorem perform_of_refused {history : ClientHistory} (closed : history.client.closed = true)
    {deed : ClientDeed} (refused : deed.isRefused = true) : history.perform deed = history := by
  cases deed with
  | search now channelId name =>
    rw [perform, Client.search, Client.requireOpen, if_pos closed]
    rfl
  | searchWithReply now channelId name =>
    rw [perform, Client.searchWithReply, Client.requireOpen, if_pos closed]
    rfl
  | connect owner key world =>
    rw [perform, Client.connect_of_closed closed]
    simp [follow, CircuitRegistry.joinedBy]
  | createNotifier => rfl
  | cancelSearch | runSearches | searchReply | beacon | release | read | send | checkLiveness
  | takeTurn | shutdown => exact absurd refused Bool.false_ne_true

end ClientHistory

/-- **Shutting a client down settles everything that is registered**, whatever was done before,
shutting it down included:
* whoever became an owner of a circuit has left it, was told that it is closed, or owns it still,
  and nobody owns a closed circuit or a circuit twice,
* just the circuits that were registered are closed, owners are told or are owners still, once for
  each circuit, replies that are open are closed, and the others stay,
* whatever is done later, no circuit is registered, the closer of each closed one has run once,
  nothing is searched for and no reply is open, nothing becomes of the replies, and shutting the
  client down again does nothing,
* searches, connections and notifiers are refused, and what is refused changes nothing.

All open circuits are registered if connections led where they were asked to. Exactly if they all
are, the client is settled, with all circuits closed and without owners. Then all owners are told
and nobody else is, the client stays settled and nobody is told any more. -/
theorem shutdown_settles (config : ClientConfig) (loginName ownHost : String) (listening : Bool)
    (deeds : List ClientDeed) (now : Moment) :
    let history := (ClientHistory.start config loginName ownHost listening).run deeds
    let client := history.client
    let registry := client.connector.registry
    let turn := client.shutdown now
    let after := turn.client.connector.registry
    history.joined.Perm (history.left ++ history.told ++ registry.holders) ∧
    (∀ circuit ∈ registry.circuits,
      circuit.owners.Nodup ∧ (circuit.isClosed = true → circuit.owners = [])) ∧
    (∀ number < registry.circuits.length, after.isClosed number = true ↔
      registry.isClosed number = true ∨ number ∈ registry.all) ∧
    registry.holders.Perm (turn.told ++ after.holders) ∧
    (∀ number : Nat, turn.client.replies[number]? =
      client.replies[number]?.map (·.followedBy .closed)) ∧
    ((∀ deed ∈ deeds, deed.LeadsThere) → registry.Complete) ∧
    (turn.client.Settled ↔ registry.Complete) ∧
    (registry.Complete → turn.told.Perm registry.holders) ∧
    ∀ later : List ClientDeed,
      let last := (history.perform (.shutdown now)).run later
      (registry.Complete →
        last.client.Settled ∧ last.told = history.told ++ turn.told) ∧
      last.client.connector.registry.registered = [] ∧
      last.client.disconnected.Perm last.client.connector.registry.closedCircuits ∧
      last.client.connector.registry.circuits.length = registry.circuits.length ∧
      last.client.pendingSearches = [] ∧
      (∀ number : Nat, last.client.replies[number]? ≠ some .waiting) ∧
      last.client.replies = turn.client.replies ∧
      (∀ again, last.client.shutdown again = { client := last.client }) ∧
      (∀ asked channelId name,
        last.client.search asked channelId name = .error .shutDown ∧
          last.client.searchWithReply asked channelId name = .error .shutDown) ∧
      (∀ owner key world,
        last.client.connect owner key world = (.error .shutDown, { client := last.client })) ∧
      (∀ α : Type, last.client.createNotifier α = .error .shutDown) ∧
      ∀ deed : ClientDeed, deed.isRefused = true → last.perform deed = last := by
  intro history client registry turn after
  have started := ClientHistory.Sound.start config loginName ownHost listening
  have sound : history.Sound := started.run deeds
  obtain ⟨keeps, closed, circuits, shut, replies⟩ := sound.client.shutdown now
  have owners : registry.holders.Perm (turn.told ++ after.holders) := by
    have owners := keeps.owners
    rwa [List.append_nil, List.nil_append] at owners
  have settled : turn.client.Settled ↔ registry.Complete := by
    constructor
    · -- A circuit that is closed now and was open before was registered.
      intro settled number inRange isOpen
      have isClosed := settled.isClosed (circuits ▸ inRange)
      refine ((shut number inRange).mp isClosed).resolve_left ?_
      exact Bool.eq_false_iff.mp isOpen
    · intro complete
      refine keeps.sound.settled closed fun number inRange isOpen => ?_
      have still : ¬ registry.isClosed number = true ∧ number ∉ registry.all :=
        not_or.mp (mt (shut number (circuits ▸ inRange)).mpr (Bool.eq_false_iff.mp isOpen))
      exact absurd (complete number (circuits ▸ inRange) (Bool.eq_false_iff.mpr still.1)) still.2
  refine ⟨sound.owners, fun circuit member => ⟨sound.client.whole.nodup circuit member,
    sound.client.whole.unowned circuit member⟩, shut, owners, replies, fun leads => ?_, settled,
    fun complete => ?_, fun later => ?_⟩
  · exact (started.listed_run (ClientHistory.listed_start _ _ _ _) leads).complete
  · -- All owners are told, as nobody owns a circuit afterwards.
    rw [(settled.mpr complete).holders_eq_nil, List.append_nil] at owners
    exact owners.symm
  · intro last
    have shutDown := sound.perform (.shutdown now)
    obtain ⟨stays, repliesLater, circuitsLater, settles⟩ := shutDown.run_of_closed closed later
    have soundLater : last.Sound := shutDown.run later
    obtain ⟨registered, searches, -⟩ := soundLater.client.ended stays
    refine ⟨fun complete => settles (settled.mpr complete), registered,
      soundLater.client.disconnected_perm stays, circuitsLater.trans circuits, searches,
      soundLater.client.replies_ne_waiting searches, repliesLater,
      fun again => Client.shutdown_of_closed stays again, fun asked channelId name => ⟨?_, ?_⟩,
      fun owner key world => Client.connect_of_closed stays owner key world, fun α => ?_,
      fun deed => ClientHistory.perform_of_refused stays⟩
    · rw [Client.search, Client.requireOpen, if_pos stays]
      rfl
    · rw [Client.searchWithReply, Client.requireOpen, if_pos stays]
      rfl
    · rw [Client.createNotifier, Client.requireOpen, if_pos stays]
      rfl

/-- A reply is promised, and two clients connect to a server, over connections that lead somewhere.
-/
def twoConnect (server : SocketAddress) (leadsTo : SocketAddress → SocketAddress) :
    List ClientDeed :=
  let world : ConnectWorld := { leadsTo, writes := List.replicate 4 (.wrote 4096) }
  [.searchWithReply .zero 1 "pv", .connect 7 (server, 0) world, .connect 8 (server, 0) world]

/-- Both clients own the one circuit to the server, and are told. -/
theorem shutdown_settles_twoConnect :
    let history := (ClientHistory.start {} "user" "host" true).run
      (twoConnect ⟨.loopback, 5064⟩ id)
    let turn := history.client.shutdown .zero
    history.client.connector.registry.Complete ∧ turn.client.Settled ∧ turn.told.Perm [7, 8] ∧
      turn.client.disconnected = [0] ∧ turn.client.replies = #[.closed] := by
  intro history turn
  obtain ⟨-, -, -, -, -, listed, settled, told, -⟩ := shutdown_settles {} "user" "host" true
    (twoConnect ⟨.loopback, 5064⟩ id) .zero
  have complete := listed (by simp [twoConnect, ClientDeed.LeadsThere])
  refine ⟨complete, settled.mpr complete, ?_, by decide +kernel, by decide +kernel⟩
  have owners : history.client.connector.registry.holders = [7, 8] := by decide +kernel
  exact owners ▸ told complete

/-- The unspecified address leads to the own host, so that each client opens a circuit. The second
one takes the place of the first in the registry, whose owner is not told and owns an open circuit
still. -/
theorem not_shutdown_settles_unspecified :
    let history := (ClientHistory.start {} "user" "host" true).run
      (twoConnect ⟨.unspecified, 5064⟩ Connector.toOwnHost)
    let turn := history.client.shutdown .zero
    let registry := turn.client.connector.registry
    history.client.connector.registry.holders = [7, 8] ∧ turn.told = [8] ∧
      registry.holders = [7] ∧ registry.circuits.map Circuit.isClosed = [false, true] ∧
      registry.registered = [] ∧ turn.client.disconnected = [1] := by
  refine ⟨?_, ?_, ?_, ?_, ?_, ?_⟩ <;> decide +kernel

end ChannelAccess
