import ChannelAccess.Client.Basic
import ChannelAccess.Proofs.Beacon.Filtering
import ChannelAccess.Proofs.Circuit.Registry
import ChannelAccess.Proofs.Table
import Mathlib.Data.List.Induction

/-!
# Servers do not disturb each other's beacons

Every frame comes to one handler, which keeps a detector for each server that a beacon spoke of.
`beacons_of_servers_apart` says that what is found of a server depends on its own beacons alone,
whatever comes in between: other frames, beacons of other servers, servers that are looked up, and
whatever others do to searches and circuits (`HandlerEvent`). It also says what a beacon leads to
(`HandlerRun.Heeds`), and that no other frame leads to any of it (`HandlerRun.PassesOver`).

The server that a beacon speaks of is told from the fields of its header
(`Header.beaconServer`). A single event changes at most what is noted of one server
(`HandlerRun.beacons_happen`), which gives what is known of each after it
(`HandlerRun.detector_happen`), and by induction after any number of them. Two runs in which the
same is known of a server find the same anomalies of it (`HandlerRun.anomalies_filter`). The frames
that a client receives are such events, those of datagrams (`receiving_handleFrames`) and those of
circuits (`receiving_observe`).
-/

namespace ChannelAccess

/-! ## Which server a beacon speaks of -/

/-- The server that a beacon speaks of: at the address in its header, or the sender's if that is
zero, and at the port that the count in its header is modulo two to the sixteenth, or the usual one
if that is zero. -/
def Header.beaconServer (header : Header) (usualPort : UInt16) (source : SocketAddress) :
    SocketAddress where
  ip := if header.parameter2 = 0 then source.ip.withoutZone else .v4 header.parameter2
  port :=
    if header.dataCount.toNat % 65536 = 0 then usualPort
    else .ofNat (header.dataCount.toNat % 65536)

/-- Something that comes to what handles frames, or happens to what it works with. -/
inductive HandlerEvent where
  /-- A frame comes from a sender. The transport that it comes on may have a single peer. -/
  | arrival (now : Moment) (source : SocketAddress) (peer : Option SocketAddress) (frame : Frame)
  /-- Somebody asks for what is known of a server. -/
  | lookUp (server : SocketAddress)
  /-- Others search and use circuits: the searches are these from now on and the circuits are
  those, if there still are any. -/
  | others (search : Option SearchManager) (registry : Option CircuitRegistry)

namespace HandlerEvent

/-- The beacon that comes, and the server that it speaks of. -/
def beacon? (usualPort : UInt16) : HandlerEvent → Option (SocketAddress × Beacon)
  | .arrival now source _ frame =>
    if frame.header.command = Command.beacon then
      some (frame.header.beaconServer usualPort source,
        { minorRevision := frame.header.dataType
          sequence := frame.header.parameter1
          time := now })
    else none
  | .lookUp _ | .others _ _ => none

/-- A beacon of a server comes. -/
def isBeaconOf (usualPort : UInt16) (server : SocketAddress) (event : HandlerEvent) : Bool :=
  (event.beacon? usualPort).any (·.1 == server)

/-- The server that a beacon speaks of or that is looked up. -/
def server? (usualPort : UInt16) : HandlerEvent → Option SocketAddress
  | .lookUp server => some server
  | event => (event.beacon? usualPort).map (·.1)

/-- The beacons of a server, in order. -/
def beaconsOf (usualPort : UInt16) (server : SocketAddress) (events : List HandlerEvent) :
    List Beacon :=
  (events.filterMap (·.beacon? usualPort)).filterMap fun (speaksOf, beacon) =>
    if speaksOf = server then some beacon else none

end HandlerEvent

/-! ## What comes of frames -/

/-- What handles frames, at work: with the circuits that it knows of, if there still are any. -/
structure HandlerRun where
  /-- What handles frames. -/
  handler : ResponseHandler
  /-- The circuits. -/
  registry : Option CircuitRegistry := none

namespace HandlerRun

/-- Something happens. Also gives what the client is told. -/
def happen (run : HandlerRun) : HandlerEvent → List ClientEvent × HandlerRun
  | .arrival now source peer frame =>
    let handled := run.handler.handle now source peer frame
    let registry := match handled.alive with
      | none => run.registry
      | some server => run.registry.map (·.markAlive server now)
    (handled.events, { handler := handled.handler, registry })
  | .lookUp server => ([], { run with handler := run.handler.meet server })
  | .others search registry => ([], { handler := { run.handler with search }, registry })

/-- Some things happen one after the other. -/
def happenAll (run : HandlerRun) (events : List HandlerEvent) : HandlerRun :=
  events.foldl (fun run event => (run.happen event).2) run

/-- What the client is told at each event. -/
def told (run : HandlerRun) : List HandlerEvent → List (HandlerEvent × List ClientEvent)
  | [] => []
  | event :: later => (event, (run.happen event).1) :: (run.happen event).2.told later

/-- The events at which the client is told of an anomaly of a server, each as often as it is. -/
def anomalies (run : HandlerRun) (server : SocketAddress) (events : List HandlerEvent) :
    List HandlerEvent :=
  (run.told events).flatMap fun (event, told) =>
    (told.filter (· = .beaconAnomaly server)).map fun _ => event

/-- What is known from the beacons of a server. -/
def detector (run : HandlerRun) (server : SocketAddress) : BeaconDetector :=
  (run.handler.detector? server).getD {}

/-- What handles frames before any came. -/
def new (usualPort : UInt16) (search : Option SearchManager) (registry : Option CircuitRegistry) :
    HandlerRun where
  handler := { serverPort := usualPort, search }
  registry

end HandlerRun

/-- Between two states of the circuits, exactly those registered for a server were marked as alive,
at whatever priority. -/
structure CircuitRegistry.Revives (server : SocketAddress) (now : Moment)
    (before after : CircuitRegistry) : Prop where
  /-- The same circuits are registered. -/
  registered : after.registered = before.registered
  /-- Something was received on those of the server. -/
  revived : ∀ priority number, ((server, priority), number) ∈ before.registered →
    after.circuits[number]? = (before.circuits[number]?).map (·.markAlive now)
  /-- All others are as they were. -/
  others : ∀ number, (∀ priority, ((server, priority), number) ∉ before.registered) →
    after.circuits[number]? = before.circuits[number]?

/-- What comes of a beacon of a server, which is an anomaly or not. -/
structure HandlerRun.Heeds (server : SocketAddress) (now : Moment) (anomaly : Bool)
    (before : HandlerRun) (outcome : List ClientEvent × HandlerRun) : Prop where
  /-- The client is told of an anomaly, and of nothing else. -/
  told : outcome.1 = if anomaly then [.beaconAnomaly server] else []
  /-- An anomaly makes the searches start over, once, if there are any. -/
  search : outcome.2.handler.search =
    if anomaly then before.handler.search.map (·.beaconAnomaly now) else before.handler.search
  /-- The circuits of the server are alive. -/
  registry : Option.Rel (CircuitRegistry.Revives server now) before.registry outcome.2.registry

/-- What comes of a frame that is no beacon. -/
structure HandlerRun.PassesOver (before : HandlerRun)
    (outcome : List ClientEvent × HandlerRun) : Prop where
  /-- The client is told of no anomaly. -/
  told : ∀ server, .beaconAnomaly server ∉ outcome.1
  /-- No circuit is marked. -/
  registry : outcome.2.registry = before.registry

/-! ## Marking circuits as alive -/

namespace CircuitRegistry

/-- Something was received on a circuit. -/
def markOne (now : Moment) (registry : CircuitRegistry) (number : Nat) : CircuitRegistry :=
  match registry.circuits[number]? with
  | none => registry
  | some circuit => registry.set number (circuit.markAlive now)

/-- Only that circuit is marked. -/
theorem markOne_spec (now : Moment) (registry : CircuitRegistry) (number other : Nat) :
    (registry.markOne now number).registered = registry.registered ∧
      (registry.markOne now number).circuits[other]? =
        if other = number then (registry.circuits[other]?).map (·.markAlive now)
        else registry.circuits[other]? := by
  unfold markOne
  cases present : registry.circuits[number]? with
  | none =>
    refine ⟨rfl, ?_⟩
    by_cases same : other = number
    · rw [if_pos same, same, present]
      rfl
    · rw [if_neg same]
  | some circuit =>
    refine ⟨rfl, ?_⟩
    dsimp only
    rw [getElem?_set present]
    by_cases same : other = number
    · rw [if_pos same.symm, if_pos same, same, present]
      rfl
    · rw [if_neg (Ne.symm same), if_neg same]

/-- Circuits are marked one after the other. -/
theorem foldl_markOne (now : Moment) (numbers : List Nat) (registry : CircuitRegistry)
    (other : Nat) :
    (numbers.foldl (markOne now) registry).registered = registry.registered ∧
      (numbers.foldl (markOne now) registry).circuits[other]? =
        if other ∈ numbers then (registry.circuits[other]?).map (·.markAlive now)
        else registry.circuits[other]? := by
  induction numbers generalizing registry with
  | nil => exact ⟨rfl, (if_neg List.not_mem_nil).symm⟩
  | cons number later ih =>
    obtain ⟨registered, circuits⟩ := ih (registry.markOne now number)
    obtain ⟨sameRegistered, marked⟩ := markOne_spec now registry number other
    rw [List.foldl_cons]
    refine ⟨registered.trans sameRegistered, circuits.trans ?_⟩
    rw [marked]
    by_cases isFirst : other = number
    · rw [if_pos isFirst, if_pos (List.mem_cons.mpr (.inl isFirst)), Option.map_map]
      -- Marking a circuit twice is marking it once.
      exact ite_self _
    · rw [if_neg isFirst]
      simp only [List.mem_cons, isFirst, false_or]

/-- A beacon marks the circuits registered for its server, and no other. -/
theorem revives_markAlive (registry : CircuitRegistry) (server : SocketAddress) (now : Moment) :
    Revives server now registry (registry.markAlive server now) := by
  have isServer {number : Nat} : number ∈ registry.forServer server ↔
      ∃ priority, ((server, priority), number) ∈ registry.registered := by
    rw [forServer, List.mem_map]
    constructor
    · rintro ⟨⟨⟨other, priority⟩, _⟩, member, rfl⟩
      obtain ⟨isRegistered, same⟩ := List.mem_filter.mp member
      obtain rfl := beq_iff_eq.mp same
      exact ⟨priority, isRegistered⟩
    · rintro ⟨priority, isRegistered⟩
      exact ⟨_, List.mem_filter.mpr ⟨isRegistered, beq_self_eq_true server⟩, rfl⟩
  have marked := foldl_markOne now (registry.forServer server) registry
  refine ⟨(marked 0).1, fun priority number isRegistered => ?_, fun number unlike => ?_⟩
  · exact (marked number).2.trans (if_pos (isServer.mpr ⟨priority, isRegistered⟩))
  · exact (marked number).2.trans (if_neg (mt isServer.mp (not_exists.mpr unlike)))

end CircuitRegistry

/-! ## What is known of each server -/

namespace ResponseHandler

variable (handler : ResponseHandler)

/-- What is noted of a server is found there, and nothing changes for others. -/
theorem detector?_setDetector (server : SocketAddress) (detector : BeaconDetector)
    (other : SocketAddress) :
    (handler.setDetector server detector).detector? other =
      if other = server then some detector else handler.detector? other := by
  unfold setDetector
  cases known : handler.detector? server with
  | some before =>
    rw [if_pos Option.isSome_some]
    unfold detector? at known ⊢
    rw [Table.find?_update, Option.map_map]
    by_cases same : other = server
    · subst same
      obtain ⟨entry, found, -⟩ := Option.map_eq_some_iff.mp known
      rw [if_pos rfl, found]
      exact congrArg some (congrArg Prod.snd (if_pos rfl))
    · rw [if_neg same]
      refine congrArg (Option.map · _) (funext fun entry => ?_)
      exact congrArg Prod.snd (if_neg same)
  | none =>
    rw [if_neg (by simp)]
    unfold detector? at known ⊢
    rw [Table.find?_concat]
    by_cases same : other = server
    · subst same
      rw [if_pos rfl, if_pos rfl, Option.map_eq_none_iff.mp known]
      rfl
    · rw [if_neg same, if_neg same, Option.or_none]

/-- A server of which something is noted is known, and so are those known before. -/
theorem mem_knownServers_setDetector (server : SocketAddress) (detector : BeaconDetector)
    (other : SocketAddress) :
    other ∈ (handler.setDetector server detector).knownServers ↔
      other ∈ handler.knownServers ∨ other = server := by
  have known (handler : ResponseHandler) :
      other ∈ handler.knownServers ↔ handler.detector? other ≠ none := by
    rw [detector?, ne_eq, Option.map_eq_none_iff, Table.find?_eq_none_iff, not_not]
    rfl
  rw [known, known, detector?_setDetector]
  by_cases same : other = server
  · simp [same]
  · simp [same]

/-- No server is known twice when something was noted of one. -/
theorem nodup_knownServers_setDetector (nodup : handler.knownServers.Nodup)
    (server : SocketAddress) (detector : BeaconDetector) :
    (handler.setDetector server detector).knownServers.Nodup := by
  unfold setDetector knownServers
  cases known : handler.detector? server with
  | some before =>
    rw [if_pos Option.isSome_some, Table.map_fst_update]
    exact nodup
  | none =>
    have fresh : server ∉ handler.knownServers :=
      Table.find?_eq_none_iff.mp (Option.map_eq_none_iff.mp known)
    rw [if_neg (by simp), List.map_append]
    refine List.nodup_append.mpr ⟨nodup, List.nodup_singleton server, ?_⟩
    rintro other isKnown _ isServer rfl
    rw [List.mem_singleton.mp isServer] at isKnown
    exact fresh isKnown

/-- Noting something of a server changes nothing else. -/
theorem setDetector_spec (server : SocketAddress) (detector : BeaconDetector) :
    (handler.setDetector server detector).serverPort = handler.serverPort ∧
      (handler.setDetector server detector).search = handler.search := by
  unfold setDetector
  split <;> exact ⟨rfl, rfl⟩

/-- A beacon frame is taken for a beacon of the server that its header says. -/
theorem beaconServer_eq (source : SocketAddress) (header : Header) :
    handler.beaconServer source header = header.beaconServer handler.serverPort source := by
  have isZero : header.dataCount.toUInt16 = 0 ↔ header.dataCount.toNat % 65536 = 0 := by
    rw [← UInt16.toNat_inj, UInt32.toNat_toUInt16]
    rfl
  have port : header.dataCount.toUInt16 = .ofNat (header.dataCount.toNat % 65536) := by
    rw [← UInt16.toNat_inj, UInt32.toNat_toUInt16, UInt16.toNat_ofNat']
    exact (Nat.mod_mod _ _).symm
  unfold ResponseHandler.beaconServer Header.beaconServer fieldPort
  rw [← port]
  simp only [isZero]
  rfl

end ResponseHandler

/-! ## What comes of a frame -/

namespace ResponseHandler

variable (handler : ResponseHandler) (now : Moment) (source : SocketAddress)
  (peer : Option SocketAddress) {frame : Frame}

/-- A beacon is handed to the detector of its server, and what that makes of it is acted upon. -/
theorem handle_of_beacon (isBeacon : frame.header.command = Command.beacon) :
    let server := frame.header.beaconServer handler.serverPort source
    let beacon : Beacon :=
      { minorRevision := frame.header.dataType, sequence := frame.header.parameter1, time := now }
    let report := ((handler.detector? server).getD {}).notify beacon
    let handled := handler.handle now source peer frame
    handled.events = (if report.1 then [.beaconAnomaly server] else []) ∧
      handled.handler.search =
        (if report.1 then handler.search.map (·.beaconAnomaly now) else handler.search) ∧
      handled.alive = some server ∧ handled.handler.serverPort = handler.serverPort ∧
      handled.handler.beacons = (handler.setDetector server report.2).beacons := by
  intro server beacon report handled
  have same : handled = handler.handleBeacon now source frame.header := by
    show handler.handle now source peer frame = _
    unfold handle
    dsimp only
    rw [isBeacon, if_neg (by decide), if_neg (by decide), if_pos rfl]
  rw [same, handleBeacon, beaconServer_eq]
  show _ ∧ _ ∧ _
  dsimp only
  generalize isReport : ((handler.detector? server).getD {}).notify beacon = made
  obtain ⟨port, search⟩ := handler.setDetector_spec server made.2
  have isMade : report = made := isReport
  rw [isMade]
  obtain ⟨anomaly, detector⟩ := made
  cases anomaly with
  | false => exact ⟨rfl, search, rfl, port, rfl⟩
  | true =>
    have hurried := congrArg (Option.map fun manager : SearchManager => manager.beaconAnomaly now)
      search
    exact ⟨rfl, hurried, rfl, port, rfl⟩

/-- Any other frame tells of no anomaly and shows of no server that it is alive. What is known from
beacons stays as it is. -/
theorem handle_of_no_beacon (noBeacon : frame.header.command ≠ Command.beacon) :
    let handled := handler.handle now source peer frame
    handled.handler.beacons = handler.beacons ∧ handled.handler.serverPort = handler.serverPort ∧
      (∀ server, .beaconAnomaly server ∉ handled.events) ∧ handled.alive = none := by
  unfold handle
  dsimp only
  rw [if_neg noBeacon]
  by_cases search : frame.header.command = Command.search
  · rw [if_neg (by rw [search]; decide), if_pos search, handleSearchReply]
    cases handler.search with
    | none => exact ⟨rfl, rfl, fun _ => List.not_mem_nil, rfl⟩
    | some manager =>
      refine ⟨rfl, rfl, fun server => ?_, rfl⟩
      dsimp only
      split <;> simp
  · rw [if_neg search]
    -- All other frames are only told of.
    refine ⟨?_, ?_, fun server => ?_, ?_⟩
    · simp only [apply_ite Handled.handler, ite_self]
    · simp only [apply_ite Handled.handler, ite_self]
    · simp only [apply_ite Handled.events]
      split_ifs <;> simp
    · simp only [apply_ite Handled.alive, ite_self]

end ResponseHandler

/-! ## The beacons of a server among all events -/

namespace HandlerEvent

variable {usualPort : UInt16} {server : SocketAddress}

theorem beaconsOf_append (earlier later : List HandlerEvent) :
    beaconsOf usualPort server (earlier ++ later) =
      beaconsOf usualPort server earlier ++ beaconsOf usualPort server later := by
  rw [beaconsOf, List.filterMap_append, List.filterMap_append]
  rfl

theorem beaconsOf_cons (event : HandlerEvent) (later : List HandlerEvent) :
    beaconsOf usualPort server (event :: later) =
      beaconsOf usualPort server [event] ++ beaconsOf usualPort server later :=
  beaconsOf_append [event] later

/-- A beacon frame is a beacon of the server that its header says. -/
theorem beacon?_arrival {now : Moment} {source : SocketAddress} {peer : Option SocketAddress}
    {frame : Frame} (isBeacon : frame.header.command = Command.beacon) :
    (arrival now source peer frame).beacon? usualPort =
      some (frame.header.beaconServer usualPort source,
        { minorRevision := frame.header.dataType, sequence := frame.header.parameter1
          time := now }) := if_pos isBeacon

/-- The beacon of a server is the only one of an event. -/
theorem beaconsOf_of_beacon {event : HandlerEvent} {beacon : Beacon}
    (isBeacon : event.beacon? usualPort = some (server, beacon)) :
    beaconsOf usualPort server [event] = [beacon] := by
  rw [beaconsOf, List.filterMap_cons, isBeacon, List.filterMap_nil]
  exact List.filterMap_cons_some (if_pos rfl)

/-- An event that is no beacon of a server has none. -/
theorem beaconsOf_of_not {event : HandlerEvent} (other : ¬ event.isBeaconOf usualPort server) :
    beaconsOf usualPort server [event] = [] := by
  rw [beaconsOf, List.filterMap_cons, List.filterMap_nil]
  cases isBeacon : event.beacon? usualPort with
  | none => rfl
  | some found =>
    refine List.filterMap_cons_none (if_neg ?_)
    rintro rfl
    exact other (by rw [isBeaconOf, isBeacon, Option.any_some, beq_self_eq_true])

/-- The beacons of a server are all among its own events. -/
theorem beaconsOf_filter (events : List HandlerEvent) :
    beaconsOf usualPort server (events.filter (·.isBeaconOf usualPort server)) =
      beaconsOf usualPort server events := by
  induction events with
  | nil => rfl
  | cons event later ih =>
    rw [beaconsOf_cons event later]
    by_cases own : event.isBeaconOf usualPort server
    · rw [List.filter_cons_of_pos own, beaconsOf_cons, ih]
    · rw [List.filter_cons_of_neg own, beaconsOf_of_not own, ih, List.nil_append]

/-- An event with a beacon of a server speaks of that server. -/
theorem server?_of_isBeaconOf {event : HandlerEvent} (own : event.isBeaconOf usualPort server) :
    event.server? usualPort = some server := by
  cases event with
  | arrival now source peer frame =>
    obtain ⟨found, isBeacon, same⟩ := Option.any_eq_true _ _ |>.mp own
    show Option.map _ _ = _
    rw [isBeacon, Option.map_some, beq_iff_eq.mp same]
  | lookUp | others => exact absurd own Bool.false_ne_true

end HandlerEvent

namespace HandlerRun

variable (run : HandlerRun)

/-! ## One event -/

/-- A beacon frame is heeded, and noted by the detector of its server. -/
theorem happen_of_beacon (now : Moment) (source : SocketAddress) (peer : Option SocketAddress)
    {frame : Frame} (isBeacon : frame.header.command = Command.beacon) :
    let server := frame.header.beaconServer run.handler.serverPort source
    let beacon : Beacon :=
      { minorRevision := frame.header.dataType, sequence := frame.header.parameter1, time := now }
    let outcome := run.happen (.arrival now source peer frame)
    run.Heeds server now ((run.detector server).notify beacon).1 outcome ∧
      outcome.2.handler.serverPort = run.handler.serverPort ∧
      outcome.2.handler.beacons =
        (run.handler.setDetector server ((run.detector server).after beacon)).beacons := by
  intro server beacon outcome
  have revives : Option.Rel (CircuitRegistry.Revives server now) run.registry
      (run.registry.map (·.markAlive server now)) := by
    cases run.registry with
    | none => exact .none
    | some registry => exact .some (registry.revives_markAlive server now)
  obtain ⟨told, search, alive, port, beacons⟩ :=
    run.handler.handle_of_beacon now source peer isBeacon
  refine ⟨⟨told, search, ?_⟩, port, beacons⟩
  show Option.Rel _ run.registry (match (run.handler.handle now source peer frame).alive with
    | none => run.registry
    | some server => run.registry.map (·.markAlive server now))
  rw [alive]
  exact revives

/-- Any other frame is passed over. -/
theorem happen_of_no_beacon (now : Moment) (source : SocketAddress) (peer : Option SocketAddress)
    {frame : Frame} (noBeacon : frame.header.command ≠ Command.beacon) :
    let outcome := run.happen (.arrival now source peer frame)
    run.PassesOver outcome ∧ outcome.2.handler.serverPort = run.handler.serverPort ∧
      outcome.2.handler.beacons = run.handler.beacons := by
  obtain ⟨beacons, port, told, alive⟩ :=
    run.handler.handle_of_no_beacon now source peer noBeacon
  refine ⟨⟨told, ?_⟩, port, beacons⟩
  show (match (run.handler.handle now source peer frame).alive with
    | none => run.registry
    | some server => run.registry.map (·.markAlive server now)) = run.registry
  rw [alive]

/-- What an event changes of what is known of servers: at most what is known of the one that it
speaks of. -/
theorem beacons_happen (event : HandlerEvent) :
    (run.happen event).2.handler.serverPort = run.handler.serverPort ∧
      (run.happen event).2.handler.beacons =
        match event.server? run.handler.serverPort with
        | none => run.handler.beacons
        | some server =>
          (run.handler.setDetector server ((run.detector server).afterAll
            (HandlerEvent.beaconsOf run.handler.serverPort server [event]))).beacons := by
  cases event with
  | lookUp server => exact ⟨(run.handler.setDetector_spec server _).1, rfl⟩
  | others => exact ⟨rfl, rfl⟩
  | arrival now source peer frame =>
    by_cases command : frame.header.command = Command.beacon
    · obtain ⟨-, port, beacons⟩ := run.happen_of_beacon now source peer command
      have speaksOf : (HandlerEvent.arrival now source peer frame).server?
          run.handler.serverPort =
            some (frame.header.beaconServer run.handler.serverPort source) :=
        congrArg (Option.map Prod.fst) (HandlerEvent.beacon?_arrival command)
      rw [speaksOf]
      dsimp only
      rw [HandlerEvent.beaconsOf_of_beacon (HandlerEvent.beacon?_arrival command)]
      exact ⟨port, beacons⟩
    · obtain ⟨-, port, beacons⟩ := run.happen_of_no_beacon now source peer command
      have unknown : (HandlerEvent.arrival now source peer frame).server?
          run.handler.serverPort = none := by
        show Option.map _ (HandlerEvent.beacon? _ (.arrival now source peer frame)) = none
        rw [HandlerEvent.beacon?, if_neg command]
        rfl
      rw [unknown]
      exact ⟨port, beacons⟩

variable {run}

/-- What is known of a server is what its own beacons left. -/
theorem detector_happen (event : HandlerEvent) (server : SocketAddress) :
    (run.happen event).2.detector server = (run.detector server).afterAll
      (HandlerEvent.beaconsOf run.handler.serverPort server [event]) := by
  have foreign (other : event.server? run.handler.serverPort ≠ some server) :
      HandlerEvent.beaconsOf run.handler.serverPort server [event] = [] :=
    HandlerEvent.beaconsOf_of_not fun own => other (HandlerEvent.server?_of_isBeaconOf own)
  have beacons := (run.beacons_happen event).2
  unfold detector at beacons ⊢
  cases speaksOf : event.server? run.handler.serverPort with
  | none =>
    rw [foreign (by rw [speaksOf]; exact nofun)]
    rw [speaksOf] at beacons
    rw [ResponseHandler.detector?, beacons]
    rfl
  | some other =>
    rw [speaksOf] at beacons
    dsimp only at beacons
    rw [ResponseHandler.detector?, beacons, ← ResponseHandler.detector?,
      ResponseHandler.detector?_setDetector]
    by_cases same : server = other
    · rw [if_pos same, same]
      rfl
    · rw [if_neg same, foreign (by rw [speaksOf]; exact fun h => same (Option.some.inj h).symm)]
      rfl

/-- A server is known once something spoke of it. -/
theorem mem_knownServers_happen (event : HandlerEvent) (server : SocketAddress) :
    server ∈ (run.happen event).2.handler.knownServers ↔
      server ∈ run.handler.knownServers ∨
        event.server? run.handler.serverPort = some server := by
  have beacons := (run.beacons_happen event).2
  cases speaksOf : event.server? run.handler.serverPort with
  | none =>
    rw [speaksOf] at beacons
    rw [ResponseHandler.knownServers, beacons]
    exact (or_iff_left nofun).symm
  | some other =>
    rw [speaksOf] at beacons
    dsimp only at beacons
    rw [ResponseHandler.knownServers, beacons, ← ResponseHandler.knownServers,
      ResponseHandler.mem_knownServers_setDetector, Option.some.injEq, eq_comm]

/-- No server is known twice. -/
theorem nodup_knownServers_happen (nodup : run.handler.knownServers.Nodup)
    (event : HandlerEvent) : (run.happen event).2.handler.knownServers.Nodup := by
  have beacons := (run.beacons_happen event).2
  rw [ResponseHandler.knownServers, beacons]
  cases event.server? run.handler.serverPort with
  | none => exact nodup
  | some other => exact run.handler.nodup_knownServers_setDetector nodup other _

/-- The client is told of an anomaly of a server exactly when that server's own detector finds
one. -/
theorem anomalies_happen (event : HandlerEvent) (server : SocketAddress) :
    (run.happen event).1.filter (· = .beaconAnomaly server) =
      if (HandlerEvent.beaconsOf run.handler.serverPort server [event]).any
          fun beacon => ((run.detector server).notify beacon).1
        then [.beaconAnomaly server] else [] := by
  have nothing (told : .beaconAnomaly server ∉ (run.happen event).1)
      (other : ¬ event.isBeaconOf run.handler.serverPort server) :
      (run.happen event).1.filter (· = .beaconAnomaly server) =
        if (HandlerEvent.beaconsOf run.handler.serverPort server [event]).any
            fun beacon => ((run.detector server).notify beacon).1
          then [.beaconAnomaly server] else [] := by
    rw [HandlerEvent.beaconsOf_of_not other, List.any_nil, if_neg Bool.false_ne_true]
    refine List.filter_eq_nil_iff.mpr fun event isTold isAnomaly => told ?_
    rw [← of_decide_eq_true isAnomaly]
    exact isTold
  cases event with
  | lookUp | others => exact nothing List.not_mem_nil Bool.false_ne_true
  | arrival now source peer frame =>
    by_cases command : frame.header.command = Command.beacon
    · obtain ⟨⟨told, -, -⟩, -⟩ := run.happen_of_beacon now source peer command
      by_cases own : frame.header.beaconServer run.handler.serverPort source = server
      · subst own
        rw [told, HandlerEvent.beaconsOf_of_beacon (HandlerEvent.beacon?_arrival command),
          List.any_cons, List.any_nil, Bool.or_false]
        split
        · exact List.filter_cons_of_pos (decide_eq_true rfl)
        · rfl
      · refine nothing ?_ ?_
        · rw [told]
          split
          · intro isTold
            exact own (ClientEvent.beaconAnomaly.inj (List.mem_singleton.mp isTold)).symm
          · exact List.not_mem_nil
        · rw [HandlerEvent.isBeaconOf, HandlerEvent.beacon?_arrival command, Option.any_some]
          exact mt beq_iff_eq.mp own
    · obtain ⟨⟨told, -⟩, -⟩ := run.happen_of_no_beacon now source peer command
      refine nothing (told server) ?_
      rw [HandlerEvent.isBeaconOf, HandlerEvent.beacon?, if_neg command]
      exact Bool.false_ne_true

/-! ## Any number of events -/

theorem happenAll_cons (run : HandlerRun) (event : HandlerEvent) (later : List HandlerEvent) :
    run.happenAll (event :: later) = (run.happen event).2.happenAll later := rfl

theorem happenAll_concat (run : HandlerRun) (earlier : List HandlerEvent) (last : HandlerEvent) :
    run.happenAll (earlier ++ [last]) = ((run.happenAll earlier).happen last).2 :=
  List.foldl_append

theorem told_concat (run : HandlerRun) (earlier : List HandlerEvent) (last : HandlerEvent) :
    run.told (earlier ++ [last]) =
      run.told earlier ++ [(last, ((run.happenAll earlier).happen last).1)] := by
  induction earlier generalizing run with
  | nil => rfl
  | cons event later ih => rw [List.cons_append, told, ih, happenAll_cons, told, List.cons_append]

theorem serverPort_happenAll (run : HandlerRun) (events : List HandlerEvent) :
    (run.happenAll events).handler.serverPort = run.handler.serverPort := by
  induction events generalizing run with
  | nil => rfl
  | cons event later ih => rw [happenAll_cons, ih, (run.beacons_happen event).1]

/-- What is known of a server is what its own beacons left. -/
theorem detector_happenAll (run : HandlerRun) (events : List HandlerEvent)
    (server : SocketAddress) :
    (run.happenAll events).detector server = (run.detector server).afterAll
      (HandlerEvent.beaconsOf run.handler.serverPort server events) := by
  induction events generalizing run with
  | nil => rfl
  | cons event later ih =>
    rw [happenAll_cons, ih, (run.beacons_happen event).1, detector_happen,
      HandlerEvent.beaconsOf_cons event later]
    exact List.foldl_append.symm

/-- A server is known once something spoke of it. -/
theorem mem_knownServers_happenAll (run : HandlerRun) (events : List HandlerEvent)
    (server : SocketAddress) :
    server ∈ (run.happenAll events).handler.knownServers ↔
      server ∈ run.handler.knownServers ∨
        ∃ event ∈ events, event.server? run.handler.serverPort = some server := by
  induction events generalizing run with
  | nil => exact (or_iff_left (by simp)).symm
  | cons event later ih =>
    rw [happenAll_cons, ih, (run.beacons_happen event).1, mem_knownServers_happen, or_assoc]
    simp only [List.mem_cons, exists_eq_or_imp]

/-- No server is known twice. -/
theorem nodup_knownServers_happenAll (nodup : run.handler.knownServers.Nodup)
    (events : List HandlerEvent) : (run.happenAll events).handler.knownServers.Nodup := by
  induction events generalizing run with
  | nil => exact nodup
  | cons event later ih => exact ih (nodup_knownServers_happen nodup event)

/-- Two runs in which the same is known of a server find the same anomalies of it, although only
its own beacons come in one of them. -/
theorem anomalies_filter {usualPort : UInt16} {server : SocketAddress} {run own : HandlerRun}
    (port : run.handler.serverPort = usualPort) (ownPort : own.handler.serverPort = usualPort)
    (same : run.detector server = own.detector server) (events : List HandlerEvent) :
    run.anomalies server events =
      own.anomalies server (events.filter (·.isBeaconOf usualPort server)) := by
  have step (run : HandlerRun) (event : HandlerEvent) (later : List HandlerEvent) :
      run.anomalies server (event :: later) =
        ((run.happen event).1.filter (· = .beaconAnomaly server)).map (fun _ => event) ++
          (run.happen event).2.anomalies server later := List.flatMap_cons
  induction events generalizing run own with
  | nil => rfl
  | cons event later ih =>
    have nextPort := (run.beacons_happen event).1.trans port
    rw [step, anomalies_happen, port]
    by_cases isOwn : event.isBeaconOf usualPort server
    · have ownNextPort := (own.beacons_happen event).1.trans ownPort
      rw [List.filter_cons_of_pos isOwn, step own, anomalies_happen, ownPort, same]
      rw [ih nextPort ownNextPort]
      rw [detector_happen, detector_happen, port, ownPort, same]
    · rw [List.filter_cons_of_neg isOwn, HandlerEvent.beaconsOf_of_not isOwn, List.any_nil,
        if_neg Bool.false_ne_true]
      refine ih nextPort ownPort ?_
      rw [detector_happen, port, HandlerEvent.beaconsOf_of_not isOwn, ← same]
      rfl

end HandlerRun

/-! ## The frames of a client -/

/-- What handles the frames of a client, with its circuits. -/
def Client.receiving (client : Client) : HandlerRun where
  handler := client.handler
  registry := some client.connector.registry

/-- The circuits that a client marks are those that the event marks. -/
theorem receiving_marked (handled : Handled) (registry : CircuitRegistry) (now : Moment) :
    some (match handled.alive with
      | none => registry
      | some server => registry.markAlive server now) =
      match handled.alive with
      | none => some registry
      | some server => (some registry).map (·.markAlive server now) := by
  cases handled.alive with
  | none => rfl
  | some server => rfl

/-- The last frame of a datagram comes to what the others left of the client. -/
theorem receiving_handleFrames_concat (client : Client) (now : Moment) (source : SocketAddress)
    (frames : List Frame) (last : Frame) :
    let before := client.handleFrames now source frames
    let after := client.handleFrames now source (frames ++ [last])
    let outcome := before.client.receiving.happen (.arrival now source none last)
    after.client.receiving = outcome.2 ∧ after.events = before.events ++ outcome.1 := by
  unfold Client.handleFrames
  rw [List.foldl_append]
  exact ⟨congrArg (HandlerRun.mk _) (receiving_marked _ _ now), rfl⟩

/-- The frames of a datagram come to a client as such events. -/
theorem receiving_handleFrames (client : Client) (now : Moment) (source : SocketAddress)
    (frames : List Frame) :
    let events := frames.map fun frame => HandlerEvent.arrival now source none frame
    (client.handleFrames now source frames).client.receiving = client.receiving.happenAll events ∧
      (client.handleFrames now source frames).events =
        (client.receiving.told events).flatMap (·.2) := by
  induction frames using List.reverseRecOn with
  | nil => exact ⟨rfl, rfl⟩
  | append_singleton frames last ih =>
    obtain ⟨before, told⟩ := ih
    obtain ⟨after, more⟩ := receiving_handleFrames_concat client now source frames last
    rw [before] at after more
    rw [List.map_append, List.map_singleton]
    refine ⟨after.trans (HandlerRun.happenAll_concat _ _ _).symm, more.trans ?_⟩
    rw [told, HandlerRun.told_concat, List.flatMap_append, List.flatMap_singleton]

/-- A frame on a circuit comes to a client as such an event, once the revision that the server
announced was noted. -/
theorem receiving_observe (now : Moment) (circuit : Nat) (turn : ClientTurn) (frame : Frame)
    {known : Circuit}
    (present : turn.client.connector.registry.circuits[circuit]? = some known) :
    ∃ noted, let events := [.others turn.client.handler.search (some noted),
        HandlerEvent.arrival now known.server (some known.server) frame]
      (Client.observe now circuit turn (.delivered frame)).client.receiving =
          turn.client.receiving.happenAll events ∧
        (Client.observe now circuit turn (.delivered frame)).events =
          turn.events ++ (turn.client.receiving.told events).flatMap (·.2) := by
  let handled := turn.client.handler.handle now known.server (some known.server) frame
  refine ⟨turn.client.connector.registry.set circuit
    { known with revision := handled.revision.getD known.revision }, ?_⟩
  unfold Client.observe
  dsimp only
  rw [present]
  refine ⟨congrArg (HandlerRun.mk handled.handler) (receiving_marked handled _ now), ?_⟩
  show turn.events ++ handled.events = turn.events ++ ([] ++ (handled.events ++ []))
  rw [List.nil_append, List.append_nil]

/-- **Servers do not disturb each other's beacons.** Whatever comes in between, the client is told
of the same anomalies of a server, at the same beacons, as if only that server's beacons had come,
and the same is known of it, the average time between its beacons among that. The servers known are
those that a beacon spoke of or that were looked up. A beacon is an anomaly exactly if its server's
own detector finds one after the beacons of that server before it; then the client is told of it,
once, and the searches start over, once, if there are any. Every beacon marks the circuits
registered for its server as alive, at every priority, and no other circuit. No other frame does
any of that. -/
theorem beacons_of_servers_apart (usualPort : UInt16) (search : Option SearchManager)
    (registry : Option CircuitRegistry) (events : List HandlerEvent) :
    let start := HandlerRun.new usualPort search registry
    let run := start.happenAll events
    (∀ server,
      let own := events.filter (·.isBeaconOf usualPort server)
      start.anomalies server events = start.anomalies server own ∧
        run.detector server = (start.happenAll own).detector server) ∧
      (∀ server, server ∈ run.handler.knownServers ↔
        ∃ event ∈ events, event.server? usualPort = some server) ∧
      run.handler.knownServers.Nodup ∧
      (∀ now source peer frame, frame.header.command = Command.beacon →
        let server := frame.header.beaconServer usualPort source
        let beacon : Beacon :=
          { minorRevision := frame.header.dataType, sequence := frame.header.parameter1
            time := now }
        let detector :=
          BeaconDetector.afterAll {} (HandlerEvent.beaconsOf usualPort server events)
        run.Heeds server now (detector.notify beacon).1
          (run.happen (.arrival now source peer frame))) ∧
      ∀ now source peer frame, frame.header.command ≠ Command.beacon →
        run.PassesOver (run.happen (.arrival now source peer frame)) := by
  intro start run
  have port : run.handler.serverPort = usualPort := start.serverPort_happenAll events
  have detector (server : SocketAddress) : run.detector server =
      BeaconDetector.afterAll {} (HandlerEvent.beaconsOf usualPort server events) :=
    start.detector_happenAll events server
  refine ⟨fun server => ⟨?_, ?_⟩, fun server => ?_, ?_, ?_, ?_⟩
  · exact HandlerRun.anomalies_filter rfl rfl rfl events
  · rw [detector, start.detector_happenAll]
    exact congrArg _ (HandlerEvent.beaconsOf_filter events).symm
  · exact (start.mem_knownServers_happenAll events server).trans (or_iff_right List.not_mem_nil)
  · have nobody : start.handler.knownServers.Nodup := List.nodup_nil
    exact HandlerRun.nodup_knownServers_happenAll nobody events
  · intro now source peer frame isBeacon
    have heeds := (run.happen_of_beacon now source peer isBeacon).1
    rw [port, detector] at heeds
    exact heeds
  · intro now source peer frame noBeacon
    exact (run.happen_of_no_beacon now source peer noBeacon).1

end ChannelAccess
