import ChannelAccess.Circuit.Connector
import ChannelAccess.Config.Client
import ChannelAccess.Monitor.Notifier
import ChannelAccess.Reactor.Basic
import ChannelAccess.Response.Handler
import ChannelAccess.Transport.Datagrams

/-!
# Clients

A client searches for channels, connects to their servers and has its subscriptions delivered. All
that it is told comes out as events. `Client.shutdown` ends the searches, closes all circuits and
sockets and stops the threads; nothing can be asked of the client after that.
-/

namespace ChannelAccess

/-- Why a client does not do what it is asked. -/
inductive ClientError where
  /-- It was shut down. -/
  | shutDown
  /-- A transport failed. -/
  | transport (error : TransportError)
  deriving DecidableEq, Repr

/-- The text of the error. -/
def ClientError.message : ClientError → String
  | .shutDown => "Context has been shut down"
  | .transport error => error.message

/-- A client and all that it owns. -/
structure Client where
  /-- What it was told at the start. -/
  config : ClientConfig
  /-- What handles the frames that it receives, the searches among it. -/
  handler : ResponseHandler
  /-- The circuits, and what opens them. -/
  connector : Connector
  /-- The socket that searches are sent from. -/
  searchTransport : DatagramTransport
  /-- The socket that beacons are received on, if there is one. -/
  beaconListener : Option DatagramTransport
  /-- What watches the sockets. The closers are those of the circuits, by number. -/
  reactor : Reactor Nat := {}
  /-- The key of each circuit. -/
  keys : List (Nat × SelectionKey) := []
  /-- The circuits whose closers have run, in order. -/
  disconnected : List Nat := []
  /-- The client was shut down. -/
  closed : Bool := false

/-- What a client does because of something that it is asked or that happens to it. -/
structure ClientTurn where
  /-- The client afterwards. -/
  client : Client
  /-- The events, in order. -/
  events : List ClientEvent := []
  /-- The owners that are told that their circuit is closed, in order. -/
  told : List ClientId := []

namespace Client

/-- A client that has just started. The names are given to servers unless it was told others. -/
def start (config : ClientConfig) (loginName ownHost : String) (listening : Bool) : Client where
  config
  handler :=
    { serverPort := config.serverPort
      search := some { config := config.search, timer := { lastMoment? := some Moment.last } } }
  connector :=
    { settings :=
        { receiveCapacity := config.receiveBufferSize
          clientName := config.clientName.getD loginName
          hostName := config.hostName.getD ownHost } }
  searchTransport := { addresses := config.addressList }
  beaconListener := if listening then some { addresses := [] } else none

/-- What the client says to whoever asks for something after it was shut down. -/
def requireOpen (client : Client) : Except ClientError Unit :=
  if client.closed then .error .shutDown else .ok ()

/-- The searches in progress. -/
def pendingSearches (client : Client) : List PendingSearch :=
  (client.handler.search.map (·.pending)).getD []

/-- Changes the searches. -/
def mapSearch (client : Client) (change : SearchManager → SearchManager) : Client :=
  { client with
    handler := { client.handler with search := client.handler.search.map change } }

/-- Starts to search for a channel. -/
def search (client : Client) (now : Moment) (channelId : UInt32) (name : String) :
    Except ClientError Client := do
  client.requireOpen
  .ok (client.mapSearch (·.register now channelId name))

/-- Starts to search for a channel, and promises a reply. -/
def searchWithReply (client : Client) (now : Moment) (channelId : UInt32) (name : String) :
    Except ClientError Client := do
  client.requireOpen
  .ok (client.mapSearch (·.registerWithReply now channelId name))

/-- Ends the search for a channel. Says whether there was one, unless the call fails. -/
def cancelSearch (client : Client) (now : Moment) (channelId : UInt32) : Option Bool × Client :=
  match client.handler.search with
  | none => (some false, client)
  | some manager =>
    let (found, manager) := manager.unregister now channelId
    (found, { client with handler := { client.handler with search := some manager } })

/-- The socket of a circuit is taken out of the reactor, to be shut down. -/
def disconnect (client : Client) (circuit : Nat) : Client :=
  match client.keys.find? (·.1 == circuit) with
  | none => { client with disconnected := client.disconnected ++ [circuit] }
  | some (_, key) =>
    let (ran, reactor) := client.reactor.unregister key circuit
    { client with reactor, disconnected := client.disconnected ++ ran }

/-- Sees to one thing that others see of a circuit. Frames are handled, and what is shut down leaves
the reactor. -/
def observe (now : Moment) (circuit : Nat) (turn : ClientTurn) (effect : CircuitEffect) :
    ClientTurn :=
  let client := turn.client
  match effect with
  | .told owner => { turn with told := turn.told ++ [owner] }
  | .disconnected => { turn with client := client.disconnect circuit }
  | .delivered frame =>
    match client.connector.registry.circuits[circuit]? with
    | none => turn
    | some known =>
      let handled := client.handler.handle now known.server (some known.server) frame
      let known := { known with revision := handled.revision.getD known.revision }
      let registry := client.connector.registry.set circuit known
      let registry := match handled.alive with
        | none => registry
        | some server => registry.markAlive server now
      { turn with
        client :=
          { client with
            handler := handled.handler
            connector := { client.connector with registry } }
        events := turn.events ++ handled.events }
  | .sent _ | .unregistered | .yielded => turn

/-- Sees to all that others see of circuits. -/
def observeAll (client : Client) (now : Moment) (effects : List (Nat × CircuitEffect)) :
    ClientTurn :=
  effects.foldl (fun turn effect => observe now effect.1 turn effect.2) { client }

/-- The socket of a new circuit is watched. -/
def watch (client : Client) (circuit : Nat) : Client :=
  match client.reactor.register { read := true } with
  | .error _ => client
  | .ok (key, reactor) => { client with reactor, keys := client.keys ++ [(circuit, key)] }

/-- Connects an owner to a server, sharing a circuit if there is one. -/
def connect (client : Client) (owner : ClientId) (key : CircuitKey) (world : ConnectWorld) :
    Except ClientError Nat × ClientTurn :=
  if client.closed then (.error .shutDown, { client })
  else
    let number := client.connector.registry.circuits.length
    let world := { world with reactorClosed := client.reactor.closed }
    let (result, connector, effects) := client.connector.connect owner key world
    let client :=
      if number < connector.registry.circuits.length then client.watch number else client
    (result.mapError .transport,
      { client with connector }.observeAll world.now (effects.map (number, ·)))

/-- Uses a circuit. -/
def useCircuit (client : Client) (now : Moment) (circuit : Nat) (writes : List WriteOutcome)
    (action : CircuitRun → CircuitRun) : ClientTurn :=
  match client.connector.registry.use circuit writes fun run => ((), action run) with
  | none => { client }
  | some (_, registry, run) =>
    { client with connector := { client.connector with registry } }.observeAll now
      (run.effects.map (circuit, ·))

/-- An owner leaves a circuit. -/
def release (client : Client) (now : Moment) (circuit : Nat) (owner : ClientId) : ClientTurn :=
  client.useCircuit now circuit [] (·.release owner)

/-- A circuit is read. -/
def readCircuit (client : Client) (now : Moment) (circuit : Nat) (reads : List ReadOutcome)
    (writes : List WriteOutcome) : ClientTurn :=
  client.useCircuit now circuit writes fun run => (run.readAll now reads).1

/-- All circuits are checked. -/
def checkLiveness (client : Client) (now : Moment) : ClientTurn :=
  let (registry, effects) :=
    client.connector.registry.checkLiveness now client.config.connectionTimeout
  { client with connector := { client.connector with registry } }.observeAll now effects

/-- Handles the frames of a datagram. -/
def handleFrames (client : Client) (now : Moment) (source : SocketAddress) (frames : List Frame) :
    ClientTurn :=
  frames.foldl (fun turn frame =>
    let client := turn.client
    let handled := client.handler.handle now source none frame
    let registry := match handled.alive with
      | none => client.connector.registry
      | some server => client.connector.registry.markAlive server now
    { turn with
      client :=
        { client with
          handler := handled.handler
          connector := { client.connector with registry } }
      events := turn.events ++ handled.events }) { client }

/-- A datagram comes to the search socket. -/
def receiveSearchReply (client : Client) (now : Moment) (source : SocketAddress)
    (bytes : List UInt8) : ClientTurn :=
  client.handleFrames now source (client.searchTransport.receive bytes)

/-- A datagram comes to the beacon socket. -/
def receiveBeacon (client : Client) (now : Moment) (source : SocketAddress)
    (bytes : List UInt8) : ClientTurn :=
  client.handleFrames now source ((client.beaconListener.map (·.receive bytes)).getD [])

/-- A notifier of the engine that the client was told to use. -/
def createNotifier (client : Client) (α : Type) : Except ClientError (Notifier α) := do
  client.requireOpen
  .ok (.ofEngine client.config.monitorEngine)

/-- Ends everything. Only the first time has any effect. -/
def shutdown (client : Client) (now : Moment) : ClientTurn :=
  if client.closed then { client }
  else
    let client := { client with closed := true }.mapSearch (·.shutdown)
    let (registry, effects) := client.connector.registry.closeAll
    let turn := { client with connector := { client.connector with registry } }.observeAll now
      effects
    let client := turn.client
    let (ran, reactor) := client.reactor.shutdown
    { turn with
      client :=
        { client with
          searchTransport := client.searchTransport.close
          beaconListener := client.beaconListener.map (·.close)
          reactor
          disconnected := client.disconnected ++ ran } }

end Client

end ChannelAccess
