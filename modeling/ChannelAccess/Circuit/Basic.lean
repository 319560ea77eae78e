import ChannelAccess.Circuit.FlowControl
import ChannelAccess.Circuit.Liveness
import ChannelAccess.Circuit.Reception
import ChannelAccess.Circuit.Sending
import ChannelAccess.Wire.Request

/-!
# Circuits

A circuit is a connection to a server at some priority, shared by its owners. It is closed once,
whoever asks for it, in steps between which others may use it: what is left to send is written, the
socket is shut down, the circuit is taken out of the registry, its owners are taken from it, and
each of them is told.
-/

namespace ChannelAccess

/-- An owner of a circuit, by its number. -/
abbrev ClientId := UInt32

/-- How far the closing of a circuit has come. -/
inductive ClosePhase where
  /-- The circuit is open. -/
  | isOpen
  /-- What is left to send is about to be written. -/
  | flushing
  /-- The socket is about to be shut down. -/
  | disconnecting
  /-- The circuit is about to be taken out of the registry. -/
  | unregistering
  /-- The owners are about to be taken from the circuit. -/
  | disowning
  /-- These owners are about to be told. -/
  | telling (owners : List ClientId)
  deriving DecidableEq, Repr

/-- A connection to a server. -/
structure Circuit where
  /-- The server. -/
  server : SocketAddress
  /-- The priority. -/
  priority : UInt16
  /-- What was received and not delivered. -/
  receiveBuffer : ReceiveBuffer
  /-- What was kept to be sent. -/
  sendBuffer : List UInt8 := []
  /-- Flow control. -/
  flow : FlowControl := {}
  /-- What is known about the peer. -/
  liveness : Liveness
  /-- The clients that use the circuit. -/
  owners : List ClientId := []
  /-- How far the closing has come. -/
  phase : ClosePhase := .isOpen
  /-- Minor revision that the server announced, zero until then. -/
  revision : UInt16 := 0
  deriving DecidableEq, Repr

/-- What others see of a circuit. -/
inductive CircuitEffect where
  /-- The peer is sent bytes. -/
  | sent (bytes : List UInt8)
  /-- A frame is delivered. -/
  | delivered (frame : Frame)
  /-- The circuit asks to be called again. -/
  | yielded
  /-- The socket is shut down. -/
  | disconnected
  /-- The circuit is taken out of the registry. -/
  | unregistered
  /-- An owner is told that the circuit is closed. -/
  | told (owner : ClientId)
  deriving DecidableEq, Repr

/-- What a socket gives when it is read. -/
inductive ReadOutcome where
  /-- Bytes, as many as there is room for at most. -/
  | data (bytes : List UInt8)
  /-- The peer sends nothing more. -/
  | endOfStream
  /-- There is nothing for now. -/
  | wouldBlock
  /-- It was interrupted. -/
  | interrupted
  /-- It fails. -/
  | failed (failure : SocketFailure)
  deriving DecidableEq, Repr

/-- A circuit in use: what its socket does when it is written to, and what others saw so far. -/
structure CircuitRun where
  /-- The circuit. -/
  circuit : Circuit
  /-- What the socket does; past that it takes everything. -/
  writes : List WriteOutcome := []
  /-- What others saw, in order. -/
  effects : List CircuitEffect := []
  deriving DecidableEq, Repr

namespace Circuit

/-- A circuit to a server, just connected. -/
def connected (server : SocketAddress) (priority : UInt16) (capacity : Nat) (now : Moment) :
    Circuit where
  server
  priority
  receiveBuffer := .ofCapacity capacity
  liveness := .received now

/-- The circuit is closed, or being closed. -/
def isClosed (circuit : Circuit) : Bool := circuit.phase != .isOpen

/-- Adds an owner, unless the circuit is closed. -/
def acquire (circuit : Circuit) (owner : ClientId) : Bool × Circuit :=
  if circuit.isClosed then (false, circuit)
  else if circuit.owners.contains owner then (true, circuit)
  else (true, { circuit with owners := circuit.owners ++ [owner] })

/-- Takes an owner away. Says whether it was the last one. -/
def disown (circuit : Circuit) (owner : ClientId) : Bool × Circuit :=
  let owners := circuit.owners.filter (· != owner)
  (circuit.owners.contains owner && owners.isEmpty, { circuit with owners })

/-- Starts to close the circuit, if nobody else has. Nothing more is sent to a peer that is gone. -/
def beginClose (circuit : Circuit) (peerGone : Bool) : Circuit :=
  if circuit.isClosed then circuit
  else { circuit with phase := if peerGone then .disconnecting else .flushing }

/-- Something was received. -/
def markAlive (circuit : Circuit) (now : Moment) : Circuit :=
  { circuit with liveness := .received now }

end Circuit

namespace CircuitRun

/-- Others see something more. -/
def emit (run : CircuitRun) (effect : CircuitEffect) : CircuitRun :=
  { run with effects := run.effects ++ [effect] }

/-- Writes the send buffer to the socket. -/
def writeOut (run : CircuitRun) : Option TransportError × CircuitRun :=
  let report := SendBuffer.writeOut run.circuit.sendBuffer run.writes
  (report.error,
    { circuit := { run.circuit with sendBuffer := report.buffer }
      writes := report.later
      effects :=
        if report.sent.isEmpty then run.effects else run.effects ++ [.sent report.sent] })

/-- The next step of closing a circuit. -/
def closeStep (run : CircuitRun) : CircuitRun :=
  let circuit := run.circuit
  let enter (run : CircuitRun) (phase : ClosePhase) : CircuitRun :=
    { run with circuit := { run.circuit with phase } }
  match circuit.phase with
  | .isOpen => run
  | .flushing => enter run.writeOut.2 .disconnecting
  | .disconnecting => enter (run.emit .disconnected) .unregistering
  | .unregistering => enter (run.emit .unregistered) .disowning
  | .disowning =>
    { run with circuit := { circuit with owners := [], phase := .telling circuit.owners } }
  | .telling [] => run
  | .telling (owner :: owners) => enter (run.emit (.told owner)) (.telling owners)

/-- Takes some steps of closing. -/
def closeSteps (run : CircuitRun) : Nat → CircuitRun
  | 0 => run
  | count + 1 => run.closeStep.closeSteps count

/-- Closes a circuit, unless it is closed already. -/
def close (run : CircuitRun) (peerGone : Bool) : CircuitRun :=
  if run.circuit.isClosed then run
  else
    let run := { run with circuit := run.circuit.beginClose peerGone }
    -- Nobody becomes an owner meanwhile, so there is one step to tell each.
    run.closeSteps (4 + run.circuit.owners.length)

/-- Takes an owner away, and closes the circuit if it was the last one. -/
def release (run : CircuitRun) (owner : ClientId) : CircuitRun :=
  let (last, circuit) := run.circuit.disown owner
  let run := { run with circuit }
  if last then run.close false else run

/-- Adds bytes to the send buffer, and sends, keeps or takes them back. An error that is fatal
closes the circuit. -/
def send (run : CircuitRun) (bytes : List UInt8) (finish : SendEnd) :
    Option TransportError × CircuitRun :=
  if run.circuit.isClosed then (some .closed, run)
  else
    let added := { run.circuit with sendBuffer := run.circuit.sendBuffer ++ bytes }
    match finish with
    | .discard => (none, run)
    | .commit => (none, { run with circuit := added })
    | .flush =>
      match { run with circuit := added }.writeOut with
      | (none, run) => (none, run)
      | (some error, run) => (some error, if error.isFatal then run.close true else run)

/-- Sends a request. -/
def request (run : CircuitRun) (request : Request) : Option TransportError × CircuitRun :=
  run.send request.toBytes .flush

/-- The request that a flow control signal is. -/
def requestOf : FlowSignal → Request
  | .pause => .eventsOff
  | .resume => .eventsOn

/-- Bytes were read: the peer is alive, flow control is looked after, and every complete frame is
delivered. A frame that cannot be received closes the circuit. Says whether to read on. -/
def received (run : CircuitRun) (now : Moment) (bytes : List UInt8) : Bool × CircuitRun :=
  let buffer := run.circuit.receiveBuffer.fill bytes
  -- The peer is asked to pause before its frames are handled, which may take a while.
  let (signal, flow) := run.circuit.flow.afterRead buffer.isFull
  let circuit := { run.circuit.markAlive now with receiveBuffer := buffer, flow }
  let run := { run with circuit }
  let run := match signal with
    | none => run
    | some signal => (run.request (requestOf signal)).2
  let (found, buffer) := buffer.deliver
  let run := found.frames.foldl (fun run frame => run.emit (.delivered frame)) run
  match found.oversized with
  | some _ => (false, run.close false)
  | none =>
    let run := { run with circuit := { run.circuit with receiveBuffer := buffer } }
    if run.circuit.flow.asserted then (false, run.emit .yielded) else (true, run)

/-- Reads once. A read into a full buffer gives nothing, and counts as the peer having gone. Says
whether to read on. -/
def readOnce (run : CircuitRun) (now : Moment) (outcome : ReadOutcome) : Bool × CircuitRun :=
  if run.circuit.isClosed then (false, run)
  else
    match outcome with
    | .data bytes =>
      let bytes := bytes.take run.circuit.receiveBuffer.free
      if bytes.isEmpty then (false, run.close true) else run.received now bytes
    | .endOfStream => (false, run.close true)
    | .failed _ => (false, run.close true)
    | .wouldBlock => (false, run)
    | .interrupted => (true, run)

/-- Reads as long as the socket gives something and no other socket is to have its turn. What was
not used of the outcomes is given back. -/
def readAll (run : CircuitRun) (now : Moment) : List ReadOutcome → CircuitRun × List ReadOutcome
  | [] => (run, [])
  | outcome :: later =>
    match run.readOnce now outcome with
    | (true, run) => run.readAll now later
    | (false, run) => (run, later)

/-- Checks whether the peer still answers. Says whether the circuit is open afterwards. -/
def checkLiveness (run : CircuitRun) (now : Moment) (timeout : Duration) : Bool × CircuitRun :=
  if run.circuit.isClosed then (false, run)
  else
    let (verdict, liveness) := run.circuit.liveness.check now timeout
    let run := { run with circuit := { run.circuit with liveness } }
    match verdict with
    | .quiet => (true, run)
    | .dead => (false, run.close true)
    | .probe =>
      let (_, run) := run.request .echo
      (!run.circuit.isClosed, run)

/-- The first messages on a circuit: version and priority, and who the client is. -/
def handshake (run : CircuitRun) (clientName hostName : String) :
    Option TransportError × CircuitRun :=
  run.send
    ((Request.version { priority := run.circuit.priority }).toBytes ++
      (Request.clientName clientName).toBytes ++ (Request.hostName hostName).toBytes) .flush

end CircuitRun

end ChannelAccess
