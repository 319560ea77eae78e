import ChannelAccess.Address.Text

/-!
# Errors of transports

What can go wrong on a circuit or a datagram socket.
-/

namespace ChannelAccess

/-- What a socket reports when an operation fails. -/
inductive SocketFailure where
  /-- Nobody listens at the address. -/
  | connectionRefused
  /-- The peer dropped the connection. -/
  | connectionReset
  /-- There is no way to the address. -/
  | networkUnreachable
  /-- The address cannot be sent to. -/
  | invalidAddress
  /-- The datagram is longer than any may be. -/
  | messageTooLong
  /-- Any other failure, by its text. -/
  | other (text : String)
  deriving DecidableEq, Repr

/-- The text of a failure. -/
def SocketFailure.text : SocketFailure → String
  | .connectionRefused => "Connection refused"
  | .connectionReset => "Connection reset by peer"
  | .networkUnreachable => "Network is unreachable"
  | .invalidAddress => "Invalid argument"
  | .messageTooLong => "Message too long"
  | .other text => text

/-- The name of the kind of failure, by which programs tell failures apart. -/
def SocketFailure.kind : SocketFailure → String
  | .connectionRefused => "ConnectionRefused"
  | .connectionReset => "ConnectionReset"
  | .networkUnreachable => "NetworkUnreachable"
  | .invalidAddress => "InvalidInput"
  | .messageTooLong => "Uncategorized"
  | .other _ => "Other"

/-- What can go wrong on a transport. -/
inductive TransportError where
  /-- The socket failed. -/
  | socket (failure : SocketFailure)
  /-- A frame is declared that does not fit the receive buffer. -/
  | payloadTooLarge (size capacity : Nat)
  /-- The socket takes no more for now, and some bytes are left. -/
  | sendBufferFull (pending : Nat)
  /-- The peer closed the connection. -/
  | peerDisconnected
  /-- The transport was closed before. -/
  | closed
  /-- No connection within the time allowed. -/
  | connectTimeout (address : SocketAddress)
  /-- The reactor takes no more transports. -/
  | reactorClosed
  deriving DecidableEq, Repr

namespace TransportError

/-- The text of the error. -/
def message : TransportError → String
  | .socket failure => s!"Transport I/O error: {failure.text}"
  | .payloadTooLarge size capacity =>
    s!"Declared frame of {size} bytes exceeds receive buffer of {capacity}"
  | .sendBufferFull pending =>
    s!"Send buffer still full after retrying, {pending} bytes unsent"
  | .peerDisconnected => "Peer closed the connection"
  | .closed => "Transport is closed"
  | .connectTimeout address => s!"Timed out connecting to {address.toText}"
  | .reactorClosed => "Reactor has been shut down"

/-- The name of the kind of error, by which programs tell errors apart. -/
def kind : TransportError → String
  | .socket _ => "Io"
  | .payloadTooLarge _ _ => "PayloadTooLarge"
  | .sendBufferFull _ => "SendBufferFull"
  | .peerDisconnected => "PeerDisconnected"
  | .closed => "Closed"
  | .connectTimeout _ => "ConnectTimeout"
  | .reactorClosed => "Reactor"

/-- The connection cannot be used any more after the error. Only a full send buffer passes. -/
def isFatal : TransportError → Bool
  | .sendBufferFull _ => false
  | _ => true

end TransportError

end ChannelAccess
