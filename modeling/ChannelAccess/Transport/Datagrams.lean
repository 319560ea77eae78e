import ChannelAccess.Frame
import ChannelAccess.Transport.Network

/-!
# Datagram transport

Searches go out and replies and beacons come in as datagrams. What is sent goes to every address of
the transport; it counts as sent if any of them could be sent to.

A datagram arrives whole. `DatagramTransport.unpack` takes the complete frames off its front; a
frame that claims more bytes than remain is never completed by a later read, so the rest is dropped.
-/

namespace ChannelAccess

/-- A socket for datagrams and the addresses that it sends to. -/
structure DatagramTransport where
  /-- Where everything is sent. -/
  addresses : List SocketAddress
  /-- The transport is closed. -/
  closed : Bool := false
  /-- Minor revision that was announced last, zero until then. -/
  revision : UInt16 := 0
  deriving DecidableEq, Repr

/-- A datagram on its way to an address. -/
structure Datagram where
  /-- Where it goes. -/
  address : SocketAddress
  /-- What it holds. -/
  bytes : List UInt8
  deriving DecidableEq, Repr

namespace DatagramTransport

/-- Sends a datagram to one address. -/
def sendTo (transport : DatagramTransport) (network : Network) (bytes : List UInt8)
    (address : SocketAddress) : Except TransportError Datagram :=
  if transport.closed then .error .closed
  else
    match network.datagramFailure? address bytes.length with
    | some failure => .error (.socket failure)
    | none => .ok ⟨address, bytes⟩

/-- Sends a datagram to every address. Gives what was sent and, if nothing was, the error at the
last address. -/
def send (transport : DatagramTransport) (network : Network) (bytes : List UInt8) :
    List Datagram × Option TransportError :=
  let results := transport.addresses.map (transport.sendTo network bytes)
  let sent := results.filterMap Except.toOption
  let errors := results.filterMap fun
    | .error error => some error
    | .ok _ => none
  (sent, if sent.isEmpty then errors.getLast? else none)

/-- Closes the transport. -/
def close (transport : DatagramTransport) : DatagramTransport := { transport with closed := true }

/-- The frames of a datagram in order, and what is dropped of it: everything from the first header
on that is not complete, or that declares more payload than remains. -/
def unpack (datagram : List UInt8) : List Frame × List UInt8 :=
  if datagram.isEmpty then ([], [])
  else
    match Header.parse? datagram with
    | none => ([], datagram)
    | some (header, _) =>
      let length := header.frameLength
      if _ : datagram.length < length then ([], datagram)
      else
        have := Frame.frameLength_pos header
        let payload := (datagram.drop header.encodedLength).take (length - header.encodedLength)
        let (frames, dropped) := unpack (datagram.drop length)
        (⟨header, payload⟩ :: frames, dropped)
termination_by datagram.length
decreasing_by simp only [List.length_drop]; omega

/-- The frames of a datagram that is received. A closed transport receives nothing. -/
def receive (transport : DatagramTransport) (bytes : List UInt8) : List Frame :=
  if transport.closed then [] else (unpack bytes).1

end DatagramTransport

end ChannelAccess
