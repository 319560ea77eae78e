import ChannelAccess.Transport.Error

/-!
# Networks

What becomes of connections and datagrams is up to the network. A `Network` says so for every
address.
-/

namespace ChannelAccess

/-- What the network does with what it is given. -/
structure Network where
  /-- Why an address cannot be connected to. -/
  connectFailure? : SocketAddress → Option SocketFailure
  /-- Why a datagram of some length cannot be sent to an address. -/
  datagramFailure? : SocketAddress → Nat → Option SocketFailure

namespace Network

/-- A datagram has a length of 16 bits. -/
def maxDatagramLength : Nat := 65535

/-- A host with no network. It still refuses datagrams that no network would take. -/
def unreachable : Network where
  connectFailure? _ := some .networkUnreachable
  datagramFailure? address length :=
    if maxDatagramLength < length then some .messageTooLong
    else if address.port = 0 then some .invalidAddress
    else some .networkUnreachable

end Network

end ChannelAccess
