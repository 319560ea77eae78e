/-!
# Socket addresses

An address of a host, of either kind, and a port. An address of 128 bits may be meant on one link of
the own host only, its zone. Addresses are ordered by kind, number, port and zone.
-/

namespace ChannelAccess

/-- The address of a host. -/
inductive IPAddress where
  /-- An address of 32 bits. -/
  | v4 (bits : UInt32)
  /-- An address of 128 bits, and its zone, or zero if it has none. -/
  | v6 (bits : BitVec 128) (zone : UInt32 := 0)
  deriving DecidableEq, Repr, Inhabited

/-- The address of a host has 32 bits. -/
def IPAddress.isV4 : IPAddress → Bool
  | .v4 _ => true
  | .v6 _ _ => false

/-- The same number without a zone. -/
def IPAddress.withoutZone : IPAddress → IPAddress
  | .v4 bits => .v4 bits
  | .v6 bits _ => .v6 bits

/-- The address that names no host. -/
def IPAddress.unspecified : IPAddress := .v4 0

/-- The address of the own host. -/
def IPAddress.loopback : IPAddress := .v4 0x7F000001

/-- A port of a host. -/
structure SocketAddress where
  /-- The host. -/
  ip : IPAddress
  /-- The port on the host. -/
  port : UInt16
  deriving DecidableEq, Repr, Inhabited

namespace SocketAddress

/-- The kind of an address as a number. -/
def kind (address : SocketAddress) : Nat := if address.ip.isV4 then 0 else 1

/-- The host of an address as a number. -/
def hostNumber (address : SocketAddress) : Nat :=
  match address.ip with
  | .v4 bits => bits.toNat
  | .v6 bits _ => bits.toNat

/-- The zone of the host of an address. -/
def zone (address : SocketAddress) : UInt32 :=
  match address.ip with
  | .v4 _ => 0
  | .v6 _ zone => zone

/-- Addresses in order of kind, number of the host, port and zone. -/
def precedes (a b : SocketAddress) : Bool :=
  a.kind < b.kind || (a.kind == b.kind &&
    (a.hostNumber < b.hostNumber || (a.hostNumber == b.hostNumber &&
      (a.port < b.port || (a.port == b.port && a.zone ≤ b.zone)))))

end SocketAddress

end ChannelAccess
