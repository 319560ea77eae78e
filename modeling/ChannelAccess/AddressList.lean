import ChannelAccess.Address.Text

/-!
# Lists of addresses

A list of addresses to send searches to, as users write it: entries with white space between them,
each a host with or without a port. Entries that name no address are passed over, and so are
addresses of 128 bits.

A host is written as its address or by a name. What addresses a name has is for the network to say:
`resolve` and `parseWith` are given a look-up. `parse` looks no names up.
-/

namespace ChannelAccess.AddressList

/-- A host and a port with a colon between them. The port may have a plus sign. -/
def splitPort? (entry : List Char) : Option (List Char × UInt16) := do
  let (host, port) ← SocketAddress.splitLast? ':' entry
  let port ← Natural.read? Natural.bound16 port
  some (host, UInt16.ofNat port)

/-- The addresses that an entry names, none if its port is not one or its host has no address. Only
an entry with a colon has a port of its own. -/
def resolve (lookUp : List Char → List IPAddress) (defaultPort : UInt16) (entry : List Char) :
    List SocketAddress :=
  if ':' ∈ entry then
    match SocketAddress.read? entry with
    | some address => [address]
    | none =>
      match splitPort? entry with
      | some (host, port) => (lookUp host).map fun ip => ⟨ip, port⟩
      | none => []
  else
    match IPAddress.read? entry with
    | some ip => [⟨ip, defaultPort⟩]
    | none => (lookUp entry).map fun ip => ⟨ip, defaultPort⟩

/-- The addresses of 32 bits that a list names, in order and with repetitions. -/
def parseWith (lookUp : List Char → List IPAddress) (text : String) (defaultPort : UInt16) :
    List SocketAddress :=
  ((Fields.words Fields.isAsciiBlank text.toList).flatMap (resolve lookUp defaultPort)).filter
    (·.ip.isV4)

/-- The address that a host is written as, if it is not written by a name. -/
def lookUpLiteral (host : List Char) : List IPAddress := (IPAddress.read? host).toList

/-- The addresses of 32 bits that a list names without names of hosts. -/
def parse (text : String) (defaultPort : UInt16) : List SocketAddress :=
  parseWith lookUpLiteral text defaultPort

/-- Only addresses of 32 bits are ever named, whatever names are looked up. -/
theorem isV4_of_mem_parseWith {lookUp : List Char → List IPAddress} {text : String}
    {defaultPort : UInt16} {address : SocketAddress}
    (h : address ∈ parseWith lookUp text defaultPort) : address.ip.isV4 = true := by
  unfold parseWith at h
  exact (List.mem_filter.mp h).2

end ChannelAccess.AddressList
