import ChannelAccess.Address.Basic
import ChannelAccess.Config.Engine
import ChannelAccess.Config.Search
import ChannelAccess.Wire.Header

/-!
# Configuration of a client

All that a client can be told before it starts, and the usual values.
-/

namespace ChannelAccess

/-- What a client can be told before it starts. -/
structure ClientConfig where
  /-- Addresses to send searches to. -/
  addressList : List SocketAddress := []
  /-- Searches also go to the broadcast address of every interface. -/
  autoAddressList : Bool := true
  /-- How long a circuit may be silent before it is taken to be dead. -/
  connectionTimeout : Duration := Duration.ofSeconds 30
  /-- The usual time between two beacons of a server. -/
  beaconPeriod : Duration := Duration.ofSeconds 15
  /-- The port of servers. -/
  serverPort : UInt16 := 5064
  /-- The port of the repeater. -/
  repeaterPort : UInt16 := 5065
  /-- The largest payload accepted on a circuit. -/
  maxArrayBytes : Nat := 16384
  /-- How updates reach consumers. -/
  monitorEngine : MonitorEngine := MonitorEngine.standard
  /-- How often searches are repeated. -/
  search : SearchConfig := {}
  /-- Threads that serve circuits. -/
  ioThreads : Nat := 4
  /-- The name of the user given to servers, the login name if there is none here. -/
  clientName : Option String := none
  /-- The name of the host given to servers, the host's own if there is none here. -/
  hostName : Option String := none
  deriving Repr, Inhabited

/-- The capacity of a circuit's receive buffer: the largest frame accepted. -/
def ClientConfig.receiveBufferSize (config : ClientConfig) : Nat :=
  config.maxArrayBytes + extendedHeaderLength

end ChannelAccess
