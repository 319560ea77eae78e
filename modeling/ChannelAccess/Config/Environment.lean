import ChannelAccess.AddressList
import ChannelAccess.Config.Client
import ChannelAccess.Number.Single

/-!
# Configuration from the environment

The environment variables that a client heeds. A value that cannot be read counts as missing, and
numbers below a least value count as that value. Seconds are single precision numbers; a number of
seconds that is infinite or too long for a duration is refused.
-/

namespace ChannelAccess

/-- The environment that a client starts in. -/
structure Environment where
  /-- The value of a variable, if it is set. -/
  get? : String → Option String

/-- A number of seconds that is no duration. -/
inductive SecondsError where
  /-- Infinite, or too long. -/
  | tooLong
  deriving DecidableEq, Repr

namespace Environment

/-- The least port that is heeded. -/
def leastPort : UInt16 := 5000

/-- The port that a variable holds. -/
def port (environment : Environment) (name : String) (usual : UInt16) : UInt16 :=
  let read := (environment.get? name).bind fun text =>
    (Natural.read? Natural.bound16 text.toList).map UInt16.ofNat
  max (read.getD usual) leastPort

/-- The duration of a single precision number of seconds that is not negative. -/
def durationOf : Single → Except SecondsError Duration
  | .finite _ units =>
    match Duration.ofQuotient? units (1 <<< Single.unitBits) with
    | some duration => .ok duration
    | none => .error .tooLong
  | _ => .error .tooLong

/-- The number of seconds that a variable holds, at least the quotient of two numbers. -/
def seconds (environment : Environment) (name : String) (usual : Nat)
    (leastNumerator leastDenominator : Nat) : Except SecondsError Duration :=
  let least :=
    match Single.ofQuotient false leastNumerator leastDenominator with
    | .finite _ units => units
    | _ => 0
  let read := (environment.get? name).bind fun text => Single.read? text.toList
  durationOf ((read.getD (Single.ofQuotient false usual 1)).atLeast least)

/-- The size that a variable holds, at least the usual one. -/
def size (environment : Environment) (name : String) (usual : Nat) : Nat :=
  let read := (environment.get? name).bind fun text =>
    Natural.read? Natural.bound64 text.toList
  max (read.getD usual) usual

/-- The engine that the environment chooses, the standard one if it chooses none. -/
def monitorEngine (environment : Environment) : MonitorEngine :=
  match environment.get? "EPICARS_MONITOR_NOTIFIER" with
  | none => MonitorEngine.standard
  | some specifier =>
    match MonitorEngine.parse specifier with
    | .ok engine => engine
    | .error _ => MonitorEngine.standard

/-- The addresses that the environment names. -/
def addressList (environment : Environment) (serverPort : UInt16) : List SocketAddress :=
  ((environment.get? "EPICS_CA_ADDR_LIST").map (AddressList.parse · serverPort)).getD []

/-- Searches go to broadcast addresses unless the environment says no, in any case. -/
def autoAddressList (environment : Environment) : Bool :=
  ((environment.get? "EPICS_CA_AUTO_ADDR_LIST").map fun text =>
    !Fields.sameIgnoringCase text.toList ['n', 'o']).getD true

/-- The configuration that the environment asks for. -/
def clientConfig (environment : Environment) : Except SecondsError ClientConfig := do
  let serverPort := environment.port "EPICS_CA_SERVER_PORT" 5064
  let usualSearch : SearchConfig := {}
  let longestSearch ← environment.seconds "EPICS_CA_MAX_SEARCH_PERIOD" 300 60 1
  let connectionTimeout ← environment.seconds "EPICS_CA_CONN_TMO" 30 1 10
  let beaconPeriod ← environment.seconds "EPICS_CA_BEACON_PERIOD" 15 1 10
  return {
    addressList := environment.addressList serverPort
    autoAddressList := environment.autoAddressList
    connectionTimeout
    beaconPeriod
    serverPort
    repeaterPort := environment.port "EPICS_CA_REPEATER_PORT" 5065
    maxArrayBytes := environment.size "EPICS_CA_MAX_ARRAY_BYTES" 16384
    monitorEngine := environment.monitorEngine
    search := { usualSearch with maxInterval := min usualSearch.maxInterval longestSearch } }

end Environment

end ChannelAccess
