import ChannelAccess.Beacon
import ChannelAccess.Response.Event

/-!
# Handling of received frames

Every frame that a client receives, on a circuit or as a datagram, comes here. Search replies go to
the search manager and beacons to the detector of their server; all that a client has to act on
becomes an event. Frames of commands that ask for nothing are passed over.
-/

namespace ChannelAccess

/-- What handles the frames that a client receives. -/
structure ResponseHandler where
  /-- The port of servers that do not name their own. -/
  serverPort : UInt16
  /-- The searches, as long as there is a manager of them. -/
  search : Option SearchManager := none
  /-- What is known from the beacons of each server. -/
  beacons : List (SocketAddress × BeaconDetector) := []

/-- What comes of a frame. -/
structure Handled where
  /-- The handler afterwards. -/
  handler : ResponseHandler
  /-- The events, in order. -/
  events : List ClientEvent := []
  /-- The minor revision that the peer of the transport announced. -/
  revision : Option UInt16 := none
  /-- The server whose circuits are known to be alive. -/
  alive : Option SocketAddress := none

namespace ResponseHandler

/-- The address field of a beacon that stands for its sender. -/
def beaconFromSender : UInt32 := 0

/-- The address field of a search reply that stands for its sender. -/
def replyFromSender : UInt32 := 0xFFFFFFFF

/-- The address in a field, or the sender's if the field says so. Such an address has no
zone. -/
def fieldAddress (sender : UInt32) (field : UInt32) (source : SocketAddress) : IPAddress :=
  if field = sender then source.ip.withoutZone else .v4 field

/-- The port in a field, or the usual one if the field is zero. -/
def fieldPort (handler : ResponseHandler) (field : UInt16) : UInt16 :=
  if field = 0 then handler.serverPort else field

/-- What is known from the beacons of a server. -/
def detector? (handler : ResponseHandler) (server : SocketAddress) : Option BeaconDetector :=
  (handler.beacons.find? (·.1 == server)).map (·.2)

/-- Notes what is known from the beacons of a server. -/
def setDetector (handler : ResponseHandler) (server : SocketAddress) (detector : BeaconDetector) :
    ResponseHandler :=
  if (handler.detector? server).isSome then
    { handler with
      beacons := handler.beacons.map fun entry =>
        if entry.1 == server then (server, detector) else entry }
  else { handler with beacons := handler.beacons ++ [(server, detector)] }

/-- Takes a server up among those known, if it is new. -/
def meet (handler : ResponseHandler) (server : SocketAddress) : ResponseHandler :=
  handler.setDetector server ((handler.detector? server).getD {})

/-- The servers that are known. -/
def knownServers (handler : ResponseHandler) : List SocketAddress := handler.beacons.map (·.1)

/-- The answer that a search reply carries. The minor revision is the first word of the payload. -/
def searchResultOf (handler : ResponseHandler) (source : SocketAddress) (frame : Frame) :
    SearchResult where
  channelId := frame.header.parameter2
  serverId := frame.header.parameter1
  dataType := frame.header.dataType
  dataCount := frame.header.dataCount
  minorVersion := ((BigEndian.read16 frame.payload).map (·.1)).getD 0
  serverAddress :=
    { ip := fieldAddress replyFromSender frame.header.parameter1 source
      port := handler.fieldPort frame.header.dataType }

/-- A search reply ends the search for its channel, if that is in progress. -/
def handleSearchReply (handler : ResponseHandler) (source : SocketAddress) (frame : Frame) :
    Handled :=
  match handler.search with
  | none => { handler }
  | some manager =>
    let result := handler.searchResultOf source frame
    let (accepted, manager) := manager.searchResponse result
    { handler := { handler with search := some manager }
      events := if accepted then [.channelFound result] else [] }

/-- The server that a beacon speaks of. -/
def beaconServer (handler : ResponseHandler) (source : SocketAddress) (header : Header) :
    SocketAddress where
  ip := fieldAddress beaconFromSender header.parameter2 source
  port := handler.fieldPort header.dataCount.toUInt16

/-- A beacon shows that the circuits to its server are alive. An anomaly makes all searches start
over. -/
def handleBeacon (handler : ResponseHandler) (now : Moment) (source : SocketAddress)
    (header : Header) : Handled :=
  let server := handler.beaconServer source header
  let beacon : Beacon :=
    { minorRevision := header.dataType, sequence := header.parameter1, time := now }
  let (anomaly, detector) := ((handler.detector? server).getD {}).notify beacon
  let handler := handler.setDetector server detector
  if anomaly then
    { handler := { handler with search := handler.search.map (·.beaconAnomaly now) }
      events := [.beaconAnomaly server]
      alive := some server }
  else { handler, alive := some server }

/-- The header and the text that the payload of an error carries. The payload of the failed request
is left out if it was sent back, unless nothing would remain. -/
def errorReport (payload : List UInt8) : Option Header × String :=
  match Header.parse? payload with
  | none => (none, Terminated.ofField payload)
  | some (request, rest) =>
    -- What follows is the text, after the failed request's payload if that was sent back.
    let text := rest.drop request.payloadSize.toNat
    (some request, Terminated.ofField (if text = [] then rest else text))

/-- What comes of a frame. It was sent from `source`; the transport that it came on has the peer
`peer`, if it has a single one. -/
def handle (handler : ResponseHandler) (now : Moment) (source : SocketAddress)
    (peer : Option SocketAddress) (frame : Frame) : Handled :=
  let server := peer.getD source
  let header := frame.header
  let command := header.command
  if command = Command.version then { handler, revision := some header.dataCount.toUInt16 }
  else if command = Command.search then handler.handleSearchReply source frame
  else if command = Command.beacon then handler.handleBeacon now source header
  else if command = Command.eventAdd then
    { handler
      events := [.monitorUpdate server header.parameter2 header.parameter1 header.dataType
        header.dataCount frame.payload] }
  else if command = Command.readNotify ∨ command = Command.writeNotify then
    { handler
      events := [.notifyResponse server command header.parameter2 header.parameter1
        header.dataType header.dataCount frame.payload] }
  else if command = Command.createChannel then
    { handler
      events := [.channelCreated server header.parameter1 header.parameter2 header.dataType
        header.dataCount] }
  else if command = Command.accessRights then
    { handler, events := [.accessRights server header.parameter1 header.parameter2] }
  else if command = Command.createChannelFailed then
    { handler, events := [.channelCreateFailed server header.parameter1] }
  else if command = Command.serverDisconnect then
    { handler, events := [.channelDisconnected server header.parameter1] }
  else if command = Command.error then
    let (request, message) := errorReport frame.payload
    { handler
      events := [.serverError server header.parameter1 header.parameter2 request message] }
  else { handler }

/-- The search manager goes away, and with it all promised replies. -/
def dropSearch (handler : ResponseHandler) : ResponseHandler :=
  { handler with search := none }

end ResponseHandler

end ChannelAccess
