import ChannelAccess.Wire.Command
import ChannelAccess.Wire.Message

/-!
# Requests

Everything that a client sends. `Request.message` says which message each request is; its bytes are
those of that message.
-/

namespace ChannelAccess

/-- Minor revision of the protocol that the client speaks. -/
def minorRevision : UInt16 := 13

/-- Protocol version and priority: the first message on a circuit and in a search datagram. -/
structure Version where
  /-- Priority of the circuit. -/
  priority : UInt16 := 0
  /-- Minor revision of the protocol that the sender speaks. -/
  protocolVersion : UInt16 := minorRevision
  /-- Sequence number of a search datagram, zero on circuits. -/
  sequence : UInt32 := 0
  deriving DecidableEq, Repr, Inhabited

/-- A search for the channel of a given name. -/
structure SearchRequest where
  /-- Client's number of the channel, which a reply carries back. -/
  channelId : UInt32 := 0
  /-- Name of the channel. -/
  name : String := ""
  /-- A server without the channel is asked to say so. -/
  wantsReply : Bool := false
  /-- Minor revision of the protocol that the client speaks. -/
  protocolVersion : UInt16 := minorRevision
  deriving DecidableEq, Repr, Inhabited

/-- Which changes of a channel are reported to a subscription. -/
structure EventMask where
  /-- Changes of the value. -/
  value : Bool := true
  /-- Changes for the archive. -/
  log : Bool := false
  /-- Changes of the alarm state. -/
  alarm : Bool := true
  /-- Changes of the channel's properties. -/
  property : Bool := false
  deriving DecidableEq, Repr, Inhabited

/-- The mask as a word, one bit for each kind of change. -/
def EventMask.toWord (mask : EventMask) : UInt16 :=
  mask.value.toUInt16 ||| mask.log.toUInt16 <<< 1 ||| mask.alarm.toUInt16 <<< 2 |||
    mask.property.toUInt16 <<< 3

/-- What a request about elements of one channel carries. -/
structure ElementRequest where
  /-- Wire type of the elements. -/
  dataType : UInt16
  /-- Number of elements. -/
  dataCount : UInt32
  /-- Server's number of the channel. -/
  serverId : UInt32
  /-- Client's number of this request or subscription, which an answer carries back. -/
  requestId : UInt32
  deriving DecidableEq, Repr, Inhabited

/-- Everything that a client sends. -/
inductive Request where
  /-- Protocol version and priority. -/
  | version (version : Version)
  /-- Search for a channel. -/
  | search (search : SearchRequest)
  /-- Name of the user of the client. -/
  | clientName (name : String)
  /-- Name of the host that the client runs on. -/
  | hostName (name : String)
  /-- Heartbeat of a circuit. -/
  | echo
  /-- Pause of all subscription updates. -/
  | eventsOff
  /-- Resumption of subscription updates. -/
  | eventsOn
  /-- Request to the local repeater for copies of beacons to the client's address. -/
  | repeaterRegister (clientAddress : UInt32)
  /-- Creation of a channel by name. -/
  | createChannel (channelId protocolVersion : UInt32) (name : String)
  /-- End of a channel. -/
  | clearChannel (serverId channelId : UInt32)
  /-- A read that is to be answered. -/
  | readNotify (elements : ElementRequest)
  /-- A write that is to be answered, with its elements already encoded. -/
  | writeNotify (elements : ElementRequest) (data : List UInt8)
  /-- Start of a subscription. -/
  | eventAdd (elements : ElementRequest) (mask : EventMask)
  /-- End of a subscription. -/
  | eventCancel (elements : ElementRequest)
  deriving DecidableEq, Repr

/-- The value of the type field that asks for a reply in any case. -/
def searchWantsReply : UInt16 := 10

/-- The value of the type field that asks for a reply only from a server with the channel. -/
def searchWantsNoReply : UInt16 := 5

/-- The message of a protocol version. -/
def Version.message (version : Version) : Message where
  command := Command.version
  dataType := version.priority
  dataCount := version.protocolVersion.toUInt32
  parameter1 := version.sequence

/-- The message of a search carries the channel's number in both parameters. -/
def SearchRequest.message (search : SearchRequest) : Message where
  command := Command.search
  dataType := if search.wantsReply then searchWantsReply else searchWantsNoReply
  dataCount := search.protocolVersion.toUInt32
  parameter1 := search.channelId
  parameter2 := search.channelId
  payload := Terminated.terminate search.name

/-- Bytes that a search is taken to add to a datagram: a standard header and the padded name. -/
def SearchRequest.encodedLength (search : SearchRequest) : Nat :=
  standardHeaderLength + (Terminated.terminate search.name).length

/-- The message of a request about elements of a channel. -/
def ElementRequest.message (elements : ElementRequest) (command : UInt16)
    (payload : List UInt8) : Message where
  command := command
  dataType := elements.dataType
  dataCount := elements.dataCount
  parameter1 := elements.serverId
  parameter2 := elements.requestId
  payload := payload

/-- The payload that starts a subscription: three unused words, the mask, and two unused bytes. -/
def EventMask.payload (mask : EventMask) : List UInt8 :=
  List.replicate 12 0 ++ BigEndian.word16 mask.toWord ++ List.replicate 2 0

/-- The message that each request is. -/
def Request.message : Request → Message
  | .version v => v.message
  | .search s => s.message
  | .clientName name => { command := Command.clientName, payload := Terminated.terminate name }
  | .hostName name => { command := Command.hostName, payload := Terminated.terminate name }
  | .echo => { command := Command.echo }
  | .eventsOff => { command := Command.eventsOff }
  | .eventsOn => { command := Command.eventsOn }
  | .repeaterRegister address => { command := Command.repeaterRegister, parameter2 := address }
  | .createChannel channelId protocolVersion name =>
    { command := Command.createChannel, parameter1 := channelId, parameter2 := protocolVersion,
      payload := Terminated.terminate name }
  | .clearChannel serverId channelId =>
    { command := Command.clearChannel, parameter1 := serverId, parameter2 := channelId }
  | .readNotify elements => elements.message Command.readNotify []
  | .writeNotify elements data => elements.message Command.writeNotify data
  | .eventAdd elements mask => elements.message Command.eventAdd mask.payload
  | .eventCancel elements => elements.message Command.eventCancel []

/-- The request on the wire. -/
def Request.toBytes (request : Request) : List UInt8 := request.message.toBytes

/-- The protocol version at the front of the bytes, and what follows it. -/
def Version.parse (bytes : List UInt8) : Except ReadError (Version × List UInt8) := do
  let (message, rest) ← Message.parseOf Command.version bytes
  .ok ({ priority := message.dataType, protocolVersion := message.dataCount.toUInt16,
         sequence := message.parameter1 }, rest)

/-- The search at the front of the bytes, and what follows it. The channel's number is taken from
the first parameter. -/
def SearchRequest.parse (bytes : List UInt8) : Except ReadError (SearchRequest × List UInt8) := do
  let (message, rest) ← Message.parseOf Command.search bytes
  .ok ({ channelId := message.parameter1, name := Terminated.ofField message.payload,
         wantsReply := message.dataType == searchWantsReply,
         protocolVersion := message.dataCount.toUInt16 }, rest)

end ChannelAccess
