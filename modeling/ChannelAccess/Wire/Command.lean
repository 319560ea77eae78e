/-!
# Command codes

The number in the first field of a header that says what kind of message it is.
-/

namespace ChannelAccess.Command

/-- Protocol version and priority of a circuit, or sequence number of a search datagram. -/
def version : UInt16 := 0

/-- Start of a subscription, and each of its updates. -/
def eventAdd : UInt16 := 1

/-- End of a subscription. -/
def eventCancel : UInt16 := 2

/-- A search for a channel by name, and the reply to it. -/
def search : UInt16 := 6

/-- Pause of all subscription updates of a circuit. -/
def eventsOff : UInt16 := 8

/-- Resumption of subscription updates. -/
def eventsOn : UInt16 := 9

/-- A request that the server could not serve. -/
def error : UInt16 := 11

/-- End of a channel. -/
def clearChannel : UInt16 := 12

/-- A beacon: some server is up. -/
def beacon : UInt16 := 13

/-- A read with its answer. -/
def readNotify : UInt16 := 15

/-- Creation of a channel. -/
def createChannel : UInt16 := 18

/-- A write with its answer. -/
def writeNotify : UInt16 := 19

/-- Name of the user of a client. -/
def clientName : UInt16 := 20

/-- Name of the host that a client runs on. -/
def hostName : UInt16 := 21

/-- Access that the client has to a channel. -/
def accessRights : UInt16 := 22

/-- Heartbeat of a circuit. -/
def echo : UInt16 := 23

/-- Request to the local repeater for copies of beacons. -/
def repeaterRegister : UInt16 := 24

/-- A channel that could not be created. -/
def createChannelFailed : UInt16 := 26

/-- A channel whose server ended it. -/
def serverDisconnect : UInt16 := 27

end ChannelAccess.Command
