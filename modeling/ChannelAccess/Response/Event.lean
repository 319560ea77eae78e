import ChannelAccess.Frame
import ChannelAccess.Search.Manager

/-!
# Events

What a client is told about its servers, channels and subscriptions.
-/

namespace ChannelAccess

/-- Something that a client has to act on. -/
inductive ClientEvent where
  /-- A search was answered. -/
  | channelFound (result : SearchResult)
  /-- A channel was created. -/
  | channelCreated (server : SocketAddress) (channelId serverId : UInt32) (dataType : UInt16)
      (dataCount : UInt32)
  /-- A channel could not be created. -/
  | channelCreateFailed (server : SocketAddress) (channelId : UInt32)
  /-- The server ended a channel. -/
  | channelDisconnected (server : SocketAddress) (channelId : UInt32)
  /-- The access to a channel is this from now on. -/
  | accessRights (server : SocketAddress) (channelId access : UInt32)
  /-- An update of a subscription. -/
  | monitorUpdate (server : SocketAddress) (subscriptionId status : UInt32) (dataType : UInt16)
      (dataCount : UInt32) (payload : List UInt8)
  /-- The answer to a read or write. -/
  | notifyResponse (server : SocketAddress) (command : UInt16) (requestId status : UInt32)
      (dataType : UInt16) (dataCount : UInt32) (payload : List UInt8)
  /-- A request failed. Its header is given if it could be read. -/
  | serverError (server : SocketAddress) (channelId status : UInt32) (request : Option Header)
      (message : String)
  /-- A server has just started, or is reached again. -/
  | beaconAnomaly (server : SocketAddress)
  deriving DecidableEq, Repr

end ChannelAccess
