import ChannelAccess.Address.Basic
import ChannelAccess.Config.Search
import ChannelAccess.Timer.Basic
import ChannelAccess.Wire.Request

/-!
# Searches for channels

A search manager repeats the search for each channel until a server answers, at growing intervals.
Requests that are due at about the same time share a datagram. Each search in progress has one task
in the timer; a task whose search was answered, given up or replaced finds this out when it runs.

The run of a task consists of steps between which anything else may happen: the timer takes the task
off its heap, `request` adds the request to the datagram, `advance` reads the interval and lengthens
it, and `putBack` puts the task back. `runTask` is all of them in a row.
-/

namespace ChannelAccess

/-- A server's answer to a search. -/
structure SearchResult where
  /-- Client's number of the channel. -/
  channelId : UInt32
  /-- The server field of the reply: an address, or all ones. -/
  serverId : UInt32
  /-- The type field of the reply. -/
  dataType : UInt16
  /-- The count field of the reply. -/
  dataCount : UInt32
  /-- Minor revision of the protocol that the server speaks. -/
  minorVersion : UInt16
  /-- Where a circuit to the server is to be opened. -/
  serverAddress : SocketAddress
  deriving DecidableEq, Repr

/-- What has become of a promised reply. -/
inductive ReplyStatus where
  /-- The search goes on. -/
  | waiting
  /-- The search was answered. -/
  | answered (result : SearchResult)
  /-- The search was given up, or the answer was taken. -/
  | closed
  deriving DecidableEq, Repr

/-- A search in progress. -/
structure PendingSearch where
  /-- Client's number of the channel. -/
  channelId : UInt32
  /-- Name of the channel. -/
  name : String
  /-- Handle of the search's task. -/
  handle : Nat
  /-- The interval that is to follow the next request. -/
  delay : Duration
  /-- Number of the reply that was promised, if one was. -/
  reply : Option Nat
  deriving DecidableEq, Repr

/-- The datagram that is being filled. -/
structure SearchFrame where
  /-- The bytes so far. -/
  buffer : List UInt8 := []
  /-- The requests so far. -/
  searches : Nat := 0
  /-- The sequence number of the next datagram. -/
  sequence : UInt32 := 0
  deriving DecidableEq, Repr

/-- The request of a search. -/
def PendingSearch.request (search : PendingSearch) : SearchRequest :=
  { channelId := search.channelId, name := search.name }

/-- The datagram with a version in front, if it is empty so far. -/
def SearchFrame.started (frame : SearchFrame) : SearchFrame :=
  if frame.searches = 0 then
    { buffer := frame.buffer ++ (Request.version { sequence := frame.sequence }).toBytes
      searches := 0
      sequence := frame.sequence + 1 }
  else frame

/-- The datagram with one more request. -/
def SearchFrame.push (frame : SearchFrame) (request : SearchRequest) : SearchFrame :=
  { frame with
    buffer := frame.buffer ++ (Request.search request).toBytes
    searches := frame.searches + 1 }

/-- Bytes of the longest datagram that holds more than one request. -/
def maxDatagramSend : Nat := 1024

/-- All searches of a client. -/
structure SearchManager where
  /-- How often searches are repeated. -/
  config : SearchConfig
  /-- The tasks of the searches, each with the number of its channel. -/
  timer : Timer UInt32 := {}
  /-- The searches in progress, at most one for each channel. -/
  pending : List PendingSearch := []
  /-- The datagram that is being filled. -/
  frame : SearchFrame := {}
  /-- Datagrams that followed each other at once. -/
  immediateFlushes : Nat := 0
  /-- What has become of each promised reply. -/
  replies : Array ReplyStatus := #[]
  /-- The datagrams handed to the sender, whether or not it could send them. -/
  sent : List (List UInt8) := []

namespace SearchManager

/-- The search for a channel. -/
def find? (manager : SearchManager) (channelId : UInt32) : Option PendingSearch :=
  manager.pending.find? (·.channelId == channelId)

/-- A channel is being searched for. -/
def isSearching (manager : SearchManager) (channelId : UInt32) : Bool :=
  (manager.find? channelId).isSome

/-- A task is that of the search in progress for its channel. -/
def isPending (manager : SearchManager) (entry : TimerEntry UInt32) : Bool :=
  (manager.find? entry.task).any (·.handle == entry.handle)

/-- Settles a promised reply that was still open. -/
def settle (replies : Array ReplyStatus) (reply : Option Nat) (status : ReplyStatus) :
    Array ReplyStatus :=
  match reply with
  | some number =>
    if replies[number]? = some .waiting then replies.setIfInBounds number status else replies
  | none => replies

/-- Takes the search for a channel out of those in progress. -/
def remove (manager : SearchManager) (channelId : UInt32) : SearchManager :=
  { manager with pending := manager.pending.filter (·.channelId != channelId) }

/-- Hands the datagram to the sender and starts an empty one, unless it is empty. -/
def flush (manager : SearchManager) : SearchManager :=
  if manager.frame.searches = 0 then manager
  else
    { manager with
      sent := manager.sent ++ [manager.frame.buffer]
      frame := { manager.frame with buffer := [], searches := 0 } }

/-- Starts a search, in place of one in progress for the same channel. The new task is scheduled
and entered before the old one is cancelled. -/
def start (manager : SearchManager) (now : Moment) (channelId : UInt32) (name : String)
    (reply : Option Nat) : SearchManager :=
  let handle := manager.timer.handles
  let timer := manager.timer.schedule now channelId
  let search : PendingSearch :=
    { channelId, name, handle, delay := manager.config.minInterval, reply }
  match manager.find? channelId with
  | none => { manager with timer, pending := manager.pending ++ [search] }
  | some previous =>
    { manager with
      timer := timer.cancel previous.handle
      pending := (manager.remove channelId).pending ++ [search]
      replies := settle manager.replies previous.reply .closed }

/-- Starts a search. -/
def register (manager : SearchManager) (now : Moment) (channelId : UInt32) (name : String) :
    SearchManager :=
  manager.start now channelId name none

/-- Starts a search with a promised reply, whose number is the number of replies promised before. -/
def registerWithReply (manager : SearchManager) (now : Moment) (channelId : UInt32)
    (name : String) : SearchManager :=
  let number := manager.replies.size
  { manager with replies := manager.replies.push .waiting }.start now channelId name (some number)

/-- Gives a search up: whether there was one. The datagram is sent if no task that is due soon
would send it; without an answer to that the call fails. -/
def unregister (manager : SearchManager) (now : Moment) (channelId : UInt32) :
    Option Bool × SearchManager :=
  match manager.find? channelId with
  | none => (some false, manager)
  | some search =>
    let (soon, timer) := (manager.timer.cancel search.handle).hasNext now
      manager.config.coalesceWindow
    let manager :=
      { manager.remove channelId with
        timer, replies := settle manager.replies search.reply .closed }
    match soon with
    | none => (none, manager)
    | some true => (some true, manager)
    | some false => (some true, manager.flush)

/-- Ends a search with a server's answer: whether it was still in progress. -/
def searchResponse (manager : SearchManager) (result : SearchResult) : Bool × SearchManager :=
  match manager.find? result.channelId with
  | none => (false, manager)
  | some search =>
    (true,
      { manager.remove result.channelId with
        timer := manager.timer.cancel search.handle
        replies := settle manager.replies search.reply (.answered result) })

/-- Every search goes on from the shortest interval. -/
def resetDelays (manager : SearchManager) : SearchManager :=
  { manager with
    pending := manager.pending.map fun search =>
      { search with delay := manager.config.minInterval } }

/-- Every task on the timer's heap is due at once. -/
def hurry (manager : SearchManager) (now : Moment) : SearchManager :=
  { manager with timer := manager.timer.rescheduleAll now }

/-- Searches for all channels at once, and from the shortest interval on. -/
def beaconAnomaly (manager : SearchManager) (now : Moment) : SearchManager :=
  manager.resetDelays.hurry now

/-- Ends all searches and stops the timer. -/
def shutdown (manager : SearchManager) : SearchManager :=
  let timer := manager.pending.foldl (fun timer search => timer.cancel search.handle) manager.timer
  { manager with
    pending := []
    timer := timer.shutdown
    replies := manager.pending.foldl (fun replies search => settle replies search.reply .closed)
      manager.replies }

/-- Adds the request of a search to the datagram. A datagram that it does not fit is sent first, and
one that no task due soon would send is sent afterwards. Also says whether to pause then, because
too many datagrams have followed each other; nothing if it cannot be said whether a task is due. -/
def addRequest (manager : SearchManager) (now : Moment) (search : PendingSearch) :
    Option Bool × SearchManager :=
  let request := search.request
  -- A request too long for any datagram has one to itself.
  let full := 0 < manager.frame.searches ∧
    maxDatagramSend < manager.frame.buffer.length + request.encodedLength
  let manager := if full then manager.flush else manager
  let manager := { manager with frame := manager.frame.started.push request }
  -- A task that is due soon adds its request to the same datagram.
  let (soon, timer) := manager.timer.hasNext now manager.config.coalesceWindow
  let manager := { manager with timer }
  match soon with
  | none => (none, manager)
  | some true => (some false, { manager with immediateFlushes := 0 })
  | some false =>
    let flushes := manager.immediateFlushes + 1
    if manager.config.maxImmediateFlushes ≤ flushes then
      (some true, { manager.flush with immediateFlushes := 0 })
    else (some false, { manager.flush with immediateFlushes := flushes })

/-- First step of a run: the timer takes the next task off its heap if it is due. -/
def takeDue (manager : SearchManager) (now : Moment) : SearchManager :=
  { manager with timer := manager.timer.takeDue now }

/-- Second step of a run: the request of the running task's search, if that is still in progress.
Also says whether to pause; nothing if the run fails. -/
def request (manager : SearchManager) (now : Moment) : Option Bool × SearchManager :=
  match manager.timer.running with
  | none => (some false, manager)
  | some entry =>
    match (manager.find? entry.task).filter (·.handle == entry.handle) with
    | none => (some false, manager)
    | some search => manager.addRequest now search

/-- Third step of a run: the interval until the next request of the running task, and a longer one
for the time after. There is none for a search that is no longer in progress, and none when the
bounds of the interval are out of order. -/
def advance (manager : SearchManager) : Option Duration × SearchManager :=
  match manager.timer.running with
  | none => (none, manager)
  | some entry =>
    match (manager.find? entry.task).filter (·.handle == entry.handle) with
    | none => (none, manager)
    | some search =>
      match manager.config.nextDelay? search.delay with
      | none => (none, manager)
      | some next =>
        (some search.delay,
          { manager with
            pending := manager.pending.map fun other =>
              if other.channelId == search.channelId then { other with delay := next }
              else other })

/-- Last step of a run: the task is due again after the interval. -/
def putBack (manager : SearchManager) (now : Moment) (again : Option Duration) : SearchManager :=
  { manager with timer := manager.timer.putBack now again }

/-- The steps of a run after the task was taken off the heap. Also says what time it is
afterwards. -/
def finishTask (manager : SearchManager) (now : Moment) (pause : Bool) : Moment × SearchManager :=
  let now := if pause then now + manager.config.flushPause else now
  let (again, manager) := manager.advance
  (now, manager.putBack now again)

/-- The run of the task that was taken off the heap. A task whose run fails is not put back. -/
def runTask (manager : SearchManager) (now : Moment) : Moment × SearchManager :=
  match manager.request now with
  | (some pause, manager) => manager.finishTask now pause
  | (none, manager) => (now, manager.putBack now none)

/-- Runs tasks until none is due, at most `fuel` of them. Time stands still but for pauses. -/
def runDue (manager : SearchManager) : (fuel : Nat) → Moment → Moment × SearchManager
  | 0, now => (now, manager)
  | fuel + 1, now =>
    let manager := manager.takeDue now
    match manager.timer.running with
    | none => (now, manager)
    | some _ =>
      let (now, manager) := manager.runTask now
      manager.runDue fuel now

/-- Runs each task that is due. -/
def runAllDue (manager : SearchManager) (now : Moment) : Moment × SearchManager :=
  manager.runDue manager.timer.size now

/-- Lets time pass until a number of datagrams have been sent, at most for `fuel` runs. -/
def runUntilSent (manager : SearchManager) (count : Nat) :
    (fuel : Nat) → Moment → Moment × SearchManager
  | 0, now => (now, manager)
  | fuel + 1, now =>
    if count ≤ manager.sent.length then (now, manager)
    else
      match manager.timer.nextDue? with
      | none => (now, manager)
      | some due =>
        let now := max now due
        let (now, manager) := (manager.takeDue now).runTask now
        manager.runUntilSent count fuel now

/-- What is left of a promised reply once it was taken. -/
def replyAfterTaking : ReplyStatus → ReplyStatus
  | .answered _ => .closed
  | status => status

/-- Takes the promised replies that have come. Says what had become of each. -/
def takeReplies (manager : SearchManager) : List ReplyStatus × SearchManager :=
  (manager.replies.toList,
    { manager with replies := manager.replies.map replyAfterTaking })

end SearchManager

end ChannelAccess
