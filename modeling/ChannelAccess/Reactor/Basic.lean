/-!
# The reactor

The reactor watches sockets and hands what they are ready for to their handlers, one key at a time.
Everybody may register sockets, take them out and change what they wait for; the poll itself is
touched only by the one who is about to wait on it, who first carries out the requests that have
been queued. A disabled key is handed nothing.

Sockets that are taken out are closed by a closer, once they have left the poll.
-/

namespace ChannelAccess

/-- What a socket is watched for, or is ready for. -/
structure Interest where
  /-- Reading. -/
  read : Bool := false
  /-- Writing. -/
  write : Bool := false
  deriving DecidableEq, Repr

/-- Nothing is waited for. -/
def Interest.isEmpty (interest : Interest) : Bool := !interest.read && !interest.write

/-- What is reported of a socket. -/
structure Readiness where
  /-- It can be read. -/
  readable : Bool := false
  /-- It can be written. -/
  writable : Bool := false
  /-- The peer has closed its side. -/
  closed : Bool := false
  /-- It failed. -/
  error : Bool := false
  deriving DecidableEq, Repr

/-- Two reports of one socket in one. -/
def Readiness.merge (a b : Readiness) : Readiness where
  readable := a.readable || b.readable
  writable := a.writable || b.writable
  closed := a.closed || b.closed
  error := a.error || b.error

/-- A registered socket. -/
abbrev SelectionKey := Nat

/-- What the reactor knows of a key. -/
structure KeyEntry where
  /-- What it is watched for. -/
  interest : Interest
  /-- What is reported of it is dropped for now. -/
  disabled : Bool := false
  deriving DecidableEq, Repr

/-- What the next one who waits on the poll has to do first. The closer that comes with a key to be
taken out is of type `C`. -/
inductive PollRequest (C : Type) where
  /-- A new key is to be watched. -/
  | register (key : SelectionKey)
  /-- A key is to be watched anew. -/
  | rearm (key : SelectionKey)
  /-- A key is not to be watched any more, and its socket is to be closed. -/
  | deregister (key : SelectionKey) (closer : C)
  deriving DecidableEq, Repr

/-- Why the reactor takes no socket. -/
inductive ReactorError where
  /-- It was shut down. -/
  | closed
  deriving DecidableEq, Repr

/-- The text of the error. -/
def ReactorError.message : ReactorError → String
  | .closed => "Reactor has been shut down"

/-- Watches sockets. -/
structure Reactor (C : Type) where
  /-- The registered keys. -/
  keys : List (SelectionKey × KeyEntry) := []
  /-- Requests that were not carried out, the oldest first. -/
  requests : List (PollRequest C) := []
  /-- Reports that were not handed out, the oldest first. -/
  ready : List (SelectionKey × Readiness) := []
  /-- What the poll watches. -/
  poll : List (SelectionKey × Interest) := []
  /-- The keys that the reactor takes to be watched. -/
  armed : List SelectionKey := []
  /-- Keys given out so far. -/
  nextKey : SelectionKey := 0
  /-- The reactor was shut down. -/
  closed : Bool := false
  deriving DecidableEq, Repr

namespace Reactor

variable {C : Type}

/-- What is known of a key. -/
def entry? (reactor : Reactor C) (key : SelectionKey) : Option KeyEntry :=
  (reactor.keys.find? (·.1 == key)).map (·.2)

/-- Changes what is known of a key. -/
def setEntry (reactor : Reactor C) (key : SelectionKey) (entry : KeyEntry) : Reactor C :=
  { reactor with
    keys := reactor.keys.map fun known => if known.1 == key then (key, entry) else known }

/-- Queues a request, unless the reactor was shut down. -/
def submit (reactor : Reactor C) (request : PollRequest C) : Reactor C :=
  if reactor.closed then reactor else { reactor with requests := reactor.requests ++ [request] }

/-- Registers a socket. It is watched from the next wait on. -/
def register (reactor : Reactor C) (interest : Interest) :
    Except ReactorError (SelectionKey × Reactor C) :=
  if reactor.closed then .error .closed
  else
    let key := reactor.nextKey
    let keys := reactor.keys ++ [(key, { interest := interest })]
    .ok (key, { reactor with keys, nextKey := key + 1 }.submit (.register key))

/-- What a key is watched for. -/
def interest? (reactor : Reactor C) (key : SelectionKey) : Option Interest :=
  (reactor.entry? key).map (·.interest)

/-- Changes what a key is watched for. -/
def setInterest (reactor : Reactor C) (key : SelectionKey) (interest : Interest) : Reactor C :=
  match reactor.entry? key with
  | none => reactor
  | some entry =>
    if entry.interest = interest then reactor
    else (reactor.setEntry key { entry with interest }).submit (.rearm key)

/-- Drops what is reported of a key from now on. Says whether that is new. -/
def disable (reactor : Reactor C) (key : SelectionKey) : Bool × Reactor C :=
  match reactor.entry? key with
  | none => (false, reactor)
  | some entry =>
    if entry.disabled then (false, reactor)
    else (true, reactor.setEntry key { entry with disabled := true })

/-- Hands out again what is reported of a key, and what it is ready for already. -/
def enable (reactor : Reactor C) (key : SelectionKey) : Reactor C :=
  match reactor.entry? key with
  | none => reactor
  | some entry => (reactor.setEntry key { entry with disabled := false }).submit (.rearm key)

/-- Takes a key out. Its closer runs when the key has left the poll; the closers that run at once
are given. -/
def unregister (reactor : Reactor C) (key : SelectionKey) (closer : C) : List C × Reactor C :=
  match reactor.entry? key with
  | none => ([closer], reactor)
  | some _ =>
    let reactor :=
      { reactor with
        keys := reactor.keys.filter (·.1 != key)
        ready := reactor.ready.filter (·.1 != key) }
    if reactor.closed then ([closer], reactor)
    else ([], reactor.submit (.deregister key closer))

/-- Stops watching a key. -/
def disarm (reactor : Reactor C) (key : SelectionKey) : Reactor C :=
  { reactor with
    armed := reactor.armed.filter (· != key)
    poll := reactor.poll.filter (·.1 != key) }

/-- Watches a key for what it waits for now. A key that was taken out is passed over. -/
def arm (reactor : Reactor C) (key : SelectionKey) : Reactor C :=
  match reactor.entry? key with
  | none => reactor
  | some entry =>
    if entry.interest.isEmpty then
      if reactor.armed.contains key then reactor.disarm key else reactor
    else
      { reactor with
        armed := if reactor.armed.contains key then reactor.armed else reactor.armed ++ [key]
        poll := reactor.poll.filter (·.1 != key) ++ [(key, entry.interest)] }

/-- Carries out a request. Once the reactor shuts down, nothing more is watched. The keys that were
armed and the closers that ran are given. -/
def carryOut (reactor : Reactor C) (stopping : Bool) (request : PollRequest C) :
    Reactor C × List SelectionKey × List C :=
  match request with
  | .register key | .rearm key =>
    if stopping then (reactor, [], []) else (reactor.arm key, [key], [])
  | .deregister key closer =>
    (if reactor.armed.contains key then reactor.disarm key else reactor, [], [closer])

/-- Carries out all requests. The keys that were armed and the closers that ran are given. -/
def drainRequests (reactor : Reactor C) (stopping : Bool) :
    Reactor C × List SelectionKey × List C :=
  reactor.requests.foldl (fun (reactor, armed, closers) request =>
    let (reactor, key, closer) := reactor.carryOut stopping request
    (reactor, armed ++ key, closers ++ closer)) ({ reactor with requests := [] }, [], [])

/-- Takes a report up, together with what is reported of the same key already. -/
def report (reactor : Reactor C) (key : SelectionKey) (readiness : Readiness) : Reactor C :=
  if reactor.ready.any (·.1 == key) then
    { reactor with
      ready := reactor.ready.map fun known =>
        if known.1 == key then (key, known.2.merge readiness) else known }
  else { reactor with ready := reactor.ready ++ [(key, readiness)] }

/-- Takes the next report that is to be handed out. One of a key that is disabled, or was taken out,
is dropped. -/
def nextEvent (reactor : Reactor C) : Option (SelectionKey × Readiness) × Reactor C :=
  match reactor.ready with
  | [] => (none, reactor)
  | (key, readiness) :: ready =>
    let reactor := { reactor with ready }
    match reactor.entry? key with
    | some { disabled := false, .. } => (some (key, readiness), reactor)
    | _ => (none, reactor)

/-- Shuts the reactor down: everything waiting is dropped, and the closers that wait run. They are
given. -/
def shutdown (reactor : Reactor C) : List C × Reactor C :=
  if reactor.closed then ([], reactor)
  else
    let (reactor, _, closers) := { reactor with closed := true }.drainRequests true
    -- The sockets of keys that nobody took out stay open, but are watched no longer.
    let left := reactor.keys.foldl (fun reactor known =>
      if reactor.armed.contains known.1 then reactor.disarm known.1 else reactor) reactor
    (closers, { left with keys := [], ready := [] })

end Reactor

end ChannelAccess
