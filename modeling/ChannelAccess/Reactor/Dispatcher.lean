import ChannelAccess.Reactor.Basic

/-!
# Dispatch by leader and followers

Of the threads that serve a reactor one leads: it waits for a report. When it is handed one it
disables the key, lets another thread lead, and then handles the report itself. However the handler
ends, the key is enabled again. A thread that leads no more goes back to the pool.

`LeaderFollowers.step` gives the steps of the threads, in any order, and `LeaderFollowers.happen`
puts between them what else may happen to the reactor.
-/

namespace ChannelAccess

/-- Where a thread of the pool stands. -/
inductive LeaderThread where
  /-- It waits for a job. -/
  | idle
  /-- It leads, and waits for a report or is about to. -/
  | leading
  /-- It was handed a report, and is about to disable the key. -/
  | claiming (key : SelectionKey)
  /-- It has disabled the key, and is about to let another thread lead. -/
  | promoting (key : SelectionKey)
  /-- It handles the report. It may still lead. -/
  | handling (key : SelectionKey) (leads : Bool)
  /-- The handler has returned or panicked, and the key is about to be enabled. -/
  | enabling (key : SelectionKey) (leads panicking : Bool)
  /-- The handler has panicked, which the reactor is about to catch. -/
  | unwinding (leads : Bool)
  deriving DecidableEq, Repr

namespace LeaderThread

/-- The thread leads. -/
def leads : LeaderThread → Bool
  | idle => false
  | leading | claiming _ | promoting _ => true
  | handling _ leads | enabling _ leads _ | unwinding leads => leads

/-- The key of the handler that the thread is inside. -/
def handled? : LeaderThread → Option SelectionKey
  | handling key _ => some key
  | _ => none

/-- The key that the thread has disabled and not enabled again. -/
def claimed? : LeaderThread → Option SelectionKey
  | promoting key | handling key _ | enabling key _ _ => some key
  | _ => none

/-- Where the thread goes when it is done with a report. -/
def afterReport (leads : Bool) : LeaderThread := if leads then leading else idle

end LeaderThread

/-- A reactor and the threads that serve it. -/
structure LeaderFollowers (C : Type) where
  /-- The reactor. -/
  reactor : Reactor C := {}
  /-- Jobs to lead that no thread has taken. -/
  queued : Nat := 0
  /-- The threads. -/
  threads : List LeaderThread
  deriving Repr

/-- What the threads of a pool do, one thing at a time. -/
inductive LeaderStep where
  /-- A thread takes a job to lead. -/
  | take (thread : Nat)
  /-- The leader has no report left. It carries out the requests and takes up what the poll
  reports. -/
  | wait (thread : Nat) (reports : List (SelectionKey × Readiness))
  /-- The leader takes the next report, which may be one to drop. -/
  | dispatch (thread : Nat)
  /-- It disables the key, if that is possible. -/
  | claim (thread : Nat)
  /-- It asks for another leader, which may fail. -/
  | promote (thread : Nat) (succeeds : Bool)
  /-- The handler returns or panics. -/
  | finish (thread : Nat) (panics : Bool)
  /-- The key is enabled again. -/
  | enable (thread : Nat)
  /-- The panic of a handler is caught. -/
  | recover (thread : Nat)
  /-- The leader finds that the reactor was shut down. -/
  | quit (thread : Nat)
  deriving DecidableEq, Repr

/-- The thread that takes the step. -/
def LeaderStep.thread : LeaderStep → Nat
  | take thread | wait thread _ | dispatch thread | claim thread | promote thread _
  | finish thread _ | enable thread | recover thread | quit thread => thread

/-- What can happen to a reactor and the threads that serve it. -/
inductive LeaderEvent (C : Type) where
  /-- A thread takes a step, if that is its turn. -/
  | thread (step : LeaderStep)
  /-- A socket is registered. -/
  | register (interest : Interest)
  /-- A key is to be watched for something else. -/
  | setInterest (key : SelectionKey) (interest : Interest)
  /-- A key is taken out. -/
  | unregister (key : SelectionKey) (closer : C)
  /-- The reactor is shut down. -/
  | shutdown
  deriving DecidableEq, Repr

/-- The thread of the pool that does something in this event, if one does. -/
def LeaderEvent.thread? {C : Type} : LeaderEvent C → Option Nat
  | .thread step => some step.thread
  | _ => none

namespace LeaderFollowers

variable {C : Type}

/-- Some threads, at least one, of which one is about to lead. -/
def started (reactor : Reactor C) (threads : Nat) : LeaderFollowers C where
  reactor
  queued := 1
  threads := List.replicate (max 1 threads) .idle

/-- Changes where a thread stands. -/
def setThread (pool : LeaderFollowers C) (thread : Nat) (state : LeaderThread) :
    LeaderFollowers C :=
  { pool with threads := pool.threads.set thread state }

/-- The pool after a step, if the step can happen. -/
def step (pool : LeaderFollowers C) : LeaderStep → Option (LeaderFollowers C)
  | .take thread =>
    match pool.threads[thread]?, pool.queued with
    | some .idle, queued + 1 => some { pool.setThread thread .leading with queued }
    | _, _ => none
  | .wait thread reports =>
    match pool.threads[thread]? with
    | some .leading =>
      if pool.reactor.closed || !pool.reactor.ready.isEmpty then none
      else
        let (reactor, _, _) := pool.reactor.drainRequests false
        some
          { pool with
            reactor := reports.foldl (fun reactor known => reactor.report known.1 known.2) reactor }
    | _ => none
  | .dispatch thread =>
    match pool.threads[thread]? with
    | some .leading =>
      if pool.reactor.closed then none
      else
        match pool.reactor.nextEvent with
        | (some (key, _), reactor) =>
          some ({ pool with reactor }.setThread thread (.claiming key))
        | (none, reactor) => some { pool with reactor }
    | _ => none
  | .claim thread =>
    match pool.threads[thread]? with
    | some (.claiming key) =>
      match pool.reactor.disable key with
      | (true, reactor) => some ({ pool with reactor }.setThread thread (.promoting key))
      -- Another thread has the key and enables it again when it is done, or the key was taken out.
      | (false, _) => some (pool.setThread thread .leading)
    | _ => none
  | .promote thread succeeds =>
    match pool.threads[thread]? with
    | some (.promoting key) =>
      let pool := pool.setThread thread (.handling key !succeeds)
      some (if succeeds then { pool with queued := pool.queued + 1 } else pool)
    | _ => none
  | .finish thread panics =>
    match pool.threads[thread]? with
    | some (.handling key leads) => some (pool.setThread thread (.enabling key leads panics))
    | _ => none
  | .enable thread =>
    match pool.threads[thread]? with
    | some (.enabling key leads panicking) =>
      let next := if panicking then .unwinding leads else .afterReport leads
      some ({ pool with reactor := pool.reactor.enable key }.setThread thread next)
    | _ => none
  | .recover thread =>
    match pool.threads[thread]? with
    | some (.unwinding leads) => some (pool.setThread thread (.afterReport leads))
    | _ => none
  | .quit thread =>
    match pool.threads[thread]? with
    | some .leading => if pool.reactor.closed then some (pool.setThread thread .idle) else none
    | _ => none

/-- What an event does. A step that cannot happen and a request that the reactor refuses do
nothing. -/
def happen (pool : LeaderFollowers C) : LeaderEvent C → LeaderFollowers C
  | .thread step => (pool.step step).getD pool
  | .register interest =>
    match pool.reactor.register interest with
    | .ok (_, reactor) => { pool with reactor }
    | .error _ => pool
  | .setInterest key interest => { pool with reactor := pool.reactor.setInterest key interest }
  | .unregister key closer => { pool with reactor := (pool.reactor.unregister key closer).2 }
  | .shutdown => { pool with reactor := pool.reactor.shutdown.2 }

/-- What some events do, one after the other. -/
def run (pool : LeaderFollowers C) (events : List (LeaderEvent C)) : LeaderFollowers C :=
  events.foldl happen pool

/-- The threads that lead. -/
def leaders (pool : LeaderFollowers C) : Nat := pool.threads.countP LeaderThread.leads

/-- The threads inside the handler of a key. -/
def handlers (pool : LeaderFollowers C) (key : SelectionKey) : Nat :=
  pool.threads.countP (·.handled? == some key)

/-- The threads that have disabled a key and not enabled it again. -/
def claims (pool : LeaderFollowers C) (key : SelectionKey) : Nat :=
  pool.threads.countP (·.claimed? == some key)

end LeaderFollowers

end ChannelAccess
