import ChannelAccess.Pool.Basic

/-!
# Running the jobs of a pool

`WorkerPool.settle` lets the workers of a pool go on until none of them can: jobs are taken, run and
counted off, and a worker stops when no job will come. A job may also be held up, or shut its own
pool down and wait for the other workers.
-/

namespace ChannelAccess

/-- How a job goes on when it is run. -/
inductive JobConduct where
  /-- It comes to its end. -/
  | ends
  /-- It is held up. -/
  | isHeld
  /-- It shuts the pool down, and comes to its end when the other workers have stopped or are held
  up. -/
  | shutsDown
  deriving DecidableEq, Repr

/-- A job that has come to its end. -/
structure FinishedJob (J : Type) where
  /-- The job. -/
  job : J
  /-- What the shutdown that it asked for answered. -/
  clean : Option Bool := none
  deriving DecidableEq, Repr

namespace WorkerPool

variable {J : Type}

/-- The first worker with a property. -/
def findWorker? (pool : WorkerPool J) (p : Worker J → Bool) : Option Nat :=
  pool.workers.findIdx? p

/-- The first worker that runs a job of some conduct. -/
def findBusy? (pool : WorkerPool J) (conduct : J → JobConduct) (wanted : JobConduct) :
    Option Nat :=
  pool.findWorker? fun worker => worker.job?.any fun job => conduct job == wanted

/-- The step that the workers of a pool take next. A job that waits for the other workers comes
last. -/
def nextStep? (conduct : J → JobConduct) (pool : WorkerPool J) : Option (PoolStep J) :=
  let idle := pool.findWorker? Worker.isIdle
  let take := if pool.queue.isEmpty then none else idle.map .take
  let finish := (pool.findBusy? conduct .ends).map .finish
  let uncount := (pool.findWorker? Worker.isLeaving).map .uncount
  -- A job that shuts the pool down goes on when nobody else can.
  let waiting := pool.findBusy? conduct .shutsDown
  let close := if pool.accepting then waiting.map fun _ => .close else none
  let stop := if !pool.accepting && pool.queue.isEmpty then idle.map .stop else none
  take <|> finish <|> uncount <|> close <|> stop <|> waiting.map .finish

/-- The job that comes to its end with a step. -/
def finishedBy? (conduct : J → JobConduct) (pool : WorkerPool J) :
    PoolStep J → Option (FinishedJob J)
  | .finish worker =>
    (pool.workers[worker]?).bind fun state => state.job?.map fun job =>
      match conduct job with
      | .shutsDown => { job, clean := some (pool.shutdownIsClean (some worker)) }
      | _ => { job }
  | _ => none

/-- Takes at most `fuel` steps. The jobs that come to their end are added to `done`, the last one
first. -/
def settleWithin (conduct : J → JobConduct) :
    (fuel : Nat) → WorkerPool J → List (FinishedJob J) → WorkerPool J × List (FinishedJob J)
  | 0, pool, done => (pool, done)
  | fuel + 1, pool, done =>
    match pool.nextStep? conduct with
    | none => (pool, done)
    | some next =>
      match pool.step next, pool.finishedBy? conduct next with
      | none, _ => (pool, done)
      | some pool, none => settleWithin conduct fuel pool done
      | some pool, some job =>
        settleWithin conduct fuel { pool with awaited := pool.awaited || job.clean.isSome }
          (job :: done)

/-- Lets the workers go on until none of them can. Also gives the jobs that came to their end, in
that order. A job takes at most three steps, and a worker stops once. -/
def settle (conduct : J → JobConduct) (pool : WorkerPool J) :
    WorkerPool J × List (FinishedJob J) :=
  let (pool, done) :=
    settleWithin conduct (3 * pool.queue.length + 3 * pool.workers.length + 1) pool []
  (pool, done.reverse)

/-- Accepts no more jobs and waits for the workers, as long as they can go on. Says whether all of
them have stopped. -/
def shutdown (conduct : J → JobConduct) (pool : WorkerPool J) :
    Bool × WorkerPool J × List (FinishedJob J) :=
  let (pool, done) := { pool with accepting := false }.settle conduct
  (pool.shutdownIsClean none, { pool with awaited := true }, done)

end WorkerPool

end ChannelAccess
