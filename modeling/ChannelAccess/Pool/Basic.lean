/-!
# Worker pools

A pool hands jobs to a fixed number of workers. Jobs are taken in the order in which they were
accepted, each by one worker; a job that fails ends like any other. After a shutdown no job is
accepted, and a worker stops when none is left to take.

`WorkerPool.step` gives the steps that the pool's users and workers take, in any order. `execute`
and `shutdown` are what a user does who is alone with the pool.
-/

namespace ChannelAccess

/-- What a worker of a pool is doing. -/
inductive Worker (J : Type) where
  /-- It waits for a job. -/
  | idle
  /-- It runs a job. -/
  | busy (job : J)
  /-- Its job has ended, and is still counted. -/
  | leaving
  /-- It has stopped for good. -/
  | stopped
  deriving DecidableEq, Repr

namespace Worker

variable {J : Type}

/-- It waits for a job. -/
def isIdle : Worker J → Bool
  | idle => true
  | _ => false

/-- Its job has ended, and is still counted. -/
def isLeaving : Worker J → Bool
  | leaving => true
  | _ => false

/-- It has stopped for good. -/
def isStopped : Worker J → Bool
  | stopped => true
  | _ => false

/-- The job that it runs. -/
def job? : Worker J → Option J
  | busy job => some job
  | _ => none

end Worker

/-- A fixed number of workers and the jobs that wait for them. -/
structure WorkerPool (J : Type) where
  /-- The name of the pool. -/
  name : String
  /-- The workers. -/
  workers : List (Worker J)
  /-- Jobs are still accepted. -/
  accepting : Bool := true
  /-- A job that is counted, and about to be put on the queue. -/
  submitting : Option J := none
  /-- Jobs that no worker has taken, the oldest first. -/
  queue : List J := []
  /-- Jobs that are counted as submitted and not finished. -/
  pending : Nat := 0
  /-- A shutdown has waited for the workers. -/
  awaited : Bool := false
  deriving DecidableEq, Repr

/-- Why a pool does not run a job. -/
inductive PoolError where
  /-- The pool of that name was shut down. -/
  | shutDown (name : String)
  deriving DecidableEq, Repr

/-- The text of the error. -/
def PoolError.message : PoolError → String
  | .shutDown name => s!"Worker pool '{name}' has been shut down"

/-- What happens in a pool, one thing at a time. -/
inductive PoolStep (J : Type) where
  /-- A user counts a job that it is going to submit. -/
  | count (job : J)
  /-- The user puts it on the queue. -/
  | submit
  /-- A worker takes the oldest job. -/
  | take (worker : Nat)
  /-- The worker's job returns or fails. -/
  | finish (worker : Nat)
  /-- The worker counts its job off. -/
  | uncount (worker : Nat)
  /-- A shutdown ends the acceptance of jobs. -/
  | close
  /-- A shutdown has waited for the workers as long as it would. -/
  | await
  /-- A worker stops because no job will come. -/
  | stop (worker : Nat)
  deriving DecidableEq, Repr

namespace WorkerPool

variable {J : Type}

/-- A pool of some number of workers, at least one. -/
def ofThreads (name : String) (threads : Nat) : WorkerPool J :=
  { name, workers := List.replicate (max 1 threads) .idle }

/-- The number of workers that the pool was made with. -/
def threads (pool : WorkerPool J) : Nat := pool.workers.length

/-- No job is accepted any more. -/
def isShutdown (pool : WorkerPool J) : Bool := !pool.accepting

/-- Changes what a worker is doing. -/
def setWorker (pool : WorkerPool J) (worker : Nat) (state : Worker J) : WorkerPool J :=
  { pool with workers := pool.workers.set worker state }

/-- The pool after a step, if the step can happen. While a job is on its way to the queue, no other
is submitted and the pool is not closed. -/
def step (pool : WorkerPool J) : PoolStep J → Option (WorkerPool J)
  | .count job =>
    if pool.accepting && pool.submitting.isNone then
      some { pool with submitting := some job, pending := pool.pending + 1 }
    else none
  | .submit =>
    pool.submitting.map fun job =>
      { pool with submitting := none, queue := pool.queue ++ [job] }
  | .take worker =>
    match pool.workers[worker]?, pool.queue with
    | some .idle, job :: queue => some { pool.setWorker worker (.busy job) with queue }
    | _, _ => none
  | .finish worker =>
    match pool.workers[worker]? with
    | some (.busy _) => some (pool.setWorker worker .leaving)
    | _ => none
  | .uncount worker =>
    match pool.workers[worker]? with
    | some .leaving => some { pool.setWorker worker .idle with pending := pool.pending - 1 }
    | _ => none
  | .close =>
    if pool.submitting.isNone then some { pool with accepting := false } else none
  | .await => some { pool with awaited := true }
  | .stop worker =>
    match pool.workers[worker]? with
    | some .idle =>
      if !pool.accepting && pool.queue.isEmpty then some (pool.setWorker worker .stopped)
      else none
    | _ => none

/-- Submits a job. -/
def execute (pool : WorkerPool J) (job : J) : Except PoolError (WorkerPool J) :=
  if pool.accepting then
    .ok { pool with queue := pool.queue ++ [job], pending := pool.pending + 1 }
  else .error (.shutDown pool.name)

/-- Submitting a job is to count it and to put it on the queue. -/
theorem execute_eq_ok {pool : WorkerPool J} {job : J} (accepting : pool.accepting = true)
    (free : pool.submitting = none) :
    pool.execute job = .ok { pool with queue := pool.queue ++ [job], pending := pool.pending + 1 } ∧
      ((pool.step (.count job)).bind (·.step .submit)) =
        some { pool with queue := pool.queue ++ [job], pending := pool.pending + 1 } := by
  simp [execute, step, accepting, free]

/-- What a shutdown answers: all workers have stopped, but for the one it is called from, or an
earlier shutdown has seen to them. -/
def shutdownIsClean (pool : WorkerPool J) (caller : Option Nat) : Bool :=
  pool.awaited ||
    (pool.workers.zipIdx).all fun (worker, index) => worker.isStopped || some index == caller

end WorkerPool

end ChannelAccess
