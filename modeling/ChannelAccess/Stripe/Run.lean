import ChannelAccess.Pool.Run
import ChannelAccess.Stripe.Basic

/-!
# Stripes of a pool

Several stripes that share one pool. `StripedPool.settle` lets the pool's workers, and the threads
that submit jobs, go on until none of them can; the jobs of a stripe may be held up meanwhile.
-/

namespace ChannelAccess

/-- A pool and the stripes that run their jobs on it. The jobs of the pool are drains, each named by
its stripe. -/
structure StripedPool (J : Type) where
  /-- The pool. -/
  pool : WorkerPool Nat
  /-- The stripes. -/
  stripes : List (Stripe J)
  deriving Repr

/-- A job of a stripe that has come to its end. -/
structure StripedJob (J : Type) where
  /-- The stripe. -/
  stripe : Nat
  /-- The job. -/
  job : J
  /-- What the job is told when it waits for its own stripe. -/
  idle : Option Bool
  deriving DecidableEq, Repr

namespace StripedPool

variable {J : Type}

/-- The thread that submits jobs from outside the pool. -/
def caller : ThreadId := 0

/-- The thread of a worker. -/
def workerThread (worker : Nat) : ThreadId := worker + 1

/-- Some number of stripes on a pool, at least one. -/
def ofThreads (name : String) (threads stripes : Nat) : StripedPool J where
  pool := .ofThreads name threads
  stripes := List.replicate (max 1 stripes) {}

/-- A stripe by its number. -/
def stripe (pool : StripedPool J) (index : Nat) : Stripe J := pool.stripes[index]?.getD {}

/-- The pool after a step at a stripe, if the step can happen. -/
def stepStripe? (pool : StripedPool J) (index : Nat) (step : StripeStep J) :
    Option (StripedPool J) :=
  ((pool.stripe index).step step).map fun stripe =>
    { pool with stripes := pool.stripes.set index stripe }

/-- Takes a step at a stripe, if it can happen. -/
def stepStripe (pool : StripedPool J) (index : Nat) (step : StripeStep J) : StripedPool J :=
  (pool.stepStripe? index step).getD pool

/-- Takes a step in the pool, if it can happen. -/
def stepPool (pool : StripedPool J) (step : PoolStep Nat) : StripedPool J :=
  match pool.pool.step step with
  | some workers => { pool with pool := workers }
  | none => pool

/-- A thread is done with a drain. If it is a worker of the pool, it is free again. -/
def leave (pool : StripedPool J) : ThreadId → StripedPool J
  | 0 => pool
  | worker + 1 => (pool.stepPool (.finish worker)).stepPool (.uncount worker)

/-- A stripe's drain is handed over to the pool. If the pool takes it, the thread is free again. -/
def handOver (pool : StripedPool J) (index : Nat) (thread : ThreadId) : StripedPool J :=
  if pool.pool.accepting then
    let pool := (pool.stepPool (.count index)).stepPool .submit
    (pool.stepStripe index (.handOver 0 true)).leave thread
  else pool.stepStripe index (.handOver 0 false)

/-- A stripe's drain starts on an idle worker if it is the next on the pool's queue. -/
def start? (pool : StripedPool J) (index : Nat) : Option (StripedPool J) :=
  match pool.pool.queue, pool.pool.findWorker? Worker.isIdle with
  | next :: _, some worker =>
    if next = index then
      some ((pool.stepPool (.take worker)).stepStripe index (.start 0 (workerThread worker)))
    else none
  | _, _ => none

/-- A stripe's drainer takes the next job, or is done. -/
def proceed (pool : StripedPool J) (index : Nat) (thread : ThreadId) : StripedPool J :=
  let pool := pool.stepStripe index (.proceed 0)
  if (pool.stripe index).drainers.isEmpty then pool.leave thread else pool

/-- The job that a stripe runs comes to its end. -/
def finishJob? (pool : StripedPool J) (index : Nat) : Option (StripedJob J × StripedPool J) :=
  match (pool.stripe index).drainers with
  | .running thread _ job :: _ =>
    some (⟨index, job, (pool.stripe index).waitIdle? thread⟩,
      pool.stepStripe index (.finish 0))
  | _ => none

/-- What a stripe does next. The job that comes to its end with it is given. -/
def advanceStripe? (isHeld : J → Bool) (pool : StripedPool J) (index : Nat) :
    Option (Option (StripedJob J) × StripedPool J) :=
  match (pool.stripe index).drainers with
  | .handingOver thread :: _ => some (none, pool.handOver index thread)
  | .queued :: _ => (pool.start? index).map (none, ·)
  | .draining thread _ :: _ => some (none, pool.proceed index thread)
  | .running _ _ job :: _ =>
    if isHeld job then none else (pool.finishJob? index).map fun (job, pool) => (some job, pool)
  | .ended _ _ :: _ => some (none, pool.stepStripe index (.uncount 0))
  | [] => none

/-- What the first stripe that can go on does next. -/
def advance? (isHeld : J → Bool) (pool : StripedPool J) :
    Option (Option (StripedJob J) × StripedPool J) :=
  (List.range pool.stripes.length).findSome? (pool.advanceStripe? isHeld)

/-- Goes on for at most `fuel` steps. The jobs that come to their end are added to `done`, the last
one first. -/
def settleWithin (isHeld : J → Bool) :
    (fuel : Nat) → StripedPool J → List (StripedJob J) → StripedPool J × List (StripedJob J)
  | 0, pool, done => (pool, done)
  | fuel + 1, pool, done =>
    match pool.advance? isHeld with
    | none => (pool, done)
    | some (job, pool) => settleWithin isHeld fuel pool (job.toList ++ done)

/-- Lets everybody go on until nobody can. Also gives the jobs that came to their end, in that
order. A job takes at most three steps, and a turn three more. -/
def settle (isHeld : J → Bool) (pool : StripedPool J) : StripedPool J × List (StripedJob J) :=
  let outstanding := pool.stripes.foldl (fun total stripe => total + stripe.outstanding) 0
  let (pool, done) := settleWithin isHeld (6 * (outstanding + pool.stripes.length)) pool []
  (pool, done.reverse)

/-- Lets everybody go on as far as they can while no job of a stripe comes to its end. -/
def settleHeld (pool : StripedPool J) : StripedPool J := (pool.settle fun _ => true).1

/-- The job that a stripe runs. -/
def runningJob? (pool : StripedPool J) (index : Nat) : Option J :=
  (pool.stripe index).runningJobs.head?

/-- Submits a job to a stripe. -/
def execute (pool : StripedPool J) (index : Nat) (job : J) : StripedPool J :=
  pool.stepStripe index (.enqueue caller job)

/-- Shuts the pool down, after all of its jobs went on as far as they could. Says whether all
workers have stopped. -/
def shutdown (pool : StripedPool J) : Bool × StripedPool J :=
  let (clean, workers, _) := pool.pool.shutdown fun _ => .isHeld
  (clean, { pool with pool := workers })

end StripedPool

end ChannelAccess
