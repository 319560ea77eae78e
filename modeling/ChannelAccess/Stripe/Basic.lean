/-!
# Stripes

A stripe runs the jobs submitted to it in the order in which they came, never two at once, on a pool
that it shares with other stripes. While it has jobs, one drainer sees to them: a drain that waits
on the pool's queue, or that a worker runs for a turn of sixteen jobs before it goes to the back of
that queue again. Once the pool takes no more, whoever should have handed the drain over runs the
jobs on the spot.

`Stripe.step` gives the steps of the threads involved, in any order.
-/

namespace ChannelAccess

/-- A thread that submits jobs or runs them. -/
abbrev ThreadId := Nat

/-- Where the one who sees to the jobs of a stripe stands. The jobs left in a drain's turn are
given; there is no such limit for jobs that are run on the spot. -/
inductive Drainer (J : Type) where
  /-- A thread is about to hand a drain over to the pool. -/
  | handingOver (thread : ThreadId)
  /-- A drain waits on the pool's queue. -/
  | queued
  /-- A thread is about to take the next job. -/
  | draining (thread : ThreadId) (left : Option Nat)
  /-- A thread runs a job. -/
  | running (thread : ThreadId) (left : Option Nat) (job : J)
  /-- The job has ended, and is still counted. -/
  | ended (thread : ThreadId) (left : Option Nat)
  deriving DecidableEq, Repr

/-- Jobs that run one after the other. -/
structure Stripe (J : Type) where
  /-- Jobs that wait, the oldest first. -/
  jobs : List J := []
  /-- Somebody sees to the jobs, or is about to. -/
  scheduled : Bool := false
  /-- Jobs accepted and not finished. -/
  outstanding : Nat := 0
  /-- The thread that runs a job of this stripe, as far as the stripe knows. -/
  runningOn : Option ThreadId := none
  /-- Those who see to the jobs. -/
  drainers : List (Drainer J) := []
  deriving DecidableEq, Repr

/-- What happens at a stripe, one thing at a time. -/
inductive StripeStep (J : Type) where
  /-- A thread submits a job. -/
  | enqueue (thread : ThreadId) (job : J)
  /-- A drain is handed over to the pool, which takes it or not. -/
  | handOver (drainer : Nat) (taken : Bool)
  /-- A worker starts a drain. -/
  | start (drainer : Nat) (thread : ThreadId)
  /-- A drainer takes the next job, or ends its turn, or is done. -/
  | proceed (drainer : Nat)
  /-- A job returns or fails. -/
  | finish (drainer : Nat)
  /-- A job is counted off. -/
  | uncount (drainer : Nat)
  deriving DecidableEq, Repr

namespace Stripe

variable {J : Type}

/-- Jobs that a drain runs before it lets other stripes have their turn. -/
def jobsPerTurn : Nat := 16

/-- Adds a job. The thread that adds it has to see to it if nobody else does. -/
def enqueue (stripe : Stripe J) (thread : ThreadId) (job : J) : Stripe J :=
  { stripe with
    jobs := stripe.jobs ++ [job]
    outstanding := stripe.outstanding + 1
    scheduled := true
    drainers :=
      if stripe.scheduled then stripe.drainers
      else stripe.drainers ++ [.handingOver thread] }

/-- Takes the next job. After the last job of its turn a drain is handed over again, and without a
job there is nothing to see to. Also says where the drainer stands then. -/
def proceed (stripe : Stripe J) (thread : ThreadId) (left : Option Nat) :
    Stripe J × Option (Drainer J) :=
  match left, stripe.jobs with
  -- The turn is over, whether or not a job waits.
  | some 0, _ => ({ stripe with runningOn := none }, some (.handingOver thread))
  | some _, [] => ({ stripe with scheduled := false, runningOn := none }, none)
  | some (left + 1), job :: jobs =>
    ({ stripe with jobs, runningOn := some thread }, some (.running thread (some left) job))
  -- On the spot, the stripe is not told which thread runs its jobs.
  | none, [] => ({ stripe with scheduled := false }, none)
  | none, job :: jobs => ({ stripe with jobs }, some (.running thread none job))

/-- Changes where a drainer stands, or drops it. -/
def setDrainer (stripe : Stripe J) (drainer : Nat) (state : Option (Drainer J)) : Stripe J :=
  { stripe with
    drainers :=
      match state with
      | none => stripe.drainers.eraseIdx drainer
      | some state => stripe.drainers.set drainer state }

/-- The stripe after a step, if the step can happen. -/
def step (stripe : Stripe J) : StripeStep J → Option (Stripe J)
  | .enqueue thread job => some (stripe.enqueue thread job)
  | .handOver drainer taken =>
    match stripe.drainers[drainer]? with
    | some (.handingOver thread) =>
      some (stripe.setDrainer drainer (some (if taken then .queued else .draining thread none)))
    | _ => none
  | .start drainer thread =>
    match stripe.drainers[drainer]? with
    | some .queued =>
      some (stripe.setDrainer drainer (some (.draining thread (some jobsPerTurn))))
    | _ => none
  | .proceed drainer =>
    match stripe.drainers[drainer]? with
    | some (.draining thread left) =>
      let (stripe, state) := stripe.proceed thread left
      some (stripe.setDrainer drainer state)
    | _ => none
  | .finish drainer =>
    match stripe.drainers[drainer]? with
    | some (.running thread left _) =>
      some (stripe.setDrainer drainer (some (.ended thread left)))
    | _ => none
  | .uncount drainer =>
    match stripe.drainers[drainer]? with
    | some (.ended thread left) =>
      some { stripe.setDrainer drainer (some (.draining thread left)) with
        outstanding := stripe.outstanding - 1 }
    | _ => none

/-- What a thread that waits for the stripe to be idle is told, if it is told anything yet. A job of
the stripe is told at once whether it is the only one. -/
def waitIdle? (stripe : Stripe J) (thread : ThreadId) : Option Bool :=
  if stripe.runningOn = some thread then some (stripe.outstanding ≤ 1)
  else if stripe.outstanding = 0 then some true
  else none

/-- The jobs that are being run. -/
def runningJobs (stripe : Stripe J) : List J :=
  stripe.drainers.filterMap fun
    | .running _ _ job => some job
    | _ => none

/-- A new job is the last one. -/
@[simp] theorem jobs_enqueue (stripe : Stripe J) (thread : ThreadId) (job : J) :
    (stripe.enqueue thread job).jobs = stripe.jobs ++ [job] := rfl

end Stripe

end ChannelAccess
