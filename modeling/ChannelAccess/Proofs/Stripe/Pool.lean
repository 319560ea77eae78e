import Mathlib.Algebra.GroupWithZero.Nat
import ChannelAccess.Proofs.Stripe.Serial
import ChannelAccess.Stripe.Run
import ChannelAccess.Proofs.Pool.Steps

/-!
# The stripes of a pool lose no job

Several stripes share a pool, whose workers, together with the threads that submit jobs and one that
shuts the pool down, go on in any order (`StripedPool.perform`). Whatever they do, every stripe is
serial, a drain is on the pool's queue exactly if the stripe says so, and no worker has stopped
while a drain waits (`StripeSystem.Sound`).

Therefore somebody can go on while a job is left (`StripedPool.Sound.exists_work`), and each such
step brings the end nearer (`StripedPool.workLeft_le`), whether or not the pool was shut down.
-/

namespace ChannelAccess

variable {J : Type}

/-- The thread that a drainer runs on. -/
def Drainer.thread? : Drainer J → Option ThreadId
  | .handingOver thread | .draining thread _ | .running thread _ _ | .ended thread _ => some thread
  | .queued => none

/-- The drain waits on the pool's queue. -/
def Drainer.isQueued : Drainer J → Bool
  | .queued => true
  | _ => false

/-- What can happen in a pool of stripes. -/
inductive PoolEvent (J : Type) where
  /-- A thread that submits jobs, or runs them, goes on at a stripe. -/
  | stripe (index : Nat) (step : StripeStep J)
  /-- A worker, or a shutdown, goes on in the pool. -/
  | pool (step : PoolStep Nat)
  deriving DecidableEq, Repr

namespace PoolEvent

/-- A job is submitted. -/
def submits : PoolEvent J → Bool
  | .stripe _ (.enqueue _ _) => true
  | _ => false

theorem submittedBy?_eq_none {index : Nat} {step : StripeStep J}
    (h : (PoolEvent.stripe index step).submits = false) : Stripe.submittedBy? step = none := by
  cases step with
  | enqueue => contradiction
  | handOver | start | proceed | finish | uncount => rfl

/-- Somebody who has taken on a job goes on with it. -/
def isWork : PoolEvent J → Bool
  | .stripe _ (.enqueue _ _) => false
  | .stripe _ _ | .pool (.finish _) | .pool (.uncount _) => true
  | .pool _ => false

end PoolEvent

namespace StripedPool

/-! ## The steps of the threads -/

/-- What a step at a stripe means for the workers, if it can happen. A drain is handed over exactly
if the pool accepts it. A worker starts the drain that has waited the longest. -/
def follow (workers : WorkerPool Nat) (index : Nat) : StripeStep J → Option (WorkerPool Nat)
  | .handOver _ taken =>
    match workers.execute index, taken with
    | .ok workers, true => some workers
    | .error _, false => some workers
    | _, _ => none
  | .start _ thread =>
    match thread with
    | 0 => none
    | worker + 1 =>
      if workers.queue.head? = some index then workers.step (.take worker) else none
  | _ => some workers

/-- A worker sees to some stripe. -/
def isEngaged (pool : StripedPool J) (worker : Nat) : Bool :=
  pool.stripes.any fun stripe =>
    stripe.drainers.any fun drainer => drainer.thread? == some (workerThread worker)

/-- The pool after an event, if it can happen. A worker is done with a drain when it sees to no
stripe any more. The jobs of the pool are drains, which come from the stripes alone. -/
def perform (pool : StripedPool J) : PoolEvent J → Option (StripedPool J)
  | .stripe index step =>
    if index < pool.stripes.length then
      (pool.stepStripe? index step).bind fun after =>
        (follow pool.pool index step).map fun workers => { after with pool := workers }
    else none
  | .pool (.count _) | .pool .submit | .pool (.take _) => none
  | .pool (.finish worker) =>
    if pool.isEngaged worker then none
    else (pool.pool.step (.finish worker)).map fun workers => { pool with pool := workers }
  | .pool step => (pool.pool.step step).map fun workers => { pool with pool := workers }

end StripedPool

/-- A pool of stripes, and what happened to the jobs of each. -/
structure StripeSystem (J : Type) where
  /-- The pool. -/
  pool : StripedPool J
  /-- What happened to the jobs of each stripe. -/
  logs : Nat → StripeLog J := fun _ => {}

namespace StripeSystem

/-- The logs after an event. -/
def logsAfter (system : StripeSystem J) : PoolEvent J → Nat → StripeLog J
  | .stripe index step, other =>
    if other = index then (system.pool.stripe index).record (system.logs index) step
    else system.logs other
  | .pool _, other => system.logs other

/-- What an event does. One that cannot happen does nothing. -/
def step (system : StripeSystem J) (event : PoolEvent J) : StripeSystem J :=
  match system.pool.perform event with
  | none => system
  | some pool => { pool, logs := system.logsAfter event }

/-- What some events do, one after the other. -/
def run (system : StripeSystem J) (events : List (PoolEvent J)) : StripeSystem J :=
  events.foldl step system

/-- Some stripes that were not used yet, on a pool of some threads. -/
def start (name : String) (threads stripes : Nat) : StripeSystem J where
  pool := .ofThreads name threads stripes

end StripeSystem

namespace StripedPool

/-! ## What an event changes -/

/-- An event at a stripe is a step of that stripe, which the workers follow. -/
theorem perform_stripe {pool after : StripedPool J} {index : Nat} {step : StripeStep J}
    (h : pool.perform (.stripe index step) = some after) :
    index < pool.stripes.length ∧
      ∃ stripe, (pool.stripe index).step step = some stripe ∧
        follow pool.pool index step = some after.pool ∧
        after.stripes = pool.stripes.set index stripe := by
  unfold perform at h
  dsimp only at h
  split at h
  · rename_i inside
    obtain ⟨between, stepped, followed⟩ := Option.bind_eq_some_iff.mp h
    obtain ⟨workers, follows, rfl⟩ := Option.map_eq_some_iff.mp followed
    obtain ⟨stripe, taken, rfl⟩ := Option.map_eq_some_iff.mp stepped
    exact ⟨inside, stripe, taken, follows, rfl⟩
  · contradiction

/-- A step that a stripe can take and the workers can follow can happen. -/
theorem isSome_perform_stripe {pool : StripedPool J} {index : Nat} {step : StripeStep J}
    (inside : index < pool.stripes.length) (taken : ((pool.stripe index).step step).isSome = true)
    (follows : (follow pool.pool index step).isSome = true) :
    (pool.perform (.stripe index step)).isSome = true := by
  obtain ⟨stripe, taken⟩ := Option.isSome_iff_exists.mp taken
  obtain ⟨workers, follows⟩ := Option.isSome_iff_exists.mp follows
  rw [perform, if_pos inside, stepStripe?, taken, follows]
  rfl

/-- What the workers of a pool of stripes do that is no step at a stripe. -/
inductive WorkerMove (workers : WorkerPool Nat) : PoolStep Nat → WorkerPool Nat → Prop where
  /-- A worker is done with its drain. -/
  | finish (worker job : Nat) (here : workers.workers[worker]? = some (.busy job)) :
    WorkerMove workers (.finish worker) (workers.setWorker worker .leaving)
  /-- A worker counts its drain off. -/
  | uncount (worker : Nat) (here : workers.workers[worker]? = some .leaving) :
    WorkerMove workers (.uncount worker)
      { workers.setWorker worker .idle with pending := workers.pending - 1 }
  /-- The pool takes no more drains. -/
  | close : WorkerMove workers .close { workers with accepting := false }
  /-- A shutdown has waited. -/
  | await : WorkerMove workers .await { workers with awaited := true }
  /-- A worker stops. -/
  | stop (worker : Nat) (here : workers.workers[worker]? = some .idle)
    (closed : workers.accepting = false) (empty : workers.queue = []) :
    WorkerMove workers (.stop worker) (workers.setWorker worker .stopped)

/-- An event in the pool changes its workers only. -/
theorem perform_pool {pool after : StripedPool J} {step : PoolStep Nat}
    (h : pool.perform (.pool step) = some after) :
    WorkerMove pool.pool step after.pool ∧ after.stripes = pool.stripes := by
  cases step with
  | count | submit | take => contradiction
  | finish worker =>
    dsimp only [perform] at h
    split at h
    · contradiction
    · obtain ⟨workers, taken, rfl⟩ := Option.map_eq_some_iff.mp h
      cases WorkerPool.move_of_step taken with
      | finish _ job here => exact ⟨.finish worker job here, rfl⟩
  | uncount worker =>
    obtain ⟨workers, taken, rfl⟩ := Option.map_eq_some_iff.mp h
    cases WorkerPool.move_of_step taken with
    | uncount _ here => exact ⟨.uncount worker here, rfl⟩
  | close =>
    obtain ⟨workers, taken, rfl⟩ := Option.map_eq_some_iff.mp h
    cases WorkerPool.move_of_step taken with
    | close => exact ⟨.close, rfl⟩
  | await =>
    obtain rfl := Option.some.inj h
    exact ⟨.await, rfl⟩
  | stop worker =>
    obtain ⟨workers, taken, rfl⟩ := Option.map_eq_some_iff.mp h
    cases WorkerPool.move_of_step taken with
    | stop _ here closed empty => exact ⟨.stop worker here closed empty, rfl⟩

/-- The stripe at an index that was changed is the new one, and the others are as they were. -/
theorem stripe_of_set {pool after : StripedPool J} {index : Nat} {stripe : Stripe J}
    (inside : index < pool.stripes.length) (changed : after.stripes = pool.stripes.set index stripe)
    (other : Nat) :
    after.stripe other = if other = index then stripe else pool.stripe other := by
  rw [StripedPool.stripe, changed, List.getElem?_set]
  by_cases same : other = index
  · rw [if_pos same, if_pos same.symm, if_pos inside]
    rfl
  · rw [if_neg same, if_neg (Ne.symm same)]
    rfl

/-- A step of the first stripe of a pool. -/
theorem stepStripe?_zero {pool after : StripedPool J} {step : StripeStep J}
    (hasStripe : 0 < pool.stripes.length) (h : pool.stepStripe? 0 step = some after) :
    (pool.stripe 0).step step = some (after.stripe 0) ∧ 0 < after.stripes.length := by
  obtain ⟨stripe, stepped, rfl⟩ := Option.map_eq_some_iff.mp h
  have isNew :
      StripedPool.stripe { pool with stripes := pool.stripes.set 0 stripe } 0 = stripe := by
    rw [stripe_of_set hasStripe rfl 0, if_pos rfl]
  refine ⟨stepped.trans (congrArg some isNew.symm), ?_⟩
  show 0 < (pool.stripes.set 0 stripe).length
  rw [List.length_set]
  exact hasStripe

/-- A drain that the pool takes is put on its queue. -/
theorem follow_handOver_taken {workers after : WorkerPool Nat} {index drainer : Nat}
    (h : follow (J := J) workers index (.handOver drainer true) = some after) :
    workers.accepting = true ∧
      after = { workers with
        queue := workers.queue ++ [index]
        pending := workers.pending + 1 } := by
  cases accepting : workers.accepting with
  | true =>
    simp only [follow, WorkerPool.execute, accepting, if_true] at h
    exact ⟨rfl, (Option.some.inj h).symm⟩
  | false => simp [follow, WorkerPool.execute, accepting] at h

/-- A drain is run on the spot when the pool takes none. -/
theorem follow_handOver_refused {workers after : WorkerPool Nat} {index drainer : Nat}
    (h : follow (J := J) workers index (.handOver drainer false) = some after) :
    after = workers := by
  cases accepting : workers.accepting with
  | true => simp [follow, WorkerPool.execute, accepting] at h
  | false =>
    simp only [follow, WorkerPool.execute, accepting] at h
    exact (Option.some.inj h).symm

/-- A drain that is started was the first on the queue, and the worker was free. -/
theorem follow_start {workers after : WorkerPool Nat} {index drainer : Nat} {thread : ThreadId}
    (h : follow (J := J) workers index (.start drainer thread) = some after) :
    ∃ worker rest, thread = workerThread worker ∧ workers.workers[worker]? = some .idle ∧
      workers.queue = index :: rest ∧
      after = { workers.setWorker worker (.busy index) with queue := rest } := by
  match thread with
  | 0 => contradiction
  | worker + 1 =>
    simp only [follow, WorkerPool.step] at h
    split at h
    · rename_i first
      split at h
      · rename_i job rest idle queue
        rw [queue, List.head?_cons] at first
        obtain rfl := Option.some.inj first
        exact ⟨worker, rest, rfl, idle, queue, (Option.some.inj h).symm⟩
      · contradiction
    · contradiction

/-! ## No drain is lost -/

/-- Drains are neither lost nor doubled between the stripes and the queue of the pool, and somebody
is there to take those on the queue. -/
structure Sound (pool : StripedPool J) : Prop where
  /-- A drain is on the queue as often as its stripe says. -/
  queued : ∀ index,
    pool.pool.queue.count index = (pool.stripe index).drainers.countP Drainer.isQueued
  /-- No worker stops while a drain may come. -/
  serving : .stopped ∈ pool.pool.workers → pool.pool.accepting = false ∧ pool.pool.queue = []
  /-- There is a worker. -/
  staffed : pool.pool.workers ≠ []

/-- The stripes of a new pool were not used yet. -/
theorem stripe_ofThreads (name : String) (threads stripes index : Nat) :
    (StripedPool.ofThreads name threads stripes : StripedPool J).stripe index = {} := by
  show (List.replicate (max 1 stripes) ({} : Stripe J))[index]?.getD {} = {}
  rw [List.getElem?_replicate]
  split <;> rfl

theorem Sound.start (name : String) (threads stripes : Nat) :
    Sound (StripedPool.ofThreads name threads stripes : StripedPool J) := by
  have staffed := WorkerPool.Staffed.ofThreads (J := Nat) name threads
  refine ⟨fun index => ?_, staffed.stopped, staffed.workers⟩
  rw [stripe_ofThreads]
  rfl

/-- The stripe agrees with the queue after a step, if each of the two has changed by as much as the
other. -/
theorem Sound.queued_of_stripe {pool after : StripedPool J} (h : pool.Sound) {index : Nat}
    {stripe : Stripe J} (inside : index < pool.stripes.length)
    (changed : after.stripes = pool.stripes.set index stripe)
    (others : ∀ other ≠ index, after.pool.queue.count other = pool.pool.queue.count other)
    (here : after.pool.queue.count index = stripe.drainers.countP Drainer.isQueued) (other : Nat) :
    after.pool.queue.count other = (after.stripe other).drainers.countP Drainer.isQueued := by
  rw [stripe_of_set inside changed]
  by_cases same : other = index
  · rw [if_pos same, same, here]
  · rw [if_neg same, others other same, h.queued]

/-- A step at a stripe that concerns no worker loses no drain. -/
theorem Sound.of_quiet {pool after : StripedPool J} (h : pool.Sound) {index : Nat}
    {stripe : Stripe J} (inside : index < pool.stripes.length)
    (changed : after.stripes = pool.stripes.set index stripe) (workers : after.pool = pool.pool)
    (drainers : stripe.drainers.countP Drainer.isQueued =
      (pool.stripe index).drainers.countP Drainer.isQueued) : after.Sound where
  queued := by
    refine h.queued_of_stripe inside changed (fun _ _ => by rw [workers]) ?_
    rw [workers, h.queued, drainers]
  serving := workers ▸ h.serving
  staffed := workers ▸ h.staffed

/-- An event at a stripe loses no drain. -/
theorem Sound.stripe {pool after : StripedPool J} (h : pool.Sound) {index : Nat}
    {step : StripeStep J} (one : (pool.stripe index).drainers.length ≤ 1)
    (happens : pool.perform (.stripe index step) = some after) : after.Sound := by
  obtain ⟨inside, stripe, stepped, follows, changed⟩ := perform_stripe happens
  have wasQueued := h.queued index
  cases Stripe.move_of_step one stepped with
  | enqueue thread job =>
    refine h.of_quiet inside changed (Option.some.inj follows).symm ?_
    show (if _ then _ else _ : List (Drainer J)).countP _ = _
    split
    · rfl
    · exact List.countP_append
  | handOver thread taken here =>
    rw [here] at wasQueued
    cases taken with
    | true =>
      obtain ⟨accepting, workers⟩ := follow_handOver_taken follows
      constructor
      · refine h.queued_of_stripe inside changed (fun other differs => ?_) ?_
        · rw [workers, List.count_append, List.count_singleton,
            if_neg (by rw [beq_iff_eq]; exact Ne.symm differs), Nat.add_zero]
        · rw [workers, List.count_append, wasQueued, List.count_singleton_self]
          rfl
      · rw [workers]
        intro stopped
        rw [(h.serving stopped).1] at accepting
        contradiction
      · rw [workers]
        exact h.staffed
    | false =>
      refine h.of_quiet inside changed (follow_handOver_refused follows) ?_
      rw [here]
      rfl
  | start thread here =>
    rw [here] at wasQueued
    obtain ⟨worker, rest, -, idle, queue, workers⟩ := follow_start follows
    rw [queue, List.count_cons_self] at wasQueued
    constructor
    · refine h.queued_of_stripe inside changed (fun other differs => ?_) ?_
      · rw [workers, queue, List.count_cons_of_ne (Ne.symm differs)]
      · rw [workers]
        exact Nat.succ.inj wasQueued
    · rw [workers]
      intro stopped
      have none := (h.serving (WorkerPool.stopped_of_mem_setWorker rfl stopped)).2
      rw [queue] at none
      contradiction
    · rw [workers]
      exact WorkerPool.setWorker_ne_nil h.staffed worker (.busy index)
  | next thread left job jobs here =>
    exact h.of_quiet inside changed (Option.some.inj follows).symm (by rw [here]; rfl)
  | yield thread here =>
    exact h.of_quiet inside changed (Option.some.inj follows).symm (by rw [here]; rfl)
  | rest thread left here =>
    exact h.of_quiet inside changed (Option.some.inj follows).symm (by rw [here]; rfl)
  | finish thread left job here =>
    exact h.of_quiet inside changed (Option.some.inj follows).symm (by rw [here]; rfl)
  | uncount thread left here =>
    exact h.of_quiet inside changed (Option.some.inj follows).symm (by rw [here]; rfl)

/-- An event in the pool loses no drain. -/
theorem Sound.pool {pool after : StripedPool J} (h : pool.Sound) {step : PoolStep Nat}
    (happens : pool.perform (.pool step) = some after) : after.Sound := by
  obtain ⟨move, stripes⟩ := perform_pool happens
  have sameStripe : ∀ index, after.stripe index = pool.stripe index := by
    intro index
    rw [StripedPool.stripe, stripes]
    rfl
  have sameQueue : after.pool.queue = pool.pool.queue := by
    generalize after.pool = workers at move
    cases move <;> rfl
  constructor
  · intro index
    rw [sameQueue, sameStripe, h.queued]
  · generalize after.pool = workers at move sameQueue ⊢
    intro stopped
    rw [sameQueue]
    cases move with
    | finish | uncount => exact h.serving (WorkerPool.stopped_of_mem_setWorker rfl stopped)
    | close => exact ⟨rfl, (h.serving stopped).2⟩
    | await => exact h.serving stopped
    | stop worker here closed empty => exact ⟨closed, empty⟩
  · generalize after.pool = workers at move
    cases move with
    | finish | uncount | stop => exact WorkerPool.setWorker_ne_nil h.staffed _ _
    | close | await => exact h.staffed

/-! ## Somebody can go on -/

/-- Only a stripe of the pool has a drainer. -/
theorem lt_of_drainers {pool : StripedPool J} {index : Nat} {drainer : Drainer J}
    (here : (pool.stripe index).drainers = [drainer]) : index < pool.stripes.length := by
  refine Classical.byContradiction fun outside => ?_
  have unused : pool.stripe index = {} := by
    rw [StripedPool.stripe, List.getElem?_eq_none (Nat.not_lt.mp outside)]
    rfl
  rw [unused] at here
  contradiction

/-- A drainer that does not wait on the queue can go on. -/
theorem exists_work_of_drainer {pool : StripedPool J} {index : Nat} {drainer : Drainer J}
    (here : (pool.stripe index).drainers = [drainer]) (active : drainer.isQueued = false) :
    ∃ event, event.isWork = true ∧ (pool.perform event).isSome = true := by
  have inside := lt_of_drainers here
  cases drainer with
  | handingOver thread =>
    refine ⟨.stripe index (.handOver 0 pool.pool.accepting), rfl, ?_⟩
    refine isSome_perform_stripe inside (by rw [Stripe.step, here]; rfl) ?_
    cases accepting : pool.pool.accepting <;> simp [follow, WorkerPool.execute, accepting]
  | queued => contradiction
  | draining thread left =>
    refine ⟨.stripe index (.proceed 0), rfl, isSome_perform_stripe inside ?_ rfl⟩
    rw [Stripe.step, here]
    rfl
  | running thread left job =>
    refine ⟨.stripe index (.finish 0), rfl, isSome_perform_stripe inside ?_ rfl⟩
    rw [Stripe.step, here]
    rfl
  | ended thread left =>
    refine ⟨.stripe index (.uncount 0), rfl, isSome_perform_stripe inside ?_ rfl⟩
    rw [Stripe.step, here]
    rfl

/-- The stripe that a worker sees to. -/
theorem exists_drainer_of_isEngaged {pool : StripedPool J} {worker : Nat}
    (one : ∀ index, (pool.stripe index).drainers.length ≤ 1)
    (engaged : pool.isEngaged worker = true) :
    ∃ index drainer, (pool.stripe index).drainers = [drainer] ∧ drainer.isQueued = false := by
  obtain ⟨stripe, member, sees⟩ := List.any_eq_true.mp engaged
  obtain ⟨drainer, isDrainer, thread⟩ := List.any_eq_true.mp sees
  obtain ⟨index, inside, isStripe⟩ := List.getElem_of_mem member
  have found : pool.stripe index = stripe := by
    rw [StripedPool.stripe, List.getElem?_eq_getElem inside, isStripe]
    rfl
  rw [← found] at isDrainer
  refine ⟨index, drainer, Stripe.drainers_eq_of_mem (one index) isDrainer, ?_⟩
  cases drainer with
  | queued => contradiction
  | handingOver | draining | running | ended => rfl

/-- While a stripe has a drainer, somebody can go on: the drainer itself, or a worker that is to
start the drain that has waited the longest. -/
theorem Sound.exists_work {pool : StripedPool J} (h : pool.Sound)
    (one : ∀ index, (pool.stripe index).drainers.length ≤ 1) {index : Nat} {drainer : Drainer J}
    (here : (pool.stripe index).drainers = [drainer]) :
    ∃ event, event.isWork = true ∧ (pool.perform event).isSome = true := by
  cases waits : drainer.isQueued with
  | false => exact exists_work_of_drainer here waits
  | true =>
    -- The drain waits on the queue, so some drain is the first there.
    have queued := h.queued index
    rw [here, List.countP_singleton, if_pos waits] at queued
    obtain ⟨first, rest, queue⟩ : ∃ first rest, pool.pool.queue = first :: rest :=
      List.exists_cons_of_ne_nil (List.ne_nil_of_mem
        (List.count_pos_iff.mp (Nat.lt_of_lt_of_le Nat.zero_lt_one (Nat.le_of_eq queued.symm))))
    -- Any worker will do, so it is the first.
    obtain ⟨state, others, workers⟩ := List.exists_cons_of_ne_nil h.staffed
    have isFirst : pool.pool.workers[0]? = some state := by rw [workers]; rfl
    cases state with
    | idle =>
      -- It starts the first drain, which the stripe of that drain waits for.
      have counted := h.queued first
      rw [queue, List.count_cons_self] at counted
      obtain ⟨drain, isDrain, isQueued⟩ := List.countP_pos_iff.mp
        (Nat.lt_of_lt_of_le (Nat.succ_pos _) (Nat.le_of_eq counted))
      have there := Stripe.drainers_eq_of_mem (one first) isDrain
      have queuedThere : drain = .queued := by
        cases drain with
        | queued => rfl
        | handingOver | draining | running | ended => contradiction
      rw [queuedThere] at there
      refine ⟨.stripe first (.start 0 (workerThread 0)), rfl,
        isSome_perform_stripe (lt_of_drainers there) ?_ ?_⟩
      · rw [Stripe.step, there]
        rfl
      · simp [follow, workerThread, WorkerPool.step, queue, isFirst]
    | busy job =>
      cases engaged : pool.isEngaged 0 with
      | true =>
        -- It sees to a stripe, where it can go on.
        obtain ⟨other, drain, there, active⟩ := exists_drainer_of_isEngaged one engaged
        exact exists_work_of_drainer there active
      | false =>
        refine ⟨.pool (.finish 0), rfl, ?_⟩
        simp [perform, engaged, WorkerPool.step, isFirst]
    | leaving =>
      refine ⟨.pool (.uncount 0), rfl, ?_⟩
      simp [perform, WorkerPool.step, isFirst]
    | stopped =>
      have none := (h.serving (by rw [workers]; exact List.mem_cons_self)).2
      rw [queue] at none
      contradiction

/-! ## Every step brings the end nearer -/

/-- What is left of a turn counts for more once it is over, when the drain is to be handed over and
started again. -/
def turnWeight : Option Nat → Nat
  | some 0 => 6
  | _ => 1

/-- How much a drainer has still to do, but for taking further jobs. -/
def drainerWeight : Drainer J → Nat
  | .handingOver _ => 5
  | .queued => 4
  | .draining _ left => turnWeight left
  | .running _ left _ => turnWeight left + 2
  | .ended _ left => turnWeight left + 1

/-- How much is still to be done for a stripe. A job may be the last of a turn. -/
def stripeWeight (stripe : Stripe J) : Nat :=
  8 * stripe.jobs.length + (stripe.drainers.map drainerWeight).sum

/-- How much a worker has still to do when it sees to no stripe. -/
def workerWeight : Worker Nat → Nat
  | .busy _ => 2
  | .leaving => 1
  | _ => 0

/-- What a step at a stripe gives the workers to do. -/
def startWeight : StripeStep J → Nat
  | .start _ _ => 2
  | _ => 0

/-- How many steps are left at most until all jobs have ended. -/
def workLeft (pool : StripedPool J) : Nat :=
  (pool.stripes.map stripeWeight).sum + (pool.pool.workers.map workerWeight).sum

/-- The sum of some weights when one of the items is changed. -/
theorem sum_map_set {α : Type} (weight : α → Nat) (items : List α) {index : Nat} {old : α}
    (here : items[index]? = some old) (new : α) :
    ((items.set index new).map weight).sum + weight old = (items.map weight).sum + weight new := by
  induction items generalizing index with
  | nil => contradiction
  | cons first others ih =>
    cases index with
    | zero =>
      obtain rfl := Option.some.inj here
      rw [List.set_cons_zero, List.map_cons, List.map_cons, List.sum_cons, List.sum_cons]
      omega
    | succ index =>
      have rest := @ih index here
      rw [List.set_cons_succ, List.map_cons, List.map_cons, List.sum_cons, List.sum_cons]
      omega

/-- The turn of a drainer that takes another job is not over. -/
theorem turnWeight_map_succ (left : Option Nat) : turnWeight (left.map (· + 1)) = 1 := by
  cases left <;> rfl

theorem turnWeight_le (left : Option Nat) : turnWeight left ≤ 6 := by
  unfold turnWeight
  split <;> decide

/-- A step of a stripe that is no new job brings the end nearer. Starting a drain makes a worker
busy, and so it has to do so by more. -/
theorem stripeWeight_lt {stripe after : Stripe J} {step : StripeStep J}
    (move : Stripe.Move stripe step after) (noJob : Stripe.submittedBy? step = none) :
    stripeWeight after + startWeight step + 1 ≤ stripeWeight stripe := by
  cases move with
  | enqueue thread job => contradiction
  | handOver thread taken here =>
    cases taken <;> simp [stripeWeight, here, drainerWeight, turnWeight, startWeight]
  | start thread here =>
    simp [stripeWeight, here, drainerWeight, turnWeight, startWeight, Stripe.jobsPerTurn]
  | next thread left job jobs here waits =>
    have turn := turnWeight_le left
    simp only [stripeWeight, here, waits, drainerWeight, turnWeight_map_succ, startWeight,
      List.map_cons, List.map_nil, List.sum_cons, List.sum_nil, List.length_cons]
    omega
  | yield thread here => simp [stripeWeight, here, drainerWeight, turnWeight, startWeight]
  | rest thread left here idle =>
    simp [stripeWeight, here, idle, drainerWeight, turnWeight_map_succ, startWeight]
  | finish thread left job here =>
    simp only [stripeWeight, here, drainerWeight, startWeight, List.map_cons, List.map_nil,
      List.sum_cons, List.sum_nil]
    omega
  | uncount thread left here =>
    simp only [stripeWeight, here, drainerWeight, startWeight, List.map_cons, List.map_nil,
      List.sum_cons, List.sum_nil]
    omega

/-- A job that is submitted has to be run, and its thread may have to hand a drain over. -/
theorem stripeWeight_enqueue_le {stripe : Stripe J} {log : StripeLog J} (h : stripe.Serial log)
    (thread : ThreadId) (job : J) :
    stripeWeight (stripe.enqueue thread job) ≤ stripeWeight stripe + 13 := by
  rw [stripeWeight, stripeWeight, h.drainers_enqueue, Stripe.jobs_enqueue, List.length_append,
    List.length_singleton]
  split
  · omega
  · simp only [drainerWeight, List.map_cons, List.map_nil, List.sum_cons, List.sum_nil]
    omega

/-- What the workers have to do when they follow a step at a stripe: only the start of a drain makes
one of them busy. -/
theorem workerWeight_follow {workers after : WorkerPool Nat} {index : Nat} {step : StripeStep J}
    (h : follow workers index step = some after) :
    (after.workers.map workerWeight).sum =
      (workers.workers.map workerWeight).sum + startWeight step := by
  cases step with
  | handOver drainer taken =>
    cases taken with
    | true => rw [(follow_handOver_taken h).2]; rfl
    | false => rw [follow_handOver_refused h]; rfl
  | start drainer thread =>
    obtain ⟨worker, rest, -, idle, -, rfl⟩ := follow_start h
    exact sum_map_set workerWeight workers.workers idle (.busy index)
  | enqueue | proceed | finish | uncount =>
    obtain rfl := Option.some.inj h
    rfl

/-- Whatever happens but for new jobs, the end does not become more distant, and work brings it
nearer. -/
theorem workLeft_le {pool after : StripedPool J}
    (one : ∀ index, (pool.stripe index).drainers.length ≤ 1) {event : PoolEvent J}
    (noJob : event.submits = false) (happens : pool.perform event = some after) :
    after.workLeft + event.isWork.toNat ≤ pool.workLeft := by
  cases event with
  | stripe index step =>
    obtain ⟨inside, stripe, stepped, follows, changed⟩ := perform_stripe happens
    have isOld : pool.stripes[index]? = some (pool.stripe index) := by
      rw [StripedPool.stripe, List.getElem?_eq_getElem inside]
      rfl
    have nearer := stripeWeight_lt (Stripe.move_of_step (one index) stepped)
      (PoolEvent.submittedBy?_eq_none noJob)
    have busier := workerWeight_follow follows
    have stripes := sum_map_set stripeWeight pool.stripes isOld stripe
    have work : (PoolEvent.stripe index step).isWork.toNat ≤ 1 := Bool.toNat_le _
    rw [workLeft, workLeft, changed]
    omega
  | pool step =>
    obtain ⟨move, stripes⟩ := perform_pool happens
    rw [workLeft, workLeft, stripes]
    generalize after.pool = workers at move
    cases move with
    | finish worker job here =>
      have weights := sum_map_set workerWeight pool.pool.workers here .leaving
      dsimp only [WorkerPool.setWorker, workerWeight, PoolEvent.isWork, Bool.toNat_true]
        at weights ⊢
      omega
    | uncount worker here =>
      have weights := sum_map_set workerWeight pool.pool.workers here .idle
      dsimp only [WorkerPool.setWorker, workerWeight, PoolEvent.isWork, Bool.toNat_true]
        at weights ⊢
      omega
    | close | await => exact Nat.le_refl _
    | stop worker here =>
      have weights := sum_map_set workerWeight pool.pool.workers here .stopped
      dsimp only [WorkerPool.setWorker, workerWeight, PoolEvent.isWork, Bool.toNat_false]
        at weights ⊢
      omega

end StripedPool

/-! ## A run -/

namespace StripeSystem

/-- Every stripe is serial, and no drain is lost. -/
structure Sound (system : StripeSystem J) : Prop where
  /-- No drain is lost. -/
  pool : system.pool.Sound
  /-- Every stripe is serial. -/
  serial : ∀ index, (system.pool.stripe index).Serial (system.logs index)

theorem Sound.start (name : String) (threads stripes : Nat) :
    Sound (StripeSystem.start name threads stripes : StripeSystem J) where
  pool := .start name threads stripes
  serial := fun index => by
    rw [StripeSystem.start, StripedPool.stripe_ofThreads]
    exact .new

/-- No stripe has two drainers. -/
theorem Sound.drainers_le {system : StripeSystem J} (h : system.Sound) (index : Nat) :
    (system.pool.stripe index).drainers.length ≤ 1 :=
  (h.serial index).drainers_le

theorem Sound.step {system : StripeSystem J} (h : system.Sound) (event : PoolEvent J) :
    (system.step event).Sound := by
  unfold StripeSystem.step
  split
  · exact h
  · rename_i after happens
    cases event with
    | stripe index step =>
      obtain ⟨inside, stripe, stepped, -, changed⟩ := StripedPool.perform_stripe happens
      refine ⟨h.pool.stripe (h.drainers_le index) happens, fun other => ?_⟩
      show (after.stripe other).Serial (if other = index then _ else _)
      rw [StripedPool.stripe_of_set inside changed]
      by_cases same : other = index
      · rw [if_pos same, if_pos same]
        exact (h.serial index).step stepped
      · rw [if_neg same, if_neg same]
        exact h.serial other
    | pool step =>
      refine ⟨h.pool.pool happens, fun index => ?_⟩
      have same : after.stripe index = system.pool.stripe index := by
        rw [StripedPool.stripe, (StripedPool.perform_pool happens).2]
        rfl
      show (after.stripe index).Serial (system.logs index)
      rw [same]
      exact h.serial index

theorem Sound.run {system : StripeSystem J} (h : system.Sound) (events : List (PoolEvent J)) :
    (system.run events).Sound := by
  induction events generalizing system with
  | nil => exact h
  | cons event later ih => exact ih (h.step event)

/-- What was submitted stays the same until a job is submitted. -/
theorem submitted_run (system : StripeSystem J) {later : List (PoolEvent J)}
    (noJobs : ∀ event ∈ later, event.submits = false) (index : Nat) :
    ((system.run later).logs index).submitted = (system.logs index).submitted := by
  induction later generalizing system with
  | nil => rfl
  | cons event later ih =>
    have now : ((system.step event).logs index).submitted = (system.logs index).submitted := by
      unfold StripeSystem.step
      split
      · rfl
      · cases event with
        | stripe place step =>
          have none := PoolEvent.submittedBy?_eq_none (noJobs _ List.mem_cons_self)
          show (if index = place then _ else _ : StripeLog J).submitted = _
          split
          · rename_i same
            show (system.logs place).submitted ++ (Stripe.submittedBy? step).toList = _
            rw [none, Option.toList_none, List.append_nil, same]
          · rfl
        | pool step => rfl
    have rest := ih (system.step event) fun other isLater =>
      noJobs other (List.mem_cons_of_mem event isLater)
    exact rest.trans now

/-- Nobody who has taken on a job can go on. -/
def Rests (system : StripeSystem J) : Prop :=
  ∀ event, event.isWork = true → system.pool.perform event = none

/-- How many steps of work are done when some events happen one after the other. -/
def worked (system : StripeSystem J) : List (PoolEvent J) → Nat
  | [] => 0
  | event :: later =>
    (event.isWork && (system.pool.perform event).isSome).toNat + (system.step event).worked later

/-- When nobody can go on, all jobs that were submitted have started and ended. -/
theorem Sound.ended_of_rests {system : StripeSystem J} (h : system.Sound) (rests : system.Rests)
    (index : Nat) : (system.logs index).ended = (system.logs index).submitted := by
  have serial := h.serial index
  have noDrainer : (system.pool.stripe index).drainers = [] := by
    refine Classical.byContradiction fun some => ?_
    -- A drainer could go on, or a worker could that is to start it.
    have one := h.drainers_le index
    obtain ⟨drainer, others, drainers⟩ := List.exists_cons_of_ne_nil some
    have here := Stripe.drainers_eq_of_mem one (drainers ▸ List.mem_cons_self)
    obtain ⟨event, work, happens⟩ := h.pool.exists_work h.drainers_le here
    rw [rests event work] at happens
    contradiction
  exact (serial.ended_eq_submitted (serial.outstanding_eq_zero noDrainer)).2.2

/-- Until a job is submitted, there is only so much work. -/
theorem Sound.worked_le {system : StripeSystem J} (h : system.Sound) {later : List (PoolEvent J)}
    (noJobs : ∀ event ∈ later, event.submits = false) :
    (system.run later).pool.workLeft + system.worked later ≤ system.pool.workLeft := by
  induction later generalizing system with
  | nil => exact Nat.le_refl _
  | cons event later ih =>
    have rest := ih (h.step event) fun other isLater =>
      noJobs other (List.mem_cons_of_mem event isLater)
    have now : (system.step event).pool.workLeft +
        (event.isWork && (system.pool.perform event).isSome).toNat ≤ system.pool.workLeft := by
      unfold StripeSystem.step
      cases happens : system.pool.perform event with
      | none => rw [Option.isSome_none, Bool.and_false]; exact Nat.le_refl _
      | some after =>
        rw [Option.isSome_some, Bool.and_true]
        exact StripedPool.workLeft_le h.drainers_le (noJobs event List.mem_cons_self) happens
    show ((system.step event).run later).pool.workLeft + (_ + _) ≤ _
    omega

end StripeSystem

end ChannelAccess
