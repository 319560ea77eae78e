import ChannelAccess.Pool.Basic
import Mathlib.Data.List.Perm.Basic

/-!
# The steps of a pool

The users of a pool, its workers and whoever shuts it down go on in any order. A step that can
happen is one of `WorkerPool.Move`. Each of them keeps the jobs counted (`Counted.move`) and leaves
somebody who can take what was accepted (`Staffed.move`), so that somebody can go on while a job is
pending (`Staffed.exists_work`). Every such step leaves one step less (`Move.stepsLeft`).
-/

namespace ChannelAccess

variable {J : Type}

/-! ## How much is left to do -/

namespace PoolStep

/-- Somebody goes on with a job that was counted. -/
def isWork : PoolStep J → Bool
  | submit | take _ | finish _ | uncount _ => true
  | count _ | close | await | stop _ => false

/-- A job is counted that is to be submitted. -/
def isCount : PoolStep J → Bool
  | count _ => true
  | _ => false

end PoolStep

namespace WorkerPool

/-- The jobs that are run. -/
def running (pool : WorkerPool J) : List J := pool.workers.filterMap Worker.job?

/-- How many jobs have ended and are still counted. -/
def leaving (pool : WorkerPool J) : Nat := pool.workers.countP Worker.isLeaving

/-- How many jobs are on their way to the queue. -/
def arriving (pool : WorkerPool J) : Nat := pool.submitting.toList.length

/-- How many steps of work are left for the jobs that are counted. -/
def stepsLeft (pool : WorkerPool J) : Nat :=
  4 * pool.arriving + 3 * pool.queue.length + 2 * pool.running.length + pool.leaving

variable {pool after : WorkerPool J}

/-! ## The steps of a pool -/

/-- What a step that can happen needs, and what it does. -/
inductive Move (pool : WorkerPool J) : PoolStep J → WorkerPool J → Prop where
  /-- A user counts a job. -/
  | count (job : J) (accepting : pool.accepting = true) (free : pool.submitting = none) :
    Move pool (.count job) { pool with submitting := some job, pending := pool.pending + 1 }
  /-- The job is put on the queue. -/
  | submit (job : J) (here : pool.submitting = some job) :
    Move pool .submit { pool with submitting := none, queue := pool.queue ++ [job] }
  /-- A worker takes the oldest job. -/
  | take (worker : Nat) (job : J) (rest : List J) (here : pool.workers[worker]? = some .idle)
      (queue : pool.queue = job :: rest) :
    Move pool (.take worker) { pool.setWorker worker (.busy job) with queue := rest }
  /-- The job of a worker ends. -/
  | finish (worker : Nat) (job : J) (here : pool.workers[worker]? = some (.busy job)) :
    Move pool (.finish worker) (pool.setWorker worker .leaving)
  /-- The worker counts it off. -/
  | uncount (worker : Nat) (here : pool.workers[worker]? = some .leaving) :
    Move pool (.uncount worker)
      { pool.setWorker worker .idle with pending := pool.pending - 1 }
  /-- No more jobs are accepted. -/
  | close (free : pool.submitting = none) : Move pool .close { pool with accepting := false }
  /-- A shutdown has waited. -/
  | await : Move pool .await { pool with awaited := true }
  /-- A worker stops. -/
  | stop (worker : Nat) (here : pool.workers[worker]? = some .idle)
      (closed : pool.accepting = false) (empty : pool.queue = []) :
    Move pool (.stop worker) (pool.setWorker worker .stopped)

/-- A step that can happen is one of these. -/
theorem move_of_step {step : PoolStep J} (happens : pool.step step = some after) :
    Move pool step after := by
  unfold WorkerPool.step at happens
  cases step with
  | count job =>
    dsimp only at happens
    split at happens
    · rename_i free
      obtain ⟨accepting, free⟩ := Bool.and_eq_true_iff.mp free
      obtain rfl := Option.some.inj happens
      exact .count job accepting (Option.isNone_iff_eq_none.mp free)
    · contradiction
  | submit =>
    obtain ⟨job, here, rfl⟩ := Option.map_eq_some_iff.mp happens
    exact .submit job here
  | take worker =>
    dsimp only at happens
    split at happens
    · rename_i job rest here queue
      obtain rfl := Option.some.inj happens
      exact .take worker job rest here queue
    · contradiction
  | finish worker =>
    dsimp only at happens
    split at happens
    · rename_i job here
      obtain rfl := Option.some.inj happens
      exact .finish worker job here
    · contradiction
  | uncount worker =>
    dsimp only at happens
    split at happens
    · rename_i here
      obtain rfl := Option.some.inj happens
      exact .uncount worker here
    · contradiction
  | close =>
    dsimp only at happens
    split at happens
    · rename_i free
      obtain rfl := Option.some.inj happens
      exact .close (Option.isNone_iff_eq_none.mp free)
    · contradiction
  | await =>
    obtain rfl := Option.some.inj happens
    exact .await
  | stop worker =>
    dsimp only at happens
    split at happens
    · rename_i here
      split at happens
      · rename_i mayStop
        rw [Bool.and_eq_true, Bool.not_eq_true', List.isEmpty_iff] at mayStop
        obtain rfl := Option.some.inj happens
        exact .stop worker here mayStop.1 mayStop.2
      · contradiction
    · contradiction

/-- The other workers go on as they did when one of them does something else. -/
theorem perm_setWorker {worker : Nat} {before : Worker J}
    (here : pool.workers[worker]? = some before) (now : Worker J) :
    (now :: pool.workers).Perm (before :: (pool.setWorker worker now).workers) := by
  obtain ⟨inRange, rfl⟩ := List.getElem?_eq_some_iff.mp here
  have others : pool.workers.Perm (pool.workers[worker] :: pool.workers.eraseIdx worker) :=
    (List.getElem_cons_eraseIdx_perm inRange).symm
  have changed := (List.set_perm_cons_eraseIdx inRange now).symm
  exact ((others.cons now).trans (.swap ..)).trans (changed.cons _)

/-- The jobs that are run, and those still counted, when a worker does something else. -/
theorem setWorker_spec {worker : Nat} {before : Worker J}
    (here : pool.workers[worker]? = some before) (now : Worker J) :
    (now.job?.toList ++ pool.running).Perm
        (before.job?.toList ++ (pool.setWorker worker now).running) ∧
      now.isLeaving.toNat + pool.leaving =
        before.isLeaving.toNat + (pool.setWorker worker now).leaving := by
  have workers := perm_setWorker here now
  have jobs (first : Worker J) (others : List (Worker J)) :
      (first :: others).filterMap Worker.job? =
        first.job?.toList ++ others.filterMap Worker.job? := by
    cases job : first.job? with
    | none => exact List.filterMap_cons_none job
    | some found => exact List.filterMap_cons_some job
  have count (first : Worker J) (others : List (Worker J)) :
      (first :: others).countP Worker.isLeaving =
        first.isLeaving.toNat + others.countP Worker.isLeaving := by
    rw [List.countP_cons, Nat.add_comm]
    cases first.isLeaving <;> rfl
  constructor
  · have running := workers.filterMap Worker.job?
    rwa [jobs, jobs] at running
  · have leaving := workers.countP_eq Worker.isLeaving
    rwa [count, count] at leaving

section Workers

variable {worker : Nat}

/-- A worker that takes a job runs it as well. -/
theorem setWorker_busy (here : pool.workers[worker]? = some .idle) (job : J) :
    (job :: pool.running).Perm (pool.setWorker worker (.busy job)).running ∧
      pool.leaving = (pool.setWorker worker (.busy job)).leaving := by
  obtain ⟨running, leaving⟩ := setWorker_spec here (.busy job)
  exact ⟨running, by simpa [Worker.isLeaving] using leaving⟩

/-- A worker whose job has ended runs it no more, and still counts it. -/
theorem setWorker_leaving {job : J} (here : pool.workers[worker]? = some (.busy job)) :
    pool.running.Perm (job :: (pool.setWorker worker .leaving).running) ∧
      pool.leaving + 1 = (pool.setWorker worker .leaving).leaving := by
  obtain ⟨running, leaving⟩ := setWorker_spec here .leaving
  exact ⟨running, by simpa [Worker.isLeaving, Nat.add_comm] using leaving⟩

/-- A worker that has counted its job off runs none. -/
theorem setWorker_idle (here : pool.workers[worker]? = some .leaving) :
    pool.running.Perm (pool.setWorker worker .idle).running ∧
      pool.leaving = (pool.setWorker worker .idle).leaving + 1 := by
  obtain ⟨running, leaving⟩ := setWorker_spec here .idle
  exact ⟨running, by simpa [Worker.isLeaving, Nat.add_comm] using leaving⟩

/-- A worker that stops was running no job. -/
theorem setWorker_stopped (here : pool.workers[worker]? = some .idle) :
    pool.running.Perm (pool.setWorker worker .stopped).running ∧
      pool.leaving = (pool.setWorker worker .stopped).leaving := by
  obtain ⟨running, leaving⟩ := setWorker_spec here .stopped
  exact ⟨running, by simpa [Worker.isLeaving] using leaving⟩

end Workers

theorem arriving_of_none (free : pool.submitting = none) : pool.arriving = 0 := by
  rw [arriving, free]
  rfl

theorem arriving_of_some {job : J} (here : pool.submitting = some job) : pool.arriving = 1 := by
  rw [arriving, here]
  rfl

/-! ## Jobs are counted -/

/-- Every job that is pending is on its way to the queue, queued, run or about to be counted off. -/
def Counted (pool : WorkerPool J) : Prop :=
  pool.pending = pool.queue.length + pool.running.length + (pool.arriving + pool.leaving)

/-- The workers of a new pool run nothing. -/
theorem running_ofThreads (name : String) (threads : Nat) :
    (ofThreads name threads : WorkerPool J).running = [] := by
  refine List.filterMap_eq_nil_iff.mpr fun worker member => ?_
  rw [List.eq_of_mem_replicate member]
  rfl

theorem Counted.ofThreads (name : String) (threads : Nat) :
    (ofThreads name threads : WorkerPool J).Counted := by
  have leaving : (WorkerPool.ofThreads name threads : WorkerPool J).leaving = 0 :=
    List.countP_eq_zero.mpr fun worker member => by
      rw [List.eq_of_mem_replicate member]
      exact nofun
  rw [Counted, running_ofThreads, leaving]
  rfl

/-- Every step keeps the count. -/
theorem Counted.move {step : PoolStep J} (counted : pool.Counted) (move : Move pool step after) :
    after.Counted := by
  unfold Counted at counted ⊢
  cases move with
  | count job accepting free =>
    have arriving := arriving_of_none free
    show pool.pending + 1 = pool.queue.length + pool.running.length + (1 + pool.leaving)
    omega
  | submit job here =>
    have arriving := arriving_of_some here
    show pool.pending = (pool.queue ++ [job]).length + pool.running.length + (0 + pool.leaving)
    rw [List.length_append, List.length_singleton]
    omega
  | take worker job rest here queue =>
    obtain ⟨running, leaving⟩ := setWorker_busy here job
    show pool.pending = rest.length + (pool.setWorker worker (.busy job)).running.length +
      (pool.arriving + (pool.setWorker worker (.busy job)).leaving)
    rw [← leaving, ← running.length_eq, counted, queue, List.length_cons, List.length_cons]
    omega
  | finish worker job here =>
    obtain ⟨running, leaving⟩ := setWorker_leaving here
    show pool.pending = pool.queue.length + (pool.setWorker worker .leaving).running.length +
      (pool.arriving + (pool.setWorker worker .leaving).leaving)
    rw [← leaving, counted, running.length_eq, List.length_cons]
    omega
  | uncount worker here =>
    obtain ⟨running, leaving⟩ := setWorker_idle here
    show pool.pending - 1 = pool.queue.length + (pool.setWorker worker .idle).running.length +
      (pool.arriving + (pool.setWorker worker .idle).leaving)
    rw [counted, leaving, running.length_eq]
    omega
  | close | await => exact counted
  | stop worker here =>
    obtain ⟨running, leaving⟩ := setWorker_stopped here
    show pool.pending = pool.queue.length + (pool.setWorker worker .stopped).running.length +
      (pool.arriving + (pool.setWorker worker .stopped).leaving)
    rw [← leaving, ← running.length_eq, counted]

/-- A step of work is one step less that is left, and no other adds one unless it counts a job. -/
theorem Move.stepsLeft {step : PoolStep J} (move : Move pool step after)
    (noJob : step.isCount = false) :
    after.stepsLeft + step.isWork.toNat = pool.stepsLeft := by
  unfold WorkerPool.stepsLeft
  cases move with
  | count => contradiction
  | submit job here =>
    have arriving := arriving_of_some here
    show 4 * 0 + 3 * (pool.queue ++ [job]).length + 2 * pool.running.length + pool.leaving + 1 = _
    rw [List.length_append, List.length_singleton]
    omega
  | take worker job rest here queue =>
    obtain ⟨running, leaving⟩ := setWorker_busy here job
    show 4 * pool.arriving + 3 * rest.length +
      2 * (pool.setWorker worker (.busy job)).running.length +
        (pool.setWorker worker (.busy job)).leaving + 1 = _
    rw [← leaving, ← running.length_eq, queue, List.length_cons, List.length_cons]
    omega
  | finish worker job here =>
    obtain ⟨running, leaving⟩ := setWorker_leaving here
    show 4 * pool.arriving + 3 * pool.queue.length +
      2 * (pool.setWorker worker .leaving).running.length +
        (pool.setWorker worker .leaving).leaving + 1 = _
    rw [← leaving, running.length_eq, List.length_cons]
    omega
  | uncount worker here =>
    obtain ⟨running, leaving⟩ := setWorker_idle here
    show 4 * pool.arriving + 3 * pool.queue.length +
      2 * (pool.setWorker worker .idle).running.length +
        (pool.setWorker worker .idle).leaving + 1 = _
    rw [leaving, running.length_eq]
    omega
  | close | await => rfl
  | stop worker here =>
    obtain ⟨running, leaving⟩ := setWorker_stopped here
    show 4 * pool.arriving + 3 * pool.queue.length +
      2 * (pool.setWorker worker .stopped).running.length +
        (pool.setWorker worker .stopped).leaving + 0 = _
    rw [leaving, running.length_eq]
    rfl

/-! ## Somebody is there to work -/

/-- Somebody is there to take the jobs that were accepted: a worker stops only once none is queued
and none will be. -/
structure Staffed (pool : WorkerPool J) : Prop where
  /-- There are workers. -/
  workers : pool.workers ≠ []
  /-- A job is on its way to the queue only while jobs are accepted. -/
  submitting : pool.submitting ≠ none → pool.accepting = true
  /-- A worker that stopped was not needed any more. -/
  stopped : .stopped ∈ pool.workers → pool.accepting = false ∧ pool.queue = []

theorem Staffed.ofThreads (name : String) (threads : Nat) :
    (ofThreads name threads : WorkerPool J).Staffed := by
  refine ⟨fun nobody => ?_, fun arrives => absurd rfl arrives, fun stopped => ?_⟩
  · have none : max 1 threads = 0 := List.replicate_eq_nil_iff _ |>.mp nobody
    omega
  · have idle : Worker.stopped = (.idle : Worker J) := List.eq_of_mem_replicate stopped
    contradiction

/-- A worker that goes on is not among those that have stopped. -/
theorem stopped_of_mem_setWorker {worker : Nat} {now : Worker J} (goesOn : now.isStopped = false)
    (stopped : .stopped ∈ (pool.setWorker worker now).workers) : .stopped ∈ pool.workers := by
  rcases List.mem_or_eq_of_mem_set stopped with before | isNow
  · exact before
  · rw [← isNow] at goesOn
    contradiction

/-- There are as many workers as before when one of them does something else. -/
theorem setWorker_ne_nil (workers : pool.workers ≠ []) (worker : Nat) (now : Worker J) :
    (pool.setWorker worker now).workers ≠ [] :=
  fun nobody => workers ((List.set_eq_nil_iff worker now).mp nobody)

/-- Every step leaves somebody there. -/
theorem Staffed.move {step : PoolStep J} (staffed : pool.Staffed) (move : Move pool step after) :
    after.Staffed := by
  obtain ⟨workers, submitting, stopped⟩ := staffed
  cases move with
  | count job accepting free => exact ⟨workers, fun _ => accepting, stopped⟩
  | submit job here =>
    have accepting := submitting (by rw [here]; exact nofun)
    refine ⟨workers, fun _ => accepting, fun isStopped => ?_⟩
    -- Nobody has stopped while a job is on its way.
    have closed := (stopped isStopped).1
    rw [accepting] at closed
    contradiction
  | take worker job rest here queue =>
    refine ⟨setWorker_ne_nil workers _ _, submitting, fun isStopped => ?_⟩
    have empty := (stopped (stopped_of_mem_setWorker rfl isStopped)).2
    rw [queue] at empty
    contradiction
  | finish worker | uncount worker =>
    exact ⟨setWorker_ne_nil workers _ _, submitting, stopped ∘ stopped_of_mem_setWorker rfl⟩
  | close free =>
    exact ⟨workers, fun some => absurd free some, fun isStopped => ⟨rfl, (stopped isStopped).2⟩⟩
  | await => exact ⟨workers, submitting, stopped⟩
  | stop worker here closed empty =>
    exact ⟨setWorker_ne_nil workers _ _, submitting, fun _ => ⟨closed, empty⟩⟩

/-- A worker that has taken a job can go on. -/
theorem exists_work_of_mem {state : Worker J} (member : state ∈ pool.workers)
    (engaged : state.job?.isSome = true ∨ state.isLeaving = true) :
    ∃ step, step.isWork = true ∧ (pool.step step).isSome = true := by
  obtain ⟨worker, here⟩ := List.mem_iff_getElem?.mp member
  cases state with
  | busy job => exact ⟨.finish worker, rfl, by rw [WorkerPool.step, here]; rfl⟩
  | leaving => exact ⟨.uncount worker, rfl, by rw [WorkerPool.step, here]; rfl⟩
  | idle | stopped => simp [Worker.job?, Worker.isLeaving] at engaged

/-- While steps are left, somebody can go on. -/
theorem Staffed.exists_work (staffed : pool.Staffed) (left : pool.stepsLeft ≠ 0) :
    ∃ step, step.isWork = true ∧ (pool.step step).isSome = true := by
  cases submitting : pool.submitting with
  | some job => exact ⟨.submit, rfl, by rw [WorkerPool.step, submitting]; rfl⟩
  | none =>
    cases queue : pool.queue with
    | cons job rest =>
      -- Any worker will do, so it is the first.
      obtain ⟨state, others, workers⟩ := List.exists_cons_of_ne_nil staffed.workers
      have member : state ∈ pool.workers := by
        rw [workers]
        exact List.mem_cons_self
      cases state with
      | idle =>
        exact ⟨.take 0, rfl, by rw [WorkerPool.step, workers, queue, List.getElem?_cons_zero]; rfl⟩
      | busy => exact exists_work_of_mem member (.inl rfl)
      | leaving => exact exists_work_of_mem member (.inr rfl)
      | stopped =>
        have empty := (staffed.stopped member).2
        rw [queue] at empty
        contradiction
    | nil =>
      by_cases running : pool.running = []
      · have leaving : 0 < pool.leaving := by
          rw [stepsLeft, arriving_of_none submitting, queue, running] at left
          simp only [List.length_nil, Nat.mul_zero, Nat.zero_add] at left
          exact Nat.pos_of_ne_zero left
        obtain ⟨state, member, isLeaving⟩ := List.countP_pos_iff.mp leaving
        exact exists_work_of_mem member (.inr isLeaving)
      · obtain ⟨job, isRun⟩ := List.exists_mem_of_ne_nil _ running
        obtain ⟨state, member, runs⟩ := List.mem_filterMap.mp isRun
        exact exists_work_of_mem member (.inl (Option.isSome_of_eq_some runs))

/-- Nothing is pending exactly when no steps are left. -/
theorem Counted.pending_eq_zero_iff (counted : pool.Counted) :
    pool.pending = 0 ↔ pool.stepsLeft = 0 := by
  unfold Counted at counted
  unfold stepsLeft
  omega

end WorkerPool

end ChannelAccess
