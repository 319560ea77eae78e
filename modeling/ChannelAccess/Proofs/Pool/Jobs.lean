import ChannelAccess.Proofs.Pool.Steps

/-!
# A pool runs every accepted job once

The users of a pool, its workers and whoever shuts it down go on in any order
(`PoolHistory.run`). `accepted_jobs_run_once` says that, whatever they do, a job is accepted
exactly if no shutdown came before, that accepted jobs are taken in order, each by one worker, that
all of them have run once nothing is queued and no worker is busy, and that the number of pending
jobs is right, so that it is zero again once enough was worked.

Each step of the pool keeps the account `PoolHistory.Sound`: besides what it says of the pool
itself, answers are right (`PoolHistory.Answered`) and no job is lost or doubled
(`PoolHistory.HandedOut`).
-/

namespace ChannelAccess

variable {J : Type}

/-! ## What happens to jobs -/

/-- Something that happened to a job of a pool, or to the pool. -/
inductive PoolRecord (J : Type) where
  /-- Whoever submitted a job got an answer. -/
  | answered (job : J) (answer : Except PoolError Unit)
  /-- A shutdown ended the acceptance of jobs, unless an earlier one had. -/
  | shutDown
  /-- A worker took a job. -/
  | taken (worker : Nat) (job : J)
  /-- The job that a worker had taken returned or failed. -/
  | ended (worker : Nat) (job : J)

namespace PoolRecord

/-- The job that was accepted. -/
def accepted? : PoolRecord J → Option J
  | answered job (.ok ()) => some job
  | _ => none

/-- The worker that took a job, and the job. -/
def taken? : PoolRecord J → Option (Nat × J)
  | taken worker job => some (worker, job)
  | _ => none

/-- The worker whose job ended, and the job. -/
def ended? : PoolRecord J → Option (Nat × J)
  | ended worker job => some (worker, job)
  | _ => none

end PoolRecord

namespace WorkerPool

/-- What happens with a step of a pool that can happen. -/
def recordsOf (pool : WorkerPool J) : PoolStep J → List (PoolRecord J)
  | .submit => pool.submitting.toList.map (.answered · (.ok ()))
  | .take worker => pool.queue.head?.toList.map (.taken worker)
  | .finish worker => ((pool.workers[worker]?).bind Worker.job?).toList.map (.ended worker)
  | .close => [.shutDown]
  | .count _ | .uncount _ | .await | .stop _ => []

/-- What happens with a step that cannot happen: a job that is not accepted is answered with the
error, unless another one is on its way to the queue and its user has to wait. -/
def refusalOf (pool : WorkerPool J) : PoolStep J → List (PoolRecord J)
  | .count job =>
    match pool.submitting, pool.execute job with
    | none, .error error => [.answered job (.error error)]
    | _, _ => []
  | _ => []

end WorkerPool

/-- A pool, and what happened to its jobs. -/
structure PoolHistory (J : Type) where
  /-- The pool. -/
  pool : WorkerPool J
  /-- What happened, in order. -/
  records : List (PoolRecord J) := []

namespace PoolHistory

/-- A pool that was not used yet. -/
def start (name : String) (threads : Nat) : PoolHistory J where
  pool := .ofThreads name threads

/-- Somebody goes on, if he can. -/
def step (history : PoolHistory J) (step : PoolStep J) : PoolHistory J :=
  match history.pool.step step with
  | some pool => { pool, records := history.records ++ history.pool.recordsOf step }
  | none => { history with records := history.records ++ history.pool.refusalOf step }

/-- Users, workers and shutdowns go on in some order. -/
def run (history : PoolHistory J) (steps : List (PoolStep J)) : PoolHistory J :=
  steps.foldl step history

/-- How many of some steps are steps of work that can happen. -/
def worked (history : PoolHistory J) : List (PoolStep J) → Nat
  | [] => 0
  | step :: later =>
    (step.isWork && (history.pool.step step).isSome).toNat + (history.step step).worked later

/-- The jobs that were accepted, in order. -/
def accepted (history : PoolHistory J) : List J := history.records.filterMap PoolRecord.accepted?

/-- The jobs that were taken, in order, each with the worker that took it. -/
def taken (history : PoolHistory J) : List (Nat × J) := history.records.filterMap PoolRecord.taken?

/-- The jobs that have ended, in order, each with its worker. -/
def ended (history : PoolHistory J) : List (Nat × J) := history.records.filterMap PoolRecord.ended?

end PoolHistory

/-- The jobs of one worker. -/
def jobsOf (worker : Nat) (jobs : List (Nat × J)) : List J :=
  jobs.filterMap fun (theirs, job) => if theirs = worker then some job else none

/-! ## What happened to jobs -/

namespace PoolHistory

variable {history : PoolHistory J}

/-- Whoever submitted a job got the right answer, and jobs are accepted until a shutdown. -/
structure Answered (history : PoolHistory J) : Prop where
  /-- Jobs are accepted until a shutdown. -/
  accepting : history.pool.accepting = true ↔ .shutDown ∉ history.records
  /-- A job is accepted exactly if there was no shutdown before. -/
  answers : ∀ earlier job answer later,
    history.records = earlier ++ .answered job answer :: later →
      answer = .ok () ∧ .shutDown ∉ earlier ∨
        answer = .error (.shutDown history.pool.name) ∧ .shutDown ∈ earlier

/-- Every accepted job is queued or was taken by a worker, in order, and every taken job is run or
has ended with that worker. -/
structure HandedOut (history : PoolHistory J) : Prop where
  /-- Jobs are taken in the order in which they were accepted. -/
  queued : history.taken.map Prod.snd ++ history.pool.queue = history.accepted
  /-- Each worker ends the jobs that it took, in order. -/
  held : ∀ worker, jobsOf worker history.taken =
    jobsOf worker history.ended ++ ((history.pool.workers[worker]?).bind Worker.job?).toList
  /-- All jobs that were taken are run or have ended. -/
  whole : (history.taken.map Prod.snd).Perm (history.ended.map Prod.snd ++ history.pool.running)

theorem jobsOf_concat (jobs : List (Nat × J)) (last worker : Nat) (job : J) :
    jobsOf worker (jobs ++ [(last, job)]) =
      jobsOf worker jobs ++ if last = worker then [job] else [] := by
  rw [jobsOf, List.filterMap_append]
  by_cases same : last = worker
  · simp [jobsOf, same]
  · simp [jobsOf, same]

/-- The job of each worker when one of them does something else. -/
theorem job?_setWorker {pool : WorkerPool J} {worker : Nat} {before : Worker J}
    (here : pool.workers[worker]? = some before) (now : Worker J) (other : Nat) :
    ((pool.setWorker worker now).workers[other]?).bind Worker.job? =
      if worker = other then now.job? else (pool.workers[other]?).bind Worker.job? := by
  obtain ⟨inRange, -⟩ := List.getElem?_eq_some_iff.mp here
  show ((pool.workers.set worker now)[other]?).bind Worker.job? = _
  rw [List.getElem?_set, if_pos inRange]
  split <;> rfl

/-- Each worker runs the same when one of them does something else with the same job, or none. -/
theorem job?_setWorker_of_same {pool : WorkerPool J} {worker : Nat} {before now : Worker J}
    (here : pool.workers[worker]? = some before) (same : now.job? = before.job?) (other : Nat) :
    ((pool.setWorker worker now).workers[other]?).bind Worker.job? =
      (pool.workers[other]?).bind Worker.job? := by
  rw [job?_setWorker here]
  split
  · rename_i isWorker
    rw [← isWorker, here, same]
    rfl
  · rfl

/-- Something more happens. -/
theorem Answered.concat {after : WorkerPool J} (answered : history.Answered)
    (last : PoolRecord J) (sameName : after.name = history.pool.name)
    (accepting : after.accepting = true ↔ history.pool.accepting = true ∧ last ≠ .shutDown)
    (answers : ∀ job answer, last = .answered job answer →
      answer = .ok () ∧ history.pool.accepting = true ∨
        answer = .error (.shutDown history.pool.name) ∧ ¬ history.pool.accepting = true) :
    Answered { pool := after, records := history.records ++ [last] } where
  accepting := by
    rw [accepting, answered.accepting, List.mem_append, List.mem_singleton, not_or]
    exact and_congr_right fun _ => ne_comm
  answers := fun earlier job answer later split => by
    dsimp only at split ⊢
    rw [sameName]
    -- The answer is the last thing that happened, or one of those before.
    rcases List.eq_nil_or_concat later with rfl | ⟨between, latest, rfl⟩
    · obtain ⟨rfl, isLast⟩ := List.append_inj' split rfl
      have right := answers job answer (List.head_eq_of_cons_eq isLast)
      rwa [answered.accepting, not_not] at right
    · rw [List.concat_eq_append, ← List.cons_append, ← List.append_assoc] at split
      exact answered.answers earlier job answer between (List.append_inj' split rfl).1

/-- A step of the pool keeps the answers right. -/
theorem Answered.move {step : PoolStep J} {after : WorkerPool J} (answered : history.Answered)
    (staffed : history.pool.Staffed) (move : WorkerPool.Move history.pool step after) :
    Answered { pool := after, records := history.records ++ history.pool.recordsOf step } := by
  have silent (same : after.accepting = history.pool.accepting)
      (sameName : after.name = history.pool.name) :
      Answered { pool := after, records := history.records ++ [] } := by
    rw [List.append_nil]
    refine ⟨by rw [same]; exact answered.accepting, ?_⟩
    rw [sameName]
    exact answered.answers
  cases move with
  | count | uncount | await | stop => exact silent rfl rfl
  | submit job here =>
    have accepting := staffed.submitting (by rw [here]; exact nofun)
    rw [WorkerPool.recordsOf, here]
    refine answered.concat (.answered job (.ok ())) rfl (by simp) fun other answer isLast => ?_
    obtain ⟨-, rfl⟩ := PoolRecord.answered.inj isLast
    exact .inl ⟨rfl, accepting⟩
  | take worker job rest here queue =>
    rw [WorkerPool.recordsOf, queue]
    exact answered.concat (.taken worker job) rfl (by simp [WorkerPool.setWorker]) nofun
  | finish worker job here =>
    rw [WorkerPool.recordsOf, here]
    exact answered.concat (.ended worker job) rfl (by simp [WorkerPool.setWorker]) nofun
  | close =>
    exact answered.concat .shutDown rfl (by simp) nofun

/-- A step that cannot happen keeps the answers right. -/
theorem Answered.refuse (answered : history.Answered) {step : PoolStep J}
    (refused : history.pool.step step = none) :
    Answered { history with records := history.records ++ history.pool.refusalOf step } := by
  have silent : Answered { history with records := history.records ++ [] } := by
    rw [List.append_nil]
    exact answered
  cases step with
  | count job =>
    cases submitting : history.pool.submitting with
    | some other =>
      rw [WorkerPool.refusalOf, submitting]
      exact silent
    | none =>
      have closed : ¬ history.pool.accepting = true := by
        intro accepting
        rw [WorkerPool.step, accepting, submitting] at refused
        contradiction
      have refusal : history.pool.refusalOf (.count job) =
          [.answered job (.error (.shutDown history.pool.name))] := by
        rw [WorkerPool.refusalOf, submitting, WorkerPool.execute, if_neg closed]
      rw [refusal]
      refine answered.concat _ rfl (by simp) fun other answer isLast => ?_
      obtain ⟨-, rfl⟩ := PoolRecord.answered.inj isLast
      exact .inr ⟨rfl, closed⟩
  | submit | take | finish | uncount | close | await | stop => exact silent

/-- Something more happens to jobs. -/
theorem HandedOut.concat {after : WorkerPool J} {more : List (PoolRecord J)}
    (queued : (history.taken ++ more.filterMap PoolRecord.taken?).map Prod.snd ++ after.queue =
      history.accepted ++ more.filterMap PoolRecord.accepted?)
    (held : ∀ worker : Nat, jobsOf worker (history.taken ++ more.filterMap PoolRecord.taken?) =
      jobsOf worker (history.ended ++ more.filterMap PoolRecord.ended?) ++
        ((after.workers[worker]?).bind Worker.job?).toList)
    (whole : ((history.taken ++ more.filterMap PoolRecord.taken?).map Prod.snd).Perm
      ((history.ended ++ more.filterMap PoolRecord.ended?).map Prod.snd ++ after.running)) :
    HandedOut { pool := after, records := history.records ++ more } := by
  constructor
  · rw [taken, accepted, List.filterMap_append, List.filterMap_append]
    exact queued
  · intro worker
    rw [taken, ended, List.filterMap_append, List.filterMap_append]
    exact held worker
  · rw [taken, ended, List.filterMap_append, List.filterMap_append]
    exact whole

/-- Nothing happens to jobs while the same are queued and each worker runs the same. -/
theorem HandedOut.silent {after : WorkerPool J} (handedOut : history.HandedOut)
    {more : List (PoolRecord J)} (taken : more.filterMap PoolRecord.taken? = [])
    (ended : more.filterMap PoolRecord.ended? = [])
    (accepted : more.filterMap PoolRecord.accepted? = [])
    (queue : after.queue = history.pool.queue)
    (jobs : ∀ worker : Nat, (after.workers[worker]?).bind Worker.job? =
      (history.pool.workers[worker]?).bind Worker.job?)
    (running : history.pool.running.Perm after.running) :
    HandedOut { pool := after, records := history.records ++ more } := by
  refine .concat ?_ (fun worker => ?_) ?_
  · rw [taken, accepted, queue, List.append_nil, List.append_nil]
    exact handedOut.queued
  · rw [taken, ended, jobs, List.append_nil, List.append_nil]
    exact handedOut.held worker
  · rw [taken, ended, List.append_nil, List.append_nil]
    exact handedOut.whole.trans (running.append_left _)

/-- A step of the pool neither loses a job nor doubles one. -/
theorem HandedOut.move {step : PoolStep J} {after : WorkerPool J} (handedOut : history.HandedOut)
    (move : WorkerPool.Move history.pool step after) :
    HandedOut { pool := after, records := history.records ++ history.pool.recordsOf step } := by
  cases move with
  | count | close | await =>
    exact handedOut.silent rfl rfl rfl rfl (fun _ => rfl) (.refl _)
  | submit job here =>
    rw [WorkerPool.recordsOf, here]
    refine .concat ?_ (fun worker => ?_) ?_
    · show (history.taken ++ []).map Prod.snd ++ (history.pool.queue ++ [job]) =
        history.accepted ++ [job]
      rw [List.append_nil, ← List.append_assoc, handedOut.queued]
    · show jobsOf worker (history.taken ++ []) = jobsOf worker (history.ended ++ []) ++ _
      rw [List.append_nil, List.append_nil, handedOut.held]
    · show ((history.taken ++ []).map Prod.snd).Perm
        ((history.ended ++ []).map Prod.snd ++ history.pool.running)
      rw [List.append_nil, List.append_nil]
      exact handedOut.whole
  | take worker job rest here queue =>
    rw [WorkerPool.recordsOf, queue]
    refine .concat ?_ (fun other => ?_) ?_
    · show (history.taken ++ [(worker, job)]).map Prod.snd ++ rest = history.accepted ++ []
      rw [List.append_nil, ← handedOut.queued, queue, List.map_append, List.append_assoc]
      rfl
    · show jobsOf other (history.taken ++ [(worker, job)]) = jobsOf other (history.ended ++ []) ++
        (((history.pool.setWorker worker (.busy job)).workers[other]?).bind Worker.job?).toList
      rw [List.append_nil, jobsOf_concat, handedOut.held, job?_setWorker here]
      by_cases same : worker = other
      · rw [if_pos same, if_pos same, ← same, here, List.append_assoc]
        rfl
      · rw [if_neg same, if_neg same, List.append_nil]
    · show ((history.taken ++ [(worker, job)]).map Prod.snd).Perm
        ((history.ended ++ []).map Prod.snd ++
          (history.pool.setWorker worker (.busy job)).running)
      rw [List.append_nil, List.map_append]
      refine (handedOut.whole.append_right [job]).trans ?_
      rw [List.append_assoc]
      exact (List.perm_append_singleton job _).trans (WorkerPool.setWorker_busy here job).1
        |>.append_left _
  | finish worker job here =>
    rw [WorkerPool.recordsOf, here]
    refine .concat ?_ (fun other => ?_) ?_
    · show (history.taken ++ []).map Prod.snd ++ history.pool.queue = history.accepted ++ []
      rw [List.append_nil, List.append_nil, handedOut.queued]
    · show jobsOf other (history.taken ++ []) = jobsOf other (history.ended ++ [(worker, job)]) ++
        (((history.pool.setWorker worker .leaving).workers[other]?).bind Worker.job?).toList
      rw [List.append_nil, jobsOf_concat, handedOut.held, job?_setWorker here]
      by_cases same : worker = other
      · rw [if_pos same, if_pos same, ← same, here, List.append_assoc]
        rfl
      · rw [if_neg same, if_neg same, List.append_nil]
    · show ((history.taken ++ []).map Prod.snd).Perm
        ((history.ended ++ [(worker, job)]).map Prod.snd ++
          (history.pool.setWorker worker .leaving).running)
      rw [List.append_nil, List.map_append, List.append_assoc]
      exact handedOut.whole.trans ((WorkerPool.setWorker_leaving here).1.append_left _)
  | uncount worker here =>
    exact handedOut.silent rfl rfl rfl rfl (job?_setWorker_of_same here rfl)
      (WorkerPool.setWorker_idle here).1
  | stop worker here =>
    exact handedOut.silent rfl rfl rfl rfl (job?_setWorker_of_same here rfl)
      (WorkerPool.setWorker_stopped here).1

/-! ## Any number of steps -/

/-- The account of a pool: jobs are counted, somebody is there to work, answers are right, and no
job is lost or doubled. -/
structure Sound (history : PoolHistory J) : Prop where
  /-- Jobs are counted. -/
  counted : history.pool.Counted
  /-- Somebody is there to work. -/
  staffed : history.pool.Staffed
  /-- Answers are right. -/
  answered : history.Answered
  /-- No job is lost or doubled. -/
  handedOut : history.HandedOut

theorem Sound.start (name : String) (threads : Nat) :
    Sound (PoolHistory.start name threads : PoolHistory J) := by
  refine ⟨.ofThreads name threads, .ofThreads name threads, ⟨?_, ?_⟩, ⟨rfl, ?_, ?_⟩⟩
  · exact iff_of_true rfl List.not_mem_nil
  · exact fun earlier job answer later split =>
      absurd split.symm (List.append_ne_nil_of_right_ne_nil _ (List.cons_ne_nil _ _))
  · intro worker
    show [] = [] ++ (((List.replicate (max 1 threads) (Worker.idle : Worker J))[worker]?).bind
      Worker.job?).toList
    rw [List.getElem?_replicate]
    split <;> rfl
  · show List.Perm [] ([] ++ (WorkerPool.ofThreads name threads : WorkerPool J).running)
    rw [WorkerPool.running_ofThreads]
    exact .nil

theorem Sound.step (sound : history.Sound) (step : PoolStep J) : (history.step step).Sound := by
  unfold PoolHistory.step
  split
  · rename_i after happens
    have move := WorkerPool.move_of_step happens
    exact ⟨sound.counted.move move, sound.staffed.move move,
      sound.answered.move sound.staffed move, sound.handedOut.move move⟩
  · rename_i refused
    refine ⟨sound.counted, sound.staffed, sound.answered.refuse refused, ?_⟩
    have nothing : ∀ more : List (PoolRecord J), more = history.pool.refusalOf step →
        more.filterMap PoolRecord.taken? = [] ∧ more.filterMap PoolRecord.ended? = [] ∧
          more.filterMap PoolRecord.accepted? = [] := by
      rintro _ rfl
      unfold WorkerPool.refusalOf
      split
      · split <;> exact ⟨rfl, rfl, rfl⟩
      · exact ⟨rfl, rfl, rfl⟩
    obtain ⟨taken, ended, accepted⟩ := nothing _ rfl
    exact sound.handedOut.silent taken ended accepted rfl (fun _ => rfl) (.refl _)

theorem Sound.run (sound : history.Sound) (steps : List (PoolStep J)) :
    (history.run steps).Sound := by
  induction steps generalizing history with
  | nil => exact sound
  | cons step later ih => exact ih (sound.step step)

/-- The name of a pool stays. -/
theorem name_run (history : PoolHistory J) (steps : List (PoolStep J)) :
    (history.run steps).pool.name = history.pool.name := by
  induction steps generalizing history with
  | nil => rfl
  | cons step later ih =>
    have same : (history.step step).pool.name = history.pool.name := by
      unfold PoolHistory.step
      split
      · rename_i after happens
        cases WorkerPool.move_of_step happens <;> rfl
      · rfl
    exact (ih (history.step step)).trans same

/-- Until a job is counted, every step of work is one step less that is left. -/
theorem stepsLeft_run (history : PoolHistory J) {later : List (PoolStep J)}
    (noJobs : ∀ step ∈ later, step.isCount = false) :
    (history.run later).pool.stepsLeft + history.worked later = history.pool.stepsLeft := by
  induction later generalizing history with
  | nil => rfl
  | cons step later ih =>
    have rest := ih (history.step step) fun other isLater =>
      noJobs other (List.mem_cons_of_mem step isLater)
    have now : (history.step step).pool.stepsLeft +
        (step.isWork && (history.pool.step step).isSome).toNat = history.pool.stepsLeft := by
      unfold PoolHistory.step
      cases happens : history.pool.step step with
      | none => rw [Option.isSome_none, Bool.and_false]; rfl
      | some after =>
        rw [Option.isSome_some, Bool.and_true]
        exact (WorkerPool.move_of_step happens).stepsLeft (noJobs step List.mem_cons_self)
    show ((history.step step).run later).pool.stepsLeft + (_ + _) = _
    omega

/-! ## Answers -/

/-- Whoever submits a job after a shutdown is answered at once, and nothing is done to the pool. -/
theorem step_count_of_shutDown {history : PoolHistory J} (free : history.pool.submitting = none)
    (closed : history.pool.accepting = false) (job : J) :
    history.step (.count job) =
      { history with
        records := history.records ++ [.answered job (.error (.shutDown history.pool.name))] } := by
  have refused : history.pool.step (.count job) = none := by
    rw [WorkerPool.step, closed, Bool.false_and, if_neg Bool.false_ne_true]
  rw [step, refused, WorkerPool.refusalOf, free, WorkerPool.execute, closed,
    if_neg Bool.false_ne_true]

/-- Before a shutdown the job is put on the queue, and then its user is told that it was accepted.
-/
theorem records_submit {history : PoolHistory J} (free : history.pool.submitting = none)
    (isOpen : history.pool.accepting = true) (job : J) :
    ((history.step (.count job)).step .submit).records =
      history.records ++ [.answered job (.ok ())] := by
  have counted : history.pool.step (.count job) =
      some { history.pool with submitting := some job, pending := history.pool.pending + 1 } := by
    rw [WorkerPool.step, if_pos]
    rw [isOpen, free]
    rfl
  have taken : history.step (.count job) =
      { pool :=
          { history.pool with submitting := some job, pending := history.pool.pending + 1 }
        records := history.records ++ [] } := by
    rw [step, counted]
    rfl
  rw [taken, List.append_nil]
  rfl

end PoolHistory

/-- **A pool runs every accepted job once.** Whatever users, workers and shutdowns do, whoever
submits a job is told that it was accepted exactly if there was no shutdown before, and is told of
the shutdown otherwise; with no other job on its way to the queue there is an answer. Jobs are taken
in the order in which they were accepted, and each worker ends those that it took, in order; when
nothing is queued and no worker runs a job, exactly the accepted jobs have ended. Every pending job
is queued, run, on its way to the queue or about to be counted off. A worker has stopped only if
nothing is queued and nothing more will be accepted. While a job is pending somebody can go on with
one, and once all steps that were left are done, and no job was added, none is pending. -/
theorem accepted_jobs_run_once (name : String) (threads : Nat) (steps : List (PoolStep J)) :
    let history := (PoolHistory.start name threads).run steps
    let pool := history.pool
    (∀ earlier job answer later, history.records = earlier ++ .answered job answer :: later →
        (answer = .ok () ↔ .shutDown ∉ earlier) ∧
          (answer = .error (.shutDown name) ↔ .shutDown ∈ earlier)) ∧
      (∀ job, pool.submitting = none →
        (.shutDown ∈ history.records → history.step (.count job) =
          { history with
            records := history.records ++ [.answered job (.error (.shutDown name))] }) ∧
        (.shutDown ∉ history.records → ((history.step (.count job)).step .submit).records =
          history.records ++ [.answered job (.ok ())])) ∧
      history.taken.map (·.2) ++ pool.queue = history.accepted ∧
      (∀ worker, jobsOf worker history.taken =
        jobsOf worker history.ended ++ ((pool.workers[worker]?).bind Worker.job?).toList) ∧
      (pool.queue = [] → pool.running = [] →
        (history.ended.map (·.2)).Perm history.accepted) ∧
      pool.pending = pool.queue.length + pool.running.length + (pool.arriving + pool.leaving) ∧
      (.stopped ∈ pool.workers →
        pool.queue = [] ∧ pool.submitting = none ∧ pool.accepting = false) ∧
      (0 < pool.pending → ∃ step, step.isWork = true ∧ (pool.step step).isSome = true) ∧
      ∀ later : List (PoolStep J), (∀ step ∈ later, step.isCount = false) →
        history.worked later ≤ pool.stepsLeft ∧
          (history.worked later = pool.stepsLeft → (history.run later).pool.pending = 0) := by
  intro history pool
  have sound : history.Sound := (PoolHistory.Sound.start name threads).run steps
  have sameName : pool.name = name := PoolHistory.name_run _ steps
  have ⟨counted, staffed, answered, handedOut⟩ := sound
  refine ⟨?_, fun job free => ⟨fun closed => ?_, fun isOpen => ?_⟩, handedOut.queued,
    handedOut.held, ?_, counted, ?_, ?_, ?_⟩
  · intro earlier job answer later split
    have right := answered.answers earlier job answer later split
    rw [sameName] at right
    rcases right with ⟨rfl, untold⟩ | ⟨rfl, told⟩
    · exact ⟨iff_of_true rfl untold, iff_of_false nofun untold⟩
    · exact ⟨iff_of_false nofun (not_not.mpr told), iff_of_true rfl told⟩
  · rw [← sameName]
    refine PoolHistory.step_count_of_shutDown free (Bool.eq_false_iff.mpr ?_) job
    exact fun accepting => answered.accepting.mp accepting closed
  · exact PoolHistory.records_submit free (answered.accepting.mpr isOpen) job
  · intro queue running
    have queued := handedOut.queued
    have whole := handedOut.whole
    rw [queue, List.append_nil] at queued
    rw [running, List.append_nil, queued] at whole
    exact whole.symm
  · intro stopped
    obtain ⟨closed, empty⟩ := staffed.stopped stopped
    refine ⟨empty, ?_, closed⟩
    by_contra some
    rw [staffed.submitting some] at closed
    contradiction
  · intro pending
    exact staffed.exists_work (mt counted.pending_eq_zero_iff.mpr (Nat.ne_of_gt pending))
  · intro later noJobs
    have left : (history.run later).pool.stepsLeft + history.worked later = pool.stepsLeft :=
      history.stepsLeft_run noJobs
    refine ⟨Nat.le_of_add_left_le (Nat.le_of_eq left), fun all => ?_⟩
    rw [(sound.run later).counted.pending_eq_zero_iff]
    omega

end ChannelAccess
