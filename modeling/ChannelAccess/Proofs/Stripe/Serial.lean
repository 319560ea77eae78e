import ChannelAccess.Stripe.Basic

/-!
# The jobs of a stripe run one after the other

What happens to the jobs of a stripe is kept in a log (`StripeLog`). In every state that the steps
of the threads lead to, in any order, the stripe is serial (`Stripe.Serial`): somebody sees to its
jobs exactly if it is scheduled, and then one drainer alone, so that jobs start in the order in
which they were submitted and none starts before the one before it has ended.

As long as there is one drainer at most, the steps that a stripe can take are those of
`Stripe.Move`, with the drainer written out. Everything else about stripes is proved by its cases.
-/

namespace ChannelAccess

variable {J : Type}

/-- The job that is being run. -/
def Drainer.job? : Drainer J → Option J
  | .running _ _ job => some job
  | _ => none

/-- A job was taken and is still counted. -/
def Drainer.hasJob : Drainer J → Bool
  | .running _ _ _ | .ended _ _ => true
  | _ => false

/-- What happened to the jobs of a stripe. -/
structure StripeLog (J : Type) where
  /-- The jobs that were submitted, in order. -/
  submitted : List J := []
  /-- The jobs that have started, in order. -/
  started : List J := []
  /-- The jobs that have ended, in order. -/
  ended : List J := []
  deriving DecidableEq, Repr

namespace Stripe

/-! ## The log of a stripe -/

/-- The job that is submitted with a step. -/
def submittedBy? : StripeStep J → Option J
  | .enqueue _ job => some job
  | _ => none

/-- The job that starts with a step of a stripe. -/
def startedBy? (stripe : Stripe J) : StripeStep J → Option J
  | .proceed drainer =>
    match stripe.drainers[drainer]? with
    | some (.draining thread left) => (stripe.proceed thread left).2.bind Drainer.job?
    | _ => none
  | _ => none

/-- The job that ends with a step of a stripe. -/
def endedBy? (stripe : Stripe J) : StripeStep J → Option J
  | .finish drainer => (stripe.drainers[drainer]?).bind Drainer.job?
  | _ => none

/-- The log after a step of a stripe. -/
def record (stripe : Stripe J) (log : StripeLog J) (step : StripeStep J) : StripeLog J where
  submitted := log.submitted ++ (submittedBy? step).toList
  started := log.started ++ (stripe.startedBy? step).toList
  ended := log.ended ++ (stripe.endedBy? step).toList

/-! ## The steps of a stripe with one drainer -/

/-- What can happen at a stripe with one drainer at most. -/
inductive Move (stripe : Stripe J) : StripeStep J → Stripe J → Prop where
  /-- A job is submitted. -/
  | enqueue (thread : ThreadId) (job : J) :
    Move stripe (.enqueue thread job) (stripe.enqueue thread job)
  /-- The drain is put on the pool's queue, or the jobs are to be run on the spot. -/
  | handOver (thread : ThreadId) (taken : Bool) (here : stripe.drainers = [.handingOver thread]) :
    Move stripe (.handOver 0 taken)
      { stripe with drainers := [if taken then .queued else .draining thread none] }
  /-- A worker starts the drain. -/
  | start (thread : ThreadId) (here : stripe.drainers = [.queued]) :
    Move stripe (.start 0 thread)
      { stripe with drainers := [.draining thread (some jobsPerTurn)] }
  /-- The oldest job starts. -/
  | next (thread : ThreadId) (left : Option Nat) (job : J) (jobs : List J)
    (here : stripe.drainers = [.draining thread (left.map (· + 1))])
    (waits : stripe.jobs = job :: jobs) :
    Move stripe (.proceed 0)
      { stripe with
        jobs
        runningOn := if left.isSome then some thread else stripe.runningOn
        drainers := [.running thread left job] }
  /-- The turn is over. -/
  | yield (thread : ThreadId) (here : stripe.drainers = [.draining thread (some 0)]) :
    Move stripe (.proceed 0)
      { stripe with runningOn := none, drainers := [.handingOver thread] }
  /-- There is nothing more to do. -/
  | rest (thread : ThreadId) (left : Option Nat)
    (here : stripe.drainers = [.draining thread (left.map (· + 1))]) (idle : stripe.jobs = []) :
    Move stripe (.proceed 0)
      { stripe with
        scheduled := false
        runningOn := if left.isSome then none else stripe.runningOn
        drainers := [] }
  /-- The job returns or fails. -/
  | finish (thread : ThreadId) (left : Option Nat) (job : J)
    (here : stripe.drainers = [.running thread left job]) :
    Move stripe (.finish 0) { stripe with drainers := [.ended thread left] }
  /-- The job is counted off. -/
  | uncount (thread : ThreadId) (left : Option Nat)
    (here : stripe.drainers = [.ended thread left]) :
    Move stripe (.uncount 0)
      { stripe with
        outstanding := stripe.outstanding - 1
        drainers := [.draining thread left] }

/-- The drainer at a position of a list of at most one. -/
theorem drainers_eq_of_getElem? {stripe : Stripe J} {drainer : Nat} {state : Drainer J}
    (one : stripe.drainers.length ≤ 1) (h : stripe.drainers[drainer]? = some state) :
    drainer = 0 ∧ stripe.drainers = [state] := by
  match drainers : stripe.drainers with
  | [] =>
    rw [drainers] at h
    contradiction
  | [only] =>
    rw [drainers] at h
    obtain ⟨inside, rfl⟩ := List.getElem?_eq_some_iff.mp h
    have first : drainer = 0 := Nat.lt_one_iff.mp inside
    subst first
    exact ⟨rfl, rfl⟩
  | _ :: _ :: _ =>
    rw [drainers, List.length_cons, List.length_cons] at one
    omega

/-- The only drainer of a list of at most one. -/
theorem drainers_eq_of_mem {stripe : Stripe J} {drainer : Drainer J}
    (one : stripe.drainers.length ≤ 1) (h : drainer ∈ stripe.drainers) :
    stripe.drainers = [drainer] := by
  obtain ⟨place, inside, here⟩ := List.getElem_of_mem h
  exact (drainers_eq_of_getElem? one (List.getElem?_eq_some_iff.mpr ⟨inside, here⟩)).2

/-- What a drainer does that is about to take the next job. -/
theorem move_proceed {stripe : Stripe J} {thread : ThreadId} {left : Option Nat}
    (here : stripe.drainers = [.draining thread left]) :
    Move stripe (.proceed 0)
      ((stripe.proceed thread left).1.setDrainer 0 (stripe.proceed thread left).2) := by
  rcases turn : left with _ | _ | left
  · rw [turn] at here
    cases jobs : stripe.jobs with
    | nil => simpa [proceed, setDrainer, here, jobs] using Move.rest thread none here jobs
    | cons job later =>
      simpa [proceed, setDrainer, here, jobs] using Move.next thread none job later here jobs
  · rw [turn] at here
    cases jobs : stripe.jobs with
    | nil => simpa [proceed, setDrainer, here, jobs] using Move.yield thread here
    | cons job later => simpa [proceed, setDrainer, here, jobs] using Move.yield thread here
  · rw [turn] at here
    cases jobs : stripe.jobs with
    | nil => simpa [proceed, setDrainer, here, jobs] using Move.rest thread (some left) here jobs
    | cons job later =>
      simpa [proceed, setDrainer, here, jobs] using Move.next thread (some left) job later here jobs

/-- With one drainer at most, the steps of a stripe are those written out. -/
theorem move_of_step {stripe after : Stripe J} {step : StripeStep J}
    (one : stripe.drainers.length ≤ 1) (h : stripe.step step = some after) :
    Move stripe step after := by
  cases step with
  | enqueue thread job =>
    obtain rfl := Option.some.inj h
    exact .enqueue thread job
  | handOver drainer taken =>
    dsimp only [Stripe.step] at h
    split at h
    · rename_i thread here
      obtain ⟨rfl, alone⟩ := drainers_eq_of_getElem? one here
      rw [setDrainer, alone] at h
      obtain rfl := Option.some.inj h
      exact .handOver thread taken alone
    · contradiction
  | start drainer thread =>
    dsimp only [Stripe.step] at h
    split at h
    · rename_i here
      obtain ⟨rfl, alone⟩ := drainers_eq_of_getElem? one here
      rw [setDrainer, alone] at h
      obtain rfl := Option.some.inj h
      exact .start thread alone
    · contradiction
  | proceed drainer =>
    dsimp only [Stripe.step] at h
    split at h
    · rename_i thread left here
      obtain ⟨rfl, alone⟩ := drainers_eq_of_getElem? one here
      obtain rfl := Option.some.inj h
      exact move_proceed alone
    · contradiction
  | finish drainer =>
    dsimp only [Stripe.step] at h
    split at h
    · rename_i thread left job here
      obtain ⟨rfl, alone⟩ := drainers_eq_of_getElem? one here
      rw [setDrainer, alone] at h
      obtain rfl := Option.some.inj h
      exact .finish thread left job alone
    · contradiction
  | uncount drainer =>
    dsimp only [Stripe.step] at h
    split at h
    · rename_i thread left here
      obtain ⟨rfl, alone⟩ := drainers_eq_of_getElem? one here
      rw [setDrainer, alone] at h
      obtain rfl := Option.some.inj h
      exact .uncount thread left alone
    · contradiction

/-! ## What every step keeps -/

theorem runningJobs_eq (stripe : Stripe J) :
    stripe.runningJobs = stripe.drainers.filterMap Drainer.job? := by
  refine congrArg (fun job? => stripe.drainers.filterMap job?) (funext fun drainer => ?_)
  cases drainer <;> rfl

/-- A stripe whose jobs run one after the other, with what happened to them. -/
structure Serial (stripe : Stripe J) (log : StripeLog J) : Prop where
  /-- Somebody sees to the jobs exactly if the stripe is scheduled, and nobody else does. -/
  drainers : stripe.drainers.length = if stripe.scheduled then 1 else 0
  /-- No job waits unless somebody sees to it. -/
  idle : stripe.scheduled = false → stripe.jobs = []
  /-- The jobs that wait and the one that was taken are counted. -/
  counted : stripe.outstanding = stripe.jobs.length + stripe.drainers.countP Drainer.hasJob
  /-- Jobs start in the order in which they were submitted. -/
  started : log.started ++ stripe.jobs = log.submitted
  /-- Jobs end in the order in which they were started, and no job starts before the one before it
  has ended. -/
  ended : log.ended ++ stripe.runningJobs = log.started

/-- A stripe that was not used yet. -/
theorem Serial.new : Serial ({} : Stripe J) {} := ⟨rfl, fun _ => rfl, rfl, rfl, rfl⟩

section
variable {stripe after : Stripe J} {log : StripeLog J}

/-- There is one drainer at most. -/
theorem Serial.drainers_le (h : Serial stripe log) : stripe.drainers.length ≤ 1 := by
  rw [h.drainers]
  split <;> decide

/-- A stripe with a drainer is scheduled. -/
theorem Serial.scheduled (h : Serial stripe log) {drainer : Drainer J}
    (here : stripe.drainers = [drainer]) : stripe.scheduled = true := by
  have length := h.drainers
  rw [here] at length
  cases scheduled : stripe.scheduled with
  | true => rfl
  | false =>
    rw [scheduled] at length
    contradiction

/-- A stripe that is not scheduled has no drainer. -/
theorem Serial.drainers_eq_nil (h : Serial stripe log) (idle : stripe.scheduled = false) :
    stripe.drainers = [] := by
  have length := h.drainers
  rw [idle, if_neg Bool.false_ne_true] at length
  exact List.length_eq_zero_iff.mp length

/-- A stripe with jobs has a drainer. -/
theorem Serial.exists_drainer (h : Serial stripe log) (waits : stripe.jobs ≠ []) :
    ∃ drainer, stripe.drainers = [drainer] := by
  have scheduled : stripe.scheduled = true := by
    rw [← Bool.not_eq_false]
    exact fun idle => waits (h.idle idle)
  have length := h.drainers
  rw [scheduled, if_pos rfl] at length
  exact List.length_eq_one_iff.mp length

/-- What a step changes when one drainer takes the place of another, and jobs neither come nor go.
-/
theorem Serial.of_drainer (h : Serial stripe log) {step : StripeStep J} {old new : Drainer J}
    (here : stripe.drainers = [old]) (drainers : after.drainers = [new])
    (scheduled : after.scheduled = stripe.scheduled) (jobs : after.jobs = stripe.jobs)
    (counted : after.outstanding + [old].countP Drainer.hasJob =
      stripe.outstanding + [new].countP Drainer.hasJob)
    (ended : (stripe.endedBy? step).toList ++ new.job?.toList = old.job?.toList)
    (quiet : submittedBy? step = none ∧ stripe.startedBy? step = none) :
    Serial after (stripe.record log step) := by
  have wasCounted := h.counted
  have wasEnded := h.ended
  rw [here] at wasCounted
  rw [runningJobs_eq, here] at wasEnded
  constructor
  · rw [drainers, scheduled, h.scheduled here]
    rfl
  · rw [scheduled, jobs]
    exact h.idle
  · rw [jobs, drainers]
    omega
  · show log.started ++ (stripe.startedBy? step).toList ++ after.jobs =
      log.submitted ++ (submittedBy? step).toList
    rw [quiet.1, quiet.2, jobs, Option.toList_none, List.append_nil, List.append_nil]
    exact h.started
  · show log.ended ++ (stripe.endedBy? step).toList ++ after.runningJobs =
      log.started ++ (stripe.startedBy? step).toList
    have running : after.runningJobs = new.job?.toList := by
      rw [runningJobs_eq, drainers]
      cases new <;> rfl
    have wasRunning : [old].filterMap Drainer.job? = old.job?.toList := by cases old <;> rfl
    rw [quiet.2, Option.toList_none, List.append_nil, running, List.append_assoc, ended,
      ← wasRunning]
    exact wasEnded

/-- Whoever submits a job to a stripe that nobody sees to has to see to it. -/
theorem Serial.drainers_enqueue (h : Serial stripe log) (thread : ThreadId) (job : J) :
    (stripe.enqueue thread job).drainers =
      if stripe.scheduled then stripe.drainers else [.handingOver thread] := by
  show (if stripe.scheduled then _ else _) = _
  cases idle : stripe.scheduled with
  | true => rfl
  | false => rw [h.drainers_eq_nil idle]; rfl

/-- No job starts when one is submitted. -/
theorem Serial.runningJobs_enqueue (h : Serial stripe log) (thread : ThreadId) (job : J) :
    (stripe.enqueue thread job).runningJobs = stripe.runningJobs := by
  rw [runningJobs_eq, runningJobs_eq, h.drainers_enqueue]
  cases idle : stripe.scheduled with
  | true => rfl
  | false => rw [h.drainers_eq_nil idle]; rfl

/-- Submitting a job keeps the stripe serial. -/
theorem Serial.enqueue (h : Serial stripe log) (thread : ThreadId) (job : J) :
    Serial (stripe.enqueue thread job) (stripe.record log (.enqueue thread job)) := by
  have drainers := h.drainers_enqueue thread job
  have countHas : (stripe.enqueue thread job).drainers.countP Drainer.hasJob =
      stripe.drainers.countP Drainer.hasJob := by
    rw [drainers]
    cases idle : stripe.scheduled with
    | true => rfl
    | false => rw [h.drainers_eq_nil idle]; rfl
  have running := h.runningJobs_enqueue thread job
  constructor
  · show _ = 1
    rw [drainers]
    cases scheduled : stripe.scheduled with
    | true =>
      have length := h.drainers
      rw [scheduled] at length
      exact length
    | false => rfl
  · exact fun idle => Bool.noConfusion idle
  · rw [countHas, jobs_enqueue, List.length_append, List.length_singleton]
    have counted := h.counted
    show stripe.outstanding + 1 = _
    omega
  · show log.started ++ [] ++ (stripe.jobs ++ [job]) = log.submitted ++ [job]
    rw [List.append_nil, ← List.append_assoc, h.started]
  · show log.ended ++ [] ++ _ = log.started ++ []
    rw [List.append_nil, List.append_nil, running]
    exact h.ended

/-- Every step keeps the stripe serial. -/
theorem Serial.move (h : Serial stripe log) {step : StripeStep J} (move : Move stripe step after) :
    Serial after (stripe.record log step) := by
  cases move with
  | enqueue thread job => exact h.enqueue thread job
  | handOver thread taken here =>
    refine h.of_drainer here rfl rfl rfl ?_ ?_ ⟨rfl, rfl⟩
    · cases taken <;> rfl
    · cases taken <;> rfl
  | start thread here => exact h.of_drainer here rfl rfl rfl rfl rfl ⟨rfl, rfl⟩
  | next thread left job jobs here waits =>
    have starts : stripe.startedBy? (.proceed 0) = some job := by
      rw [startedBy?, here]
      cases left <;> simp [proceed, waits, Drainer.job?]
    have counted := h.counted
    have started := h.started
    have ended := h.ended
    rw [waits, here, List.length_cons] at counted
    rw [waits] at started
    rw [runningJobs_eq, here] at ended
    constructor
    · show 1 = if stripe.scheduled then 1 else 0
      rw [h.scheduled here]
      rfl
    · exact fun idle => absurd (h.scheduled here) (Bool.eq_false_iff.mp idle)
    · show stripe.outstanding = jobs.length + 1
      rw [counted]
      rfl
    · show log.started ++ (stripe.startedBy? (.proceed 0)).toList ++ jobs = log.submitted ++ []
      rw [starts, Option.toList_some, List.append_assoc, List.append_nil]
      exact started
    · show log.ended ++ [] ++ [job] = log.started ++ (stripe.startedBy? (.proceed 0)).toList
      rw [starts, Option.toList_some]
      exact congrArg (· ++ [job]) ended
  | yield thread here =>
    refine h.of_drainer here rfl rfl rfl rfl rfl ⟨rfl, ?_⟩
    rw [startedBy?, here]
    rfl
  | rest thread left here idle =>
    have starts : stripe.startedBy? (.proceed 0) = none := by
      rw [startedBy?, here]
      cases left <;> simp [proceed, idle]
    have counted := h.counted
    have started := h.started
    have ended := h.ended
    rw [here] at counted
    rw [runningJobs_eq, here] at ended
    constructor
    · rfl
    · exact fun _ => idle
    · exact counted
    · show log.started ++ (stripe.startedBy? (.proceed 0)).toList ++ stripe.jobs =
        log.submitted ++ []
      rw [starts, Option.toList_none, List.append_nil, List.append_nil]
      exact started
    · show log.ended ++ [] ++ [] = log.started ++ (stripe.startedBy? (.proceed 0)).toList
      rw [starts, Option.toList_none]
      exact congrArg (· ++ []) ended
  | finish thread left job here =>
    refine h.of_drainer here rfl rfl rfl rfl ?_ ⟨rfl, rfl⟩
    rw [endedBy?, here]
    rfl
  | uncount thread left here =>
    refine h.of_drainer here rfl rfl rfl ?_ rfl ⟨rfl, rfl⟩
    have counted := h.counted
    rw [here] at counted
    show stripe.outstanding - 1 + 1 = stripe.outstanding + 0
    have one : [Drainer.ended (J := J) thread left].countP Drainer.hasJob = 1 := rfl
    omega

theorem Serial.step (h : Serial stripe log) {step : StripeStep J}
    (taken : stripe.step step = some after) : Serial after (stripe.record log step) :=
  h.move (move_of_step h.drainers_le taken)

/-! ## The jobs that wait and run -/

/-- Those who see to a stripe neither add nor lose a job, and do nothing while a job runs. -/
theorem Move.length_jobs {step : StripeStep J} (move : Move stripe step after)
    (noJob : submittedBy? step = none) (goesOn : ∀ drainer, step ≠ .finish drainer) :
    stripe.runningJobs = [] ∧
      after.jobs.length + after.runningJobs.length = stripe.jobs.length := by
  rw [runningJobs_eq, runningJobs_eq]
  cases move with
  | enqueue thread job => contradiction
  | handOver thread taken here =>
    rw [here]
    cases taken <;> exact ⟨rfl, rfl⟩
  | next thread left job jobs here waits =>
    rw [here, waits]
    exact ⟨rfl, rfl⟩
  | finish thread left job here => exact absurd rfl (goesOn 0)
  | start thread here => exact ⟨by rw [here]; rfl, rfl⟩
  | yield thread here => exact ⟨by rw [here]; rfl, rfl⟩
  | rest thread left here idle => exact ⟨by rw [here]; rfl, rfl⟩
  | uncount thread left here => exact ⟨by rw [here]; rfl, rfl⟩

/-- A job that comes to its end was the one that ran. -/
theorem Move.length_runningJobs_of_finish (move : Move stripe (.finish 0) after) :
    stripe.runningJobs.length = 1 ∧ after.runningJobs = [] ∧ after.jobs = stripe.jobs := by
  rw [runningJobs_eq, runningJobs_eq]
  cases move with
  | finish thread left job here =>
    rw [here]
    exact ⟨rfl, rfl, rfl⟩

/-! ## When nothing is left to do -/

/-- One job at most is run at a time. -/
theorem Serial.length_runningJobs_le (h : Serial stripe log) : stripe.runningJobs.length ≤ 1 := by
  rw [runningJobs_eq]
  exact Nat.le_trans (List.length_filterMap_le _ _) h.drainers_le

/-- When all jobs were counted off, all that were submitted have started and ended. -/
theorem Serial.ended_eq_submitted (h : Serial stripe log) (done : stripe.outstanding = 0) :
    stripe.jobs = [] ∧ stripe.runningJobs = [] ∧ log.ended = log.submitted := by
  have counted := h.counted
  have noJobs : stripe.jobs = [] := List.length_eq_zero_iff.mp (by omega)
  have noneHas : stripe.drainers.countP Drainer.hasJob = 0 := by omega
  have noneRuns : stripe.runningJobs = [] := by
    rw [runningJobs_eq, List.filterMap_eq_nil_iff]
    intro drainer member
    have idle := List.countP_eq_zero.mp noneHas drainer member
    cases drainer with
    | running | ended => exact absurd rfl idle
    | handingOver | queued | draining => rfl
  refine ⟨noJobs, noneRuns, ?_⟩
  calc log.ended
      = log.ended ++ stripe.runningJobs := by rw [noneRuns, List.append_nil]
    _ = log.started := h.ended
    _ = log.started ++ stripe.jobs := by rw [noJobs, List.append_nil]
    _ = log.submitted := h.started

/-- A thread that waits from outside is told once no job is left. -/
theorem outstanding_of_waitIdle? {thread : ThreadId} (outside : stripe.runningOn ≠ some thread)
    (told : stripe.waitIdle? thread ≠ none) : stripe.outstanding = 0 := by
  refine Classical.byContradiction fun busy => told ?_
  rw [waitIdle?, if_neg outside, if_neg busy]

/-- A stripe that nobody sees to has run all of its jobs. -/
theorem Serial.outstanding_eq_zero (h : Serial stripe log) (none : stripe.drainers = []) :
    stripe.outstanding = 0 := by
  have noJobs : stripe.jobs = [] := by
    refine Classical.byContradiction fun waits => ?_
    obtain ⟨drainer, here⟩ := h.exists_drainer waits
    rw [none] at here
    contradiction
  rw [h.counted, none, noJobs]
  rfl

end

end Stripe

end ChannelAccess
