import ChannelAccess.Monitor.Striped
import ChannelAccess.Proofs.Stripe.Pool

/-!
# A stripe delivers what was accepted

The values that a striped notifier accepts are the jobs of its stripe. What is said of the jobs of
any stripe in `StripeSystem.Sound` therefore holds of them (`StripedHistory.Sound`): they are
delivered in the order in which they were accepted, and all of them were once nobody who waits for
the stripe has to wait any more. What becomes of a drain that is handed over to the pool is left
open in `StripedNotifier.step`, so that this holds whether or not the pool is shut down.
`jobs_run_once_in_order` has it all, for stripes and for notifiers.
-/

namespace ChannelAccess

/-- A striped notifier, the values that it has accepted, and what happened to them. -/
structure StripedHistory (α : Type) where
  /-- The notifier. -/
  notifier : StripedNotifier α
  /-- The values that were accepted, in order. -/
  accepted : List α := []
  /-- What happened to the jobs of the notifier's stripe. -/
  log : StripeLog α := {}

namespace StripedHistory

variable {α : Type}

/-- The value that is accepted with a step. -/
def acceptedBy? (history : StripedHistory α) : StripedStep α → Option α
  | .publish _ value => if history.notifier.closed then none else some value
  | _ => none

/-- What happens at the stripe with a step. -/
def stripeStep? (history : StripedHistory α) : StripedStep α → Option (StripeStep α)
  | .publish thread value =>
    if history.notifier.closed then none else some (.enqueue thread value)
  | .drain step => some step
  | .close => none

/-- What a step does. One that cannot happen does nothing. -/
def step (history : StripedHistory α) (step : StripedStep α) : StripedHistory α :=
  match history.notifier.step step with
  | none => history
  | some notifier =>
    { notifier
      accepted := history.accepted ++ (history.acceptedBy? step).toList
      log :=
        match history.stripeStep? step with
        | none => history.log
        | some step => (history.notifier.workers.stripe 0).record history.log step }

/-- What some steps do, one after the other. -/
def run (history : StripedHistory α) (steps : List (StripedStep α)) : StripedHistory α :=
  steps.foldl step history

/-- A notifier of some threads that was not used yet. -/
def start (threads : Nat) : StripedHistory α where
  notifier := .ofThreads threads

/-- A thread that waits for the consumer from outside, after the notifier was closed, is told that
it need not wait any longer. -/
def CloseReturns (history : StripedHistory α) (thread : ThreadId) : Prop :=
  history.notifier.closed = true ∧
    (history.notifier.workers.stripe 0).runningOn ≠ some thread ∧
    (history.notifier.workers.stripe 0).waitIdle? thread ≠ none

instance (history : StripedHistory α) (thread : ThreadId) :
    Decidable (history.CloseReturns thread) :=
  inferInstanceAs (Decidable (_ ∧ _ ∧ _))

/-- The jobs of the stripe are the accepted values. -/
structure Sound (history : StripedHistory α) : Prop where
  /-- There is a stripe. -/
  hasStripe : 0 < history.notifier.workers.stripes.length
  /-- Its jobs run one after the other. -/
  serial : (history.notifier.workers.stripe 0).Serial history.log
  /-- They are the accepted values. -/
  submitted : history.log.submitted = history.accepted

theorem Sound.start (threads : Nat) : Sound (StripedHistory.start threads : StripedHistory α) where
  hasStripe := Nat.zero_lt_one
  serial := .new
  submitted := rfl

/-! ## One step -/

/-- A step of the notifier is a step of its stripe, or leaves the stripe alone. A job is submitted
exactly with the values that are accepted. -/
theorem step_spec {history : StripedHistory α} {step : StripedStep α} {after : StripedNotifier α}
    (h : history.notifier.step step = some after) :
    (history.stripeStep? step = none ∧ history.acceptedBy? step = none ∧
        after.workers = history.notifier.workers) ∨
      ∃ move, history.stripeStep? step = some move ∧
        history.acceptedBy? step = Stripe.submittedBy? move ∧
        history.notifier.workers.stepStripe? 0 move = some after.workers := by
  cases step with
  | publish thread value =>
    cases closed : history.notifier.closed with
    | true =>
      rw [StripedNotifier.step, if_pos closed] at h
      obtain rfl := Option.some.inj h
      exact .inl ⟨if_pos closed, if_pos closed, rfl⟩
    | false =>
      have isOpen : ¬ history.notifier.closed = true := Bool.eq_false_iff.mp closed
      rw [StripedNotifier.step, if_neg isOpen] at h
      obtain ⟨workers, stepped, rfl⟩ := Option.map_eq_some_iff.mp h
      exact .inr ⟨.enqueue thread value, if_neg isOpen, if_neg isOpen, stepped⟩
  | drain move =>
    cases move with
    | enqueue => contradiction
    | handOver | start | proceed | finish | uncount =>
      obtain ⟨workers, stepped, rfl⟩ := Option.map_eq_some_iff.mp h
      exact .inr ⟨_, rfl, rfl, stepped⟩
  | close =>
    obtain rfl := Option.some.inj h
    exact .inl ⟨rfl, rfl, rfl⟩

theorem Sound.step {history : StripedHistory α} (h : history.Sound) (step : StripedStep α) :
    (history.step step).Sound := by
  unfold StripedHistory.step
  split
  · exact h
  · rename_i after happens
    rcases step_spec happens with ⟨quiet, none, same⟩ | ⟨move, moves, accepts, stepped⟩
    · rw [quiet, none, Option.toList_none, List.append_nil]
      refine ⟨?_, ?_, h.submitted⟩
      · rw [same]
        exact h.hasStripe
      · rw [same]
        exact h.serial
    · rw [moves, accepts]
      obtain ⟨taken, hasStripe⟩ := StripedPool.stepStripe?_zero h.hasStripe stepped
      exact ⟨hasStripe, h.serial.step taken, congrArg (· ++ _) h.submitted⟩

theorem Sound.run {history : StripedHistory α} (h : history.Sound) (steps : List (StripedStep α)) :
    (history.run steps).Sound := by
  induction steps generalizing history with
  | nil => exact h
  | cons step later ih => exact ih (h.step step)

/-! ## After the notifier was closed -/

/-- A closed notifier stays closed, and accepts nothing. -/
theorem step_of_closed {history : StripedHistory α} (closed : history.notifier.closed = true)
    (step : StripedStep α) :
    (history.step step).notifier.closed = true ∧
      (history.step step).accepted = history.accepted := by
  unfold StripedHistory.step
  split
  · exact ⟨closed, rfl⟩
  · rename_i after happens
    cases step with
    | publish thread value =>
      rw [StripedNotifier.step, if_pos closed] at happens
      obtain rfl := Option.some.inj happens
      refine ⟨closed, ?_⟩
      show _ ++ (if history.notifier.closed then none else some value : Option α).toList = _
      rw [if_pos closed, Option.toList_none, List.append_nil]
    | drain move =>
      refine ⟨?_, List.append_nil _⟩
      cases move with
      | enqueue => contradiction
      | handOver | start | proceed | finish | uncount =>
        obtain ⟨workers, stepped, rfl⟩ := Option.map_eq_some_iff.mp happens
        exact closed
    | close =>
      obtain rfl := Option.some.inj happens
      exact ⟨rfl, List.append_nil _⟩

/-- What was delivered stays delivered. -/
theorem ended_prefix_step (history : StripedHistory α) (step : StripedStep α) :
    history.log.ended <+: (history.step step).log.ended := by
  unfold StripedHistory.step
  split
  · exact List.prefix_refl _
  · dsimp only
    split
    · exact List.prefix_refl _
    · exact List.prefix_append _ _

/-- Once a close has returned, all that was accepted was delivered in that order, and nothing more
is accepted or delivered. -/
theorem Sound.delivered {history : StripedHistory α} (h : history.Sound) {thread : ThreadId}
    (returns : history.CloseReturns thread) :
    history.log.ended = history.accepted ∧
      ∀ later, (history.run later).accepted = history.accepted ∧
        (history.run later).log.ended = history.accepted := by
  obtain ⟨closed, outside, told⟩ := returns
  have idle : (history.notifier.workers.stripe 0).outstanding = 0 :=
    Stripe.outstanding_of_waitIdle? outside told
  have all := (h.serial.ended_eq_submitted idle).2.2.trans h.submitted
  refine ⟨all, fun later => ?_⟩
  have after : (history.run later).Sound ∧ (history.run later).accepted = history.accepted ∧
      history.log.ended <+: (history.run later).log.ended := by
    clear told idle all outside
    induction later generalizing history with
    | nil => exact ⟨h, rfl, List.prefix_refl _⟩
    | cons step later ih =>
      obtain ⟨stays, same⟩ := step_of_closed closed step
      obtain ⟨sound, accepted, delivered⟩ := ih (h.step step) stays
      exact ⟨sound, accepted.trans same, (ended_prefix_step history step).trans delivered⟩
  obtain ⟨sound, accepted, delivered⟩ := after
  refine ⟨accepted, ?_⟩
  -- What is delivered later cannot be more than what was accepted.
  have bound : (history.run later).log.ended <+: history.accepted := by
    have started := sound.serial.ended ▸ List.prefix_append (history.run later).log.ended _
    have submitted := sound.serial.started ▸ List.prefix_append (history.run later).log.started _
    rw [← accepted, ← sound.submitted]
    exact started.trans submitted
  rw [all] at delivered
  exact bound.eq_of_length_le delivered.length_le

end StripedHistory

/-- Whatever the threads that submit jobs, the workers of the pool and one that shuts it down do, in
any order: the jobs of a stripe start in the order in which they were submitted, one after the other
has ended; those that are counted are the ones that wait and the one that was taken; and while one
waits there is one drainer, which is on the pool's queue once or is not there. Until more jobs are
submitted, there is only so much work, and when nobody can go on, every job has been run.

A striped notifier from which a close has returned has delivered what it accepted, in order, and
does nothing more. -/
theorem jobs_run_once_in_order {J : Type} (name : String) (threads stripes : Nat)
    (events : List (PoolEvent J)) (steps : List (StripedStep J)) :
    let system := (StripeSystem.start name threads stripes).run events
    let history := (StripedHistory.start threads).run steps
    (∀ index,
      let stripe := system.pool.stripe index
      let log := system.logs index
      log.started ++ stripe.jobs = log.submitted ∧
        log.ended ++ stripe.runningJobs = log.started ∧ stripe.runningJobs.length ≤ 1 ∧
        stripe.outstanding = stripe.jobs.length + stripe.drainers.countP Drainer.hasJob ∧
        stripe.drainers.length ≤ 1 ∧ (stripe.jobs ≠ [] → stripe.drainers.length = 1) ∧
        stripe.drainers.countP Drainer.isQueued = system.pool.pool.queue.count index) ∧
      (∀ later : List (PoolEvent J), (∀ event ∈ later, event.submits = false) →
        system.worked later ≤ system.pool.workLeft ∧
          ((system.run later).Rests → ∀ index,
            ((system.run later).logs index).ended = (system.logs index).submitted)) ∧
      ∀ thread, history.CloseReturns thread →
        history.log.ended = history.accepted ∧
          ∀ later, (history.run later).accepted = history.accepted ∧
            (history.run later).log.ended = history.accepted := by
  intro system history
  have sound : system.Sound := (StripeSystem.Sound.start name threads stripes).run events
  refine ⟨fun index => ?_, fun later noJobs => ⟨?_, fun rests index => ?_⟩, fun thread => ?_⟩
  · have serial := sound.serial index
    refine ⟨serial.started, serial.ended, serial.length_runningJobs_le, serial.counted,
      serial.drainers_le, fun waits => ?_, (sound.pool.queued index).symm⟩
    obtain ⟨drainer, here⟩ := serial.exists_drainer waits
    rw [here]
    rfl
  · have bound := sound.worked_le noJobs
    omega
  · rw [(sound.run later).ended_of_rests rests, StripeSystem.submitted_run system noJobs]
  · exact ((StripedHistory.Sound.start threads).run steps).delivered

/-- A close that comes while a value is being delivered returns once that value is counted off. -/
example :
    let history := (StripedHistory.start 1).run
      [.publish 0 'a', .drain (.handOver 0 true), .drain (.start 0 1), .drain (.proceed 0), .close,
        .drain (.finish 0)]
    ¬ history.CloseReturns 0 ∧ (history.step (.drain (.uncount 0))).CloseReturns 0 := by
  decide

/-- After a shutdown, the thread that submits a job runs it, with what others submit meanwhile. -/
example :
    let system := (StripeSystem.start "pool" 2 1).run
      [.pool .close, .stripe 0 (.enqueue 7 'a'), .stripe 0 (.handOver 0 false),
        .stripe 0 (.enqueue 8 'b'), .stripe 0 (.proceed 0), .stripe 0 (.finish 0),
        .stripe 0 (.uncount 0), .stripe 0 (.proceed 0), .stripe 0 (.finish 0)]
    (system.logs 0).ended = ['a', 'b'] := by
  decide

end ChannelAccess
