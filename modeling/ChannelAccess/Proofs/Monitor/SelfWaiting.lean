import ChannelAccess.Proofs.Monitor.Bounded
import ChannelAccess.Proofs.Monitor.Striped

/-!
# Jobs that wait for their own stripe

A stripe keeps the thread that runs its job (`Stripe.runningOn`), so that a job which waits for its
own stripe is told at once how things stand. Any other thread waits until no job is left. A job that
the stripe takes for such a thread waits for itself, and that never ends.

`selfWait_told_iff` says which jobs the stripe knows of: exactly those that a worker runs within a
turn. Jobs are run on the spot once the pool takes no drain any more, and of that the stripe is told
nothing. `selfWait_untold_onTheSpot` shows such a job, and a consumer that closes its own notifier
in one.

The invariant (`Stripe.Informed`) is about any stripe that steps lead to (`Stripe.Reached`), and so
about those of a pool and those of the notifiers.
-/

namespace ChannelAccess

variable {J : Type}

namespace Drainer

/-- The jobs are run on the spot, and not within a turn. -/
def isOnTheSpot : Drainer J → Bool
  | .draining _ none | .running _ none _ | .ended _ none => true
  | _ => false

/-- What a stripe knows of the thread when the drainer stands there. In a turn the thread is known
from the first job on. -/
def Knows (runningOn : Option ThreadId) : Drainer J → Prop
  | .handingOver _ | .queued => runningOn = none
  | .draining thread left => runningOn = none ∨ left.isSome = true ∧ runningOn = some thread
  | .running thread left _ | .ended thread left =>
    runningOn = if left.isSome then some thread else none

/-- On the spot, no thread is known. -/
theorem Knows.eq_none {thread : ThreadId} {runningOn : Option ThreadId}
    (h : (draining thread none : Drainer J).Knows runningOn) : runningOn = none :=
  h.resolve_right fun inTurn => Bool.false_ne_true inTurn.1

end Drainer

namespace Stripe

/-- The stripe is one that some steps lead to. -/
inductive Reached : Stripe J → Prop where
  /-- It was not used yet. -/
  | new : Reached {}
  /-- A step was taken. -/
  | step {stripe after : Stripe J} {step : StripeStep J} (before : Reached stripe)
    (taken : stripe.step step = some after) : Reached after

/-- The stripe knows the thread that runs its job if that is a worker in its turn, and no other. -/
structure Informed (stripe : Stripe J) : Prop where
  /-- When nobody sees to its jobs, it knows of no thread. -/
  idle : stripe.drainers = [] → stripe.runningOn = none
  /-- What it knows of those who do. -/
  drainer : ∀ drainer ∈ stripe.drainers, drainer.Knows stripe.runningOn

section
variable {stripe after : Stripe J} {log : StripeLog J}

/-- It is enough to look at the one drainer. -/
theorem Informed.of_drainer {drainer : Drainer J} (here : stripe.drainers = [drainer])
    (knows : drainer.Knows stripe.runningOn) : stripe.Informed where
  idle := by
    rw [here]
    exact nofun
  drainer := by
    rw [here]
    exact List.forall_mem_singleton.mpr knows

/-- What is known of the one drainer. -/
theorem Informed.knows (h : stripe.Informed) {drainer : Drainer J}
    (here : stripe.drainers = [drainer]) : drainer.Knows stripe.runningOn :=
  h.drainer drainer (here ▸ List.mem_singleton_self drainer)

/-- Submitting a job makes no thread known. -/
theorem Informed.enqueue (h : stripe.Informed) (serial : Serial stripe log) (thread : ThreadId)
    (job : J) : (stripe.enqueue thread job).Informed := by
  have drainers := serial.drainers_enqueue thread job
  cases scheduled : stripe.scheduled with
  | true =>
    rw [scheduled, if_pos rfl] at drainers
    exact ⟨fun none => h.idle (drainers.symm.trans none), fun drainer member =>
      h.drainer drainer (drainers ▸ member)⟩
  | false =>
    rw [scheduled, if_neg Bool.false_ne_true] at drainers
    exact .of_drainer drainers (h.idle (serial.drainers_eq_nil scheduled))

/-- Every step keeps the stripe informed. -/
theorem Informed.move (h : stripe.Informed) (serial : Serial stripe log) {step : StripeStep J}
    (move : Move stripe step after) : after.Informed := by
  cases move with
  | enqueue thread job => exact h.enqueue serial thread job
  | handOver thread taken here =>
    have unknown : stripe.runningOn = none := h.knows here
    refine .of_drainer rfl ?_
    cases taken with
    | true => exact unknown
    | false => exact .inl unknown
  | start thread here =>
    have unknown : stripe.runningOn = none := h.knows here
    exact .of_drainer rfl (.inl unknown)
  | next thread left job jobs here waits =>
    have knows := h.knows here
    refine .of_drainer rfl ?_
    cases left with
    | some left => rfl
    | none => exact knows.eq_none
  | yield thread here => exact .of_drainer rfl rfl
  | rest thread left here idle =>
    have knows := h.knows here
    refine ⟨fun _ => ?_, nofun⟩
    cases left with
    | some left => rfl
    | none => exact knows.eq_none
  | finish thread left job here =>
    have knows : stripe.runningOn = if left.isSome then some thread else none := h.knows here
    exact .of_drainer rfl knows
  | uncount thread left here =>
    have knows : stripe.runningOn = if left.isSome then some thread else none := h.knows here
    refine .of_drainer rfl ?_
    cases left with
    | some left => exact .inr ⟨rfl, knows⟩
    | none => exact .inl knows

/-- A stripe that steps lead to is serial and informed. -/
theorem Reached.spec (h : stripe.Reached) : (∃ log, Serial stripe log) ∧ stripe.Informed := by
  induction h with
  | new => exact ⟨⟨{}, .new⟩, fun _ => rfl, nofun⟩
  | step before taken ih =>
    obtain ⟨⟨log, serial⟩, informed⟩ := ih
    exact ⟨⟨_, serial.step taken⟩,
      informed.move serial (move_of_step serial.drainers_le taken)⟩

/-- The thread of a job that runs is known within a turn, and then the job is told at once whether
it is the only one that is left. A job that runs on the spot is told nothing. -/
theorem Reached.told (h : stripe.Reached) {thread : ThreadId} {left : Option Nat} {job : J}
    (runs : .running thread left job ∈ stripe.drainers) :
    stripe.runningOn = (if left.isSome then some thread else none) ∧
      stripe.waitIdle? thread =
        if left.isSome then some (decide (stripe.outstanding ≤ 1)) else none := by
  obtain ⟨⟨log, serial⟩, informed⟩ := h.spec
  have known := informed.drainer _ runs
  have counted := serial.counted
  rw [drainers_eq_of_mem serial.drainers_le runs] at counted
  -- The job itself is still counted.
  have busy : stripe.outstanding ≠ 0 := by
    rw [counted]
    exact Nat.succ_ne_zero _
  refine ⟨known, ?_⟩
  rw [waitIdle?, show stripe.runningOn = _ from known]
  cases left with
  | some left => exact if_pos rfl
  | none =>
    have outside : ¬ none = some thread := (Option.some_ne_none thread).symm
    exact (if_neg outside).trans (if_neg busy)

/-- A job that runs goes on, with the drainer that it is run by, until it comes to its end. -/
theorem Reached.running_step (h : stripe.Reached) {thread : ThreadId} {left : Option Nat} {job : J}
    (runs : .running thread left job ∈ stripe.drainers) {step : StripeStep J}
    (taken : stripe.step step = some after) (goesOn : ∀ drainer, step ≠ .finish drainer) :
    .running thread left job ∈ after.drainers := by
  obtain ⟨⟨log, serial⟩, -⟩ := h.spec
  have alone := drainers_eq_of_mem serial.drainers_le runs
  cases move_of_step serial.drainers_le taken with
  | enqueue submitter job =>
    -- Somebody sees to the jobs already, so the one who submits does not.
    rw [serial.drainers_enqueue, serial.scheduled alone]
    exact runs
  | finish => exact absurd rfl (goesOn 0)
  | handOver _ _ here | start _ here | next _ _ _ _ here | yield _ here | rest _ _ here
  | uncount _ _ here =>
    exact nomatch List.singleton_inj.mp (alone.symm.trans here)

/-- Jobs come to be run on the spot when a drain is refused, and in no other way. -/
theorem Move.onTheSpot {step : StripeStep J} (move : Move stripe step after) {drainer : Drainer J}
    (here : drainer ∈ after.drainers) (spot : drainer.isOnTheSpot = true) :
    step = .handOver 0 false ∨ ∃ before ∈ stripe.drainers, before.isOnTheSpot = true := by
  have same : ∀ {old : Drainer J}, stripe.drainers = [old] →
      old.isOnTheSpot = drainer.isOnTheSpot →
        ∃ before ∈ stripe.drainers, before.isOnTheSpot = true :=
    fun was alike => ⟨_, was ▸ List.mem_singleton_self _, alike.trans spot⟩
  cases move with
  | enqueue thread job =>
    have here : drainer ∈ if stripe.scheduled then stripe.drainers
      else stripe.drainers ++ [.handingOver thread] := here
    split at here
    · exact .inr ⟨drainer, here, spot⟩
    · rcases List.mem_append.mp here with before | now
      · exact .inr ⟨drainer, before, spot⟩
      · obtain rfl := List.mem_singleton.mp now
        contradiction
  | handOver thread taken was =>
    obtain rfl := List.mem_singleton.mp here
    cases taken with
    | true => contradiction
    | false => exact .inl rfl
  | start thread was | yield thread was =>
    obtain rfl := List.mem_singleton.mp here
    contradiction
  | rest thread left was idle => exact absurd here List.not_mem_nil
  | next thread left job jobs was | finish thread left job was | uncount thread left was =>
    obtain rfl := List.mem_singleton.mp here
    exact .inr (same was (by cases left <;> rfl))

end

end Stripe

/-! ## Stripes of a pool -/

namespace StripedPool

/-- A step at a stripe leaves the pool open or closed, and only a closed one refuses a drain. -/
theorem accepting_of_follow {workers after : WorkerPool Nat} {index : Nat} {step : StripeStep J}
    (h : follow workers index step = some after) :
    after.accepting = workers.accepting ∧
      (step = .handOver 0 false → workers.accepting = false) := by
  cases step with
  | handOver drainer taken =>
    cases taken with
    | true =>
      obtain ⟨-, rfl⟩ := follow_handOver_taken h
      refine ⟨rfl, ?_⟩
      rintro ⟨⟩
    | false =>
      obtain rfl := follow_handOver_refused h
      refine ⟨rfl, fun _ => ?_⟩
      cases accepting : after.accepting with
      | false => rfl
      | true => simp [follow, WorkerPool.execute, accepting] at h
  | start drainer thread =>
    obtain ⟨worker, rest, -, -, -, rfl⟩ := follow_start h
    refine ⟨rfl, ?_⟩
    rintro ⟨⟩
  | enqueue | proceed | finish | uncount =>
    obtain rfl := Option.some.inj h
    refine ⟨rfl, ?_⟩
    rintro ⟨⟩

/-- A pool that takes no drain does not come to take any. -/
theorem WorkerMove.accepting {workers after : WorkerPool Nat} {step : PoolStep Nat}
    (move : WorkerMove workers step after) (closed : workers.accepting = false) :
    after.accepting = false := by
  cases move with
  | close => rfl
  | finish | uncount | await | stop => exact closed

end StripedPool

namespace StripeSystem

/-- Steps have led to the stripes of a pool, and none of their jobs is run on the spot unless the
pool takes no drain. -/
structure Reached (system : StripeSystem J) : Prop where
  /-- What stripes there are. -/
  stripe : ∀ index, (system.pool.stripe index).Reached
  /-- When jobs are run on the spot. -/
  spot : ∀ index, ∀ drainer ∈ (system.pool.stripe index).drainers, drainer.isOnTheSpot = true →
    system.pool.pool.accepting = false

theorem Reached.start (name : String) (threads stripes : Nat) :
    Reached (StripeSystem.start name threads stripes : StripeSystem J) := by
  have unused : ∀ index,
      (StripeSystem.start name threads stripes : StripeSystem J).pool.stripe index = {} :=
    StripedPool.stripe_ofThreads name threads stripes
  constructor
  · intro index
    rw [unused]
    exact .new
  · intro index drainer member
    rw [unused] at member
    contradiction

theorem Reached.step {system : StripeSystem J} (h : system.Reached) (event : PoolEvent J) :
    (system.step event).Reached := by
  unfold StripeSystem.step
  split
  · exact h
  rename_i after happens
  cases event with
  | stripe index step =>
    obtain ⟨inside, stripe, taken, follows, changed⟩ := StripedPool.perform_stripe happens
    obtain ⟨accepting, refuses⟩ := StripedPool.accepting_of_follow follows
    have now := StripedPool.stripe_of_set inside changed
    constructor
    · intro other
      show (after.stripe other).Reached
      rw [now]
      split
      · exact (h.stripe index).step taken
      · exact h.stripe other
    · intro other drainer (member : drainer ∈ (after.stripe other).drainers) spot
      show after.pool.accepting = false
      rw [accepting]
      rw [now] at member
      split at member
      · obtain ⟨⟨log, serial⟩, -⟩ := (h.stripe index).spec
        have move := Stripe.move_of_step serial.drainers_le taken
        rcases move.onTheSpot member spot with refused | ⟨before, was, wasSpot⟩
        · exact refuses refused
        · exact h.spot index before was wasSpot
      · exact h.spot other drainer member spot
  | pool step =>
    obtain ⟨move, stripes⟩ := StripedPool.perform_pool happens
    have same : ∀ index, after.stripe index = system.pool.stripe index := by
      intro index
      rw [StripedPool.stripe, stripes]
      rfl
    constructor
    · intro index
      show (after.stripe index).Reached
      rw [same]
      exact h.stripe index
    · intro index drainer (member : drainer ∈ (after.stripe index).drainers) spot
      rw [same] at member
      exact move.accepting (h.spot index drainer member spot)

theorem Reached.run {system : StripeSystem J} (h : system.Reached) (events : List (PoolEvent J)) :
    (system.run events).Reached := by
  induction events generalizing system with
  | nil => exact h
  | cons event later ih => exact ih (h.step event)

/-- A job that runs goes on until it comes to its end. -/
theorem Reached.running_run {system : StripeSystem J} (h : system.Reached) {index : Nat}
    {thread : ThreadId} {left : Option Nat} {job : J}
    (runs : .running thread left job ∈ (system.pool.stripe index).drainers)
    {later : List (PoolEvent J)} (goesOn : ∀ drainer, .stripe index (.finish drainer) ∉ later) :
    .running thread left job ∈ ((system.run later).pool.stripe index).drainers := by
  induction later generalizing system with
  | nil => exact runs
  | cons event later ih =>
    refine ih (h.step event) ?_ fun drainer isLater =>
      goesOn drainer (List.mem_cons_of_mem event isLater)
    unfold StripeSystem.step
    split
    · exact runs
    rename_i after happens
    show _ ∈ (after.stripe index).drainers
    cases event with
    | stripe other step =>
      obtain ⟨inside, stripe, taken, -, changed⟩ := StripedPool.perform_stripe happens
      rw [StripedPool.stripe_of_set inside changed]
      split
      · rename_i here
        subst here
        refine (h.stripe index).running_step runs taken ?_
        rintro drainer rfl
        exact goesOn drainer List.mem_cons_self
      · exact runs
    | pool step =>
      rw [StripedPool.stripe, (StripedPool.perform_pool happens).2]
      exact runs

end StripeSystem

/-! ## Stripes of notifiers -/

variable {α : Type}

/-- Steps have led to the stripe of a striped notifier. -/
theorem StripedHistory.reached_run {history : StripedHistory α} (sound : history.Sound)
    (reached : (history.notifier.workers.stripe 0).Reached) (steps : List (StripedStep α)) :
    ((history.run steps).notifier.workers.stripe 0).Reached := by
  induction steps generalizing history with
  | nil => exact reached
  | cons step later ih =>
    refine ih (sound.step step) ?_
    unfold StripedHistory.step
    split
    · exact reached
    rename_i after happens
    show (after.workers.stripe 0).Reached
    rcases step_spec happens with ⟨-, -, same⟩ | ⟨move, -, -, stepped⟩
    · rw [same]
      exact reached
    · exact reached.step (StripedPool.stepStripe?_zero sound.hasStripe stepped).1

/-- Steps have led to the stripe of a bounded notifier. -/
theorem BoundedHistory.reached_run {history : BoundedHistory α} (sound : history.Sound)
    (reached : history.stripe.Reached) (steps : List (BoundedStep α)) :
    (history.run steps).stripe.Reached := by
  induction steps generalizing history with
  | nil => exact reached
  | cons step later ih =>
    refine ih (sound.step step) ?_
    unfold BoundedHistory.step
    split
    · exact reached
    rename_i after happens
    show (after.workers.stripe 0).Reached
    have stepped : ∀ {workers : StripedPool Unit} {step : StripeStep Unit},
        history.notifier.workers.stepStripe? 0 step = some workers → (workers.stripe 0).Reached :=
      fun stepped => reached.step (StripedPool.stepStripe?_zero sound.hasStripe stepped).1
    cases BoundedNotifier.move_of_step sound.queue.room happens with
    | refuse | replace | add | take | close => exact reached
    | submit _ _ _ _ taken | drain _ _ _ _ taken | finish _ _ _ _ taken | miss _ _ _ _ taken =>
      exact stepped taken

/-- **Which jobs can wait for their own stripe.** Whatever the threads that submit jobs, the workers
of the pool and one that shuts it down have done, in any order, while a job runs:
* The stripe knows the thread that runs it exactly if that is a worker in its turn, and then the job
  is told at once whether it is the only one that is left.
* Otherwise the pool takes no drain, the job is run on the spot, and if it waits for its own stripe
  it is told nothing until it has come to its end, whatever happens.

A consumer that closes its own striped or bounded notifier while it is given a value waits for the
stripe of that notifier, and need not wait any longer exactly if the value is delivered within a
turn. -/
theorem selfWait_told_iff {α : Type} (name : String) (threads stripes capacity : Nat)
    (events : List (PoolEvent J)) (steps : List (StripedStep α))
    (boundedSteps : List (BoundedStep α)) :
    let system := (StripeSystem.start name threads stripes).run events
    let striped := ((StripedHistory.start threads).run steps).notifier
    let bounded := ((BoundedHistory.start threads capacity).run boundedSteps).notifier
    (∀ index thread left job,
      let stripe := system.pool.stripe index
      Drainer.running thread left job ∈ stripe.drainers →
        stripe.runningOn = (if left.isSome then some thread else none) ∧
        stripe.waitIdle? thread =
          (if left.isSome then some (decide (stripe.outstanding ≤ 1)) else none) ∧
        (left = none → system.pool.pool.accepting = false ∧
          ∀ later, (∀ drainer, .stripe index (.finish drainer) ∉ later) →
            ((system.run later).pool.stripe index).waitIdle? thread = none)) ∧
    (∀ thread left value after,
      Drainer.running thread left value ∈ (striped.workers.stripe 0).drainers →
        striped.step .close = some after →
          ((after.workers.stripe 0).waitIdle? thread ≠ none ↔ left.isSome = true)) ∧
    ∀ thread left after, Drainer.running thread left () ∈ (bounded.workers.stripe 0).drainers →
      bounded.step .close = some after →
        ((after.workers.stripe 0).waitIdle? thread ≠ none ↔ left.isSome = true) := by
  intro system striped bounded
  have reached : system.Reached := (StripeSystem.Reached.start name threads stripes).run events
  have isTold : ∀ {K : Type} {stripe : Stripe K} {thread left job}, stripe.Reached →
      Drainer.running thread left job ∈ stripe.drainers →
        (stripe.waitIdle? thread ≠ none ↔ left.isSome = true) := by
    intro K stripe thread left job reached runs
    rw [(reached.told runs).2]
    cases left <;> simp
  refine ⟨?_, ?_, ?_⟩
  · intro index thread left job stripe runs
    obtain ⟨known, told⟩ := (reached.stripe index).told runs
    refine ⟨known, told, ?_⟩
    rintro rfl
    refine ⟨reached.spot index _ runs rfl, fun later goesOn => ?_⟩
    -- The job still runs, and on the spot as before.
    have stillRuns := reached.running_run runs goesOn
    exact (((reached.run later).stripe index).told stillRuns).2
  · intro thread left value after runs closes
    obtain rfl := Option.some.inj closes
    exact isTold (StripedHistory.reached_run (.start threads) .new steps) runs
  · intro thread left after runs closes
    have closed : after = { bounded with closed := true } := by
      unfold BoundedNotifier.step at closes
      dsimp only at closes
      split at closes
      · exact (Option.some.inj closes).symm
      · contradiction
    rw [closed]
    exact isTold (BoundedHistory.reached_run (.start threads capacity) .new boundedSteps) runs

/-- After a shutdown of the pool, the thread that submits a job runs it, and the stripe knows of no
thread. A worker whose turn is over then runs the next job on the spot as well, and if that has a
consumer close its own notifier, the consumer waits for itself. -/
theorem selfWait_untold_onTheSpot :
    let system := (StripeSystem.start "pool" 1 1).run
      [.pool .close, .stripe 0 (.enqueue 7 'a'), .stripe 0 (.handOver 0 false),
        .stripe 0 (.proceed 0)]
    let turn : List (StripedStep Char) := (List.replicate 16
      [.drain (.proceed 0), .drain (.finish 0), .drain (.uncount 0)]).flatten
    let history := (StripedHistory.start 1).run
      (List.replicate 17 (.publish 0 'a') ++ [.drain (.handOver 0 true), .drain (.start 0 1)] ++
        turn ++ [.drain (.proceed 0), .drain (.handOver 0 false), .drain (.proceed 0), .close])
    ((system.pool.stripe 0).drainers = [.running 7 none 'a'] ∧
      (system.pool.stripe 0).runningOn = none ∧ (system.pool.stripe 0).waitIdle? 7 = none) ∧
    (history.notifier.workers.stripe 0).drainers = [.running 1 none 'a'] ∧
      history.notifier.closed = true ∧
      (history.notifier.workers.stripe 0).waitIdle? 1 = none := by
  decide +kernel

end ChannelAccess
