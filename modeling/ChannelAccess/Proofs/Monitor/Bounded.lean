import ChannelAccess.Monitor.Bounded
import ChannelAccess.Proofs.Stripe.Pool

/-!
# A bounded queue delivers the newest values

A publisher of a bounded notifier first puts its value on the queue and then, unless the value took
another's place, submits a delivery job. Jobs and values are thus not submitted together, and a job
may deliver another value than the one it was submitted for. They balance all the same
(`BoundedHistory.Sound`): the jobs that have taken no value yet, and those about to be submitted,
are as many as the values on the queue.

What the queue keeps is said of the queue alone (`BoundedQueue.Keeps`): the newest of the accepted
values, of which none is lost but the oldest when the queue is full. What becomes of a drain that is
handed over to the pool is left open, so that all of this holds whether or not the pool is shut
down. A drain that the pool took may start at any time; that a worker comes to start it is a matter
of the pool (`StripedPool.Sound.exists_work`). `newest_values_delivered` has it all.
-/

namespace ChannelAccess

variable {α : Type}

namespace BoundedQueue

/-- What a queue keeps of the accepted values, some of which were taken from it. -/
structure Keeps (queue : BoundedQueue α) (accepted taken : List α) : Prop where
  /-- There is room for a value. -/
  room : 0 < queue.capacity
  /-- The queue is not longer than it may be. -/
  fits : queue.values.length ≤ queue.capacity
  /-- The queue has the newest values. -/
  newest : queue.values <:+ accepted
  /-- Values were taken in the order in which they were accepted. -/
  inOrder : (taken ++ queue.values).Sublist accepted
  /-- The last value is not lost. -/
  last : (taken ++ queue.values).getLast? = accepted.getLast?

theorem Keeps.new (capacity : Nat) : Keeps (.ofCapacity capacity : BoundedQueue α) [] [] where
  room := Nat.lt_of_lt_of_le Nat.zero_lt_one (Nat.le_max_left 1 capacity)
  fits := Nat.zero_le _
  newest := List.suffix_refl []
  inOrder := List.Sublist.refl []
  last := rfl

/-- A queue with room takes a value and loses none. -/
theorem push_of_room {queue : BoundedQueue α} (room : queue.values.length < queue.capacity)
    (value : α) : queue.push value = (none, { queue with values := queue.values ++ [value] }) := by
  rw [push, if_neg (Nat.not_le.mpr room), if_neg (Nat.not_le.mpr room)]

/-- A full queue loses its oldest value for the new one. -/
theorem push_of_oldest {queue : BoundedQueue α} {oldest : α} {rest : List α}
    (values : queue.values = oldest :: rest) (full : queue.capacity ≤ queue.values.length)
    (value : α) : queue.push value = (some oldest, { queue with values := rest ++ [value] }) := by
  rw [push, if_pos full, if_pos full, values]
  rfl

section
variable {queue : BoundedQueue α} {accepted taken : List α}

theorem Keeps.push_of_room (h : queue.Keeps accepted taken)
    (room : queue.values.length < queue.capacity) (value : α) :
    Keeps { queue with values := queue.values ++ [value] } (accepted ++ [value]) taken where
  room := h.room
  fits := by
    rw [List.length_append, List.length_singleton]
    exact room
  newest := (List.suffix_append_inj_of_length_eq rfl).mpr ⟨h.newest, rfl⟩
  inOrder := by
    rw [← List.append_assoc]
    exact h.inOrder.append (List.Sublist.refl [value])
  last := by
    rw [← List.append_assoc, List.getLast?_concat, List.getLast?_concat]

theorem Keeps.push_of_oldest {oldest : α} {rest : List α} (h : queue.Keeps accepted taken)
    (values : queue.values = oldest :: rest) (value : α) :
    Keeps { queue with values := rest ++ [value] } (accepted ++ [value]) taken := by
  have fits := h.fits
  have newest := h.newest
  have inOrder := h.inOrder
  rw [values] at fits newest inOrder
  constructor
  · exact h.room
  · rw [List.length_append, List.length_singleton]
    exact fits
  · have later : rest <:+ accepted := (List.suffix_cons oldest rest).trans newest
    exact (List.suffix_append_inj_of_length_eq rfl).mpr ⟨later, rfl⟩
  · -- The values but for the oldest are still in order.
    have kept : (taken ++ rest).Sublist accepted :=
      ((List.Sublist.refl taken).append (List.sublist_cons_self oldest rest)).trans inOrder
    rw [← List.append_assoc]
    exact kept.append (List.Sublist.refl [value])
  · rw [← List.append_assoc, List.getLast?_concat, List.getLast?_concat]

/-- Taking the oldest value moves it from the queue to those that were taken. -/
theorem Keeps.pop {value : α} {rest : List α} (h : queue.Keeps accepted taken)
    (values : queue.values = value :: rest) :
    Keeps { queue with values := rest } accepted (taken ++ [value]) := by
  have fits := h.fits
  have newest := h.newest
  have inOrder := h.inOrder
  have last := h.last
  rw [values] at fits newest inOrder last
  constructor
  · exact h.room
  · exact Nat.le_of_succ_le fits
  · exact (List.suffix_cons value rest).trans newest
  · rw [List.append_assoc]
    exact inOrder
  · rw [List.append_assoc]
    exact last

end

end BoundedQueue

/-- The oldest value is the first of the queue. -/
theorem BoundedQueue.values_of_pop? {queue rest : BoundedQueue α} {value : α}
    (h : queue.pop? = some (value, rest)) :
    queue.values = value :: rest.values ∧ rest = { queue with values := rest.values } := by
  unfold pop? at h
  split at h
  · contradiction
  · rename_i values
    obtain ⟨rfl, rfl⟩ := Prod.mk.inj (Option.some.inj h)
    exact ⟨values, rfl⟩

/-! ## The steps of a notifier -/

/-- What can happen at a notifier whose queue has room for a value at least. -/
inductive BoundedMove (notifier : BoundedNotifier α) :
    BoundedStep α → BoundedNotifier α → Prop where
  /-- A closed notifier accepts no value. -/
  | refuse (value : α) (closed : notifier.closed = true) :
    BoundedMove notifier (.push value) notifier
  /-- The oldest value of a full queue is lost for a new one. -/
  | replace (value oldest : α) (rest : List α) (isOpen : notifier.closed = false)
    (values : notifier.queue.values = oldest :: rest)
    (full : notifier.queue.capacity ≤ notifier.queue.values.length) :
    BoundedMove notifier (.push value)
      { notifier with
        queue := { notifier.queue with values := rest ++ [value] }
        spare := some oldest }
  /-- A value is put on the queue, and its job is to be submitted. -/
  | add (value : α) (isOpen : notifier.closed = false)
    (room : notifier.queue.values.length < notifier.queue.capacity) :
    BoundedMove notifier (.push value)
      { notifier with
        queue := { notifier.queue with values := notifier.queue.values ++ [value] }
        submitting := notifier.submitting + 1 }
  /-- A job is submitted. -/
  | submit (thread : ThreadId) (submitting : Nat) (workers : StripedPool Unit)
    (waits : notifier.submitting = submitting + 1)
    (stepped : notifier.workers.stepStripe? 0 (.enqueue thread ()) = some workers) :
    BoundedMove notifier (.submit thread) { notifier with submitting, workers }
  /-- Those who see to the jobs go on. -/
  | drain (step : StripeStep Unit) (workers : StripedPool Unit)
    (noJob : Stripe.submittedBy? step = none) (goesOn : ∀ drainer, step ≠ .finish drainer)
    (stepped : notifier.workers.stepStripe? 0 step = some workers) :
    BoundedMove notifier (.drain step) { notifier with workers }
  /-- The job that runs takes the oldest value. -/
  | take (value : α) (rest : List α) (idle : notifier.delivering = none)
    (runs : (notifier.workers.stripe 0).runningJobs ≠ [])
    (values : notifier.queue.values = value :: rest) :
    BoundedMove notifier .take
      { notifier with
        queue := { notifier.queue with values := rest }
        delivering := some value }
  /-- The job that runs is done with its value. -/
  | finish (failed : Bool) (value : α) (workers : StripedPool Unit)
    (delivering : notifier.delivering = some value)
    (stepped : notifier.workers.stepStripe? 0 (.finish 0) = some workers) :
    BoundedMove notifier (.finish failed)
      { notifier with
        delivering := none
        spare := if failed then notifier.spare else some value
        workers }
  /-- The job that runs has found no value. -/
  | miss (failed : Bool) (workers : StripedPool Unit) (idle : notifier.delivering = none)
    (empty : notifier.queue.values = [])
    (stepped : notifier.workers.stepStripe? 0 (.finish 0) = some workers) :
    BoundedMove notifier (.finish failed) { notifier with workers }
  /-- The notifier is closed. -/
  | close (nobody : notifier.submitting = 0) :
    BoundedMove notifier .close { notifier with closed := true }

namespace BoundedNotifier

section
variable {notifier : BoundedNotifier α}

theorem push_of_closed (closed : notifier.closed = true) (value : α) :
    notifier.push value = (false, notifier) := by
  rw [push, if_pos closed]

/-- Publishing to an open notifier whose queue is full loses the oldest value and submits no job. -/
theorem push_of_oldest {oldest : α} {rest : List α} (isOpen : notifier.closed = false)
    (values : notifier.queue.values = oldest :: rest)
    (full : notifier.queue.capacity ≤ notifier.queue.values.length) (value : α) :
    notifier.push value =
      (false, { notifier with
        queue := { notifier.queue with values := rest ++ [value] }
        spare := some oldest }) := by
  rw [push, if_neg (Bool.eq_false_iff.mp isOpen), BoundedQueue.push_of_oldest values full]

theorem push_of_room (isOpen : notifier.closed = false)
    (room : notifier.queue.values.length < notifier.queue.capacity) (value : α) :
    notifier.push value =
      (true, { notifier with
        queue := { notifier.queue with values := notifier.queue.values ++ [value] }
        submitting := notifier.submitting + 1 }) := by
  rw [push, if_neg (Bool.eq_false_iff.mp isOpen), BoundedQueue.push_of_room room]

end

/-- What a publisher does who finds room for a value at least. -/
theorem move_push {notifier : BoundedNotifier α} (room : 0 < notifier.queue.capacity) (value : α) :
    BoundedMove notifier (.push value) (notifier.push value).2 := by
  cases closed : notifier.closed with
  | true =>
    rw [push_of_closed closed]
    exact .refuse value closed
  | false =>
    by_cases full : notifier.queue.capacity ≤ notifier.queue.values.length
    · obtain ⟨oldest, rest, values⟩ := List.exists_cons_of_length_pos (Nat.lt_of_lt_of_le room full)
      rw [push_of_oldest closed values full]
      exact .replace value oldest rest closed values full
    · rw [push_of_room closed (Nat.not_le.mp full)]
      exact .add value closed (Nat.not_le.mp full)

/-- Every step is one of those written out. -/
theorem move_of_step {notifier after : BoundedNotifier α} (room : 0 < notifier.queue.capacity)
    {step : BoundedStep α} (h : notifier.step step = some after) :
    BoundedMove notifier step after := by
  cases step with
  | push value =>
    obtain rfl := Option.some.inj h
    exact move_push room value
  | submit thread =>
    dsimp only [BoundedNotifier.step] at h
    split at h
    · contradiction
    · rename_i submitting waits
      obtain ⟨workers, stepped, rfl⟩ := Option.map_eq_some_iff.mp h
      exact .submit thread submitting workers waits stepped
  | drain step =>
    cases step with
    | enqueue | finish => contradiction
    | handOver | start | proceed | uncount =>
      obtain ⟨workers, stepped, rfl⟩ := Option.map_eq_some_iff.mp h
      exact .drain _ workers rfl (fun _ same => nomatch same) stepped
  | take =>
    dsimp only [BoundedNotifier.step] at h
    split at h
    · rename_i job value queue idle running popped
      obtain rfl := Option.some.inj h
      obtain ⟨values, isRest⟩ := BoundedQueue.values_of_pop? popped
      obtain ⟨others, jobs⟩ := List.head?_eq_some_iff.mp running
      rw [isRest]
      exact .take value queue.values idle (by rw [jobs]; exact List.cons_ne_nil _ _) values
    · contradiction
  | finish failed =>
    dsimp only [BoundedNotifier.step] at h
    split at h
    · rename_i value delivering
      obtain ⟨workers, stepped, rfl⟩ := Option.map_eq_some_iff.mp h
      exact .finish failed value workers delivering stepped
    · rename_i idle empty
      obtain ⟨workers, stepped, rfl⟩ := Option.map_eq_some_iff.mp h
      exact .miss failed workers idle empty stepped
    · contradiction
  | close =>
    dsimp only [BoundedNotifier.step] at h
    split at h
    · rename_i nobody
      obtain rfl := Option.some.inj h
      exact .close nobody
    · contradiction

/-- Those who see to the jobs can go on at the notifier if they can at its stripe. -/
theorem step_drain_ne_none {notifier : BoundedNotifier α} {step : StripeStep Unit}
    (noJob : Stripe.submittedBy? step = none) (goesOn : ∀ drainer, step ≠ .finish drainer)
    (happens : (notifier.workers.stripe 0).step step ≠ none) :
    notifier.step (.drain step) ≠ none := by
  obtain ⟨after, stepped⟩ := Option.ne_none_iff_exists'.mp happens
  cases step with
  | enqueue thread job => contradiction
  | finish drainer => exact absurd rfl (goesOn drainer)
  | handOver | start | proceed | uncount =>
    simp [BoundedNotifier.step, drain, StripedPool.stepStripe?, stepped]

end BoundedNotifier

/-! ## The history of a notifier -/

/-- The step is taken by one who has a delivery job to submit or to run. -/
def BoundedStep.isWork : BoundedStep α → Bool
  | .push _ | .close => false
  | .submit _ | .drain _ | .take | .finish _ => true

/-- A bounded notifier, the values that it has accepted and delivered, and what happened to its
delivery jobs. -/
structure BoundedHistory (α : Type) where
  /-- The notifier. -/
  notifier : BoundedNotifier α
  /-- The values that were put on the queue, in order. -/
  accepted : List α := []
  /-- The values with which the consumer is done, in order. -/
  delivered : List α := []
  /-- How many publishers were told that their value was accepted and no other lost. -/
  granted : Nat := 0
  /-- What happened to the delivery jobs. -/
  log : StripeLog Unit := {}

namespace BoundedHistory

/-- The stripe of the delivery jobs. -/
def stripe (history : BoundedHistory α) : Stripe Unit := history.notifier.workers.stripe 0

/-- The values with which the consumer was called, in order. -/
def taken (history : BoundedHistory α) : List α :=
  history.delivered ++ history.notifier.delivering.toList

/-- How many delivery jobs have taken no value yet. -/
def untaken (history : BoundedHistory α) : Nat :=
  history.stripe.jobs.length +
    if history.notifier.delivering.isSome then 0 else history.stripe.runningJobs.length

/-- How many accepted values the consumer was not called with. -/
def backlog (history : BoundedHistory α) : Nat := history.accepted.length - history.taken.length

/-- The value that is accepted with a step. -/
def acceptedBy? (history : BoundedHistory α) : BoundedStep α → Option α
  | .push value => if history.notifier.closed then none else some value
  | _ => none

/-- A publisher is told with the step that its value was accepted and no other lost. -/
def grants (history : BoundedHistory α) : BoundedStep α → Bool
  | .push value => (history.notifier.push value).1
  | _ => false

/-- The value with which the consumer is done after a step. -/
def deliveredBy? (history : BoundedHistory α) : BoundedStep α → Option α
  | .finish _ => history.notifier.delivering
  | _ => none

/-- What happens at the stripe with a step. -/
def stripeStep? : BoundedStep α → Option (StripeStep Unit)
  | .submit thread => some (.enqueue thread ())
  | .drain step => some step
  | .finish _ => some (.finish 0)
  | .push _ | .take | .close => none

/-- The history after a step that leaves the notifier in some state. -/
def next (history : BoundedHistory α) (step : BoundedStep α) (notifier : BoundedNotifier α) :
    BoundedHistory α where
  notifier
  accepted := history.accepted ++ (history.acceptedBy? step).toList
  delivered := history.delivered ++ (history.deliveredBy? step).toList
  granted := history.granted + (history.grants step).toNat
  log :=
    match stripeStep? step with
    | none => history.log
    | some step => history.stripe.record history.log step

/-- What a step does. One that cannot happen does nothing. -/
def step (history : BoundedHistory α) (step : BoundedStep α) : BoundedHistory α :=
  match history.notifier.step step with
  | none => history
  | some notifier => history.next step notifier

/-- What some steps do, one after the other. -/
def run (history : BoundedHistory α) (steps : List (BoundedStep α)) : BoundedHistory α :=
  steps.foldl step history

/-- A notifier of some threads and some capacity that was not used yet. -/
def start (threads capacity : Nat) : BoundedHistory α where
  notifier := .ofThreads threads capacity

/-- A thread that waits for the consumer from outside, after the notifier was closed, is told that
it need not wait any longer. -/
def CloseReturns (history : BoundedHistory α) (thread : ThreadId) : Prop :=
  history.notifier.closed = true ∧ history.stripe.runningOn ≠ some thread ∧
    history.stripe.waitIdle? thread ≠ none

instance (history : BoundedHistory α) (thread : ThreadId) :
    Decidable (history.CloseReturns thread) :=
  inferInstanceAs (Decidable (_ ∧ _ ∧ _))

/-- Nobody who has a delivery job to submit or to run can go on. -/
def Rests (history : BoundedHistory α) : Prop :=
  ∀ step : BoundedStep α, step.isWork = true → history.notifier.step step = none

/-- How many steps of work are done when some steps are taken one after the other. -/
def worked (history : BoundedHistory α) : List (BoundedStep α) → Nat
  | [] => 0
  | step :: later =>
    (step.isWork && (history.notifier.step step).isSome).toNat + (history.step step).worked later

/-- Jobs and values balance, and the queue keeps the newest values. -/
structure Sound (history : BoundedHistory α) : Prop where
  /-- There is a stripe. -/
  hasStripe : 0 < history.notifier.workers.stripes.length
  /-- Its jobs run one after the other. -/
  serial : history.stripe.Serial history.log
  /-- The queue keeps the newest values. -/
  queue : history.notifier.queue.Keeps history.accepted history.taken
  /-- Each value that waits or is being delivered has a job, or one is about to be submitted. -/
  balanced : history.stripe.jobs.length + history.stripe.runningJobs.length +
      history.notifier.submitting =
    history.notifier.queue.values.length + history.notifier.delivering.toList.length
  /-- A value is delivered by a job that runs. -/
  runs : history.notifier.delivering.toList.length ≤ history.stripe.runningJobs.length
  /-- The publishers that were told so are as many as the values that wait or were taken. -/
  counted : history.taken.length + history.notifier.queue.values.length = history.granted
  /-- The notifier is closed only when no publisher is about to submit a job. -/
  closing : history.notifier.closed = true → history.notifier.submitting = 0

theorem Sound.start (threads capacity : Nat) :
    Sound (BoundedHistory.start threads capacity : BoundedHistory α) where
  hasStripe := Nat.zero_lt_one
  serial := .new
  queue := .new capacity
  balanced := rfl
  runs := Nat.le_refl 0
  counted := rfl
  closing := fun _ => rfl

/-! ## One step -/

/-- A value that takes the place of the oldest one is delivered by a job that is there already. -/
theorem Sound.replace {history : BoundedHistory α} (h : history.Sound) {value oldest : α}
    {rest : List α} (values : history.notifier.queue.values = oldest :: rest) :
    Sound { history with
      notifier := { history.notifier with
        queue := { history.notifier.queue with values := rest ++ [value] }
        spare := some oldest }
      accepted := history.accepted ++ [value] } := by
  have sameLength : (rest ++ [value]).length = history.notifier.queue.values.length := by
    rw [values, List.length_append, List.length_singleton, List.length_cons]
  have balanced := h.balanced
  have counted := h.counted
  rw [← sameLength] at balanced counted
  exact
    { hasStripe := h.hasStripe
      serial := h.serial
      queue := h.queue.push_of_oldest values value
      balanced := balanced
      runs := h.runs
      counted := counted
      closing := h.closing }

/-- A value that is put on the queue has a job that is about to be submitted. -/
theorem Sound.add {history : BoundedHistory α} (h : history.Sound)
    (isOpen : history.notifier.closed = false)
    (room : history.notifier.queue.values.length < history.notifier.queue.capacity) (value : α) :
    Sound { history with
      notifier := { history.notifier with
        queue := { history.notifier.queue with values := history.notifier.queue.values ++ [value] }
        submitting := history.notifier.submitting + 1 }
      accepted := history.accepted ++ [value]
      granted := history.granted + 1 } where
  hasStripe := h.hasStripe
  serial := h.serial
  queue := h.queue.push_of_room room value
  balanced := by
    have balanced := h.balanced
    show history.stripe.jobs.length + history.stripe.runningJobs.length +
      (history.notifier.submitting + 1) = (history.notifier.queue.values ++ [value]).length +
        history.notifier.delivering.toList.length
    rw [List.length_append, List.length_singleton]
    omega
  runs := h.runs
  counted := by
    have counted := h.counted
    show history.taken.length + (history.notifier.queue.values ++ [value]).length =
      history.granted + 1
    rw [List.length_append, List.length_singleton]
    omega
  closing := fun closed => absurd (isOpen.symm.trans closed) Bool.false_ne_true

/-- A job that is submitted is one fewer about to be. -/
theorem Sound.submit {history : BoundedHistory α} (h : history.Sound) {thread : ThreadId}
    {submitting : Nat} {workers : StripedPool Unit}
    (waits : history.notifier.submitting = submitting + 1)
    (stepped : history.notifier.workers.stepStripe? 0 (.enqueue thread ()) = some workers) :
    Sound { history with
      notifier := { history.notifier with submitting, workers }
      log := history.stripe.record history.log (.enqueue thread ()) } := by
  obtain ⟨taken, hasStripe⟩ := StripedPool.stepStripe?_zero h.hasStripe stepped
  have isNew : workers.stripe 0 = history.stripe.enqueue thread () := (Option.some.inj taken).symm
  have balanced := h.balanced
  exact
    { hasStripe := hasStripe
      serial := h.serial.step taken
      queue := h.queue
      balanced := by
        show (workers.stripe 0).jobs.length + (workers.stripe 0).runningJobs.length + submitting =
          history.notifier.queue.values.length + history.notifier.delivering.toList.length
        rw [isNew, h.serial.runningJobs_enqueue, Stripe.jobs_enqueue, List.length_append,
          List.length_singleton]
        omega
      runs := by
        show history.notifier.delivering.toList.length ≤ (workers.stripe 0).runningJobs.length
        rw [isNew, h.serial.runningJobs_enqueue]
        exact h.runs
      counted := h.counted
      closing := fun closed => by
        have nobody := h.closing closed
        omega }

/-- Those who see to the jobs neither add nor lose one. -/
theorem Sound.drain {history : BoundedHistory α} (h : history.Sound) {step : StripeStep Unit}
    {workers : StripedPool Unit} (noJob : Stripe.submittedBy? step = none)
    (goesOn : ∀ drainer, step ≠ .finish drainer)
    (stepped : history.notifier.workers.stepStripe? 0 step = some workers) :
    Sound { history with
      notifier := { history.notifier with workers }
      log := history.stripe.record history.log step } := by
  obtain ⟨taken, hasStripe⟩ := StripedPool.stepStripe?_zero h.hasStripe stepped
  -- While a job runs nobody else sees to the stripe, so none runs now.
  obtain ⟨noneRan, sameJobs⟩ :=
    (Stripe.move_of_step h.serial.drainers_le taken).length_jobs noJob goesOn
  have ran : history.stripe.runningJobs = [] := noneRan
  have balanced := h.balanced
  have runs := h.runs
  rw [ran, List.length_nil] at balanced runs
  exact
    { hasStripe := hasStripe
      serial := h.serial.step taken
      queue := h.queue
      balanced := by
        show (workers.stripe 0).jobs.length + (workers.stripe 0).runningJobs.length +
          history.notifier.submitting =
            history.notifier.queue.values.length + history.notifier.delivering.toList.length
        rw [sameJobs]
        exact balanced
      runs := Nat.le_trans runs (Nat.zero_le _)
      counted := h.counted
      closing := h.closing }

/-- A job that takes a value is one fewer without. -/
theorem Sound.take {history : BoundedHistory α} (h : history.Sound) {value : α} {rest : List α}
    (idle : history.notifier.delivering = none) (runs : history.stripe.runningJobs ≠ [])
    (values : history.notifier.queue.values = value :: rest) :
    Sound { history with
      notifier := { history.notifier with
        queue := { history.notifier.queue with values := rest }
        delivering := some value } } := by
  have queueKeeps := h.queue.pop values
  have balanced := h.balanced
  have counted := h.counted
  rw [taken, idle, Option.toList_none, List.append_nil] at queueKeeps counted
  rw [values, idle, List.length_cons] at balanced
  rw [values, List.length_cons] at counted
  exact
    { hasStripe := h.hasStripe
      serial := h.serial
      queue := queueKeeps
      balanced := balanced
      runs := List.length_pos_iff.mpr runs
      counted := by
        show (history.delivered ++ [value]).length + rest.length = history.granted
        rw [List.length_append, List.length_singleton]
        omega
      closing := h.closing }

/-- A job that is done with its value leaves all others without one as they were. -/
theorem Sound.finish {history : BoundedHistory α} (h : history.Sound) {value : α}
    {spare : Option α} {workers : StripedPool Unit}
    (delivering : history.notifier.delivering = some value)
    (stepped : history.notifier.workers.stepStripe? 0 (.finish 0) = some workers) :
    Sound { history with
      notifier := { history.notifier with delivering := none, spare, workers }
      delivered := history.delivered ++ [value]
      log := history.stripe.record history.log (.finish 0) } := by
  obtain ⟨taken, hasStripe⟩ := StripedPool.stepStripe?_zero h.hasStripe stepped
  obtain ⟨oneRan, noneRuns, sameJobs⟩ :=
    (Stripe.move_of_step h.serial.drainers_le taken).length_runningJobs_of_finish
  have ran : history.stripe.runningJobs.length = 1 := oneRan
  have jobs : (workers.stripe 0).jobs = history.stripe.jobs := sameJobs
  have balanced := h.balanced
  have counted := h.counted
  have queueKeeps := h.queue
  rw [ran, delivering, Option.toList_some, List.length_singleton] at balanced
  rw [BoundedHistory.taken, delivering, Option.toList_some] at queueKeeps counted
  exact
    { hasStripe := hasStripe
      serial := h.serial.step taken
      queue := by
        rw [BoundedHistory.taken, Option.toList_none, List.append_nil]
        exact queueKeeps
      balanced := by
        show (workers.stripe 0).jobs.length + (workers.stripe 0).runningJobs.length +
          history.notifier.submitting = history.notifier.queue.values.length + 0
        rw [noneRuns, jobs, List.length_nil]
        omega
      runs := Nat.zero_le _
      counted := by
        rw [BoundedHistory.taken, Option.toList_none, List.append_nil]
        exact counted
      closing := h.closing }

/-- No job comes to its end without a value: it would be one too many. -/
theorem Sound.not_miss {history : BoundedHistory α} (h : history.Sound)
    {workers : StripedPool Unit} (idle : history.notifier.delivering = none)
    (empty : history.notifier.queue.values = []) :
    history.notifier.workers.stepStripe? 0 (.finish 0) ≠ some workers := by
  intro stepped
  obtain ⟨taken, -⟩ := StripedPool.stepStripe?_zero h.hasStripe stepped
  obtain ⟨oneRan, -⟩ :=
    (Stripe.move_of_step h.serial.drainers_le taken).length_runningJobs_of_finish
  have ran : history.stripe.runningJobs.length = 1 := oneRan
  have balanced := h.balanced
  rw [ran, idle, empty, Option.toList_none, List.length_nil] at balanced
  omega

/-- Every step keeps jobs and values in balance. -/
theorem Sound.move {history : BoundedHistory α} (h : history.Sound) {step : BoundedStep α}
    {after : BoundedNotifier α} (move : BoundedMove history.notifier step after) :
    (history.next step after).Sound := by
  cases move with
  | refuse value closed =>
    simpa [next, acceptedBy?, deliveredBy?, grants, stripeStep?, closed,
      BoundedNotifier.push_of_closed closed] using h
  | replace value oldest rest isOpen values full =>
    simpa [next, acceptedBy?, deliveredBy?, grants, stripeStep?, isOpen,
      BoundedNotifier.push_of_oldest isOpen values full] using h.replace values
  | add value isOpen room =>
    simpa [next, acceptedBy?, deliveredBy?, grants, stripeStep?, isOpen,
      BoundedNotifier.push_of_room isOpen room] using h.add isOpen room value
  | submit thread submitting workers waits stepped =>
    simpa [next, acceptedBy?, deliveredBy?, grants, stripeStep?] using h.submit waits stepped
  | drain step workers noJob goesOn stepped =>
    simpa [next, acceptedBy?, deliveredBy?, grants, stripeStep?] using h.drain noJob goesOn stepped
  | take value rest idle runs values =>
    simpa [next, acceptedBy?, deliveredBy?, grants, stripeStep?] using h.take idle runs values
  | finish failed value workers delivering stepped =>
    simpa [next, acceptedBy?, deliveredBy?, grants, stripeStep?, delivering] using
      h.finish delivering stepped
  | miss failed workers idle empty stepped => exact absurd stepped (h.not_miss idle empty)
  | close nobody =>
    have closed : Sound { history with notifier := { history.notifier with closed := true } } :=
      { h with closing := fun _ => nobody }
    simpa [next, acceptedBy?, deliveredBy?, grants, stripeStep?] using closed

theorem Sound.step {history : BoundedHistory α} (h : history.Sound) (step : BoundedStep α) :
    (history.step step).Sound := by
  unfold BoundedHistory.step
  split
  · exact h
  · rename_i after happens
    exact h.move (BoundedNotifier.move_of_step h.queue.room happens)

theorem Sound.run {history : BoundedHistory α} (h : history.Sound) (steps : List (BoundedStep α)) :
    (history.run steps).Sound := by
  induction steps generalizing history with
  | nil => exact h
  | cons step later ih => exact ih (h.step step)

/-! ## What follows for users -/

/-- There are as many jobs without a value, submitted or about to be, as there are values that
wait. -/
theorem Sound.untaken_add_submitting {history : BoundedHistory α} (h : history.Sound) :
    history.untaken + history.notifier.submitting = history.notifier.queue.values.length := by
  have balanced := h.balanced
  have runs := h.runs
  have one : history.stripe.runningJobs.length ≤ 1 := h.serial.length_runningJobs_le
  rw [untaken]
  cases delivering : history.notifier.delivering with
  | none =>
    rw [delivering, Option.toList_none, List.length_nil] at balanced
    rw [Option.isSome_none, if_neg Bool.false_ne_true]
    omega
  | some value =>
    rw [delivering, Option.toList_some, List.length_singleton] at balanced runs
    rw [Option.isSome_some, if_pos rfl]
    omega

/-- A job that has taken no value finds one. -/
theorem Sound.exists_value {history : BoundedHistory α} (h : history.Sound)
    (runs : history.stripe.runningJobs ≠ []) (idle : history.notifier.delivering = none) :
    history.notifier.queue.values ≠ [] := by
  intro empty
  have balanced := h.balanced
  rw [idle, empty, Option.toList_none, List.length_nil] at balanced
  have ran := List.length_pos_iff.mpr runs
  omega

/-- No step changes how many values may wait. -/
theorem Sound.capacity_step {history : BoundedHistory α} (h : history.Sound)
    (step : BoundedStep α) :
    (history.step step).notifier.queue.capacity = history.notifier.queue.capacity := by
  unfold BoundedHistory.step
  split
  · rfl
  · rename_i after happens
    show after.queue.capacity = _
    cases BoundedNotifier.move_of_step h.queue.room happens <;> rfl

theorem Sound.capacity_run {history : BoundedHistory α} (h : history.Sound)
    (steps : List (BoundedStep α)) :
    (history.run steps).notifier.queue.capacity = history.notifier.queue.capacity := by
  induction steps generalizing history with
  | nil => rfl
  | cons step later ih => exact (ih (h.step step)).trans (h.capacity_step step)

/-- A closed notifier stays closed, accepts nothing, and loses nothing that was delivered. -/
theorem Sound.step_of_closed {history : BoundedHistory α} (h : history.Sound)
    (closed : history.notifier.closed = true) (step : BoundedStep α) :
    (history.step step).notifier.closed = true ∧
      (history.step step).accepted = history.accepted ∧
      (history.step step).granted = history.granted ∧
      history.delivered <+: (history.step step).delivered := by
  unfold BoundedHistory.step
  split
  · exact ⟨closed, rfl, rfl, List.prefix_refl _⟩
  · rename_i after happens
    refine ⟨?_, ?_, ?_, List.prefix_append _ _⟩
    · show after.closed = true
      cases BoundedNotifier.move_of_step h.queue.room happens with
      | close => rfl
      | refuse | replace | add | submit | drain | take | finish | miss => exact closed
    · show history.accepted ++ (history.acceptedBy? step).toList = history.accepted
      cases step with
      | push value =>
        rw [acceptedBy?, if_pos closed]
        exact List.append_nil _
      | submit | drain | take | finish | close => exact List.append_nil _
    · show history.granted + (history.grants step).toNat = history.granted
      cases step with
      | push value => rw [grants, BoundedNotifier.push_of_closed closed]; rfl
      | submit | drain | take | finish | close => rfl

theorem Sound.run_of_closed {history : BoundedHistory α} (h : history.Sound)
    (closed : history.notifier.closed = true) (steps : List (BoundedStep α)) :
    (history.run steps).accepted = history.accepted ∧
      (history.run steps).granted = history.granted ∧
      history.delivered <+: (history.run steps).delivered := by
  induction steps generalizing history with
  | nil => exact ⟨rfl, rfl, List.prefix_refl _⟩
  | cons step later ih =>
    obtain ⟨stays, accepted, granted, delivered⟩ := h.step_of_closed closed step
    obtain ⟨acceptedLater, grantedLater, deliveredLater⟩ := ih (h.step step) stays
    exact ⟨acceptedLater.trans accepted, grantedLater.trans granted,
      delivered.trans deliveredLater⟩

/-- Once no job is left and none is about to be submitted, nothing waits, the last value that was
accepted has been delivered, and the consumer was called as often as a publisher was told that no
value was lost. -/
theorem Sound.settled {history : BoundedHistory α} (h : history.Sound)
    (idle : history.stripe.outstanding = 0) (nobody : history.notifier.submitting = 0) :
    history.notifier.queue.values = [] ∧ history.taken = history.delivered ∧
      history.delivered.getLast? = history.accepted.getLast? ∧
      history.delivered.length = history.granted := by
  obtain ⟨noJobs, noneRuns, -⟩ := h.serial.ended_eq_submitted idle
  have runs := h.runs
  have balanced := h.balanced
  rw [noneRuns, List.length_nil] at runs
  rw [noJobs, noneRuns, nobody, List.length_nil] at balanced
  have empty : history.notifier.queue.values = [] := List.length_eq_zero_iff.mp (by omega)
  have nothing : history.notifier.delivering.toList = [] := List.length_eq_zero_iff.mp (by omega)
  have taken : history.taken = history.delivered := by
    rw [BoundedHistory.taken, nothing, List.append_nil]
  have last := h.queue.last
  have counted := h.counted
  rw [taken, empty, List.append_nil] at last
  rw [taken, empty, List.length_nil, Nat.add_zero] at counted
  exact ⟨empty, taken, last, counted⟩

/-- Once a close has returned, all is settled, and nothing more is accepted or delivered. -/
theorem Sound.closeReturns {history : BoundedHistory α} (h : history.Sound) {thread : ThreadId}
    (returns : history.CloseReturns thread) :
    history.notifier.queue.values = [] ∧ history.taken = history.delivered ∧
      history.delivered.getLast? = history.accepted.getLast? ∧
      history.delivered.length = history.granted ∧
      ∀ later, (history.run later).accepted = history.accepted ∧
        (history.run later).delivered = history.delivered := by
  obtain ⟨closed, outside, told⟩ := returns
  have idle : history.stripe.outstanding = 0 := Stripe.outstanding_of_waitIdle? outside told
  obtain ⟨empty, taken, last, counted⟩ := h.settled idle (h.closing closed)
  refine ⟨empty, taken, last, counted, fun later => ?_⟩
  obtain ⟨accepted, granted, delivered⟩ := h.run_of_closed closed later
  refine ⟨accepted, (delivered.eq_of_length_le ?_).symm⟩
  -- There are no more deliveries than publishers that were told so, and those are no more than
  -- before.
  have countedLater := (h.run later).counted
  rw [granted, BoundedHistory.taken, List.length_append] at countedLater
  omega

/-- While no more values wait than the queue can hold, none is lost. -/
theorem Sound.granted_step {history : BoundedHistory α} (h : history.Sound)
    (all : history.granted = history.accepted.length) (step : BoundedStep α)
    (bound : (history.step step).backlog ≤ history.notifier.queue.capacity) :
    (history.step step).granted = (history.step step).accepted.length := by
  unfold BoundedHistory.step at bound ⊢
  split
  · exact all
  · rename_i after happens
    rw [happens] at bound
    dsimp only at bound
    show history.granted + (history.grants step).toNat =
      (history.accepted ++ (history.acceptedBy? step).toList).length
    cases BoundedNotifier.move_of_step h.queue.room happens with
    | refuse value closed =>
      rw [grants, acceptedBy?, BoundedNotifier.push_of_closed closed, if_pos closed]
      simpa using all
    | replace value oldest rest isOpen values full =>
      -- The value that is lost would have been one too many.
      have counted := h.counted
      have backlogAfter : history.accepted.length + 1 - history.taken.length ≤
          history.notifier.queue.capacity := by
        simpa [backlog, taken, next, acceptedBy?, deliveredBy?, isOpen] using bound
      omega
    | add value isOpen room =>
      rw [grants, acceptedBy?, BoundedNotifier.push_of_room isOpen room]
      simpa [isOpen] using all
    | submit | drain | take | finish | miss | close => simpa [grants, acceptedBy?] using all

theorem Sound.granted_run {history : BoundedHistory α} (h : history.Sound)
    (all : history.granted = history.accepted.length) (steps : List (BoundedStep α))
    (bound : ∀ earlier, earlier <+: steps →
      (history.run earlier).backlog ≤ history.notifier.queue.capacity) :
    (history.run steps).granted = (history.run steps).accepted.length := by
  induction steps generalizing history with
  | nil => exact all
  | cons step later ih =>
    have now := bound [step] (List.prefix_append [step] later)
    refine ih (h.step step) (h.granted_step all step now) fun earlier isEarlier => ?_
    rw [h.capacity_step]
    exact bound (step :: earlier) (List.cons_prefix_cons.mpr ⟨rfl, isEarlier⟩)

/-! ## Every step of work brings the end nearer -/

/-- How many steps of work are left at most until every value is delivered. A job that is submitted
may be the first of its stripe, whose drain is then to be handed over. -/
def workLeft (history : BoundedHistory α) : Nat :=
  14 * history.notifier.submitting + history.notifier.queue.values.length +
    StripedPool.stripeWeight history.stripe

/-- A step at the stripe that submits no job leaves less to be done there. -/
theorem Sound.stripeWeight_lt {history : BoundedHistory α} (h : history.Sound)
    {step : StripeStep Unit} {workers : StripedPool Unit}
    (noJob : Stripe.submittedBy? step = none)
    (stepped : history.notifier.workers.stepStripe? 0 step = some workers) :
    StripedPool.stripeWeight (workers.stripe 0) < StripedPool.stripeWeight history.stripe := by
  obtain ⟨taken, -⟩ := StripedPool.stepStripe?_zero h.hasStripe stepped
  have nearer : _ ≤ StripedPool.stripeWeight history.stripe :=
    StripedPool.stripeWeight_lt (Stripe.move_of_step h.serial.drainers_le taken) noJob
  omega

/-- A step of work brings the end nearer. Only a value that is accepted with no other lost makes it
more distant, and by no more than its delivery takes. -/
theorem Sound.workLeft_move {history : BoundedHistory α} (h : history.Sound)
    {step : BoundedStep α} {after : BoundedNotifier α}
    (move : BoundedMove history.notifier step after) :
    (history.next step after).workLeft + step.isWork.toNat ≤
      history.workLeft + 15 * (history.grants step).toNat := by
  cases move with
  | refuse => exact Nat.le_add_right _ _
  | replace value oldest rest isOpen values full =>
    simp [workLeft, next, stripe, values, BoundedStep.isWork]
  | add value isOpen room =>
    rw [grants, BoundedNotifier.push_of_room isOpen room]
    show 14 * (history.notifier.submitting + 1) +
      (history.notifier.queue.values ++ [value]).length +
        StripedPool.stripeWeight history.stripe + 0 ≤ history.workLeft + 15
    rw [List.length_append, List.length_singleton, workLeft]
    omega
  | submit thread submitting workers waits stepped =>
    obtain ⟨taken, -⟩ := StripedPool.stepStripe?_zero h.hasStripe stepped
    have heavier := StripedPool.stripeWeight_enqueue_le h.serial thread ()
    have isNew : history.stripe.enqueue thread () = workers.stripe 0 := Option.some.inj taken
    rw [isNew] at heavier
    show 14 * submitting + history.notifier.queue.values.length +
      StripedPool.stripeWeight (workers.stripe 0) + 1 ≤ history.workLeft + 0
    rw [workLeft]
    omega
  | drain step workers noJob goesOn stepped =>
    have nearer := h.stripeWeight_lt noJob stepped
    show 14 * history.notifier.submitting + history.notifier.queue.values.length +
      StripedPool.stripeWeight (workers.stripe 0) + 1 ≤ history.workLeft + 0
    rw [workLeft]
    omega
  | take value rest idle runs values =>
    show 14 * history.notifier.submitting + rest.length + StripedPool.stripeWeight history.stripe +
      1 ≤ history.workLeft + 0
    rw [workLeft, values, List.length_cons]
    omega
  | finish failed value workers delivering stepped =>
    have nearer := h.stripeWeight_lt rfl stepped
    show 14 * history.notifier.submitting + history.notifier.queue.values.length +
      StripedPool.stripeWeight (workers.stripe 0) + 1 ≤ history.workLeft + 0
    rw [workLeft]
    omega
  | miss failed workers idle empty stepped => exact absurd stepped (h.not_miss idle empty)
  | close => exact Nat.le_refl _

theorem Sound.workLeft_step {history : BoundedHistory α} (h : history.Sound)
    (step : BoundedStep α) :
    (history.step step).workLeft + 15 * history.granted +
        (step.isWork && (history.notifier.step step).isSome).toNat ≤
      history.workLeft + 15 * (history.step step).granted := by
  unfold BoundedHistory.step
  cases happens : history.notifier.step step with
  | none =>
    rw [Option.isSome_none, Bool.and_false]
    exact Nat.le_refl _
  | some after =>
    have nearer := h.workLeft_move (BoundedNotifier.move_of_step h.queue.room happens)
    rw [Option.isSome_some, Bool.and_true]
    show (history.next step after).workLeft + _ + _ ≤
      history.workLeft + 15 * (history.granted + (history.grants step).toNat)
    omega

/-- There is only so much work for the values that were accepted with no other lost. -/
theorem Sound.workLeft_run {history : BoundedHistory α} (h : history.Sound)
    (steps : List (BoundedStep α)) :
    (history.run steps).workLeft + 15 * history.granted + history.worked steps ≤
      history.workLeft + 15 * (history.run steps).granted := by
  induction steps generalizing history with
  | nil => exact Nat.le_refl _
  | cons step later ih =>
    have now := h.workLeft_step step
    have rest := ih (h.step step)
    show ((history.step step).run later).workLeft + _ + (_ + _) ≤
      _ + 15 * ((history.step step).run later).granted
    omega

/-- While somebody sees to the stripe, that thread can go on. -/
theorem Sound.exists_work {history : BoundedHistory α} (h : history.Sound) {drainer : Drainer Unit}
    (here : (history.notifier.workers.stripe 0).drainers = [drainer]) :
    ∃ step : BoundedStep α, step.isWork = true ∧ history.notifier.step step ≠ none := by
  cases drainer with
  | handingOver thread =>
    refine ⟨.drain (.handOver 0 true), rfl, BoundedNotifier.step_drain_ne_none rfl (by simp) ?_⟩
    rw [Stripe.step, here]
    exact Option.some_ne_none _
  | queued =>
    refine ⟨.drain (.start 0 0), rfl, BoundedNotifier.step_drain_ne_none rfl (by simp) ?_⟩
    rw [Stripe.step, here]
    exact Option.some_ne_none _
  | draining thread left =>
    refine ⟨.drain (.proceed 0), rfl, BoundedNotifier.step_drain_ne_none rfl (by simp) ?_⟩
    rw [Stripe.step, here]
    exact Option.some_ne_none _
  | running thread left job =>
    have running : (history.notifier.workers.stripe 0).runningJobs = [job] := by
      rw [Stripe.runningJobs_eq, here]
      rfl
    cases delivering : history.notifier.delivering with
    | some value =>
      refine ⟨.finish false, rfl, ?_⟩
      simp [BoundedNotifier.step, delivering, StripedPool.stepStripe?, Stripe.step, here]
    | none =>
      -- The job has taken no value yet, and there is one for it.
      have runs : history.stripe.runningJobs ≠ [] := by
        rw [stripe, running]
        exact List.cons_ne_nil job []
      obtain ⟨value, rest, values⟩ :=
        List.exists_cons_of_ne_nil (h.exists_value runs delivering)
      refine ⟨.take, rfl, ?_⟩
      simp [BoundedNotifier.step, delivering, StripedPool.runningJob?, running,
        BoundedQueue.pop?, values]
  | ended thread left =>
    refine ⟨.drain (.uncount 0), rfl, BoundedNotifier.step_drain_ne_none rfl (by simp) ?_⟩
    rw [Stripe.step, here]
    exact Option.some_ne_none _

/-- When nobody can go on, no job is left and none is about to be submitted. -/
theorem Sound.idle_of_rests {history : BoundedHistory α} (h : history.Sound)
    (rests : history.Rests) :
    history.stripe.outstanding = 0 ∧ history.notifier.submitting = 0 := by
  constructor
  · refine h.serial.outstanding_eq_zero (Classical.byContradiction fun some => ?_)
    obtain ⟨drainer, others, drainers⟩ := List.exists_cons_of_ne_nil some
    have here := Stripe.drainers_eq_of_mem h.serial.drainers_le (drainers ▸ List.mem_cons_self)
    obtain ⟨step, work, happens⟩ := h.exists_work here
    exact happens (rests step work)
  · cases waits : history.notifier.submitting with
    | zero => rfl
    | succ submitting =>
      have stuck := rests (.submit 0) rfl
      simp [BoundedNotifier.step, waits, StripedPool.stepStripe?, Stripe.step] at stuck

/-- When nobody can go on, all is settled, and one who closes the notifier from outside need not
wait. -/
theorem Sound.of_rests {history : BoundedHistory α} (h : history.Sound) (rests : history.Rests) :
    history.notifier.queue.values = [] ∧ history.delivered.getLast? = history.accepted.getLast? ∧
      history.delivered.length = history.granted ∧
      ∀ thread, history.stripe.runningOn ≠ some thread →
        (history.step .close).CloseReturns thread := by
  obtain ⟨idle, nobody⟩ := h.idle_of_rests rests
  obtain ⟨empty, -, last, counted⟩ := h.settled idle nobody
  refine ⟨empty, last, counted, fun thread outside => ?_⟩
  have closed : history.step .close =
      history.next .close { history.notifier with closed := true } := by
    rw [BoundedHistory.step, BoundedNotifier.step, if_pos nobody]
  rw [closed]
  refine ⟨rfl, outside, ?_⟩
  show history.stripe.waitIdle? thread ≠ none
  rw [Stripe.waitIdle?, if_neg outside, if_pos idle]
  exact Option.some_ne_none true

end BoundedHistory

/-- Whatever publishers, delivery jobs and one who closes the notifier do, in any order: the queue
has the newest of the accepted values and no more than may wait; values are delivered in the order
in which they were accepted; and the delivery jobs that have taken no value yet, with those about to
be submitted, are as many as the values that wait, so that no job finds none. A close from outside
the consumer returns when nothing waits, the last value accepted was delivered, and the consumer was
called as often as a publisher was told that no value was lost; nothing happens afterwards. While no
more values wait than the queue can hold, none is lost.

A value that is accepted with no other lost makes for fifteen steps of work at most, and when nobody
who has a job to submit or to run can go on, nothing waits and a close from outside returns. -/
theorem newest_values_delivered (threads capacity : Nat) (steps : List (BoundedStep α)) :
    let start : BoundedHistory α := .start threads capacity
    let history := start.run steps
    let queue := history.notifier.queue
    queue.capacity = max 1 capacity ∧ queue.values.length ≤ queue.capacity ∧
      queue.values <:+ history.accepted ∧
      (history.taken ++ queue.values).Sublist history.accepted ∧
      history.untaken + history.notifier.submitting = queue.values.length ∧
      (history.stripe.runningJobs ≠ [] → history.notifier.delivering = none →
        queue.values ≠ []) ∧
      (∀ thread, history.CloseReturns thread →
        queue.values = [] ∧ history.taken = history.delivered ∧
          history.delivered.getLast? = history.accepted.getLast? ∧
          history.delivered.length = history.granted ∧
          ∀ later, (history.run later).accepted = history.accepted ∧
            (history.run later).delivered = history.delivered) ∧
      ((∀ earlier, earlier <+: steps → (start.run earlier).backlog ≤ max 1 capacity) →
        history.taken ++ queue.values = history.accepted) ∧
      start.worked steps ≤ 15 * history.granted ∧
      (history.Rests →
        queue.values = [] ∧ history.delivered.getLast? = history.accepted.getLast? ∧
          history.delivered.length = history.granted ∧
          ∀ thread, history.stripe.runningOn ≠ some thread →
            (history.step .close).CloseReturns thread) := by
  intro start history queue
  have fresh : start.Sound := .start threads capacity
  have sound : history.Sound := fresh.run steps
  refine ⟨fresh.capacity_run steps, sound.queue.fits, sound.queue.newest, sound.queue.inOrder,
    sound.untaken_add_submitting, sound.exists_value, fun thread => sound.closeReturns,
    fun bound => ?_, ?_, sound.of_rests⟩
  · have all := fresh.granted_run rfl steps bound
    refine sound.queue.inOrder.eq_of_length ?_
    rw [List.length_append, ← all]
    exact sound.counted
  · -- A notifier that was not used yet has nothing to do.
    have bound : history.workLeft + 0 + start.worked steps ≤ 0 + 15 * history.granted :=
      fresh.workLeft_run steps
    omega

/-- A value may be lost before its job was submitted, which then delivers the value that took its
place. -/
example :
    let history := (BoundedHistory.start 1 1).run
      [.push 'a', .push 'b', .submit 0, .drain (.handOver 0 true), .close, .drain (.start 0 1),
        .drain (.proceed 0), .take, .finish false, .drain (.uncount 0)]
    history.accepted = ['a', 'b'] ∧ history.delivered = ['b'] ∧ history.granted = 1 ∧
      history.CloseReturns 0 := by
  decide

end ChannelAccess
