import ChannelAccess.Proofs.Timer.Refinement

/-!
# The timer among its users

A timer among its users (`TimerSystem`) goes through any sequence of calls, in which a task is taken
off the heap and put back in two steps with anything in between. Beside it an ideal timer goes
through the same calls (`IdealSystem`). `TimerSystem.Refines.run` says that nobody can tell the two
apart: the same tasks are run in the same order, every question is answered in the same way, and the
same calls fail.
-/

namespace ChannelAccess

/-- What can happen to a timer. -/
inductive TimerEvent (τ : Type) where
  /-- A task is added. -/
  | schedule (delay : Duration) (task : τ)
  /-- A task is cancelled. -/
  | cancel (handle : Nat)
  /-- All tasks are made due after a delay. -/
  | rescheduleAll (delay : Duration)
  /-- Somebody asks whether a task is due within some time. -/
  | hasNext (within : Duration)
  /-- The timer is shut down. -/
  | shutdown
  /-- Time passes. -/
  | wait (time : Duration)
  /-- The timer's thread looks for a task to run. -/
  | takeDue
  /-- The task returns, with a delay after which it is to run again, or fails. -/
  | putBack (again : Option Duration)
  deriving DecidableEq, Repr

/-- How long an event takes. -/
def TimerEvent.elapsed {τ : Type} : TimerEvent τ → Duration
  | wait time => time
  | _ => .zero

/-- What is seen of a timer. -/
inductive TimerAnswer (τ : Type) where
  /-- A task was added under a handle. -/
  | added (handle : Nat)
  /-- Whether a task is due within the time asked for. -/
  | isDue (answer : Bool)
  /-- A task starts to run. -/
  | started (entry : TimerEntry τ)
  /-- The call fails, because the clock cannot show a moment that it asks for. -/
  | failed
  deriving DecidableEq, Repr

namespace Timer

variable {τ : Type}

/-- What an event does to the timer, and what is seen of it. Only handles that were given out can be
cancelled. -/
def perform (timer : Timer τ) (now : Moment) :
    TimerEvent τ → Option (TimerAnswer τ) × Timer τ
  | .schedule delay task =>
    match timer.scheduleAfter? now delay task with
    | some after => (some (.added timer.handles), after)
    | none => (some .failed, timer)
  | .cancel handle => (none, if handle < timer.handles then timer.cancel handle else timer)
  | .rescheduleAll delay =>
    match timer.rescheduleAllAfter? now delay with
    | some after => (none, after)
    | none => (some .failed, timer)
  | .hasNext within =>
    let (answer, timer) := timer.hasNext now within
    (some (answer.elim .failed .isDue), timer)
  | .shutdown => (none, timer.shutdown)
  | .wait _ => (none, timer)
  | .takeDue =>
    let after := timer.takeDue now
    -- A task that was being run before does not start now.
    (if timer.running.isSome then none else after.running.map .started, after)
  | .putBack again => (none, timer.putBack now again)

end Timer

/-- What an event does to an ideal timer, and what is seen of it. Rescheduled tasks follow each
other in the order given. -/
def IdealTimer.perform {τ : Type} (ideal : IdealTimer τ) (now : Moment) (order : List Nat) :
    TimerEvent τ → Option (TimerAnswer τ) × IdealTimer τ
  | .schedule delay task =>
    match ideal.after? now delay with
    | some due => (some (.added ideal.handles), ideal.schedule due task)
    | none => (some .failed, ideal)
  | .cancel handle => (none, ideal.cancel handle)
  | .rescheduleAll delay =>
    match ideal.after? now delay with
    | some due => (none, ideal.rescheduleAll due order)
    | none => (some .failed, ideal)
  | .hasNext within => (some ((ideal.hasNext now within).elim .failed .isDue), ideal)
  | .shutdown => (none, ideal.shutdown)
  | .wait _ => (none, ideal)
  | .takeDue =>
    let after := ideal.takeDue now
    (match ideal.run with
      | .idle => after.run.task?.map .started
      | _ => none, after)
  | .putBack again => (none, ideal.putBack now again)

variable {τ : Type}

/-- A timer, the time, and what was seen so far. -/
structure TimerSystem (τ : Type) where
  /-- The timer. -/
  timer : Timer τ := {}
  /-- What time it is. -/
  clock : Moment := .zero
  /-- What was seen, in order. -/
  answers : List (TimerAnswer τ) := []

/-- An ideal timer, the time, and what was seen so far. -/
structure IdealSystem (τ : Type) where
  /-- The timer. -/
  timer : IdealTimer τ := {}
  /-- What time it is. -/
  clock : Moment := .zero
  /-- What was seen, in order. -/
  answers : List (TimerAnswer τ) := []

namespace TimerSystem

/-- What an event does. -/
def step (system : TimerSystem τ) (event : TimerEvent τ) : TimerSystem τ :=
  let (answer, timer) := system.timer.perform system.clock event
  { timer, clock := system.clock + event.elapsed, answers := system.answers ++ answer.toList }

/-- What some events do, one after the other. -/
def run (system : TimerSystem τ) (events : List (TimerEvent τ)) : TimerSystem τ :=
  events.foldl step system

/-- The events of a run, each with the order in which the heap holds its entries then. -/
def withOrders (system : TimerSystem τ) :
    List (TimerEvent τ) → List (TimerEvent τ × List Nat)
  | [] => []
  | event :: later => (event, system.timer.drainOrder) :: (system.step event).withOrders later

end TimerSystem

namespace IdealSystem

/-- What an event does. Rescheduled tasks follow each other in the order given. -/
def step (system : IdealSystem τ) (event : TimerEvent τ × List Nat) : IdealSystem τ :=
  let (answer, timer) := system.timer.perform system.clock event.2 event.1
  { timer, clock := system.clock + event.1.elapsed, answers := system.answers ++ answer.toList }

/-- What some events do, one after the other. -/
def run (system : IdealSystem τ) (events : List (TimerEvent τ × List Nat)) : IdealSystem τ :=
  events.foldl step system

end IdealSystem

/-! ## One event -/

theorem IdealTimer.Sound.perform {ideal : IdealTimer τ} (h : ideal.Sound) (now : Moment)
    (order : List Nat) (event : TimerEvent τ) : (ideal.perform now order event).2.Sound := by
  cases event with
  | schedule delay task =>
    dsimp only [IdealTimer.perform]
    split
    · exact h.schedule _ task
    · exact h
  | cancel handle => exact h.cancel handle
  | rescheduleAll delay =>
    dsimp only [IdealTimer.perform]
    split
    · exact h.rescheduleAll _ order
    · exact h
  | hasNext within => exact h
  | shutdown => exact h.shutdown
  | wait time => exact h
  | takeDue => exact h.takeDue now
  | putBack again => exact h.putBack now again

namespace Timer

/-- A timer that runs no task takes a live one if it takes any. -/
theorem task?_takeDue {timer : Timer τ} (now : Moment) (idle : timer.running = none) :
    (timer.takeDue now).run.task? = (timer.takeDue now).running := by
  cases goesOn : timer.stopped with
  | true =>
    rw [takeDue_of_busy now (.inl goesOn), run, idle]
    rfl
  | false =>
    obtain ⟨marks, taken⟩ := takeDue_spec timer now idle goesOn
    rcases taken with ⟨stays, -⟩ | ⟨entry, running, alive, -, -⟩
    · rw [run, stays]
      rfl
    · rw [run, running]
      dsimp only
      rw [marks.isLive_eq, if_pos alive]
      rfl

/-- An event keeps the relation and is seen in the same way of both timers. -/
theorem Refines.perform {timer : Timer τ} {ideal : IdealTimer τ} (h : Refines timer ideal)
    (sound : ideal.Sound) (now : Moment) (event : TimerEvent τ) :
    (timer.perform now event).1 = (ideal.perform now timer.drainOrder event).1 ∧
      Refines (timer.perform now event).2 (ideal.perform now timer.drainOrder event).2 := by
  cases event with
  | schedule delay task =>
    dsimp only [Timer.perform, IdealTimer.perform, scheduleAfter?]
    rw [h.after?_eq]
    cases timer.after? now delay with
    | none => exact ⟨rfl, h⟩
    | some due =>
      exact ⟨congrArg (fun handle => some (TimerAnswer.added handle)) h.handles.symm,
        h.schedule due task⟩
  | cancel handle =>
    refine ⟨rfl, ?_⟩
    show Refines (if handle < timer.handles then timer.cancel handle else timer)
      (ideal.cancel handle)
    by_cases given : handle < timer.handles
    · rw [if_pos given]
      exact h.cancel given
    · rw [if_neg given, sound.cancel_of_le (by rw [h.handles]; omega)]
      exact h
  | rescheduleAll delay =>
    dsimp only [Timer.perform, IdealTimer.perform, rescheduleAllAfter?]
    rw [h.after?_eq]
    cases timer.after? now delay with
    | none => exact ⟨rfl, h⟩
    | some due => exact ⟨rfl, h.rescheduleAll sound due⟩
  | hasNext within =>
    constructor
    · show some ((timer.hasNext now within).1.elim TimerAnswer.failed TimerAnswer.isDue) = _
      rw [h.hasNext]
      rfl
    · show Refines (timer.hasNext now within).2 ideal
      rw [hasNext_snd]
      exact h.discardCancelled
  | shutdown => exact ⟨rfl, h.shutdown⟩
  | wait time => exact ⟨rfl, h⟩
  | takeDue =>
    have after := h.takeDue sound now
    refine ⟨?_, after⟩
    show (if timer.running.isSome then none
      else (timer.takeDue now).running.map TimerAnswer.started) =
      match ideal.run with
      | .idle => (ideal.takeDue now).run.task?.map TimerAnswer.started
      | _ => none
    rw [after.run, h.run, Timer.run]
    cases running : timer.running with
    | none =>
      dsimp only
      rw [task?_takeDue now running]
      rfl
    | some entry =>
      dsimp only
      cases timer.isLive entry with
      | true => rfl
      | false => rfl
  | putBack again => exact ⟨rfl, h.putBack now again⟩

end Timer

/-! ## A run -/

/-- The two systems are told apart by nothing that was seen, and their timers are related. -/
structure TimerSystem.Refines (system : TimerSystem τ) (ideal : IdealSystem τ) : Prop where
  /-- The same was seen. -/
  answers : system.answers = ideal.answers
  /-- It is the same time. -/
  clock : system.clock = ideal.clock
  /-- The timers are related. -/
  timer : system.timer.Refines ideal.timer
  /-- The tasks of the ideal timer are told apart. -/
  sound : ideal.timer.Sound

namespace TimerSystem

theorem Refines.new (lastMoment? : Option Moment) (clock : Moment) :
    Refines ({ timer := { lastMoment? }, clock } : TimerSystem τ)
      { timer := { lastMoment? }, clock } where
  answers := rfl
  clock := rfl
  timer := .empty lastMoment?
  sound := .empty lastMoment?

theorem Refines.step {system : TimerSystem τ} {ideal : IdealSystem τ} (h : Refines system ideal)
    (event : TimerEvent τ) :
    Refines (system.step event) (ideal.step (event, system.timer.drainOrder)) := by
  obtain ⟨sameAnswer, related⟩ := h.timer.perform h.sound ideal.clock event
  have sound := h.sound.perform ideal.clock system.timer.drainOrder event
  constructor
  · show system.answers ++ (system.timer.perform system.clock event).1.toList =
      ideal.answers ++ (ideal.timer.perform ideal.clock system.timer.drainOrder event).1.toList
    rw [h.answers, h.clock, sameAnswer]
  · exact congrArg (· + event.elapsed) h.clock
  · show (system.timer.perform system.clock event).2.Refines _
    rw [h.clock]
    exact related
  · exact sound

theorem Refines.run {system : TimerSystem τ} {ideal : IdealSystem τ} (h : Refines system ideal)
    (events : List (TimerEvent τ)) :
    Refines (system.run events) (ideal.run (system.withOrders events)) := by
  induction events generalizing system ideal with
  | nil => exact h
  | cons event later ih => exact ih (h.step event)

end TimerSystem

end ChannelAccess
