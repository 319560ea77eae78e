import ChannelAccess.Duration
import ChannelAccess.Heap

/-!
# Timers

A timer keeps tasks in a binary heap, ordered by the moment they are due and then by when they were
put there. Cancelling a task only marks it; its entry is thrown away when it comes to the top. A
task that has run says after what delay it is to run again, if at all.

One thread runs the tasks: `takeDue` takes a task off the heap, and `putBack` ends its run. Whatever
happens in between sees a heap without that task.

The clock of a timer may have a last moment. A moment after that is not to be had (`Timer.after?`),
and what needs one fails: a task is not added or moved, the question for the next task is not
answered, and the thread ends when it cannot put a task back.
-/

namespace ChannelAccess

/-- A task in a timer. -/
structure TimerEntry (τ : Type) where
  /-- When the task is due. -/
  due : Moment
  /-- Which entry of the timer this is, in the order in which they were made. -/
  sequence : Nat
  /-- The handle of the task, which it keeps from run to run. -/
  handle : Nat
  /-- What is to be run. -/
  task : τ
  deriving DecidableEq, Repr

/-- An entry is to be run before another: it is due earlier, or at the same time and was made
earlier. -/
def TimerEntry.before {τ : Type} (a b : TimerEntry τ) : Bool :=
  a.due < b.due || (a.due == b.due && a.sequence < b.sequence)

/-- Tasks that wait for their time. -/
structure Timer (τ : Type) where
  /-- The entries, as a binary heap. -/
  heap : Array (TimerEntry τ) := #[]
  /-- Entries made so far. -/
  sequence : Nat := 0
  /-- Handles given out so far. -/
  handles : Nat := 0
  /-- Handles of tasks that were cancelled. -/
  cancelled : List Nat := []
  /-- The task that is being run. -/
  running : Option (TimerEntry τ) := none
  /-- The timer runs no more tasks. -/
  stopped : Bool := false
  /-- The last moment that the clock can show, if there is one. -/
  lastMoment? : Option Moment := none
  deriving Repr

namespace Timer

variable {τ : Type}

/-- The moment after a delay, if the clock can show it. -/
def after? (timer : Timer τ) (now : Moment) (delay : Duration) : Option Moment :=
  Moment.after? timer.lastMoment? now delay

/-- Puts a task on the heap. -/
def push (timer : Timer τ) (due : Moment) (handle : Nat) (task : τ) : Timer τ :=
  let sequence := timer.sequence + 1
  { timer with
    heap := Heap.push TimerEntry.before timer.heap { due, sequence, handle, task }
    sequence }

/-- Adds a task that is due at a moment. Its handle is the number of tasks added before it. -/
def schedule (timer : Timer τ) (due : Moment) (task : τ) : Timer τ :=
  { timer.push due timer.handles task with handles := timer.handles + 1 }

/-- Adds a task that is due after a delay. -/
def scheduleAfter? (timer : Timer τ) (now : Moment) (delay : Duration) (task : τ) :
    Option (Timer τ) :=
  (timer.after? now delay).map fun due => timer.schedule due task

/-- A task was cancelled. -/
def isCancelled (timer : Timer τ) (handle : Nat) : Bool := timer.cancelled.contains handle

/-- Marks a task as cancelled, whether it waits or is being run. -/
def cancel (timer : Timer τ) (handle : Nat) : Timer τ :=
  if timer.isCancelled handle then timer
  else { timer with cancelled := handle :: timer.cancelled }

/-- The entries of a heap from the first one on that is not cancelled. -/
def liveHeap (isCancelled : Nat → Bool) (heap : Array (TimerEntry τ)) : Array (TimerEntry τ) :=
  match h : Heap.pop? TimerEntry.before heap with
  | none => heap
  | some (top, rest) =>
    have := Heap.size_of_pop? TimerEntry.before h
    if isCancelled top.handle then liveHeap isCancelled rest else heap
termination_by heap.size

/-- Throws away cancelled entries at the top of the heap. -/
def discardCancelled (timer : Timer τ) : Timer τ :=
  { timer with heap := liveHeap timer.isCancelled timer.heap }

/-- The entry at the top of the heap. -/
def top? (timer : Timer τ) : Option (TimerEntry τ) := timer.heap[0]?

/-- Some task that was not cancelled is due within a time from now. That cannot be said if there is
such a task and the clock cannot show the end of that time. -/
def hasNext (timer : Timer τ) (now : Moment) (within : Duration) : Option Bool × Timer τ :=
  let timer := timer.discardCancelled
  match timer.top? with
  | none => (some false, timer)
  | some top => ((timer.after? now within).map (top.due ≤ ·), timer)

/-- Makes all tasks on the heap that were not cancelled due at a moment. They follow each other in
the order in which the heap holds them. -/
def rescheduleAll (timer : Timer τ) (due : Moment) : Timer τ :=
  -- In the order of the array, which is that of the heap and not of the moments.
  let live := timer.heap.toList.filter fun entry => !timer.isCancelled entry.handle
  live.foldl (fun timer entry => timer.push due entry.handle entry.task)
    { timer with heap := #[] }

/-- Makes all tasks on the heap that were not cancelled due after a delay. -/
def rescheduleAllAfter? (timer : Timer τ) (now : Moment) (delay : Duration) : Option (Timer τ) :=
  (timer.after? now delay).map timer.rescheduleAll

/-- Entries on the heap, cancelled ones that were not thrown away yet among them. -/
def size (timer : Timer τ) : Nat := timer.heap.size

/-- Drops all tasks and runs none from now on. -/
def shutdown (timer : Timer τ) : Timer τ := { timer with heap := #[], stopped := true }

/-- When the next task is due that was not cancelled. -/
def nextDue? (timer : Timer τ) : Option Moment :=
  if timer.stopped then none else timer.discardCancelled.top?.map (·.due)

/-- Takes the next task off the heap to run it, if it is due and no other task is being run. -/
def takeDue (timer : Timer τ) (now : Moment) : Timer τ :=
  if timer.stopped || timer.running.isSome then timer
  else
    let timer := timer.discardCancelled
    match Heap.pop? TimerEntry.before timer.heap with
    | none => timer
    | some (top, rest) =>
      if top.due ≤ now then { timer with heap := rest, running := some top } else timer

/-- Ends the run of a task, which is put back on the heap if it is to run again after some delay,
was not cancelled, and the timer was not shut down. -/
def putBack (timer : Timer τ) (now : Moment) (again : Option Duration) : Timer τ :=
  match timer.running with
  | none => timer
  | some entry =>
    let idle := { timer with running := none }
    match again with
    | none => idle
    | some delay =>
      if timer.isCancelled entry.handle || timer.stopped then idle
      else
        match timer.after? now delay with
        | some due => idle.push due entry.handle entry.task
        -- The thread ends, and nobody runs the tasks that are on the heap.
        | none => { idle with stopped := true }

end Timer

end ChannelAccess
