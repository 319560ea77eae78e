import ChannelAccess.Proofs.Heap.Contents
import ChannelAccess.Timer.Basic

/-!
# The live tasks of a timer

A task of a timer is live while it was not cancelled: it waits on the heap (`waiting`) or is being
run (`live` has both). Cancelled entries stay on the heap until they come to its top, but no
operation tells them from entries that are gone. There is one lemma for what each operation does to
the live tasks, up to their order; the order of the heap is not looked at.

Handles and cancellations change in few places, so most operations keep the `SameMarks`.
-/

namespace ChannelAccess

/-- What stays of an entry from run to run: the handle and the task. -/
def TimerEntry.key {τ : Type} (entry : TimerEntry τ) : Nat × τ := (entry.handle, entry.task)

namespace Timer

variable {τ : Type}

/-- The task of an entry was not cancelled. -/
def isLive (timer : Timer τ) (entry : TimerEntry τ) : Bool := !timer.isCancelled entry.handle

/-- The live tasks on the heap. -/
def waiting (timer : Timer τ) : List (TimerEntry τ) := timer.heap.toList.filter timer.isLive

/-- The live tasks: the one that is being run and those on the heap. -/
def live (timer : Timer τ) : List (TimerEntry τ) :=
  timer.running.toList.filter timer.isLive ++ timer.waiting

/-- Between two states of a timer no handle was given out, no task was cancelled, and the timer was
not stopped. It has the same clock. -/
structure SameMarks (before after : Timer τ) : Prop where
  /-- No handle was given out. -/
  handles : after.handles = before.handles
  /-- No task was cancelled. -/
  cancelled : after.cancelled = before.cancelled
  /-- The timer was not stopped. -/
  stopped : after.stopped = before.stopped
  /-- The clock is the same. -/
  lastMoment? : after.lastMoment? = before.lastMoment?

theorem SameMarks.refl (timer : Timer τ) : SameMarks timer timer := ⟨rfl, rfl, rfl, rfl⟩

theorem SameMarks.trans {a b c : Timer τ} (h₁ : SameMarks a b) (h₂ : SameMarks b c) :
    SameMarks a c :=
  ⟨h₂.handles.trans h₁.handles, h₂.cancelled.trans h₁.cancelled, h₂.stopped.trans h₁.stopped,
    h₂.lastMoment?.trans h₁.lastMoment?⟩

/-- With the same marks the same entries are live. -/
theorem SameMarks.isLive_eq {a b : Timer τ} (h : SameMarks a b) : b.isLive = a.isLive := by
  funext entry
  rw [isLive, isLive, isCancelled, isCancelled, h.cancelled]

/-- With the same marks and the same task being run, the live tasks are told by those on the
heap. -/
theorem SameMarks.live_perm {a b : Timer τ} (h : SameMarks a b) (running : b.running = a.running)
    (waiting : b.waiting.Perm a.waiting) : b.live.Perm a.live := by
  rw [live, live, running, h.isLive_eq]
  exact waiting.append_left _

theorem mem_waiting {timer : Timer τ} {entry : TimerEntry τ} :
    entry ∈ timer.waiting ↔ entry ∈ timer.heap ∧ timer.isLive entry = true := by
  rw [waiting, List.mem_filter, Array.mem_toList_iff]

theorem mem_live {timer : Timer τ} {entry : TimerEntry τ} :
    entry ∈ timer.live ↔
      (timer.running = some entry ∧ timer.isLive entry = true) ∨ entry ∈ timer.waiting := by
  rw [live, List.mem_append, List.mem_filter, Option.mem_toList]

/-- With no task being run, the live tasks are those on the heap. -/
theorem live_of_running_none {timer : Timer τ} (idle : timer.running = none) :
    timer.live = timer.waiting := by
  rw [live, idle]
  rfl

/-! ## The clock -/

/-- A moment that can be had after a delay is the one after the delay. -/
theorem eq_of_after? {timer : Timer τ} {now : Moment} {delay : Duration} {due : Moment}
    (h : timer.after? now delay = some due) : due = now + delay :=
  (Option.some.inj (Option.ite_none_right_eq_some.mp h).2).symm

/-- Without a last moment every moment can be had. -/
theorem after?_of_endless {timer : Timer τ} (endless : timer.lastMoment? = none) (now : Moment)
    (delay : Duration) : timer.after? now delay = some (now + delay) := by
  rw [after?, endless]
  exact if_pos rfl

/-! ## Adding tasks -/

/-- The entry that the next `push` makes. -/
def nextEntry (timer : Timer τ) (due : Moment) (handle : Nat) (task : τ) : TimerEntry τ :=
  { due, sequence := timer.sequence + 1, handle, task }

theorem sameMarks_push (timer : Timer τ) (due : Moment) (handle : Nat) (task : τ) :
    SameMarks timer (timer.push due handle task) :=
  ⟨rfl, rfl, rfl, rfl⟩

/-- A live task that is put on the heap waits beside those from before. -/
theorem waiting_push (timer : Timer τ) (due : Moment) {handle : Nat} (task : τ)
    (alive : timer.isCancelled handle = false) :
    (timer.push due handle task).waiting.Perm
      (timer.nextEntry due handle task :: timer.waiting) := by
  have added := (Heap.toList_push_perm TimerEntry.before timer.heap
    (timer.nextEntry due handle task)).filter timer.isLive
  have isLive : timer.isLive (timer.nextEntry due handle task) = true := by
    rw [Timer.isLive, nextEntry, alive]
    rfl
  rw [List.filter_cons_of_pos isLive] at added
  exact added

/-- A new task is live unless its handle was cancelled before it was given out. -/
theorem waiting_schedule (timer : Timer τ) (due : Moment) (task : τ)
    (fresh : timer.isCancelled timer.handles = false) :
    (timer.schedule due task).waiting.Perm
      (timer.nextEntry due timer.handles task :: timer.waiting) :=
  waiting_push timer due task fresh

/-- A new task is live beside those from before. -/
theorem live_schedule (timer : Timer τ) (due : Moment) (task : τ)
    (fresh : timer.isCancelled timer.handles = false) :
    (timer.schedule due task).live.Perm
      (timer.nextEntry due timer.handles task :: timer.live) := by
  have added := (waiting_schedule timer due task fresh).append_left
    (timer.running.toList.filter timer.isLive)
  exact added.trans List.perm_middle

/-! ## Cancelling -/

theorem isCancelled_cancel (timer : Timer τ) (handle other : Nat) :
    (timer.cancel handle).isCancelled other = (timer.isCancelled other || other == handle) := by
  unfold cancel
  split
  · rename_i already
    by_cases same : other = handle
    · rw [same, already, Bool.true_or]
    · rw [beq_false_of_ne same, Bool.or_false]
  · rw [isCancelled, isCancelled, List.contains_cons, Bool.or_comm]

/-- Cancelling touches neither the heap nor the task that is being run, nor the clock. -/
theorem cancel_spec (timer : Timer τ) (handle : Nat) :
    (timer.cancel handle).heap = timer.heap ∧ (timer.cancel handle).running = timer.running ∧
      (timer.cancel handle).handles = timer.handles ∧
      (timer.cancel handle).stopped = timer.stopped ∧
      (timer.cancel handle).lastMoment? = timer.lastMoment? := by
  unfold cancel
  split <;> exact ⟨rfl, rfl, rfl, rfl, rfl⟩

/-- Only the handle that is cancelled becomes one of those that were. -/
theorem mem_cancelled_cancel {timer : Timer τ} {handle other : Nat}
    (h : other ∈ (timer.cancel handle).cancelled) :
    other = handle ∨ other ∈ timer.cancelled := by
  unfold cancel at h
  split at h
  · exact .inr h
  · exact List.mem_cons.mp h

theorem isLive_cancel (timer : Timer τ) (handle : Nat) (entry : TimerEntry τ) :
    (timer.cancel handle).isLive entry = (timer.isLive entry && entry.handle != handle) := by
  rw [isLive, isCancelled_cancel, Bool.not_or]
  rfl

/-- After a task was cancelled, the live ones on the heap are those with another handle. -/
theorem waiting_cancel (timer : Timer τ) (handle : Nat) :
    (timer.cancel handle).waiting = timer.waiting.filter (·.handle != handle) := by
  rw [waiting, (cancel_spec timer handle).1, waiting, List.filter_filter]
  refine List.filter_congr fun entry _ => ?_
  rw [isLive_cancel, Bool.and_comm]

/-- After a task was cancelled, the live ones are those with another handle. -/
theorem live_cancel (timer : Timer τ) (handle : Nat) :
    (timer.cancel handle).live = timer.live.filter (·.handle != handle) := by
  rw [live, waiting_cancel, (cancel_spec timer handle).2.1, live, List.filter_append,
    List.filter_filter]
  congr 1
  refine List.filter_congr fun entry _ => ?_
  rw [isLive_cancel, Bool.and_comm]

/-! ## Throwing cancelled entries away -/

/-- Throwing away cancelled entries leaves the others. -/
theorem filter_liveHeap_perm (isCancelled : Nat → Bool) (heap : Array (TimerEntry τ)) :
    ((liveHeap isCancelled heap).toList.filter fun entry => !isCancelled entry.handle).Perm
      (heap.toList.filter fun entry => !isCancelled entry.handle) := by
  fun_induction liveHeap isCancelled heap with
  | case1 => exact List.Perm.refl _
  | case2 heap top rest popped _ dead ih =>
    have parts := (Heap.toList_perm_of_pop? TimerEntry.before popped).filter
      fun entry => !isCancelled entry.handle
    rw [List.filter_cons_of_neg (by rw [dead]; exact Bool.false_ne_true)] at parts
    exact ih.trans parts.symm
  | case3 => exact List.Perm.refl _

/-- The entry that is at the top once cancelled ones were thrown away is live. -/
theorem isCancelled_top_of_liveHeap (isCancelled : Nat → Bool) (heap : Array (TimerEntry τ))
    {top : TimerEntry τ} (h : (liveHeap isCancelled heap)[0]? = some top) :
    isCancelled top.handle = false := by
  fun_induction liveHeap isCancelled heap with
  | case1 heap popped =>
    rw [Heap.pop?_eq_none_iff] at popped
    rw [popped] at h
    contradiction
  | case2 heap other rest popped _ dead ih => exact ih h
  | case3 heap other rest popped _ alive =>
    rw [Heap.getElem?_zero_of_pop? TimerEntry.before popped] at h
    obtain rfl := Option.some.inj h
    exact Bool.eq_false_iff.mpr alive

/-- The task at the top once cancelled entries were thrown away is live. -/
theorem isLive_of_top {timer : Timer τ} {top : TimerEntry τ}
    (h : timer.discardCancelled.heap[0]? = some top) : timer.isLive top = true := by
  rw [isLive, isCancelled_top_of_liveHeap timer.isCancelled timer.heap h]
  rfl

theorem sameMarks_discardCancelled (timer : Timer τ) : SameMarks timer timer.discardCancelled :=
  ⟨rfl, rfl, rfl, rfl⟩

theorem waiting_discardCancelled (timer : Timer τ) :
    timer.discardCancelled.waiting.Perm timer.waiting :=
  filter_liveHeap_perm timer.isCancelled timer.heap

/-- The question for the next task throws cancelled entries away, whatever the answer. -/
theorem hasNext_snd (timer : Timer τ) (now : Moment) (within : Duration) :
    (timer.hasNext now within).2 = timer.discardCancelled := by
  unfold hasNext
  dsimp only
  split <;> rfl

/-- Looking for the next task changes no live task. -/
theorem live_hasNext (timer : Timer τ) (now : Moment) (within : Duration) :
    (timer.hasNext now within).2.live.Perm timer.live := by
  rw [hasNext_snd]
  exact (sameMarks_discardCancelled timer).live_perm rfl (waiting_discardCancelled timer)

/-- The task at the top once cancelled entries were thrown away is one of those that wait. -/
theorem mem_waiting_of_top {timer : Timer τ} {top : TimerEntry τ}
    (isTop : timer.discardCancelled.heap[0]? = some top) : top ∈ timer.waiting := by
  refine (waiting_discardCancelled timer).mem_iff.mp
    (mem_waiting.mpr ⟨Array.mem_of_getElem? isTop, ?_⟩)
  rw [(sameMarks_discardCancelled timer).isLive_eq]
  exact isLive_of_top isTop

/-- The question for the next task is that for the task at the top, if there is one. -/
theorem hasNext_fst (timer : Timer τ) (now : Moment) (within : Duration) :
    (timer.hasNext now within).1 =
      match timer.discardCancelled.heap[0]? with
      | none => some false
      | some top => (timer.after? now within).map (top.due ≤ ·) := by
  unfold hasNext
  dsimp only [top?]
  cases timer.discardCancelled.heap[0]? <;> rfl

/-- When a task is reported to be due within a time, some live task on the heap is. -/
theorem due_of_hasNext {timer : Timer τ} {now : Moment} {within : Duration}
    (h : (timer.hasNext now within).1 = some true) :
    ∃ entry ∈ timer.waiting, entry.due ≤ now + within := by
  rw [hasNext_fst] at h
  split at h
  · exact absurd (Option.some.inj h) Bool.false_ne_true
  · rename_i top isTop
    obtain ⟨limit, isLimit, due⟩ := Option.map_eq_some_iff.mp h
    obtain rfl := eq_of_after? isLimit
    exact ⟨top, mem_waiting_of_top isTop, of_decide_eq_true due⟩

/-- Without a last moment the question for the next task is answered. -/
theorem hasNext_ne_none {timer : Timer τ} (endless : timer.lastMoment? = none) (now : Moment)
    (within : Duration) : (timer.hasNext now within).1 ≠ none := by
  rw [hasNext_fst]
  split
  · exact Option.some_ne_none _
  · rw [after?_of_endless endless]
    exact Option.some_ne_none _

/-! ## Rescheduling -/

/-- Putting live tasks on the heap one after the other, all due at the same moment, changes no
marks and not the task that is being run. -/
theorem foldl_push_spec (timer : Timer τ) (due : Moment) (entries : List (TimerEntry τ)) :
    let after := entries.foldl (fun timer entry => timer.push due entry.handle entry.task) timer
    SameMarks timer after ∧ after.running = timer.running := by
  induction entries generalizing timer with
  | nil => exact ⟨SameMarks.refl timer, rfl⟩
  | cons entry later ih =>
    obtain ⟨marks, running⟩ := ih (timer.push due entry.handle entry.task)
    exact ⟨(sameMarks_push timer due entry.handle entry.task).trans marks, running⟩

/-- Live tasks that are put on the heap one after the other wait beside those from before. -/
theorem waiting_foldl_push (timer : Timer τ) (due : Moment) (entries : List (TimerEntry τ))
    (alive : ∀ entry ∈ entries, timer.isLive entry = true) :
    let after := entries.foldl (fun timer entry => timer.push due entry.handle entry.task) timer
    (after.waiting.map TimerEntry.key).Perm
        (entries.map TimerEntry.key ++ timer.waiting.map TimerEntry.key) ∧
      ∀ entry ∈ after.waiting, entry ∈ timer.waiting ∨ entry.due = due := by
  induction entries generalizing timer with
  | nil => exact ⟨List.Perm.refl _, fun entry waits => .inl waits⟩
  | cons first later ih =>
    have marks := sameMarks_push timer due first.handle first.task
    have firstAlive : timer.isCancelled first.handle = false :=
      Bool.not_eq_true' _ |>.mp (alive first List.mem_cons_self)
    have pushed := waiting_push timer due first.task firstAlive
    obtain ⟨keys, dues⟩ := ih (timer.push due first.handle first.task) fun entry isLater => by
      rw [marks.isLive_eq]
      exact alive entry (List.mem_cons_of_mem _ isLater)
    constructor
    · -- The first entry comes last in the heap's list, but in front of the others in `entries`.
      have pushedKeys := (pushed.map TimerEntry.key).append_left (later.map TimerEntry.key)
      exact keys.trans (pushedKeys.trans List.perm_middle)
    · intro entry waits
      rcases dues entry waits with earlier | isDue
      · rcases List.mem_cons.mp (pushed.mem_iff.mp earlier) with rfl | before
        · exact .inr rfl
        · exact .inl before
      · exact .inr isDue

/-- Rescheduling keeps the marks and the task that is being run. -/
theorem sameMarks_rescheduleAll (timer : Timer τ) (due : Moment) :
    SameMarks timer (timer.rescheduleAll due) ∧
      (timer.rescheduleAll due).running = timer.running := by
  obtain ⟨marks, running⟩ := foldl_push_spec { timer with heap := #[] } due timer.waiting
  exact ⟨⟨marks.handles, marks.cancelled, marks.stopped, marks.lastMoment?⟩, running⟩

/-- Rescheduling keeps the live tasks on the heap, all of which are due at that moment then. -/
theorem waiting_rescheduleAll (timer : Timer τ) (due : Moment) :
    ((timer.rescheduleAll due).waiting.map TimerEntry.key).Perm
        (timer.waiting.map TimerEntry.key) ∧
      ∀ entry ∈ (timer.rescheduleAll due).waiting, entry.due = due := by
  obtain ⟨keys, dues⟩ := waiting_foldl_push { timer with heap := #[] } due timer.waiting
    fun entry waits => (mem_waiting.mp waits).2
  have empty : Timer.waiting { timer with heap := #[] } = [] := rfl
  rw [empty, List.map_nil, List.append_nil] at keys
  refine ⟨keys, fun entry waits => ?_⟩
  rcases dues entry waits with before | isDue
  · rw [empty] at before
    contradiction
  · exact isDue

/-! ## Running -/

/-- Taking a task off the heap to run it keeps the marks. -/
theorem sameMarks_takeDue (timer : Timer τ) (now : Moment) :
    SameMarks timer (timer.takeDue now) := by
  unfold takeDue
  split
  · exact SameMarks.refl timer
  · dsimp only
    split
    · exact sameMarks_discardCancelled timer
    · split
      · exact ⟨rfl, rfl, rfl, rfl⟩
      · exact sameMarks_discardCancelled timer

/-- A timer can look for a task to run, or it was shut down or runs one already. -/
theorem busy_or_idle (timer : Timer τ) :
    (timer.stopped = true ∨ timer.running ≠ none) ∨
      timer.running = none ∧ timer.stopped = false := by
  cases timer.stopped with
  | true => exact .inl (.inl rfl)
  | false =>
    cases timer.running with
    | none => exact .inr ⟨rfl, rfl⟩
    | some entry => exact .inl (.inr (Option.some_ne_none entry))

/-- A timer that was shut down or runs a task already takes none. -/
theorem takeDue_of_busy {timer : Timer τ} (now : Moment)
    (busy : timer.stopped = true ∨ timer.running ≠ none) : timer.takeDue now = timer := by
  have refused : (timer.stopped || timer.running.isSome) = true := by
    rcases busy with stopped | running
    · rw [stopped, Bool.true_or]
    · rw [Option.isSome_iff_ne_none.mpr running, Bool.or_true]
  rw [takeDue, if_pos refused]

/-- What `takeDue` does to a timer that runs no task: it leaves the live tasks on the heap, or it
takes one of them that is due. -/
theorem takeDue_spec (timer : Timer τ) (now : Moment) (idle : timer.running = none)
    (goesOn : timer.stopped = false) :
    SameMarks timer (timer.takeDue now) ∧
      (((timer.takeDue now).running = none ∧ (timer.takeDue now).waiting.Perm timer.waiting) ∨
        ∃ entry, (timer.takeDue now).running = some entry ∧ timer.isLive entry = true ∧
          entry.due ≤ now ∧ timer.waiting.Perm (entry :: (timer.takeDue now).waiting)) := by
  refine ⟨sameMarks_takeDue timer now, ?_⟩
  have discarded := waiting_discardCancelled timer
  unfold takeDue
  rw [idle, goesOn, Option.isSome_none, Bool.or_false, if_neg Bool.false_ne_true]
  dsimp only
  split
  · exact .inl ⟨idle, discarded⟩
  · rename_i top rest popped
    split
    · rename_i due
      have alive := isLive_of_top (Heap.getElem?_zero_of_pop? TimerEntry.before popped)
      have parts := (Heap.toList_perm_of_pop? TimerEntry.before popped).filter timer.isLive
      rw [List.filter_cons_of_pos alive] at parts
      exact .inr ⟨top, rfl, alive, due, discarded.symm.trans parts⟩
    · exact .inl ⟨idle, discarded⟩

/-- Taking a task off the heap to run it changes no live task. -/
theorem live_takeDue (timer : Timer τ) (now : Moment) :
    (timer.takeDue now).live.Perm timer.live := by
  rcases timer.busy_or_idle with busy | ⟨idle, goesOn⟩
  · rw [takeDue_of_busy now busy]
  · obtain ⟨marks, taken⟩ := takeDue_spec timer now idle goesOn
    rw [live_of_running_none idle]
    rcases taken with ⟨stays, waiting⟩ | ⟨entry, running, alive, -, waiting⟩
    · rw [live_of_running_none stays]
      exact waiting
    · rw [live, running, marks.isLive_eq, Option.toList_some, List.filter_cons_of_pos alive]
      exact waiting.symm

/-- The thread of the timer ends as the task that is being run would be put back, because the clock
cannot show when it is due. -/
def breaksAt (timer : Timer τ) (now : Moment) (again : Option Duration) : Bool :=
  timer.running.any fun entry => again.any fun delay =>
    timer.isLive entry && !timer.stopped && (timer.after? now delay).isNone

theorem breaksAt_eq_true_iff {timer : Timer τ} {now : Moment} {again : Option Duration} :
    timer.breaksAt now again = true ↔
      ∃ entry delay, timer.running = some entry ∧ again = some delay ∧
        timer.isLive entry = true ∧ timer.stopped = false ∧ timer.after? now delay = none := by
  simp [breaksAt, Option.any_eq_true, and_assoc]

/-- Without a last moment the thread does not end. -/
theorem breaksAt_of_endless {timer : Timer τ} (endless : timer.lastMoment? = none) (now : Moment)
    (again : Option Duration) : timer.breaksAt now again = false := by
  refine Bool.eq_false_iff.mpr fun breaks => ?_
  obtain ⟨-, delay, -, -, -, -, beyond⟩ := breaksAt_eq_true_iff.mp breaks
  rw [after?_of_endless endless] at beyond
  contradiction

/-- No task is being run after a run has ended. -/
theorem running_putBack (timer : Timer τ) (now : Moment) (again : Option Duration) :
    (timer.putBack now again).running = none := by
  unfold putBack
  split
  · rename_i idle
    exact idle
  · dsimp only
    split
    · rfl
    · split
      · rfl
      · split <;> rfl

/-- When the thread ends, the task that was being run is lost and no other is taken any more. -/
theorem putBack_of_breaks {timer : Timer τ} {now : Moment} {again : Option Duration}
    (breaks : timer.breaksAt now again = true) :
    timer.putBack now again = { timer with running := none, stopped := true } := by
  obtain ⟨entry, delay, running, rfl, alive, goesOn, beyond⟩ := breaksAt_eq_true_iff.mp breaks
  have notCancelled : timer.isCancelled entry.handle = false := Bool.not_eq_true' _ |>.mp alive
  simp only [putBack, running, notCancelled, goesOn, beyond]
  rfl

/-- A run that ends leaves the marks as they are, unless the thread ends with it. -/
theorem sameMarks_putBack {timer : Timer τ} {now : Moment} {again : Option Duration}
    (works : timer.breaksAt now again = false) : SameMarks timer (timer.putBack now again) := by
  unfold putBack
  split
  · exact SameMarks.refl timer
  · rename_i entry running
    dsimp only
    split
    · exact ⟨rfl, rfl, rfl, rfl⟩
    · rename_i delay
      split
      · exact ⟨rfl, rfl, rfl, rfl⟩
      · rename_i goesBack
        split
        · exact ⟨rfl, rfl, rfl, rfl⟩
        · -- The moment is missing only where the thread ends.
          rename_i beyond
          obtain ⟨notCancelled, goesOn⟩ := Bool.or_eq_false_iff.mp (Bool.eq_false_iff.mpr goesBack)
          have alive : timer.isLive entry = true := (Bool.not_eq_true' _).mpr notCancelled
          have breaks := breaksAt_eq_true_iff.mpr
            ⟨entry, delay, running, rfl, alive, goesOn, beyond⟩
          exact absurd (breaks.symm.trans works) nofun

/-- A task whose run is over waits on the heap again if it is still live and is to run again at a
moment that the clock can show. -/
theorem waiting_putBack_of_live {timer : Timer τ} {entry : TimerEntry τ} {now : Moment}
    {delay : Duration} {due : Moment} (running : timer.running = some entry)
    (alive : timer.isLive entry = true) (goesOn : timer.stopped = false)
    (isDue : timer.after? now delay = some due) :
    (timer.putBack now (some delay)).waiting.Perm
      (timer.nextEntry due entry.handle entry.task :: timer.waiting) := by
  have notCancelled : timer.isCancelled entry.handle = false := Bool.not_eq_true' _ |>.mp alive
  have goesBack : timer.putBack now (some delay) =
      Timer.push { timer with running := none } due entry.handle entry.task := by
    simp only [putBack, running, notCancelled, goesOn, isDue]
    rfl
  rw [goesBack]
  exact waiting_push { timer with running := none } due entry.task notCancelled

/-- A task that is not live any more is gone once its run is over. -/
theorem waiting_putBack_of_not_live {timer : Timer τ} {entry : TimerEntry τ} (now : Moment)
    (again : Option Duration) (running : timer.running = some entry)
    (dead : timer.isLive entry = false) :
    (timer.putBack now again).waiting = timer.waiting := by
  have cancelled : timer.isCancelled entry.handle = true := Bool.not_eq_false' _ |>.mp dead
  cases again with
  | none =>
    simp only [putBack, running]
    rfl
  | some delay =>
    simp only [putBack, running, cancelled]
    rfl

/-- What waits on the heap when a run ends still waits afterwards. -/
theorem waiting_subset_putBack (timer : Timer τ) (now : Moment) (again : Option Duration) :
    timer.waiting ⊆ (timer.putBack now again).waiting := by
  unfold putBack
  split
  · exact List.Subset.refl _
  · rename_i entry _
    dsimp only
    split
    · exact List.Subset.refl _
    · rename_i delay
      split
      · exact List.Subset.refl _
      · rename_i goesBack
        split
        · rename_i due _
          have alive := (Bool.or_eq_false_iff.mp (Bool.eq_false_iff.mpr goesBack)).1
          have pushed := waiting_push { timer with running := none } due entry.task alive
          exact fun other waits => pushed.mem_iff.mpr (List.mem_cons_of_mem _ waits)
        · exact List.Subset.refl _

/-- The end of a run changes no live task but for when it is due, if a live task is to run again and
the thread does not end. -/
theorem live_putBack (timer : Timer τ) (now : Moment) (again : Option Duration)
    (idle : timer.stopped = true → timer.running = none)
    (works : timer.breaksAt now again = false)
    (repeats : ∀ entry, timer.running = some entry → timer.isLive entry = true → again ≠ none) :
    ((timer.putBack now again).live.map TimerEntry.key).Perm (timer.live.map TimerEntry.key) := by
  rw [live_of_running_none (running_putBack timer now again)]
  cases running : timer.running with
  | none =>
    rw [live_of_running_none running]
    have same : timer.putBack now again = timer := by rw [putBack, running]
    rw [same]
  | some entry =>
    cases alive : timer.isLive entry with
    | false =>
      rw [waiting_putBack_of_not_live now again running alive, live, running, Option.toList_some,
        List.filter_cons_of_neg (by rw [alive]; exact Bool.false_ne_true)]
      exact List.Perm.refl _
    | true =>
      have goesOn : timer.stopped = false :=
        Bool.eq_false_iff.mpr fun stopped => nomatch running.symm.trans (idle stopped)
      obtain ⟨delay, rfl⟩ := Option.ne_none_iff_exists'.mp (repeats entry running alive)
      obtain ⟨due, isDue⟩ : ∃ due, timer.after? now delay = some due := by
        refine Option.ne_none_iff_exists'.mp fun beyond => ?_
        have breaks := breaksAt_eq_true_iff.mpr
          ⟨entry, delay, running, rfl, alive, goesOn, beyond⟩
        exact absurd (breaks.symm.trans works) nofun
      have back := (waiting_putBack_of_live running alive goesOn isDue).map TimerEntry.key
      rw [live, running, Option.toList_some, List.filter_cons_of_pos alive]
      exact back

end Timer

end ChannelAccess
