import ChannelAccess.Proofs.Heap.Order
import ChannelAccess.Proofs.Timer.Ideal
import ChannelAccess.Proofs.Timer.Live

/-!
# The live tasks of a timer are those of one that forgets

`Timer.Refines` relates a timer to an ideal one: the live tasks on the heap are those that wait in
the ideal timer, and the heap is in order, so that the entry at its top, once cancelled ones are
thrown away, is the task that comes first (`Timer.first_of_top`). There is one lemma for each
operation, which keeps the relation; of the heap the ideal timer is only told in which order
rescheduled tasks are to follow each other (`Timer.drainOrder`).
-/

namespace ChannelAccess

namespace Timer

variable {τ : Type}

/-! ## The order of entries -/

/-- Entries come before each other in the way that a heap needs. -/
theorem orders_before : Heap.Orders (TimerEntry.before (τ := τ)) := by
  constructor
  · intro a b first
    simp only [TimerEntry.before, Bool.or_eq_true, Bool.and_eq_true, decide_eq_true_eq, beq_iff_eq,
      Bool.or_eq_false_iff, Bool.and_eq_false_iff, decide_eq_false_iff_not, beq_eq_false_iff_ne,
      ne_eq, Duration.lt_def, Duration.ext_iff] at first ⊢
    omega
  · intro a b c first second
    simp only [TimerEntry.before, Bool.or_eq_false_iff, Bool.and_eq_false_iff,
      decide_eq_false_iff_not, beq_eq_false_iff_ne, ne_eq, Duration.lt_def,
      Duration.ext_iff] at first second ⊢
    omega

/-- An entry that another does not come before is due no later. -/
theorem due_le_of_not_before {a b : TimerEntry τ} (h : b.before a = false) : a.due ≤ b.due := by
  simp only [TimerEntry.before, Bool.or_eq_false_iff, decide_eq_false_iff_not,
    Duration.lt_def] at h
  rw [Duration.le_def]
  omega

/-- Throwing cancelled entries away leaves a heap. -/
theorem ordered_liveHeap (isCancelled : Nat → Bool) {heap : Array (TimerEntry τ)}
    (h : Heap.Ordered TimerEntry.before heap) :
    Heap.Ordered TimerEntry.before (liveHeap isCancelled heap) := by
  fun_induction liveHeap isCancelled heap with
  | case1 => exact h
  | case2 heap top rest popped _ dead ih => exact ih (Heap.ordered_of_pop? orders_before h popped)
  | case3 => exact h

/-- The entry at the top, once cancelled ones were thrown away, is that of a live task which no
other comes before. -/
theorem first_of_top {timer : Timer τ} (h : Heap.Ordered TimerEntry.before timer.heap)
    {top : TimerEntry τ} (isTop : timer.discardCancelled.heap[0]? = some top) :
    top ∈ timer.waiting ∧ ∀ other ∈ timer.waiting, other.before top = false := by
  have ordered := ordered_liveHeap timer.isCancelled h
  have same := waiting_discardCancelled timer
  refine ⟨mem_waiting_of_top isTop, fun other waits => ?_⟩
  exact ordered.before_first orders_before isTop (mem_waiting.mp (same.mem_iff.mpr waits)).1

/-- With nothing at the top, no task waits. -/
theorem waiting_eq_nil_of_top {timer : Timer τ}
    (isEmpty : timer.discardCancelled.heap[0]? = none) : timer.waiting = [] := by
  have empty : timer.discardCancelled.heap = #[] :=
    Array.eq_empty_of_size_eq_zero (Nat.le_zero.mp (Array.getElem?_eq_none_iff.mp isEmpty))
  have none : timer.discardCancelled.waiting = [] := by
    rw [waiting, empty]
    rfl
  exact (none ▸ waiting_discardCancelled timer).nil_eq.symm

/-! ## The relation -/

/-- What becomes of the task that is being run. -/
def run (timer : Timer τ) : TaskRun τ :=
  match timer.running with
  | none => .idle
  | some entry => if timer.isLive entry then .runs entry else .forgotten

/-- The handles of the entries, in the order in which the heap holds them. -/
def drainOrder (timer : Timer τ) : List Nat := timer.heap.toList.map (·.handle)

/-- The ideal timer keeps the live tasks of the timer, whose heap is in order. -/
structure Refines (timer : Timer τ) (ideal : IdealTimer τ) : Prop where
  /-- The heap is in order. -/
  ordered : Heap.Ordered TimerEntry.before timer.heap
  /-- The same tasks wait. -/
  waiting : timer.waiting.Perm ideal.waiting
  /-- The same task is being run. -/
  run : ideal.run = timer.run
  /-- As many entries were made. -/
  sequence : ideal.sequence = timer.sequence
  /-- As many handles were given out. -/
  handles : ideal.handles = timer.handles
  /-- Both run no more tasks or none. -/
  stopped : ideal.stopped = timer.stopped
  /-- The clocks are the same. -/
  clock : ideal.lastMoment? = timer.lastMoment?
  /-- Cancelled tasks had a handle. -/
  cancelled : ∀ handle ∈ timer.cancelled, handle < timer.handles

theorem Refines.empty (lastMoment? : Option Moment) :
    Refines ({ lastMoment? } : Timer τ) { lastMoment? } where
  ordered := fun _ _ _ isFirst => nomatch isFirst
  waiting := List.Perm.refl _
  run := rfl
  sequence := rfl
  handles := rfl
  stopped := rfl
  clock := rfl
  cancelled := fun _ member => absurd member List.not_mem_nil

/-- The same moments can be had. -/
theorem Refines.after?_eq {timer : Timer τ} {ideal : IdealTimer τ} (h : Refines timer ideal)
    (now : Moment) (delay : Duration) : ideal.after? now delay = timer.after? now delay := by
  rw [IdealTimer.after?, h.clock, Timer.after?]

/-- The same tasks are live. -/
theorem Refines.live {timer : Timer τ} {ideal : IdealTimer τ} (h : Refines timer ideal) :
    timer.live.Perm ideal.live := by
  have same : timer.running.toList.filter timer.isLive = ideal.run.task?.toList := by
    rw [h.run, Timer.run]
    cases timer.running with
    | none => rfl
    | some entry =>
      dsimp only
      cases alive : timer.isLive entry with
      | true => rw [Option.toList_some, List.filter_cons_of_pos alive]; rfl
      | false => rw [Option.toList_some, List.filter_cons_of_neg (by rw [alive]; decide)]; rfl
  rw [Timer.live, IdealTimer.live, same]
  exact h.waiting.append_left _

/-- What is being run depends on the marks only. -/
theorem SameMarks.run_eq {a b : Timer τ} (h : SameMarks a b) (running : b.running = a.running) :
    b.run = a.run := by
  rw [run, run, running, h.isLive_eq]

/-- Letting a live task wait keeps the relation. -/
theorem Refines.push {timer : Timer τ} {ideal : IdealTimer τ} (h : Refines timer ideal)
    (due : Moment) {handle : Nat} (task : τ) (alive : timer.isCancelled handle = false) :
    Refines (timer.push due handle task) (ideal.push due handle task) := by
  have entry : ideal.nextEntry due handle task = timer.nextEntry due handle task := by
    rw [IdealTimer.nextEntry, Timer.nextEntry, h.sequence]
  constructor
  · exact Heap.ordered_push orders_before h.ordered _
  · -- On the heap the new task stands anywhere, in the ideal timer it is the last one.
    calc (timer.push due handle task).waiting
      List.Perm _ (timer.nextEntry due handle task :: timer.waiting) :=
        waiting_push timer due task alive
      List.Perm _ (timer.nextEntry due handle task :: ideal.waiting) := h.waiting.cons _
      List.Perm _ (ideal.waiting ++ [timer.nextEntry due handle task]) :=
        (List.perm_append_singleton _ _).symm
      _ = (ideal.push due handle task).waiting := by rw [IdealTimer.push, entry]
  · exact h.run.trans ((sameMarks_push timer due handle task).run_eq rfl).symm
  · exact congrArg (· + 1) h.sequence
  · exact h.handles
  · exact h.stopped
  · exact h.clock
  · exact h.cancelled

/-- Letting live tasks wait one after the other keeps the relation. -/
theorem Refines.pushAll {timer : Timer τ} {ideal : IdealTimer τ} (h : Refines timer ideal)
    (due : Moment) (entries : List (TimerEntry τ))
    (alive : ∀ entry ∈ entries, timer.isLive entry = true) :
    Refines (entries.foldl (fun timer entry => timer.push due entry.handle entry.task) timer)
      (ideal.pushAll due entries) := by
  induction entries generalizing timer ideal with
  | nil => exact h
  | cons entry later ih =>
    have firstAlive : timer.isCancelled entry.handle = false :=
      Bool.not_eq_true' _ |>.mp (alive entry List.mem_cons_self)
    refine ih (h.push due entry.task firstAlive) fun other isLater => ?_
    rw [(sameMarks_push timer due entry.handle entry.task).isLive_eq]
    exact alive other (List.mem_cons_of_mem _ isLater)

/-! ## Calls -/

/-- The handle that is given out next was not cancelled. -/
theorem Refines.fresh {timer : Timer τ} {ideal : IdealTimer τ} (h : Refines timer ideal) :
    timer.isCancelled timer.handles = false := by
  refine Bool.eq_false_iff.mpr fun isCancelled => ?_
  exact absurd (h.cancelled _ (List.contains_iff_mem.mp isCancelled)) (Nat.lt_irrefl _)

theorem Refines.schedule {timer : Timer τ} {ideal : IdealTimer τ} (h : Refines timer ideal)
    (due : Moment) (task : τ) : Refines (timer.schedule due task) (ideal.schedule due task) := by
  have pushed := h.push due task h.fresh
  rw [IdealTimer.schedule, h.handles]
  exact
    { ordered := pushed.ordered
      waiting := pushed.waiting
      run := pushed.run
      sequence := pushed.sequence
      handles := rfl
      stopped := pushed.stopped
      clock := pushed.clock
      cancelled := fun handle member => Nat.lt_succ_of_lt (h.cancelled handle member) }

theorem sequence_cancel (timer : Timer τ) (handle : Nat) :
    (timer.cancel handle).sequence = timer.sequence := by
  unfold cancel
  split <;> rfl

theorem Refines.cancel {timer : Timer τ} {ideal : IdealTimer τ} (h : Refines timer ideal)
    {handle : Nat} (given : handle < timer.handles) :
    Refines (timer.cancel handle) (ideal.cancel handle) := by
  obtain ⟨heap, running, handles, stopped, clock⟩ := cancel_spec timer handle
  constructor
  · rw [heap]
    exact h.ordered
  · rw [waiting_cancel]
    exact h.waiting.filter _
  · rw [IdealTimer.cancel, Timer.run, running]
    dsimp only
    rw [h.run, Timer.run]
    cases timer.running with
    | none => rfl
    | some entry =>
      dsimp only
      rw [isLive_cancel]
      cases alive : timer.isLive entry with
      | false => rfl
      | true =>
        by_cases same : entry.handle = handle
        · simp [same]
        · simp [same]
  · exact h.sequence.trans (sequence_cancel timer handle).symm
  · exact h.handles.trans handles.symm
  · exact h.stopped.trans stopped.symm
  · exact h.clock.trans clock.symm
  · intro other member
    rw [handles]
    rcases mem_cancelled_cancel member with rfl | earlier
    · exact given
    · exact h.cancelled other earlier

/-- Looking for the next task keeps the relation. -/
theorem Refines.discardCancelled {timer : Timer τ} {ideal : IdealTimer τ}
    (h : Refines timer ideal) : Refines timer.discardCancelled ideal where
  ordered := ordered_liveHeap timer.isCancelled h.ordered
  waiting := (waiting_discardCancelled timer).trans h.waiting
  run := h.run.trans ((sameMarks_discardCancelled timer).run_eq rfl).symm
  sequence := h.sequence
  handles := h.handles
  stopped := h.stopped
  clock := h.clock
  cancelled := h.cancelled

/-- Both timers give the same answer to whether a task is due. -/
theorem Refines.hasNext {timer : Timer τ} {ideal : IdealTimer τ} (h : Refines timer ideal)
    (now : Moment) (within : Duration) :
    (timer.hasNext now within).1 = ideal.hasNext now within := by
  rw [hasNext_fst, IdealTimer.hasNext, h.after?_eq]
  cases isTop : timer.discardCancelled.heap[0]? with
  | none =>
    have none : ideal.waiting = [] :=
      List.perm_nil.mp (waiting_eq_nil_of_top isTop ▸ h.waiting).symm
    rw [if_pos none]
  | some top =>
    obtain ⟨waits, first⟩ := first_of_top h.ordered isTop
    have some : ideal.waiting ≠ [] := List.ne_nil_of_mem (h.waiting.mem_iff.mp waits)
    rw [if_neg some]
    refine Option.map_congr fun limit _ => ?_
    -- If any task is due, then so is the first one.
    rw [← h.waiting.any_eq, Bool.eq_iff_iff, List.any_eq_true]
    constructor
    · exact fun due => ⟨top, waits, due⟩
    · rintro ⟨other, otherWaits, due⟩
      have order := due_le_of_not_before (first other otherWaits)
      simp only [decide_eq_true_eq, Duration.le_def] at due order ⊢
      omega

/-! ## Rescheduling -/

/-- Entries whose handles are told apart follow each other in the order of these. -/
theorem pairwise_idxOf (keep : Nat → Bool) (entries : List (TimerEntry τ))
    (named : ((entries.filter fun entry => keep entry.handle).map (·.handle)).Nodup) :
    (entries.filter fun entry => keep entry.handle).Pairwise fun a b =>
      (entries.map (·.handle)).idxOf a.handle ≤ (entries.map (·.handle)).idxOf b.handle := by
  induction entries with
  | nil => exact List.Pairwise.nil
  | cons first later ih =>
    have namedLater : ((later.filter fun entry => keep entry.handle).map (·.handle)).Nodup :=
      named.sublist (((List.sublist_cons_self first later).filter _).map _)
    have differs : ∀ entry ∈ later.filter (fun entry => keep entry.handle),
        first.handle ≠ entry.handle := by
      intro entry member same
      have isKept := (List.mem_filter.mp member).2
      rw [← same] at isKept
      rw [List.filter_cons, if_pos isKept, List.map_cons, List.nodup_cons, same] at named
      exact named.1 (List.mem_map_of_mem member)
    have shifted : (later.filter fun entry => keep entry.handle).Pairwise fun a b =>
        ((first :: later).map (·.handle)).idxOf a.handle ≤
          ((first :: later).map (·.handle)).idxOf b.handle := by
      refine (ih namedLater).imp_of_mem fun isFirst isSecond order => ?_
      rw [List.map_cons, List.idxOf_cons_ne _ (differs _ isFirst),
        List.idxOf_cons_ne _ (differs _ isSecond)]
      exact Nat.succ_le_succ order
    cases isKept : keep first.handle with
    | false =>
      rw [List.filter_cons, isKept]
      exact shifted
    | true =>
      rw [List.filter_cons, if_pos isKept]
      refine List.Pairwise.cons (fun entry _ => ?_) shifted
      rw [List.map_cons, List.idxOf_cons_self]
      exact Nat.zero_le _

/-- In the order in which the heap holds them, the tasks that wait in the ideal timer are the live
tasks of the heap. -/
theorem Refines.arranged {timer : Timer τ} {ideal : IdealTimer τ} (h : Refines timer ideal)
    (sound : ideal.Sound) : ideal.arranged timer.drainOrder = timer.waiting := by
  have idealNamed : (ideal.waiting.map (·.handle)).Nodup :=
    sound.named.sublist ((List.sublist_append_right _ _).map _)
  have named : (timer.waiting.map (·.handle)).Nodup :=
    (h.waiting.map _).nodup_iff.mpr idealNamed
  have sameTasks : (ideal.arranged timer.drainOrder).Perm timer.waiting :=
    (List.mergeSort_perm _ _).trans h.waiting.symm
  let follows (a b : TimerEntry τ) : Prop :=
    decide (timer.drainOrder.idxOf a.handle ≤ timer.drainOrder.idxOf b.handle) = true
  refine @List.Perm.eq_of_pairwise _ follows _ _ ?_ ?_ ?_ sameTasks
  · -- Two places that are the same are those of one handle, and thus of one task.
    intro a b isArranged waits ab ba
    have aWaits := sameTasks.mem_iff.mp isArranged
    have samePlace := Nat.le_antisymm (of_decide_eq_true ab) (of_decide_eq_true ba)
    have onHeap : a.handle ∈ timer.drainOrder :=
      List.mem_map_of_mem (Array.mem_toList_iff.mpr (mem_waiting.mp aWaits).1)
    exact List.inj_on_of_nodup_map named aWaits waits ((List.idxOf_inj onHeap).mp samePlace)
  · apply List.pairwise_mergeSort
    · intro a b c ab bc
      exact decide_eq_true (Nat.le_trans (of_decide_eq_true ab) (of_decide_eq_true bc))
    · intro a b
      rw [Bool.or_eq_true, decide_eq_true_eq, decide_eq_true_eq]
      exact Nat.le_total _ _
  · exact (pairwise_idxOf (fun handle => !timer.isCancelled handle) timer.heap.toList named).imp
      decide_eq_true

theorem Refines.rescheduleAll {timer : Timer τ} {ideal : IdealTimer τ} (h : Refines timer ideal)
    (sound : ideal.Sound) (due : Moment) :
    Refines (timer.rescheduleAll due) (ideal.rescheduleAll due timer.drainOrder) := by
  have emptied : Refines { timer with heap := #[] } { ideal with waiting := [] } :=
    { h with
      ordered := (Refines.empty none).ordered
      waiting := List.Perm.refl _ }
  rw [IdealTimer.rescheduleAll, h.arranged sound]
  exact emptied.pushAll due timer.waiting fun entry waits => (mem_waiting.mp waits).2

theorem Refines.shutdown {timer : Timer τ} {ideal : IdealTimer τ} (h : Refines timer ideal) :
    Refines timer.shutdown ideal.shutdown :=
  { h with
    ordered := (Refines.empty none).ordered
    waiting := List.Perm.refl _
    stopped := rfl }

/-! ## Running -/

/-- Taking a task off the heap leaves the heap in order. The task is one that no other comes before,
and if there is none, none is due. -/
theorem takeDue_first {timer : Timer τ} (h : Heap.Ordered TimerEntry.before timer.heap)
    (now : Moment) (idle : timer.running = none) (goesOn : timer.stopped = false) :
    Heap.Ordered TimerEntry.before (timer.takeDue now).heap ∧
      (timer.takeDue now).sequence = timer.sequence ∧
      (∀ entry, (timer.takeDue now).running = some entry →
        ∀ other ∈ timer.waiting, other.before entry = false) ∧
      ((timer.takeDue now).running = none → ∀ entry ∈ timer.waiting, ¬ entry.due ≤ now) := by
  have ordered := ordered_liveHeap timer.isCancelled h
  unfold takeDue
  rw [idle, goesOn, Option.isSome_none, Bool.or_false, if_neg Bool.false_ne_true]
  dsimp only
  split
  · rename_i popped
    have isEmpty : timer.discardCancelled.heap[0]? = none := by
      rw [(Heap.pop?_eq_none_iff TimerEntry.before).mp popped]
      rfl
    refine ⟨ordered, rfl, fun entry running => ?_, fun _ entry waits => ?_⟩
    · exact absurd (running.symm.trans idle) (Option.some_ne_none _)
    · rw [waiting_eq_nil_of_top isEmpty] at waits
      contradiction
  · rename_i top rest popped
    have isTop := Heap.getElem?_zero_of_pop? TimerEntry.before popped
    obtain ⟨-, first⟩ := first_of_top h isTop
    split
    · -- The entry at the top is due and is taken.
      refine ⟨Heap.ordered_of_pop? orders_before ordered popped, rfl, ?_, fun none => ?_⟩
      · intro entry running
        obtain rfl := Option.some.inj running
        exact first
      · exact absurd none (Option.some_ne_none _)
    · -- The entry at the top is not due, and no other is due earlier.
      rename_i notDue
      refine ⟨ordered, rfl, fun entry running => ?_, fun _ entry waits due => notDue ?_⟩
      · exact absurd (running.symm.trans idle) (Option.some_ne_none _)
      · have order := due_le_of_not_before (first entry waits)
        rw [Duration.le_def] at order due ⊢
        omega

theorem Refines.takeDue_of_idle {timer : Timer τ} {ideal : IdealTimer τ}
    (h : Refines timer ideal) (sound : ideal.Sound) (now : Moment) (idle : timer.running = none)
    (goesOn : timer.stopped = false) : Refines (timer.takeDue now) (ideal.takeDue now) := by
  obtain ⟨marks, taken⟩ := takeDue_spec timer now idle goesOn
  obtain ⟨ordered, sequence, first, nothingDue⟩ := takeDue_first h.ordered now idle goesOn
  have idealIdle : ideal.run = .idle := by rw [h.run, Timer.run, idle]
  have cancelled : ∀ handle ∈ (timer.takeDue now).cancelled,
      handle < (timer.takeDue now).handles := by
    rw [marks.cancelled, marks.handles]
    exact h.cancelled
  rcases taken with ⟨stays, waiting⟩ | ⟨entry, running, alive, due, waiting⟩
  · -- No live task on the heap is due, so the ideal timer takes none either.
    have same : ideal.takeDue now = ideal := by
      rcases IdealTimer.takeDue_spec ideal now with same | ⟨entry, -, -, isNext, due, -⟩
      · exact same
      · have waits := h.waiting.mem_iff.mpr (IdealTimer.of_next? isNext).1
        exact absurd due (nothingDue stays entry waits)
    rw [same]
    exact
      { ordered := ordered
        waiting := waiting.trans h.waiting
        run := h.run.trans (marks.run_eq (stays.trans idle.symm)).symm
        sequence := h.sequence.trans sequence.symm
        handles := h.handles.trans marks.handles.symm
        stopped := h.stopped.trans marks.stopped.symm
        clock := h.clock.trans marks.lastMoment?.symm
        cancelled := cancelled }
  · -- The task that is taken comes first, and numbers tell entries apart, so the ideal timer finds
    -- the same one.
    have waits : entry ∈ ideal.waiting :=
      h.waiting.mem_iff.mp (waiting.mem_iff.mpr List.mem_cons_self)
    have isNext : ideal.next? = some entry :=
      sound.next?_eq waits fun other otherWaits =>
        first entry running other (h.waiting.mem_iff.mpr otherWaits)
    have takes : ideal.takeDue now =
        { ideal with
          waiting := ideal.waiting.filter (·.handle != entry.handle)
          run := .runs entry } := by
      rw [IdealTimer.takeDue, h.stopped, goesOn, idealIdle, isNext]
      exact if_pos due
    rw [takes]
    refine
      { ordered := ordered
        waiting := ?_
        run := ?_
        sequence := h.sequence.trans sequence.symm
        handles := h.handles.trans marks.handles.symm
        stopped := h.stopped.trans marks.stopped.symm
        clock := h.clock.trans marks.lastMoment?.symm
        cancelled := cancelled }
    · have parts := calc (entry :: (timer.takeDue now).waiting)
        List.Perm _ timer.waiting := waiting.symm
        List.Perm _ ideal.waiting := h.waiting
        List.Perm _ (entry :: ideal.waiting.filter (·.handle != entry.handle)) :=
          (sound.perm_cons_filter waits).symm
      exact parts.cons_inv
    · rw [Timer.run, running]
      dsimp only
      rw [marks.isLive_eq, if_pos alive]

theorem Refines.takeDue {timer : Timer τ} {ideal : IdealTimer τ} (h : Refines timer ideal)
    (sound : ideal.Sound) (now : Moment) :
    Refines (timer.takeDue now) (ideal.takeDue now) := by
  rcases timer.busy_or_idle with busy | ⟨idle, goesOn⟩
  · have same : ideal.takeDue now = ideal := by
      rcases IdealTimer.takeDue_spec ideal now with same | ⟨entry, goesOn, idle, -⟩
      · exact same
      · rw [h.stopped] at goesOn
        rw [h.run, Timer.run] at idle
        rcases busy with stopped | running
        · rw [stopped] at goesOn
          contradiction
        · obtain ⟨other, isRun⟩ := Option.ne_none_iff_exists'.mp running
          rw [isRun] at idle
          dsimp only at idle
          split at idle <;> contradiction
    rw [takeDue_of_busy now busy, same]
    exact h
  · exact h.takeDue_of_idle sound now idle goesOn

theorem Refines.putBack {timer : Timer τ} {ideal : IdealTimer τ} (h : Refines timer ideal)
    (now : Moment) (again : Option Duration) :
    Refines (timer.putBack now again) (ideal.putBack now again) := by
  have ended : Refines { timer with running := none } { ideal with run := .idle } :=
    { h with run := rfl }
  rw [Timer.putBack]
  cases running : timer.running with
  | none =>
    have idle : ideal.run = .idle := by rw [h.run, Timer.run, running]
    have same : ideal.putBack now again = ideal := by
      unfold IdealTimer.putBack
      rw [idle]
      show { ideal with run := .idle } = ideal
      rw [← idle]
    rw [same]
    exact h
  | some entry =>
    dsimp only
    cases alive : timer.isLive entry with
    | false =>
      -- The task was cancelled during its run.
      have forgotten : ideal.run = .forgotten := by rw [h.run, Timer.run, running]; simp [alive]
      have cancelled : timer.isCancelled entry.handle = true := (Bool.not_eq_false' _).mp alive
      have dropped : ideal.putBack now again = { ideal with run := .idle } := by
        simp only [IdealTimer.putBack, forgotten]
      rw [dropped, cancelled, Bool.true_or]
      cases again with
      | none => exact ended
      | some delay => exact ended
    | true =>
      have runs : ideal.run = .runs entry := by rw [h.run, Timer.run, running]; simp [alive]
      have goesBack : timer.isCancelled entry.handle = false := (Bool.not_eq_true' _).mp alive
      rw [goesBack, Bool.false_or]
      cases again with
      | none =>
        have dropped : ideal.putBack now none = { ideal with run := .idle } := by
          simp only [IdealTimer.putBack, runs]
        rw [dropped]
        exact ended
      | some delay =>
        by_cases stopped : timer.stopped = true
        · have dropped : ideal.putBack now (some delay) = { ideal with run := .idle } := by
            simp only [IdealTimer.putBack, runs, h.stopped, stopped]
          rw [dropped]
          simpa only [if_pos stopped] using ended
        · dsimp only
          rw [if_neg stopped]
          cases isDue : timer.after? now delay with
          | some due =>
            have back : ideal.putBack now (some delay) =
                { ideal with run := .idle }.push due entry.handle entry.task := by
              simp only [IdealTimer.putBack, runs, h.stopped, stopped, h.after?_eq, isDue]
            rw [back]
            exact ended.push due entry.task goesBack
          | none =>
            -- The thread ends.
            have broken : ideal.putBack now (some delay) =
                { ideal with run := .idle, stopped := true } := by
              simp only [IdealTimer.putBack, runs, h.stopped, stopped, h.after?_eq, isDue]
            rw [broken]
            exact { ended with stopped := rfl }

end Timer

end ChannelAccess
