import ChannelAccess.Proofs.Timer.System

/-!
# What becomes of the tasks of a timer

No event loses a live task but those that end it (`Timer.Ends`), and none brings one back
(`Timer.Passes`): a task that is ended has a retired handle, and its task never starts again
(`TimerSystem.Refines.never_starts`). With the ideal timer that is seen to do the same this says all
that users of a timer rely on, in `timer_refines_ideal`.

Where the clock has a last moment, calls that ask for one past it fail. In calls of users that
changes nothing else; but when a task cannot be put back the timer's thread ends, so that the task
is lost and no other ever starts (`TimerSystem.Refines.none_starts`).
-/

namespace ChannelAccess

variable {τ : Type}

namespace Timer

/-- The event ends a task of the timer: it cancels the task or drops it, or the task comes back from
a run after which it is not to run again, or with which the thread ends. -/
def Ends (timer : Timer τ) (now : Moment) : TimerEvent τ → Nat → Prop
  | .cancel other, handle => other = handle ∧ handle < timer.handles
  | .shutdown, handle => ∃ entry ∈ timer.waiting, entry.handle = handle
  | .putBack again, handle =>
    (again = none ∨ timer.stopped = true ∨ timer.breaksAt now again = true) ∧
      ∃ entry, timer.running = some entry ∧ timer.isLive entry = true ∧ entry.handle = handle
  | _, _ => False

/-- The handle was given out, and is that of no live task any more. -/
def Retired (timer : Timer τ) (handle : Nat) : Prop :=
  handle < timer.handles ∧ ∀ entry ∈ timer.live, entry.handle ≠ handle

/-- The handles and tasks of the live entries. -/
def keys (timer : Timer τ) : List (Nat × τ) := timer.live.map TimerEntry.key

theorem mem_keys {timer : Timer τ} {key : Nat × τ} :
    key ∈ timer.keys ↔ ∃ entry ∈ timer.live, entry.key = key :=
  List.mem_map

/-- Rescheduling keeps the live tasks. -/
theorem keys_rescheduleAll (timer : Timer τ) (due : Moment) :
    (timer.rescheduleAll due).keys.Perm timer.keys := by
  obtain ⟨marks, running⟩ := sameMarks_rescheduleAll timer due
  rw [keys, live, running, marks.isLive_eq, List.map_append, keys, live, List.map_append]
  exact (waiting_rescheduleAll timer due).1.append_left _

/-- Taking a task off the heap keeps the live tasks. -/
theorem keys_takeDue (timer : Timer τ) (now : Moment) :
    (timer.takeDue now).keys.Perm timer.keys :=
  (live_takeDue timer now).map _

/-- After a shutdown only the task that is being run is left. -/
theorem live_shutdown (timer : Timer τ) :
    timer.shutdown.live = timer.running.toList.filter timer.isLive :=
  List.append_nil _

/-- A run after which the task is not to run again leaves the tasks that wait. -/
theorem live_putBack_of_ends {timer : Timer τ} {now : Moment} {again : Option Duration}
    {handle : Nat} (ends : timer.Ends now (.putBack again) handle) :
    ∃ entry, entry.handle = handle ∧ timer.live = entry :: timer.waiting ∧
      (timer.putBack now again).live = timer.waiting := by
  obtain ⟨isOver, entry, running, alive, isHandle⟩ := ends
  refine ⟨entry, isHandle, ?_, ?_⟩
  · rw [live, running, Option.toList_some, List.filter_cons_of_pos alive]
    rfl
  · rw [live_of_running_none (running_putBack timer now again)]
    rcases isOver with rfl | stopped | breaks
    · rw [putBack, running]
      rfl
    · rw [putBack, running]
      cases again with
      | none => rfl
      | some delay =>
        dsimp only
        rw [stopped, Bool.or_true, if_pos rfl]
        rfl
    · rw [putBack_of_breaks breaks]
      rfl

/-- A run that ends no task keeps the live ones. -/
theorem keys_putBack (timer : Timer τ) (now : Moment) {again : Option Duration}
    (endsNone : ∀ handle, ¬ timer.Ends now (.putBack again) handle) :
    (timer.putBack now again).keys.Perm timer.keys := by
  by_cases isOver : again = none ∨ timer.stopped = true ∨ timer.breaksAt now again = true
  · have notLive : timer.running.toList.filter timer.isLive = [] := by
      refine List.filter_eq_nil_iff.mpr fun entry member alive => ?_
      exact endsNone entry.handle ⟨isOver, entry, Option.mem_toList.mp member, alive, rfl⟩
    have same : (timer.putBack now again).waiting = timer.waiting := by
      cases running : timer.running with
      | none => rw [putBack, running]
      | some entry =>
        refine waiting_putBack_of_not_live now again running (Bool.eq_false_iff.mpr fun alive => ?_)
        exact endsNone entry.handle ⟨isOver, entry, running, alive, rfl⟩
    rw [keys, live_of_running_none (running_putBack timer now again), same, keys, live, notLive]
    exact List.Perm.refl _
  · obtain ⟨repeats, goesOn⟩ := not_or.mp isOver
    obtain ⟨goesOn, works⟩ := not_or.mp goesOn
    exact live_putBack timer now again (fun stopped => absurd stopped goesOn)
      (Bool.eq_false_iff.mpr works) fun _ _ _ => repeats

/-! ## What an event does -/

/-- What an event does to the live tasks: it loses none but those that it ends, and those that are
there afterwards were there before or have a new handle. -/
structure Passes (before : Timer τ) (now : Moment) (event : TimerEvent τ) (after : Timer τ) :
    Prop where
  /-- No handle is taken back. -/
  handles : before.handles ≤ after.handles
  /-- No task is lost unless it is ended. -/
  kept : ∀ key ∈ before.keys, key ∈ after.keys ∨ before.Ends now event key.1
  /-- No task comes back, and none that is ended stays. -/
  earlier : ∀ key ∈ after.keys,
    key ∈ before.keys ∧ ¬ before.Ends now event key.1 ∨ before.handles ≤ key.1

/-- An event that ends no task and adds none. -/
theorem Passes.of_perm {before after : Timer τ} {now : Moment} {event : TimerEvent τ}
    (handles : after.handles = before.handles) (same : after.keys.Perm before.keys)
    (endsNone : ∀ key ∈ before.keys, ¬ before.Ends now event key.1) :
    Passes before now event after where
  handles := Nat.le_of_eq handles.symm
  kept := fun _ member => .inl (same.mem_iff.mpr member)
  earlier := fun key member =>
    have wasThere := same.mem_iff.mp member
    .inl ⟨wasThere, endsNone key wasThere⟩

/-- A new task is added beside the live ones. -/
theorem passes_schedule {timer : Timer τ} (now due : Moment) (delay : Duration) (task : τ)
    (fresh : timer.isCancelled timer.handles = false) :
    Passes timer now (.schedule delay task) (timer.schedule due task) := by
  have keys : (timer.schedule due task).keys.Perm ((timer.handles, task) :: timer.keys) :=
    (live_schedule timer due task fresh).map _
  constructor
  · exact Nat.le_succ _
  · exact fun key member => .inl (keys.mem_iff.mpr (List.mem_cons_of_mem _ member))
  · intro key member
    rcases List.mem_cons.mp (keys.mem_iff.mp member) with rfl | wasThere
    · exact .inr (Nat.le_refl _)
    · exact .inl ⟨wasThere, not_false⟩

/-- Cancelling ends the task of the handle. -/
theorem passes_cancel {timer : Timer τ} (now : Moment) {handle : Nat}
    (given : handle < timer.handles) :
    Passes timer now (.cancel handle) (timer.cancel handle) := by
  constructor
  · exact Nat.le_of_eq (cancel_spec timer handle).2.2.1.symm
  · intro key member
    obtain ⟨entry, alive, rfl⟩ := mem_keys.mp member
    by_cases same : handle = entry.handle
    · exact .inr ⟨same, Nat.lt_of_le_of_lt (Nat.le_of_eq same.symm) given⟩
    · refine .inl (mem_keys.mpr ⟨entry, ?_, rfl⟩)
      rw [live_cancel, List.mem_filter]
      exact ⟨alive, bne_iff_ne.mpr (Ne.symm same)⟩
  · intro key member
    obtain ⟨entry, alive, rfl⟩ := mem_keys.mp member
    rw [live_cancel, List.mem_filter] at alive
    obtain ⟨wasThere, differs⟩ := alive
    exact .inl ⟨mem_keys.mpr ⟨entry, wasThere, rfl⟩, fun ends => bne_iff_ne.mp differs ends.1.symm⟩

/-- A task that is being run does not wait as well. -/
theorem not_waiting_of_running {timer : Timer τ} (named : (timer.live.map (·.handle)).Nodup)
    {entry : TimerEntry τ} (runs : entry ∈ timer.running.toList.filter timer.isLive) :
    ∀ other ∈ timer.waiting, other.handle ≠ entry.handle := by
  intro other waits same
  rw [live, List.map_append] at named
  have apart := (List.nodup_append.mp named).2.2
  exact apart _ (List.mem_map_of_mem runs) _ (List.mem_map_of_mem waits) same.symm

/-- A shutdown ends the tasks that wait. -/
theorem passes_shutdown {timer : Timer τ} (now : Moment)
    (named : (timer.live.map (·.handle)).Nodup) :
    Passes timer now .shutdown timer.shutdown := by
  constructor
  · exact Nat.le_refl _
  · intro key member
    obtain ⟨entry, alive, rfl⟩ := mem_keys.mp member
    rcases List.mem_append.mp alive with runs | waits
    · refine .inl (mem_keys.mpr ⟨entry, ?_, rfl⟩)
      rw [live_shutdown]
      exact runs
    · exact .inr ⟨entry, waits, rfl⟩
  · intro key member
    obtain ⟨entry, runs, rfl⟩ := mem_keys.mp member
    rw [live_shutdown] at runs
    refine .inl ⟨mem_keys.mpr ⟨entry, List.mem_append_left _ runs, rfl⟩, ?_⟩
    rintro ⟨other, waits, same⟩
    exact not_waiting_of_running named runs other waits same

/-- The end of a run gives out no handle. -/
theorem handles_putBack (timer : Timer τ) (now : Moment) (again : Option Duration) :
    (timer.putBack now again).handles = timer.handles := by
  cases breaks : timer.breaksAt now again with
  | true => rw [putBack_of_breaks breaks]
  | false => exact (sameMarks_putBack breaks).handles

/-- The end of a run ends the task if it is not to run again. -/
theorem passes_putBack {timer : Timer τ} (named : (timer.live.map (·.handle)).Nodup) (now : Moment)
    (again : Option Duration) : Passes timer now (.putBack again) (timer.putBack now again) := by
  have handles := handles_putBack timer now again
  by_cases endsNone : ∀ handle, ¬ timer.Ends now (.putBack again) handle
  · exact .of_perm handles (keys_putBack timer now endsNone) fun key _ => endsNone key.1
  · obtain ⟨handle, ends⟩ := not_forall_not.mp endsNone
    obtain ⟨last, isHandle, before, after⟩ := live_putBack_of_ends ends
    rw [before, List.map_cons, List.nodup_cons] at named
    constructor
    · exact Nat.le_of_eq handles.symm
    · intro key member
      obtain ⟨entry, alive, rfl⟩ := mem_keys.mp member
      rw [before] at alive
      rcases List.mem_cons.mp alive with rfl | waits
      · rw [← isHandle] at ends
        exact .inr ends
      · exact .inl (mem_keys.mpr ⟨entry, after ▸ waits, rfl⟩)
    · intro key member
      obtain ⟨entry, waits, rfl⟩ := mem_keys.mp member
      rw [after] at waits
      refine .inl ⟨mem_keys.mpr ⟨entry, before ▸ List.mem_cons_of_mem _ waits, rfl⟩, ?_⟩
      -- Only one task is being run, so it would be this one.
      rintro ⟨-, other, running, alive, same⟩
      have runs : other ∈ timer.running.toList.filter timer.isLive :=
        List.mem_filter.mpr ⟨Option.mem_toList.mpr running, alive⟩
      have apart := not_waiting_of_running (before ▸ List.nodup_cons.mpr named) runs
      exact apart entry waits same.symm

/-- A related timer tells its live tasks apart. -/
theorem Refines.named {timer : Timer τ} {ideal : IdealTimer τ} (h : Refines timer ideal)
    (sound : ideal.Sound) : (timer.live.map (·.handle)).Nodup :=
  (h.live.map _).nodup_iff.mpr sound.named

/-- What every event does to the live tasks. -/
theorem Refines.passes {timer : Timer τ} {ideal : IdealTimer τ} (h : Refines timer ideal)
    (sound : ideal.Sound) (now : Moment) (event : TimerEvent τ) :
    Passes timer now event (timer.perform now event).2 := by
  cases event with
  | schedule delay task =>
    dsimp only [Timer.perform, scheduleAfter?]
    cases timer.after? now delay with
    | none => exact .of_perm rfl (List.Perm.refl _) fun _ _ => not_false
    | some due => exact passes_schedule now due delay task h.fresh
  | cancel handle =>
    show Passes timer now _ (if handle < timer.handles then timer.cancel handle else timer)
    by_cases given : handle < timer.handles
    · rw [if_pos given]
      exact passes_cancel now given
    · rw [if_neg given]
      exact .of_perm rfl (List.Perm.refl _) fun key _ ends => given (ends.1 ▸ ends.2)
  | rescheduleAll delay =>
    dsimp only [Timer.perform, rescheduleAllAfter?]
    cases timer.after? now delay with
    | none => exact .of_perm rfl (List.Perm.refl _) fun _ _ => not_false
    | some due =>
      exact .of_perm (sameMarks_rescheduleAll timer due).1.handles (keys_rescheduleAll timer due)
        fun _ _ => not_false
  | hasNext within =>
    have handles : (timer.hasNext now within).2.handles = timer.handles := by
      rw [hasNext_snd]
      rfl
    exact .of_perm handles ((live_hasNext timer now within).map _) fun _ _ => not_false
  | shutdown => exact passes_shutdown now (h.named sound)
  | wait time => exact .of_perm rfl (List.Perm.refl _) fun _ _ => not_false
  | takeDue =>
    exact .of_perm (sameMarks_takeDue timer now).handles (keys_takeDue timer now)
      fun _ _ => not_false
  | putBack again => exact passes_putBack (h.named sound) now again

/-- Only a task with a handle is ended. -/
theorem Refines.given_of_ends {timer : Timer τ} {ideal : IdealTimer τ} (h : Refines timer ideal)
    (sound : ideal.Sound) {now : Moment} {event : TimerEvent τ} {handle : Nat}
    (ends : timer.Ends now event handle) : handle < timer.handles := by
  have given : ∀ entry ∈ timer.live, entry.handle < timer.handles := fun entry alive =>
    h.handles ▸ sound.given entry (h.live.mem_iff.mp alive)
  cases event with
  | cancel other => exact ends.2
  | shutdown =>
    obtain ⟨entry, waits, rfl⟩ := ends
    exact given entry (mem_live.mpr (.inr waits))
  | putBack again =>
    obtain ⟨-, entry, running, alive, rfl⟩ := ends
    exact given entry (mem_live.mpr (.inl ⟨running, alive⟩))
  | schedule | rescheduleAll | hasNext | wait | takeDue => exact ends.elim

/-- The handle of a task that is ended is retired. -/
theorem Refines.retired_of_ends {timer : Timer τ} {ideal : IdealTimer τ} (h : Refines timer ideal)
    (sound : ideal.Sound) (now : Moment) {event : TimerEvent τ} {handle : Nat}
    (ends : timer.Ends now event handle) : (timer.perform now event).2.Retired handle := by
  have passes := h.passes sound now event
  have given := h.given_of_ends sound ends
  refine ⟨Nat.lt_of_lt_of_le given passes.handles, fun entry alive same => ?_⟩
  rcases passes.earlier _ (mem_keys.mpr ⟨entry, alive, rfl⟩) with ⟨-, goesOn⟩ | new
  · rw [← same] at ends
    exact goesOn ends
  · exact Nat.not_le_of_lt given (same ▸ new)

/-- A retired handle stays retired. -/
theorem Passes.retired {before after : Timer τ} {now : Moment} {event : TimerEvent τ}
    (h : Passes before now event after) {handle : Nat} (retired : before.Retired handle) :
    after.Retired handle := by
  refine ⟨Nat.lt_of_lt_of_le retired.1 h.handles, fun entry alive same => ?_⟩
  rcases h.earlier _ (mem_keys.mpr ⟨entry, alive, rfl⟩) with ⟨wasThere, -⟩ | new
  · obtain ⟨other, wasAlive, isKey⟩ := mem_keys.mp wasThere
    exact retired.2 other wasAlive ((congrArg Prod.fst isKey).trans same)
  · exact Nat.not_le_of_lt retired.1 (same ▸ new)

/-- The question for the next task fails when tasks wait and the clock cannot show the end of the
time asked for. The answer is otherwise whether some live task is due by then. -/
theorem Refines.hasNext_spec {timer : Timer τ} {ideal : IdealTimer τ} (h : Refines timer ideal)
    (now : Moment) (within : Duration) :
    ((timer.hasNext now within).1 = none ↔
      timer.waiting ≠ [] ∧ timer.after? now within = none) ∧
      ∀ answer, (timer.hasNext now within).1 = some answer →
        (answer = true ↔ ∃ entry ∈ timer.waiting, entry.due ≤ now + within) := by
  have sameEmpty : timer.waiting = [] ↔ ideal.waiting = [] := by
    rw [← List.perm_nil, ← List.perm_nil]
    exact ⟨h.waiting.symm.trans, h.waiting.trans⟩
  rw [h.hasNext, IdealTimer.hasNext, h.after?_eq, ne_eq, sameEmpty]
  by_cases none : ideal.waiting = []
  · rw [if_pos none, sameEmpty.mpr none]
    simp [none]
  · rw [if_neg none]
    refine ⟨by simp [none], fun answer answered => ?_⟩
    obtain ⟨limit, isLimit, rfl⟩ := Option.map_eq_some_iff.mp answered
    obtain rfl := eq_of_after? isLimit
    rw [← h.waiting.any_eq, List.any_eq_true]
    simp only [decide_eq_true_eq]

/-- Only looking for a task to run starts one. -/
theorem eq_takeDue_of_started {timer : Timer τ} {now : Moment} {event : TimerEvent τ}
    {entry : TimerEntry τ} (started : (timer.perform now event).1 = some (.started entry)) :
    event = .takeDue := by
  cases event with
  | takeDue => rfl
  | schedule | rescheduleAll =>
    simp only [Timer.perform] at started
    split at started <;> simp at started
  | hasNext within =>
    simp only [Timer.perform] at started
    cases answered : (timer.hasNext now within).1 <;> simp [answered] at started
  | cancel | shutdown | wait | putBack => contradiction

/-- A task that starts waited on the heap, is due, and no other that waited comes before it. -/
theorem Refines.of_started {timer : Timer τ} {ideal : IdealTimer τ} (h : Refines timer ideal)
    {now : Moment} {event : TimerEvent τ} {entry : TimerEntry τ}
    (started : (timer.perform now event).1 = some (.started entry)) :
    entry ∈ timer.waiting ∧ entry.due ≤ now ∧
      ∀ other ∈ timer.waiting, other.before entry = false := by
  obtain rfl := eq_takeDue_of_started started
  change (if timer.running.isSome then none
    else (timer.takeDue now).running.map TimerAnswer.started) = _ at started
  rcases timer.busy_or_idle with busy | ⟨idle, goesOn⟩
  · rw [takeDue_of_busy now busy] at started
    cases running : timer.running <;> simp [running] at started
  · obtain ⟨-, -, first, -⟩ := takeDue_first h.ordered now idle goesOn
    obtain ⟨-, taken⟩ := takeDue_spec timer now idle goesOn
    rw [idle, Option.isSome_none, if_neg Bool.false_ne_true] at started
    obtain ⟨other, running, same⟩ := Option.map_eq_some_iff.mp started
    obtain rfl := TimerAnswer.started.inj same
    rcases taken with ⟨stays, -⟩ | ⟨taken, isTaken, -, due, waiting⟩
    · rw [stays] at running
      contradiction
    · obtain rfl := Option.some.inj (isTaken.symm.trans running)
      exact ⟨waiting.mem_iff.mpr List.mem_cons_self, due, first taken running⟩

/-- A timer that runs no more tasks starts none, whatever happens. -/
theorem perform_of_stopped {timer : Timer τ} (stopped : timer.stopped = true) (now : Moment)
    (event : TimerEvent τ) :
    (timer.perform now event).2.stopped = true ∧
      ∀ entry, (timer.perform now event).1 ≠ some (.started entry) := by
  constructor
  · cases event with
    | schedule delay task =>
      dsimp only [Timer.perform, scheduleAfter?]
      cases timer.after? now delay <;> exact stopped
    | cancel handle =>
      show (if handle < timer.handles then timer.cancel handle else timer).stopped = true
      split
      · exact (cancel_spec timer handle).2.2.2.1.trans stopped
      · exact stopped
    | rescheduleAll delay =>
      dsimp only [Timer.perform, rescheduleAllAfter?]
      cases timer.after? now delay with
      | none => exact stopped
      | some due => exact (sameMarks_rescheduleAll timer due).1.stopped.trans stopped
    | hasNext within =>
      show (timer.hasNext now within).2.stopped = true
      rw [hasNext_snd]
      exact stopped
    | shutdown => rfl
    | wait time => exact stopped
    | takeDue =>
      show (timer.takeDue now).stopped = true
      rw [takeDue_of_busy now (.inl stopped)]
      exact stopped
    | putBack again =>
      show (timer.putBack now again).stopped = true
      cases breaks : timer.breaksAt now again with
      | true => rw [putBack_of_breaks breaks]
      | false => exact (sameMarks_putBack breaks).stopped.trans stopped
  · intro entry started
    obtain rfl := eq_takeDue_of_started started
    change (if timer.running.isSome then none
      else (timer.takeDue now).running.map TimerAnswer.started) = _ at started
    rw [takeDue_of_busy now (.inl stopped)] at started
    cases running : timer.running <;> simp [running] at started

end Timer

/-! ## A run -/

namespace TimerSystem

/-- A task with a retired handle never starts. -/
theorem Refines.never_starts {system : TimerSystem τ} {ideal : IdealSystem τ}
    (h : Refines system ideal) {handle : Nat} (retired : system.timer.Retired handle)
    (later : List (TimerEvent τ)) :
    ∃ answers, (system.run later).answers = system.answers ++ answers ∧
      ∀ entry, .started entry ∈ answers → entry.handle ≠ handle := by
  induction later generalizing system ideal with
  | nil => exact ⟨[], (List.append_nil _).symm, fun entry member => absurd member List.not_mem_nil⟩
  | cons event later ih =>
    have passes := h.timer.passes h.sound system.clock event
    obtain ⟨answers, seen, others⟩ := ih (h.step event) (passes.retired retired)
    refine ⟨(system.timer.perform system.clock event).1.toList ++ answers, ?_, ?_⟩
    · rw [← List.append_assoc]
      exact seen
    · intro entry member
      rcases List.mem_append.mp member with now | afterwards
      · have waits := (h.timer.of_started (Option.mem_toList.mp now)).1
        exact retired.2 entry (Timer.mem_live.mpr (.inr waits))
      · exact others entry afterwards

/-- No task starts any more once the timer runs no more tasks. -/
theorem none_starts {system : TimerSystem τ} (stopped : system.timer.stopped = true)
    (later : List (TimerEvent τ)) :
    ∃ answers, (system.run later).answers = system.answers ++ answers ∧
      ∀ entry, .started entry ∉ answers := by
  induction later generalizing system with
  | nil => exact ⟨[], (List.append_nil _).symm, fun _ => List.not_mem_nil⟩
  | cons event later ih =>
    obtain ⟨stays, startsNone⟩ := Timer.perform_of_stopped stopped system.clock event
    have stillStopped : (system.step event).timer.stopped = true := stays
    obtain ⟨answers, seen, none⟩ := ih stillStopped
    refine ⟨(system.timer.perform system.clock event).1.toList ++ answers, ?_, ?_⟩
    · rw [← List.append_assoc]
      exact seen
    · intro entry member
      rcases List.mem_append.mp member with now | afterwards
      · exact startsNone entry (Option.mem_toList.mp now)
      · exact none entry afterwards

end TimerSystem

/-- After any sequence of calls, a timer and an ideal one that went through the same calls have run
the same tasks in the same order and given the same answers, and the same tasks are live, none of
them twice. The question whether a task is due within a time fails exactly when live tasks wait and
the clock cannot show the end of that time; otherwise the answer is whether some live task on the
heap is due by then. A task that starts is a live one which is due and which no other comes before.
No event loses a live task unless it ends it, and a task that is ended never starts again. When a
task cannot be put back because the clock cannot show when it is due, no task ever starts again. -/
theorem timer_refines_ideal (lastMoment? : Option Moment) (clock : Moment)
    (events : List (TimerEvent τ)) :
    let start : TimerSystem τ := { timer := { lastMoment? }, clock }
    let system := start.run events
    let ideal := IdealSystem.run { timer := { lastMoment? }, clock } (start.withOrders events)
    let timer := system.timer
    system.answers = ideal.answers ∧ timer.live.Perm ideal.timer.live ∧
      (timer.live.map (·.handle)).Nodup ∧
      (∀ within,
        ((timer.hasNext system.clock within).1 = none ↔
          timer.waiting ≠ [] ∧ timer.after? system.clock within = none) ∧
        ∀ answer, (timer.hasNext system.clock within).1 = some answer →
          (answer = true ↔ ∃ entry ∈ timer.waiting, entry.due ≤ system.clock + within)) ∧
      (∀ event entry, (timer.perform system.clock event).1 = some (.started entry) →
        entry ∈ timer.waiting ∧ entry.due ≤ system.clock ∧
          ∀ other ∈ timer.waiting, other.before entry = false) ∧
      (∀ event, ∀ entry ∈ timer.live,
        entry.key ∈ (system.step event).timer.keys ∨
          timer.Ends system.clock event entry.handle) ∧
      (∀ event handle, timer.Ends system.clock event handle → ∀ later, ∃ answers,
        (system.run (event :: later)).answers = (system.step event).answers ++ answers ∧
          ∀ entry, .started entry ∈ answers → entry.handle ≠ handle) ∧
      ∀ again, timer.breaksAt system.clock again = true → ∀ later, ∃ answers,
        (system.run (.putBack again :: later)).answers = system.answers ++ answers ∧
          ∀ entry, .started entry ∉ answers := by
  intro start system ideal timer
  have h : TimerSystem.Refines system ideal :=
    (TimerSystem.Refines.new lastMoment? clock).run events
  refine ⟨h.answers, h.timer.live, h.timer.named h.sound, fun within => ?_, ?_, ?_, ?_, ?_⟩
  · exact h.timer.hasNext_spec system.clock within
  · intro event entry started
    exact h.timer.of_started started
  · intro event entry alive
    have passes := h.timer.passes h.sound system.clock event
    exact passes.kept _ (Timer.mem_keys.mpr ⟨entry, alive, rfl⟩)
  · intro event handle ends later
    exact (h.step event).never_starts (h.timer.retired_of_ends h.sound system.clock ends) later
  · intro again breaks later
    have broken : (system.step (.putBack again)).timer.stopped = true := by
      show (timer.putBack system.clock again).stopped = true
      rw [Timer.putBack_of_breaks breaks]
    obtain ⟨answers, seen, none⟩ := TimerSystem.none_starts broken later
    refine ⟨answers, seen.trans ?_, none⟩
    show system.answers ++ [] ++ answers = _
    rw [List.append_nil]

/-- With a clock that ends, the question whether a task that is due in a second is due within the
longest time fails, and a task that is to run again after that time takes the others with it. -/
theorem not_timer_refines_ideal_longestDelay :
    let start : TimerSystem String := { timer := { lastMoment? := some Moment.last } }
    let second := Duration.ofSeconds 1
    (start.run [.schedule second "a", .hasNext Duration.longest]).answers =
        [.added 0, .failed] ∧
      let system := start.run [.schedule Duration.zero "a", .schedule second "b", .takeDue,
        .putBack (some Duration.longest), .wait second, .takeDue]
      system.answers = [.added 0, .added 1, .started ⟨Duration.zero, 1, 0, "a"⟩] ∧
        system.timer.live.map (·.task) = ["b"] := by
  decide +kernel

end ChannelAccess
