import Mathlib.Data.List.Nodup
import ChannelAccess.Timer.Basic

/-!
# A timer that forgets

An ideal timer keeps the tasks that wait in a plain list and forgets a task as soon as it is
cancelled, also one that is being run. It runs the task that comes first (`IdealTimer.next?`), and
looks for it among all that wait.

`IdealTimer.Sound` says that entries are told apart by their numbers and tasks by their handles;
every operation keeps it, so that there is only one task that comes first.
-/

namespace ChannelAccess

/-- What becomes of the task that is being run. -/
inductive TaskRun (τ : Type) where
  /-- No task is being run. -/
  | idle
  /-- The task may be put back after its run. -/
  | runs (entry : TimerEntry τ)
  /-- The task was cancelled during its run, and only the run goes on. -/
  | forgotten
  deriving DecidableEq, Repr

/-- The task that may be put back. -/
def TaskRun.task? {τ : Type} : TaskRun τ → Option (TimerEntry τ)
  | runs entry => some entry
  | _ => none

/-- Tasks that wait for their time, none of them cancelled. -/
structure IdealTimer (τ : Type) where
  /-- The tasks that wait. -/
  waiting : List (TimerEntry τ) := []
  /-- The task that is being run. -/
  run : TaskRun τ := .idle
  /-- Entries made so far. -/
  sequence : Nat := 0
  /-- Handles given out so far. -/
  handles : Nat := 0
  /-- The timer runs no more tasks. -/
  stopped : Bool := false
  /-- The last moment that the clock can show, if there is one. -/
  lastMoment? : Option Moment := none
  deriving Repr

namespace IdealTimer

variable {τ : Type}

/-- The moment after a delay, if the clock can show it. -/
def after? (ideal : IdealTimer τ) (now : Moment) (delay : Duration) : Option Moment :=
  Moment.after? ideal.lastMoment? now delay

/-- The tasks that wait or are being run. -/
def live (ideal : IdealTimer τ) : List (TimerEntry τ) := ideal.run.task?.toList ++ ideal.waiting

/-- The entry that is made next. -/
def nextEntry (ideal : IdealTimer τ) (due : Moment) (handle : Nat) (task : τ) : TimerEntry τ :=
  { due, sequence := ideal.sequence + 1, handle, task }

/-- Lets a task wait. -/
def push (ideal : IdealTimer τ) (due : Moment) (handle : Nat) (task : τ) : IdealTimer τ :=
  { ideal with
    waiting := ideal.waiting ++ [ideal.nextEntry due handle task]
    sequence := ideal.sequence + 1 }

/-- Lets some tasks wait, all of them until the same moment. -/
def pushAll (ideal : IdealTimer τ) (due : Moment) (entries : List (TimerEntry τ)) : IdealTimer τ :=
  entries.foldl (fun ideal entry => ideal.push due entry.handle entry.task) ideal

/-- Adds a task that is due at a moment. -/
def schedule (ideal : IdealTimer τ) (due : Moment) (task : τ) : IdealTimer τ :=
  { ideal.push due ideal.handles task with handles := ideal.handles + 1 }

/-- Forgets a task, whether it waits or is being run. -/
def cancel (ideal : IdealTimer τ) (handle : Nat) : IdealTimer τ :=
  { ideal with
    waiting := ideal.waiting.filter (·.handle != handle)
    run :=
      match ideal.run with
      | .runs entry => if entry.handle = handle then .forgotten else .runs entry
      | run => run }

/-- Some task is due within a time from now. That cannot be said if tasks wait and the clock cannot
show the end of that time. -/
def hasNext (ideal : IdealTimer τ) (now : Moment) (within : Duration) : Option Bool :=
  if ideal.waiting = [] then some false
  else (ideal.after? now within).map fun limit => ideal.waiting.any (·.due ≤ limit)

/-- The tasks that wait, in some order of their handles. -/
def arranged (ideal : IdealTimer τ) (order : List Nat) : List (TimerEntry τ) :=
  ideal.waiting.mergeSort fun a b => order.idxOf a.handle ≤ order.idxOf b.handle

/-- Makes all tasks that wait due at a moment, to follow each other in some order of their
handles. -/
def rescheduleAll (ideal : IdealTimer τ) (due : Moment) (order : List Nat) : IdealTimer τ :=
  { ideal with waiting := [] }.pushAll due (ideal.arranged order)

/-- Drops all tasks that wait and runs none from now on. -/
def shutdown (ideal : IdealTimer τ) : IdealTimer τ := { ideal with waiting := [], stopped := true }

/-- The task that comes first among those that wait. -/
def next? (ideal : IdealTimer τ) : Option (TimerEntry τ) :=
  ideal.waiting.find? fun entry => ideal.waiting.all fun other => !other.before entry

/-- Runs the task that comes first, if it is due and no other task is being run. -/
def takeDue (ideal : IdealTimer τ) (now : Moment) : IdealTimer τ :=
  match ideal.stopped, ideal.run, ideal.next? with
  | false, .idle, some entry =>
    if entry.due ≤ now then
      { ideal with
        waiting := ideal.waiting.filter (·.handle != entry.handle)
        run := .runs entry }
    else ideal
  | _, _, _ => ideal

/-- Ends the run of a task, which waits again if it is to run again after some delay and neither
was cancelled nor the timer shut down. If the clock cannot show when it is due, the timer runs no
more tasks. -/
def putBack (ideal : IdealTimer τ) (now : Moment) (again : Option Duration) : IdealTimer τ :=
  let idle := { ideal with run := .idle }
  match ideal.run, again, ideal.stopped with
  | .runs entry, some delay, false =>
    match ideal.after? now delay with
    | some due => idle.push due entry.handle entry.task
    | none => { idle with stopped := true }
  | _, _, _ => idle

/-! ## Numbers and handles -/

/-- Entries are told apart by their numbers and tasks by their handles. -/
structure Sound (ideal : IdealTimer τ) : Prop where
  /-- No two entries have the same number. -/
  numbered : (ideal.waiting.map (·.sequence)).Nodup
  /-- The numbers were given out. -/
  counted : ∀ entry ∈ ideal.waiting, entry.sequence ≤ ideal.sequence
  /-- No two tasks have the same handle. -/
  named : (ideal.live.map (·.handle)).Nodup
  /-- The handles were given out. -/
  given : ∀ entry ∈ ideal.live, entry.handle < ideal.handles

/-- A timer without tasks. -/
theorem Sound.empty (lastMoment? : Option Moment) : Sound ({ lastMoment? } : IdealTimer τ) where
  numbered := List.nodup_nil
  counted := fun _ member => absurd member List.not_mem_nil
  named := List.nodup_nil
  given := fun _ member => absurd member List.not_mem_nil

/-- Dropping tasks keeps the others apart. -/
theorem Sound.of_sublist {ideal fewer : IdealTimer τ} (h : ideal.Sound)
    (waiting : fewer.waiting.Sublist ideal.waiting) (live : fewer.live.Sublist ideal.live)
    (sequence : fewer.sequence = ideal.sequence) (handles : fewer.handles = ideal.handles) :
    fewer.Sound where
  numbered := h.numbered.sublist (waiting.map _)
  counted := fun entry member => sequence ▸ h.counted entry (waiting.subset member)
  named := h.named.sublist (live.map _)
  given := fun entry member => handles ▸ h.given entry (live.subset member)

theorem mem_live_of_mem_waiting {ideal : IdealTimer τ} {entry : TimerEntry τ}
    (waits : entry ∈ ideal.waiting) : entry ∈ ideal.live :=
  List.mem_append_right _ waits

theorem live_push (ideal : IdealTimer τ) (due : Moment) (handle : Nat) (task : τ) :
    (ideal.push due handle task).live = ideal.live ++ [ideal.nextEntry due handle task] :=
  (List.append_assoc _ _ _).symm

/-- A task with a handle that is in use nowhere may be added. -/
theorem Sound.push {ideal : IdealTimer τ} (h : ideal.Sound) (due : Moment) {handle : Nat}
    (task : τ) (given : handle < ideal.handles) (free : handle ∉ ideal.live.map (·.handle)) :
    (ideal.push due handle task).Sound := by
  constructor
  · have unused : ideal.sequence + 1 ∉ ideal.waiting.map (·.sequence) := by
      intro member
      obtain ⟨entry, waits, same⟩ := List.mem_map.mp member
      have bound := h.counted entry waits
      omega
    show ((ideal.waiting ++ [ideal.nextEntry due handle task]).map (·.sequence)).Nodup
    rw [List.map_append]
    exact List.nodup_append_comm.mp (List.nodup_cons.mpr ⟨unused, h.numbered⟩)
  · intro entry member
    rcases List.mem_append.mp member with earlier | new
    · exact Nat.le_succ_of_le (h.counted entry earlier)
    · rw [List.mem_singleton.mp new]
      exact Nat.le_refl _
  · rw [live_push, List.map_append]
    exact List.nodup_append_comm.mp (List.nodup_cons.mpr ⟨free, h.named⟩)
  · intro entry member
    rw [live_push] at member
    rcases List.mem_append.mp member with earlier | new
    · exact h.given entry earlier
    · rw [List.mem_singleton.mp new]
      exact given

/-- Tasks with handles that are in use nowhere may be added one after the other. -/
theorem Sound.pushAll {ideal : IdealTimer τ} (h : ideal.Sound) (due : Moment)
    {entries : List (TimerEntry τ)} (given : ∀ entry ∈ entries, entry.handle < ideal.handles)
    (apart : (ideal.live.map (·.handle) ++ entries.map (·.handle)).Nodup) :
    (ideal.pushAll due entries).Sound := by
  induction entries generalizing ideal with
  | nil => exact h
  | cons entry later ih =>
    have free : entry.handle ∉ ideal.live.map (·.handle) := by
      intro used
      exact (List.nodup_append.mp apart).2.2 _ used _ List.mem_cons_self rfl
    refine ih (h.push due entry.task (given entry List.mem_cons_self) free)
      (fun other isLater => given other (List.mem_cons_of_mem _ isLater)) ?_
    rw [live_push, List.map_append, List.append_assoc]
    exact apart

/-- A new task gets a handle of its own. -/
theorem Sound.schedule {ideal : IdealTimer τ} (h : ideal.Sound) (due : Moment) (task : τ) :
    (ideal.schedule due task).Sound := by
  have wider : Sound { ideal with handles := ideal.handles + 1 } :=
    ⟨h.numbered, h.counted, h.named, fun entry member => Nat.lt_succ_of_lt (h.given entry member)⟩
  refine wider.push due task (Nat.lt_succ_self _) ?_
  intro used
  obtain ⟨entry, member, same⟩ := List.mem_map.mp used
  exact absurd (h.given entry member) (by omega)

theorem live_cancel_sublist (ideal : IdealTimer τ) (handle : Nat) :
    (ideal.cancel handle).live.Sublist ideal.live := by
  refine List.Sublist.append ?_ List.filter_sublist
  rw [cancel]
  dsimp only
  split
  · rename_i entry running
    rw [running]
    split
    · exact List.nil_sublist _
    · exact List.Sublist.refl _
  · exact List.Sublist.refl _

theorem Sound.cancel {ideal : IdealTimer τ} (h : ideal.Sound) (handle : Nat) :
    (ideal.cancel handle).Sound :=
  h.of_sublist List.filter_sublist (live_cancel_sublist ideal handle) rfl rfl

/-- A handle that was not given out is that of no task. -/
theorem Sound.cancel_of_le {ideal : IdealTimer τ} (h : ideal.Sound) {handle : Nat}
    (notGiven : ideal.handles ≤ handle) : ideal.cancel handle = ideal := by
  have differs : ∀ entry ∈ ideal.live, entry.handle ≠ handle := by
    intro entry member same
    have given := h.given entry member
    omega
  have waiting : ideal.waiting.filter (·.handle != handle) = ideal.waiting :=
    List.filter_eq_self.mpr fun entry waits =>
      bne_iff_ne.mpr (differs entry (mem_live_of_mem_waiting waits))
  rw [IdealTimer.cancel, waiting]
  cases running : ideal.run with
  | idle => simp only [← running]
  | forgotten => simp only [← running]
  | runs entry =>
    have isLive : entry ∈ ideal.live := by
      rw [live, running]
      exact List.mem_cons_self
    simp only [if_neg (differs entry isLive), ← running]

theorem Sound.rescheduleAll {ideal : IdealTimer τ} (h : ideal.Sound) (due : Moment)
    (order : List Nat) : (ideal.rescheduleAll due order).Sound := by
  have same : (ideal.arranged order).Perm ideal.waiting := List.mergeSort_perm _ _
  have emptied : Sound { ideal with waiting := [] } :=
    h.of_sublist (List.nil_sublist _) (List.Sublist.append (List.Sublist.refl _)
      (List.nil_sublist _)) rfl rfl
  refine emptied.pushAll due (fun entry member => ?_) ?_
  · exact h.given entry (mem_live_of_mem_waiting (same.mem_iff.mp member))
  · have parts := h.named
    rw [live, List.map_append] at parts
    rw [live, List.append_nil]
    exact ((same.map _).append_left _).nodup_iff.mpr parts

theorem Sound.shutdown {ideal : IdealTimer τ} (h : ideal.Sound) : ideal.shutdown.Sound :=
  h.of_sublist (List.nil_sublist _)
    (List.Sublist.append (List.Sublist.refl _) (List.nil_sublist _)) rfl rfl

/-! ## The task that comes first -/

/-- Of two entries that do not come before each other both are due at once, with one number. -/
theorem sequence_eq_of_not_before {a b : TimerEntry τ} (hab : a.before b = false)
    (hba : b.before a = false) : a.sequence = b.sequence := by
  simp only [TimerEntry.before, Bool.or_eq_false_iff, Bool.and_eq_false_iff,
    decide_eq_false_iff_not, Duration.lt_def, beq_eq_false_iff_ne, ne_eq,
    Duration.ext_iff] at hab hba
  omega

/-- The task that comes first waits, and no other comes before it. -/
theorem of_next? {ideal : IdealTimer τ} {entry : TimerEntry τ} (h : ideal.next? = some entry) :
    entry ∈ ideal.waiting ∧ ∀ other ∈ ideal.waiting, other.before entry = false := by
  rw [next?] at h
  refine ⟨List.mem_of_find?_eq_some h, fun other waits => ?_⟩
  have holds := List.find?_some h
  exact (Bool.not_eq_true' _).mp (List.all_eq_true.mp holds other waits)

/-- A task that waits and that no other comes before is the one that comes first. -/
theorem Sound.next?_eq {ideal : IdealTimer τ} (h : ideal.Sound) {entry : TimerEntry τ}
    (waits : entry ∈ ideal.waiting) (first : ∀ other ∈ ideal.waiting, other.before entry = false) :
    ideal.next? = some entry := by
  have found : ideal.next?.isSome := by
    refine List.find?_isSome.mpr ⟨entry, waits, List.all_eq_true.mpr fun other isOther => ?_⟩
    rw [first other isOther]
    rfl
  -- Whatever is found does not come after the entry, and so has its number.
  obtain ⟨other, isNext⟩ := Option.isSome_iff_exists.mp found
  obtain ⟨otherWaits, otherFirst⟩ := of_next? isNext
  have same := sequence_eq_of_not_before (otherFirst entry waits) (first other otherWaits)
  rw [isNext, List.inj_on_of_nodup_map h.numbered waits otherWaits same]

/-- What `takeDue` does: nothing, or it runs a task that waits, is due and comes first. -/
theorem takeDue_spec (ideal : IdealTimer τ) (now : Moment) :
    ideal.takeDue now = ideal ∨
      ∃ entry, ideal.stopped = false ∧ ideal.run = .idle ∧ ideal.next? = some entry ∧
        entry.due ≤ now ∧
        ideal.takeDue now =
          { ideal with
            waiting := ideal.waiting.filter (·.handle != entry.handle)
            run := .runs entry } := by
  unfold takeDue
  split
  · rename_i entry goesOn idle isNext
    by_cases due : entry.due ≤ now
    · rw [if_pos due]
      exact .inr ⟨entry, goesOn, idle, isNext, due, rfl⟩
    · rw [if_neg due]
      exact .inl rfl
  · exact .inl rfl

theorem live_of_idle {ideal : IdealTimer τ} (idle : ideal.run = .idle) :
    ideal.live = ideal.waiting := by
  rw [live, idle]
  rfl

/-- Taking a task that waits out of the others and putting it in front changes no task. -/
theorem Sound.perm_cons_filter {ideal : IdealTimer τ} (h : ideal.Sound) {entry : TimerEntry τ}
    (waits : entry ∈ ideal.waiting) :
    (entry :: ideal.waiting.filter (·.handle != entry.handle)).Perm ideal.waiting := by
  have handles : (ideal.waiting.map (·.handle)).Nodup :=
    h.named.sublist ((List.sublist_append_right _ _).map _)
  obtain ⟨front, back, isSplit⟩ := List.append_of_mem waits
  rw [isSplit, List.map_append, List.map_cons, List.nodup_middle, List.nodup_cons,
    ← List.map_append] at handles
  have others : ∀ other ∈ front ++ back, (other.handle != entry.handle) = true := by
    intro other member
    refine bne_iff_ne.mpr fun same => handles.1 ?_
    rw [← same]
    exact List.mem_map_of_mem member
  have kept : ideal.waiting.filter (·.handle != entry.handle) = front ++ back := by
    rw [isSplit, List.filter_append, List.filter_cons_of_neg (by simp), ← List.filter_append]
    exact List.filter_eq_self.mpr others
  rw [kept, isSplit]
  exact List.perm_middle.symm

theorem Sound.takeDue {ideal : IdealTimer τ} (h : ideal.Sound) (now : Moment) :
    (ideal.takeDue now).Sound := by
  rcases takeDue_spec ideal now with same | ⟨entry, -, idle, isNext, -, taken⟩
  · rw [same]
    exact h
  · have waits := (of_next? isNext).1
    have parts := h.perm_cons_filter waits
    have named := h.named
    have given := h.given
    rw [live_of_idle idle] at named given
    rw [taken]
    exact
      { numbered := h.numbered.sublist (List.filter_sublist.map _)
        counted := fun other member => h.counted other (List.mem_filter.mp member).1
        named := (parts.map _).nodup_iff.mpr named
        given := fun other member => given other (parts.mem_iff.mp member) }

/-- What `putBack` does: it ends the run, perhaps for good, or lets the task wait again. -/
theorem putBack_spec (ideal : IdealTimer τ) (now : Moment) (again : Option Duration) :
    (∃ stopped, ideal.putBack now again = { ideal with run := .idle, stopped }) ∨
      ∃ entry delay due, ideal.run = .runs entry ∧ again = some delay ∧ ideal.stopped = false ∧
        ideal.after? now delay = some due ∧
        ideal.putBack now again =
          { ideal with run := .idle }.push due entry.handle entry.task := by
  unfold putBack
  dsimp only
  split
  · rename_i entry delay running goesOn
    cases isDue : ideal.after? now delay with
    | some due => exact .inr ⟨entry, delay, due, running, rfl, goesOn, isDue, rfl⟩
    | none => exact .inl ⟨true, rfl⟩
  · exact .inl ⟨ideal.stopped, rfl⟩

/-- Ending a run leaves the tasks that wait. -/
theorem Sound.endRun {ideal : IdealTimer τ} (h : ideal.Sound) (stopped : Bool) :
    Sound { ideal with run := .idle, stopped } :=
  h.of_sublist (List.Sublist.refl _) (List.sublist_append_right _ _) rfl rfl

theorem Sound.putBack {ideal : IdealTimer τ} (h : ideal.Sound) (now : Moment)
    (again : Option Duration) : (ideal.putBack now again).Sound := by
  rcases putBack_spec ideal now again with
    ⟨stopped, ended⟩ | ⟨entry, delay, due, running, -, -, -, back⟩
  · rw [ended]
    exact h.endRun stopped
  · have parts := h.named
    have given := h.given
    rw [live, running] at parts given
    rw [back]
    refine (h.endRun ideal.stopped).push due entry.task (given entry List.mem_cons_self) ?_
    exact (List.nodup_cons.mp parts).1

end IdealTimer

end ChannelAccess
