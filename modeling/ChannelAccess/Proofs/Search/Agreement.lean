import ChannelAccess.Proofs.Search.Operations
import Mathlib.Data.List.Nodup

/-!
# Searches in progress and the tasks of the timer

`SearchManager.Agrees` says that the searches in progress and the live tasks of the timer are the
same ones: each search has one task, with its handle and its channel's number, and there are no
others. Only a search whose task was lost, because a run of it failed, may be without one. Every
operation of the manager keeps this.
-/

namespace ChannelAccess.SearchManager

/-- The searches in progress are the live tasks of the timer, but for searches whose tasks are among
those with the lost handles. -/
structure Agrees (manager : SearchManager) (lost : List Nat := []) : Prop where
  /-- There is a next interval after each. -/
  ordered : manager.config.Ordered
  /-- At most one search is in progress for each channel. -/
  channels : (manager.tasks.map Prod.snd).Nodup
  /-- No two searches share a task. -/
  handles : (manager.tasks.map Prod.fst).Nodup
  /-- The handles of the searches were given out. -/
  given : ∀ task ∈ manager.tasks, task.1 < manager.timer.handles
  /-- Only handles that were given out are cancelled. -/
  marked : ∀ handle ∈ manager.timer.cancelled, handle < manager.timer.handles
  /-- The thread of the timer ends with a lost task only, and runs none then. -/
  ended : manager.timer.stopped = true → manager.timer.running = none ∧ lost ≠ []
  /-- Each search has one live task or has lost it, and there are no other live tasks. -/
  accounted : ∃ missing, (manager.timer.live.map TimerEntry.key ++ missing).Perm manager.tasks ∧
    ∀ task ∈ missing, task.1 ∈ lost

/-- When no task was lost, each search has one live task, and there are no others. -/
theorem Agrees.matched {manager : SearchManager} (h : manager.Agrees) :
    (manager.timer.live.map TimerEntry.key).Perm manager.tasks := by
  obtain ⟨missing, matched, isLost⟩ := h.accounted
  obtain rfl : missing = [] :=
    List.eq_nil_iff_forall_not_mem.mpr fun task member => nomatch isLost task member
  rwa [List.append_nil] at matched

/-- When no task was lost, the timer still runs tasks. -/
theorem Agrees.goesOn {manager : SearchManager} (h : manager.Agrees) :
    manager.timer.stopped = false :=
  Bool.eq_false_iff.mpr fun stopped => (h.ended stopped).2 rfl

/-- Every live task is that of a search in progress. -/
theorem Agrees.mem_tasks {manager : SearchManager} {lost : List Nat} (h : manager.Agrees lost)
    {entry : TimerEntry UInt32} (alive : entry ∈ manager.timer.live) :
    entry.key ∈ manager.tasks := by
  obtain ⟨missing, matched, -⟩ := h.accounted
  exact matched.mem_iff.mp (List.mem_append_left _ (List.mem_map_of_mem alive))

/-- More tasks may be said to be lost than are. -/
theorem Agrees.mono {manager : SearchManager} {lost more : List Nat} (h : manager.Agrees lost)
    (subset : lost ⊆ more) : manager.Agrees more := by
  obtain ⟨missing, matched, isLost⟩ := h.accounted
  refine
    { h with
      ended := fun stopped => ⟨(h.ended stopped).1, fun none => (h.ended stopped).2 ?_⟩
      accounted := ⟨missing, matched, fun task member => subset (isLost task member)⟩ }
  rw [none] at subset
  exact List.subset_nil.mp subset

/-- With at most one search for each channel, searches for the same channel are the same. -/
theorem eq_of_channelId_eq {manager : SearchManager}
    (channels : (manager.tasks.map Prod.snd).Nodup) {search other : PendingSearch}
    (isPending : search ∈ manager.pending) (otherPending : other ∈ manager.pending)
    (same : search.channelId = other.channelId) : search = other := by
  rw [tasks, List.map_map] at channels
  exact List.inj_on_of_nodup_map channels isPending otherPending same

/-- With at most one search for each channel, looking for the channel of a search finds it. -/
theorem find?_of_mem {manager : SearchManager} {search : PendingSearch}
    (channels : (manager.tasks.map Prod.snd).Nodup) (h : search ∈ manager.pending) :
    manager.find? search.channelId = some search := by
  cases found : manager.find? search.channelId with
  | none => exact absurd rfl (find?_eq_none.mp found search h)
  | some other =>
    obtain ⟨isPending, same⟩ := mem_of_find? found
    rw [eq_of_channelId_eq channels isPending h same]

/-! ## The operations keep the agreement -/

/-- A new manager searches for nothing and has no task. -/
theorem Agrees.new {config : SearchConfig} (ordered : config.Ordered)
    (lastMoment? : Option Moment) : Agrees { config, timer := { lastMoment? } } where
  ordered := ordered
  channels := List.nodup_nil
  handles := List.nodup_nil
  given := fun _ member => absurd member List.not_mem_nil
  marked := fun _ member => absurd member List.not_mem_nil
  ended := nofun
  accounted := ⟨[], List.Perm.refl _, fun _ member => absurd member List.not_mem_nil⟩

/-- An operation that keeps the searches and the live tasks keeps the agreement. -/
theorem Agrees.congr {before after : SearchManager} {lost : List Nat} (h : before.Agrees lost)
    (same : SameSearches before after)
    (ended : before.timer.stopped = true → before.timer.running = none →
      after.timer.running = none)
    (live : (after.timer.live.map TimerEntry.key).Perm (before.timer.live.map TimerEntry.key)) :
    after.Agrees lost where
  ordered := by
    rw [same.config]
    exact h.ordered
  channels := by
    rw [same.tasks]
    exact h.channels
  handles := by
    rw [same.tasks]
    exact h.handles
  given := by
    rw [same.tasks, same.marks.handles]
    exact h.given
  marked := by
    rw [same.marks.cancelled, same.marks.handles]
    exact h.marked
  ended := by
    intro stopped
    rw [same.marks.stopped] at stopped
    obtain ⟨idle, some⟩ := h.ended stopped
    exact ⟨ended stopped idle, some⟩
  accounted := by
    obtain ⟨missing, matched, isLost⟩ := h.accounted
    rw [same.tasks]
    exact ⟨missing, (live.append_right missing).trans matched, isLost⟩

/-- Among tasks with distinct handles and distinct channels, those of other channels than that of
one task are those with other handles. -/
theorem Agrees.filter_tasks {manager : SearchManager} {lost : List Nat} (h : manager.Agrees lost)
    {handle : Nat} {channelId : UInt32} (isTask : (handle, channelId) ∈ manager.tasks) :
    manager.tasks.filter (·.2 != channelId) = manager.tasks.filter (·.1 != handle) := by
  refine List.filter_congr fun task member => ?_
  have same : task.2 = channelId ↔ task.1 = handle := by
    constructor
    · intro sameChannel
      rw [List.inj_on_of_nodup_map h.channels member isTask sameChannel]
    · intro sameHandle
      rw [List.inj_on_of_nodup_map h.handles member isTask sameHandle]
  rw [Bool.eq_iff_iff, bne_iff_ne, bne_iff_ne]
  exact not_congr same

/-- The end of a search keeps the agreement. -/
theorem Agrees.finish {manager : SearchManager} {lost : List Nat} (h : manager.Agrees lost)
    (channelId : UInt32) (status : ReplyStatus) :
    (manager.finish channelId status).Agrees lost := by
  cases found : manager.find? channelId with
  | none =>
    rw [finish_of_none found]
    exact h
  | some search =>
    obtain ⟨isPending, rfl⟩ := mem_of_find? found
    have isTask : (search.handle, search.channelId) ∈ manager.tasks :=
      List.mem_map_of_mem isPending
    have timer := timer_finish found status
    have tasks := tasks_finish manager search.channelId status
    have sublist : (manager.finish search.channelId status).tasks.Sublist manager.tasks := by
      rw [tasks]
      exact List.filter_sublist
    obtain ⟨-, running, handles, stopped, -⟩ := Timer.cancel_spec manager.timer search.handle
    refine
      { ordered := ?ordered
        channels := h.channels.sublist (sublist.map _)
        handles := h.handles.sublist (sublist.map _)
        given := ?given
        marked := ?marked
        ended := ?ended
        accounted := ?accounted }
    case ordered =>
      rw [(finish_spec manager search.channelId status).1]
      exact h.ordered
    case given =>
      intro task member
      rw [timer, handles]
      exact h.given task (sublist.subset member)
    case marked =>
      intro handle member
      rw [timer] at member ⊢
      rw [handles]
      rcases Timer.mem_cancelled_cancel member with rfl | earlier
      · exact h.given _ isTask
      · exact h.marked handle earlier
    case ended =>
      rw [timer, stopped, running]
      exact h.ended
    case accounted =>
      -- The search goes by its channel and the task by its handle, which tell the same ones.
      obtain ⟨missing, matched, isLost⟩ := h.accounted
      rw [timer, Timer.live_cancel, tasks, h.filter_tasks isTask]
      have kept := matched.filter (·.1 != search.handle)
      rw [List.filter_append, List.filter_map] at kept
      exact ⟨_, kept, fun task member => isLost task (List.mem_filter.mp member).1⟩

/-- The next handle to be given out is not cancelled. -/
theorem Agrees.fresh {manager : SearchManager} {lost : List Nat} (h : manager.Agrees lost) :
    manager.timer.isCancelled manager.timer.handles = false := by
  refine Bool.eq_false_iff.mpr fun cancelled => ?_
  exact Nat.lt_irrefl _ (h.marked _ (List.contains_iff_mem.mp cancelled))

/-- The start of a search for a channel that was not searched for keeps the agreement. -/
theorem Agrees.enter {manager : SearchManager} {lost : List Nat} (h : manager.Agrees lost)
    (now : Moment)
    {channelId : UInt32} (free : manager.find? channelId = none) (name : String)
    (reply : Option Nat) : (manager.enter now channelId name reply).Agrees lost := by
  have tasks := tasks_enter manager now channelId name reply
  refine
    { ordered := h.ordered
      channels := ?channels
      handles := ?handles
      given := ?given
      marked := fun handle member => Nat.lt_succ_of_lt (h.marked handle member)
      ended := h.ended
      accounted := ?accounted }
  case channels =>
    rw [tasks, List.map_append, List.map_singleton, List.nodup_append]
    refine ⟨h.channels, List.nodup_singleton _, ?_⟩
    intro other member new isNew same
    rw [List.mem_singleton.mp isNew] at same
    rw [SearchManager.tasks, List.map_map] at member
    obtain ⟨search, isPending, isOther⟩ := List.mem_map.mp member
    exact find?_eq_none.mp free search isPending (isOther.trans same)
  case handles =>
    rw [tasks, List.map_append, List.map_singleton, List.nodup_append]
    refine ⟨h.handles, List.nodup_singleton _, ?_⟩
    intro other member new isNew same
    rw [List.mem_singleton.mp isNew] at same
    obtain ⟨task, isTask, isOther⟩ := List.mem_map.mp member
    have given := h.given task isTask
    rw [isOther, same] at given
    exact Nat.lt_irrefl _ given
  case given =>
    intro task member
    show task.1 < manager.timer.handles + 1
    rw [tasks] at member
    rcases List.mem_append.mp member with earlier | isNew
    · exact Nat.lt_succ_of_lt (h.given task earlier)
    · rw [List.mem_singleton.mp isNew]
      exact Nat.lt_succ_self _
  case accounted =>
    -- The new task comes first among the live ones and its search last among those in progress.
    obtain ⟨missing, matched, isLost⟩ := h.accounted
    have scheduled := Timer.live_schedule manager.timer now channelId h.fresh
    refine ⟨missing, ?_, isLost⟩
    rw [tasks]
    calc ((manager.timer.schedule now channelId).live.map TimerEntry.key ++ missing).Perm
          ((manager.timer.handles, channelId) ::
            (manager.timer.live.map TimerEntry.key ++ missing)) :=
          (scheduled.map TimerEntry.key).append_right missing
      List.Perm _ ((manager.timer.handles, channelId) :: manager.tasks) := matched.cons _
      List.Perm _ (manager.tasks ++ [(manager.timer.handles, channelId)]) :=
          (List.perm_append_singleton _ _).symm

/-- The start of a search keeps the agreement. -/
theorem Agrees.start {manager : SearchManager} {lost : List Nat} (h : manager.Agrees lost)
    (now : Moment) (channelId : UInt32) (name : String) (reply : Option Nat) :
    (manager.start now channelId name reply).Agrees lost := by
  rw [start_eq]
  exact (h.finish channelId .closed).enter now (find?_finish manager channelId .closed) name reply

/-- The promise of a reply keeps the agreement. -/
theorem Agrees.promise {manager : SearchManager} {lost : List Nat} (h : manager.Agrees lost) :
    manager.promise.Agrees lost :=
  h.congr (sameSearches_promise manager) (fun _ idle => idle) (List.Perm.refl _)

/-- The start of a search with a promised reply keeps the agreement. -/
theorem Agrees.registerWithReply {manager : SearchManager} {lost : List Nat}
    (h : manager.Agrees lost) (now : Moment) (channelId : UInt32) (name : String) :
    (manager.registerWithReply now channelId name).Agrees lost := by
  rw [registerWithReply_eq]
  exact h.promise.start now channelId name (some manager.replies.size)

/-- Sending the datagram keeps the agreement. -/
theorem Agrees.flush {manager : SearchManager} {lost : List Nat} (h : manager.Agrees lost) :
    manager.flush.Agrees lost := by
  have timer := (flush_spec manager).2.1
  refine h.congr (sameSearches_flush manager) (fun _ idle => ?_) ?_
  · rw [timer, idle]
  · rw [timer]

/-- Sending the datagram unless a task is due soon keeps the agreement. -/
theorem Agrees.flushUnlessSoon {manager : SearchManager} {lost : List Nat}
    (h : manager.Agrees lost) (now : Moment) : (manager.flushUnlessSoon now).Agrees lost := by
  have timer := (flushUnlessSoon_spec manager now).2.1
  refine h.congr (sameSearches_flushUnlessSoon manager now) (fun _ idle => ?_) ?_
  · rw [timer, Timer.hasNext_snd]
    exact idle
  · rw [timer]
    exact (Timer.live_hasNext manager.timer now _).map TimerEntry.key

/-- The end of a search that was given up keeps the agreement. -/
theorem Agrees.unregister {manager : SearchManager} {lost : List Nat} (h : manager.Agrees lost)
    (now : Moment) (channelId : UInt32) :
    (manager.unregister now channelId).2.Agrees lost := by
  rw [unregister_eq]
  split
  · exact (h.finish channelId .closed).flushUnlessSoon now
  · exact h

/-- The end of a search that was answered keeps the agreement. -/
theorem Agrees.searchResponse {manager : SearchManager} {lost : List Nat}
    (h : manager.Agrees lost) (result : SearchResult) :
    (manager.searchResponse result).2.Agrees lost := by
  rw [searchResponse_eq]
  exact h.finish result.channelId (.answered result)

/-- Going on from the shortest interval keeps the agreement. -/
theorem Agrees.resetDelays {manager : SearchManager} {lost : List Nat} (h : manager.Agrees lost) :
    manager.resetDelays.Agrees lost :=
  h.congr (sameSearches_resetDelays manager) (fun _ idle => idle) (List.Perm.refl _)

/-- Making all tasks due at once keeps the agreement. -/
theorem Agrees.hurry {manager : SearchManager} {lost : List Nat} (h : manager.Agrees lost)
    (now : Moment) : (manager.hurry now).Agrees lost := by
  obtain ⟨marks, running⟩ := Timer.sameMarks_rescheduleAll manager.timer now
  have waiting := (Timer.waiting_rescheduleAll manager.timer now).1
  refine h.congr (sameSearches_hurry manager now) (fun _ idle => running.trans idle) ?_
  show ((manager.timer.rescheduleAll now).live.map TimerEntry.key).Perm _
  rw [Timer.live, running, marks.isLive_eq, List.map_append, Timer.live, List.map_append]
  exact waiting.append_left _

/-- Taking a task off the heap to run it keeps the agreement. -/
theorem Agrees.takeDue {manager : SearchManager} {lost : List Nat} (h : manager.Agrees lost)
    (now : Moment) : (manager.takeDue now).Agrees lost := by
  refine h.congr (sameSearches_takeDue manager now) (fun stopped idle => ?_)
    ((Timer.live_takeDue manager.timer now).map TimerEntry.key)
  show (manager.timer.takeDue now).running = none
  rw [Timer.takeDue_of_busy now (.inl stopped), idle]

/-- Making a request keeps the agreement. -/
theorem Agrees.request {manager : SearchManager} {lost : List Nat} (h : manager.Agrees lost)
    (now : Moment) : (manager.request now).2.Agrees lost := by
  refine h.congr (sameSearches_request manager now)
    (fun _ idle => (running_request manager now).trans idle) ?_
  rw [request_eq]
  split
  · exact List.Perm.refl _
  · rename_i search _
    rw [(addRequest_spec manager now search).2.1]
    exact (Timer.live_hasNext manager.timer now _).map TimerEntry.key

/-- Lengthening an interval keeps the agreement. -/
theorem Agrees.advance {manager : SearchManager} {lost : List Nat} (h : manager.Agrees lost) :
    manager.advance.2.Agrees lost := by
  obtain ⟨same, timer⟩ := advance_spec manager
  refine h.congr same (fun _ idle => ?_) ?_
  · rw [timer, idle]
  · rw [timer]

/-- A run that fails loses the task, and may end the timer's thread. -/
theorem Agrees.lose {manager : SearchManager} {lost : List Nat} (h : manager.Agrees lost)
    {entry : TimerEntry UInt32} (running : manager.timer.running = some entry)
    (isLost : entry.handle ∈ lost) (stopped : Bool) :
    Agrees { manager with timer := { manager.timer with running := none, stopped } } lost where
  ordered := h.ordered
  channels := h.channels
  handles := h.handles
  given := h.given
  marked := h.marked
  ended := fun _ => ⟨rfl, List.ne_nil_of_mem isLost⟩
  accounted := by
    obtain ⟨missing, matched, areLost⟩ := h.accounted
    cases alive : manager.timer.isLive entry with
    | true =>
      refine ⟨entry.key :: missing, ?_, fun task member => ?_⟩
      · rw [Timer.live, running, Option.toList_some, List.filter_cons_of_pos alive] at matched
        exact List.perm_middle.trans matched
      · rcases List.mem_cons.mp member with rfl | earlier
        · exact isLost
        · exact areLost task earlier
    | false =>
      refine ⟨missing, ?_, areLost⟩
      rw [Timer.live, running, Option.toList_some,
        List.filter_cons_of_neg (by rw [alive]; exact Bool.false_ne_true)] at matched
      exact matched

/-- The end of a run keeps the agreement if a live task that is not lost is to run again and the
timer's thread does not end. -/
theorem Agrees.putBack {manager : SearchManager} {lost : List Nat} (h : manager.Agrees lost)
    {now : Moment} {again : Option Duration}
    (repeats : ∀ entry, manager.timer.running = some entry → manager.timer.isLive entry = true →
      entry.handle ∉ lost → again ≠ none ∧ manager.timer.breaksAt now again = false) :
    (manager.putBack now again).Agrees lost := by
  by_cases fails : ∃ entry, manager.timer.running = some entry ∧ entry.handle ∈ lost ∧
      (again = none ∨ manager.timer.breaksAt now again = true)
  · obtain ⟨entry, running, isLost, rfl | breaks⟩ := fails
    · have dropped := h.lose running isLost manager.timer.stopped
      rw [SearchManager.putBack, Timer.putBack, running]
      exact dropped
    · have dropped := h.lose running isLost true
      rw [SearchManager.putBack, Timer.putBack_of_breaks breaks]
      exact dropped
  · -- Otherwise a live task goes back on the heap.
    have goesBack : ∀ entry, manager.timer.running = some entry →
        manager.timer.isLive entry = true →
          again ≠ none ∧ manager.timer.breaksAt now again = false := by
      intro entry running alive
      by_cases isLost : entry.handle ∈ lost
      · obtain ⟨some, works⟩ := not_or.mp fun failed => fails ⟨entry, running, isLost, failed⟩
        exact ⟨some, Bool.eq_false_iff.mpr works⟩
      · exact repeats entry running alive isLost
    have works : manager.timer.breaksAt now again = false := by
      refine Bool.eq_false_iff.mpr fun breaks => ?_
      obtain ⟨entry, -, running, -, alive, -⟩ := Timer.breaksAt_eq_true_iff.mp breaks
      exact Bool.false_ne_true ((goesBack entry running alive).2.symm.trans breaks)
    exact h.congr (sameSearches_putBack works)
      (fun _ _ => Timer.running_putBack manager.timer now again)
      (Timer.live_putBack manager.timer now again (fun stopped => (h.ended stopped).1) works
        fun entry running alive => (goesBack entry running alive).1)

/-- A live task that is being run finds its search in progress. -/
theorem Agrees.running?_of_live {manager : SearchManager} {lost : List Nat}
    (h : manager.Agrees lost) {entry : TimerEntry UInt32}
    (running : manager.timer.running = some entry) (alive : manager.timer.isLive entry = true) :
    ∃ search ∈ manager.pending, manager.running? = some search ∧ search.key = entry.key := by
  have isLive : entry ∈ manager.timer.live := Timer.mem_live.mpr (.inl ⟨running, alive⟩)
  obtain ⟨search, isPending, same⟩ := List.mem_map.mp (h.mem_tasks isLive)
  obtain ⟨sameHandle, sameChannel⟩ := Prod.mk.inj same
  refine ⟨search, isPending, ?_, same⟩
  rw [running?, running, Option.bind_some, ← sameChannel, find?_of_mem h.channels isPending,
    Option.filter_some, if_pos (beq_iff_eq.mpr sameHandle)]

end ChannelAccess.SearchManager
