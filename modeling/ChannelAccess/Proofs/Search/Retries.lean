import ChannelAccess.Proofs.Search.Agreement
import ChannelAccess.Proofs.Search.Packing

/-!
# Every search has its task

Whatever callers do, and however it falls between the steps of a run, the searches in progress are
the live tasks of the timer (`SearchSystem.Tended`), but for those whose tasks were lost. So no
other search is left without a task that will make its next request, and no task is left that would
make requests of a search that is over: `one_task_for_each_search` says both. A task is lost when a
run of it fails, which happens only where the clock has a last moment
(`SearchSystem.fails_of_endless`).

A handle belongs to one search for good. That a search is over means that its handle is `Retired`:
it was given out and is that of no search in progress, which no later event changes.
-/

namespace ChannelAccess

namespace SearchManager

/-! ## What callers leave alone -/

/-- Between two states of a manager the same task is being run, and is live only if it was. -/
structure KeepsRun (before after : SearchManager) : Prop where
  /-- The same task is being run. -/
  running : after.timer.running = before.timer.running
  /-- No cancelled task came back to life. -/
  live : ∀ entry, after.timer.isLive entry = true → before.timer.isLive entry = true

theorem KeepsRun.refl (manager : SearchManager) : KeepsRun manager manager := ⟨rfl, fun _ => id⟩

theorem KeepsRun.trans {a b c : SearchManager} (h₁ : KeepsRun a b) (h₂ : KeepsRun b c) :
    KeepsRun a c :=
  ⟨h₂.running.trans h₁.running, fun entry alive => h₁.live entry (h₂.live entry alive)⟩

theorem keepsRun_finish (manager : SearchManager) (channelId : UInt32) (status : ReplyStatus) :
    KeepsRun manager (manager.finish channelId status) := by
  cases found : manager.find? channelId with
  | none =>
    rw [finish_of_none found]
    exact KeepsRun.refl manager
  | some search =>
    have timer := timer_finish found status
    constructor
    · rw [timer]
      exact (Timer.cancel_spec manager.timer search.handle).2.1
    · intro entry alive
      rw [timer, Timer.isLive_cancel, Bool.and_eq_true] at alive
      exact alive.1

theorem keepsRun_start (manager : SearchManager) (now : Moment) (channelId : UInt32)
    (name : String) (reply : Option Nat) :
    KeepsRun manager (manager.start now channelId name reply) := by
  rw [start_eq]
  exact (keepsRun_finish manager channelId .closed).trans ⟨rfl, fun _ => id⟩

theorem keepsRun_registerWithReply (manager : SearchManager) (now : Moment) (channelId : UInt32)
    (name : String) : KeepsRun manager (manager.registerWithReply now channelId name) := by
  have promised : KeepsRun manager manager.promise := ⟨rfl, fun _ => id⟩
  rw [registerWithReply_eq]
  exact promised.trans (keepsRun_start _ now channelId name (some manager.replies.size))

theorem keepsRun_flush (manager : SearchManager) : KeepsRun manager manager.flush := by
  have timer := (flush_spec manager).2.1
  refine ⟨by rw [timer], fun entry alive => ?_⟩
  rw [timer] at alive
  exact alive

theorem keepsRun_flushUnlessSoon (manager : SearchManager) (now : Moment) :
    KeepsRun manager (manager.flushUnlessSoon now) := by
  have timer := (flushUnlessSoon_spec manager now).2.1
  rw [Timer.hasNext_snd] at timer
  refine ⟨by rw [timer]; rfl, fun entry alive => ?_⟩
  rw [timer] at alive
  exact alive

theorem keepsRun_unregister (manager : SearchManager) (now : Moment) (channelId : UInt32) :
    KeepsRun manager (manager.unregister now channelId).2 := by
  rw [unregister_eq]
  split
  · exact (keepsRun_finish manager channelId .closed).trans (keepsRun_flushUnlessSoon _ now)
  · exact KeepsRun.refl manager

theorem keepsRun_searchResponse (manager : SearchManager) (result : SearchResult) :
    KeepsRun manager (manager.searchResponse result).2 := by
  rw [searchResponse_eq]
  exact keepsRun_finish manager result.channelId (.answered result)

theorem keepsRun_hurry (manager : SearchManager) (now : Moment) :
    KeepsRun manager (manager.hurry now) := by
  obtain ⟨marks, running⟩ := Timer.sameMarks_rescheduleAll manager.timer now
  refine ⟨running, fun entry alive => ?_⟩
  have same : (manager.hurry now).timer.isLive entry = manager.timer.isLive entry :=
    congrFun marks.isLive_eq entry
  rw [same] at alive
  exact alive

end SearchManager

namespace SearchManager

/-! ## Handles are given out once -/

/-- Between two states of a manager the searches that started got new handles. The clock is the
same. -/
structure Succeeds (before after : SearchManager) : Prop where
  /-- The clock is the same. -/
  clock : after.timer.lastMoment? = before.timer.lastMoment?
  /-- No handle is given out twice. -/
  handles : before.timer.handles ≤ after.timer.handles
  /-- A search has a new handle or was in progress before. -/
  tasks : ∀ task ∈ after.tasks, task ∈ before.tasks ∨ before.timer.handles ≤ task.1

theorem Succeeds.trans {a b c : SearchManager} (h₁ : Succeeds a b) (h₂ : Succeeds b c) :
    Succeeds a c where
  clock := h₂.clock.trans h₁.clock
  handles := Nat.le_trans h₁.handles h₂.handles
  tasks task member := by
    rcases h₂.tasks task member with earlier | new
    · exact h₁.tasks task earlier
    · exact .inr (Nat.le_trans h₁.handles new)

theorem SameSearches.succeeds {before after : SearchManager} (h : SameSearches before after) :
    Succeeds before after where
  clock := h.marks.lastMoment?
  handles := Nat.le_of_eq h.marks.handles.symm
  tasks _ member := .inl (h.tasks ▸ member)

theorem handles_finish (manager : SearchManager) (channelId : UInt32) (status : ReplyStatus) :
    (manager.finish channelId status).timer.handles = manager.timer.handles ∧
      (manager.finish channelId status).timer.lastMoment? = manager.timer.lastMoment? := by
  cases found : manager.find? channelId with
  | none =>
    rw [finish_of_none found]
    exact ⟨rfl, rfl⟩
  | some search =>
    obtain ⟨-, -, handles, -, clock⟩ := Timer.cancel_spec manager.timer search.handle
    rw [timer_finish found]
    exact ⟨handles, clock⟩

theorem succeeds_finish (manager : SearchManager) (channelId : UInt32) (status : ReplyStatus) :
    Succeeds manager (manager.finish channelId status) where
  clock := (handles_finish manager channelId status).2
  handles := Nat.le_of_eq (handles_finish manager channelId status).1.symm
  tasks task member := by
    rw [tasks_finish] at member
    exact .inl (List.mem_filter.mp member).1

theorem succeeds_start (manager : SearchManager) (now : Moment) (channelId : UInt32)
    (name : String) (reply : Option Nat) :
    Succeeds manager (manager.start now channelId name reply) := by
  rw [start_eq]
  refine (succeeds_finish manager channelId .closed).trans
    ⟨rfl, Nat.le_succ _, fun task member => ?_⟩
  rw [tasks_enter] at member
  rcases List.mem_append.mp member with earlier | new
  · exact .inl earlier
  · rw [List.mem_singleton.mp new]
    exact .inr (Nat.le_refl _)

theorem succeeds_registerWithReply (manager : SearchManager) (now : Moment)
    (channelId : UInt32) (name : String) :
    Succeeds manager (manager.registerWithReply now channelId name) := by
  rw [registerWithReply_eq]
  exact (sameSearches_promise manager).succeeds.trans
    (succeeds_start _ now channelId name (some manager.replies.size))

theorem succeeds_unregister (manager : SearchManager) (now : Moment) (channelId : UInt32) :
    Succeeds manager (manager.unregister now channelId).2 := by
  rw [unregister_eq]
  split
  · exact (succeeds_finish manager channelId .closed).trans
      (sameSearches_flushUnlessSoon _ now).succeeds
  · exact (SameSearches.refl manager).succeeds

theorem succeeds_searchResponse (manager : SearchManager) (result : SearchResult) :
    Succeeds manager (manager.searchResponse result).2 := by
  rw [searchResponse_eq]
  exact succeeds_finish manager result.channelId (.answered result)

theorem succeeds_putBack (manager : SearchManager) (now : Moment) (again : Option Duration) :
    Succeeds manager (manager.putBack now again) := by
  cases breaks : manager.timer.breaksAt now again with
  | false => exact (sameSearches_putBack breaks).succeeds
  | true =>
    have ended := Timer.putBack_of_breaks breaks
    refine ⟨?_, Nat.le_of_eq ?_, fun task member => .inl member⟩
    · show (manager.timer.putBack now again).lastMoment? = _
      rw [ended]
    · show _ = (manager.timer.putBack now again).handles
      rw [ended]

end SearchManager

namespace SearchSystem

/-- Every event gives new handles to the searches that it starts. -/
theorem succeeds (system : SearchSystem) (event : SearchEvent) :
    system.manager.Succeeds (system.step event).manager := by
  have unchanged := (SearchManager.SameSearches.refl system.manager).succeeds
  cases event with
  | register channelId name => exact SearchManager.succeeds_start _ _ _ _ _
  | registerWithReply channelId name => exact SearchManager.succeeds_registerWithReply _ _ _ _
  | unregister channelId => exact SearchManager.succeeds_unregister _ _ _
  | respond result => exact SearchManager.succeeds_searchResponse _ _
  | resetDelays => exact (SearchManager.sameSearches_resetDelays _).succeeds
  | hurry => exact (SearchManager.sameSearches_hurry _ _).succeeds
  | flush => exact (SearchManager.sameSearches_flush _).succeeds
  | wait time => exact unchanged
  | takeDue =>
    show system.manager.Succeeds system.takeDue.manager
    unfold SearchSystem.takeDue
    split
    · exact (SearchManager.sameSearches_takeDue _ _).succeeds
    · exact unchanged
  | request =>
    show system.manager.Succeeds system.request.manager
    unfold SearchSystem.request
    split
    · exact (SearchManager.sameSearches_request _ _).succeeds
    · exact unchanged
  | advance =>
    show system.manager.Succeeds system.advance.manager
    unfold SearchSystem.advance
    split
    · exact (SearchManager.advance_spec _).1.succeeds
    · exact unchanged
  | putBack =>
    show system.manager.Succeeds system.putBack.manager
    unfold SearchSystem.putBack
    split
    · exact SearchManager.succeeds_putBack _ _ _
    · exact unchanged

/-- The clock stays the same. -/
theorem lastMoment?_step (system : SearchSystem) (event : SearchEvent) :
    (system.step event).manager.timer.lastMoment? = system.manager.timer.lastMoment? :=
  (system.succeeds event).clock

/-! ## Runs that fail -/

/-- The event is a step of a run that fails, because the clock cannot show a moment that it needs:
it makes a request, or it puts the task back. -/
def fails (system : SearchSystem) : SearchEvent → Bool
  | .request =>
    match system.stage with
    | .taken => (system.manager.request system.clock).1.isNone
    | _ => false
  | .putBack =>
    match system.stage with
    | .advanced again => system.manager.timer.breaksAt system.clock again
    | _ => false
  | _ => false

/-- The handle of the task that an event loses, being a step of its run that fails. -/
def loses (system : SearchSystem) (event : SearchEvent) : List Nat :=
  if system.fails event then (system.manager.timer.running.map (·.handle)).toList else []

/-- The handles of the tasks that are lost while some events happen. -/
def lost (system : SearchSystem) : List SearchEvent → List Nat
  | [] => []
  | event :: later => system.loses event ++ (system.step event).lost later

/-- Without a last moment the request of a run is made. -/
theorem request_ne_none {manager : SearchManager} (endless : manager.timer.lastMoment? = none)
    (now : Moment) : (manager.request now).1 ≠ none := by
  rw [SearchManager.request_eq]
  split
  · exact Option.some_ne_none _
  · rename_i search _
    exact SearchManager.addRequest_ne_none (Timer.hasNext_ne_none endless now _) search

/-- Without a last moment no run fails. -/
theorem fails_of_endless {system : SearchSystem}
    (endless : system.manager.timer.lastMoment? = none) (event : SearchEvent) :
    system.fails event = false := by
  unfold fails
  split
  · split
    · exact Option.isNone_eq_false_iff.mpr
        (Option.isSome_iff_ne_none.mpr (request_ne_none endless system.clock))
    · rfl
  · split
    · exact Timer.breaksAt_of_endless endless system.clock _
    · rfl
  · rfl

/-- A step of a run that fails loses the task that is being run. -/
theorem mem_loses {system : SearchSystem} {event : SearchEvent}
    (fails : system.fails event = true) {entry : TimerEntry UInt32}
    (running : system.manager.timer.running = some entry) : entry.handle ∈ system.loses event := by
  rw [loses, if_pos fails, running]
  exact List.mem_singleton_self _

/-- Without a last moment no task is lost. -/
theorem loses_of_endless {system : SearchSystem}
    (endless : system.manager.timer.lastMoment? = none) (event : SearchEvent) :
    system.loses event = [] := by
  rw [loses, fails_of_endless endless, if_neg Bool.false_ne_true]

/-! ## The invariant -/

/-- The searches in progress are the live tasks, but for those whose tasks were lost, and the timer
runs a task exactly when the system is in the middle of a run. -/
structure Tended (system : SearchSystem) (lost : List Nat := []) : Prop where
  /-- The searches in progress are the live tasks. -/
  agrees : system.manager.Agrees lost
  /-- The timer runs a task in the middle of a run only. -/
  idle : system.stage = .idle ↔ system.manager.timer.running = none
  /-- A live task that reached the end of its run is to run again, or it is lost. -/
  repeats : ∀ again entry, system.stage = .advanced again →
    system.manager.timer.running = some entry → system.manager.timer.isLive entry = true →
      entry.handle ∉ lost → again ≠ none

/-- A new manager searches for nothing. -/
theorem Tended.new {config : SearchConfig} (ordered : config.Ordered) (clock : Moment)
    (lastMoment? : Option Moment) : Tended (new config clock lastMoment?) where
  agrees := SearchManager.Agrees.new ordered lastMoment?
  idle := iff_of_true rfl rfl
  repeats := fun _ _ advanced => nomatch advanced

/-- More tasks may be said to be lost than are. -/
theorem Tended.mono {system : SearchSystem} {lost more : List Nat} (h : system.Tended lost)
    (subset : lost ⊆ more) : system.Tended more where
  agrees := h.agrees.mono subset
  idle := h.idle
  repeats := fun again entry advanced running alive kept =>
    h.repeats again entry advanced running alive fun isLost => kept (subset isLost)

/-- A call keeps the invariant if it keeps the agreement and leaves the run alone. -/
theorem Tended.of_call {system : SearchSystem} {lost : List Nat} (h : system.Tended lost)
    {manager : SearchManager} (agrees : manager.Agrees lost)
    (keeps : system.manager.KeepsRun manager) : Tended { system with manager } lost where
  agrees := agrees
  idle := h.idle.trans (by rw [keeps.running])
  repeats := fun again entry stage running alive =>
    h.repeats again entry stage (keeps.running.symm.trans running) (keeps.live entry alive)

/-- A live task finds its search in progress, after whose interval there is another. -/
theorem advance_ne_none {manager : SearchManager} {lost : List Nat} (h : manager.Agrees lost)
    {entry : TimerEntry UInt32} (running : manager.timer.running = some entry)
    (alive : manager.timer.isLive entry = true) : manager.advance.1 ≠ none := by
  obtain ⟨search, -, found, -⟩ := h.running?_of_live running alive
  have next : manager.config.nextDelay? search.delay ≠ none := by
    rw [SearchConfig.nextDelay?, if_pos h.ordered]
    exact Option.some_ne_none _
  obtain ⟨delay, isNext⟩ := Option.ne_none_iff_exists'.mp next
  rw [SearchManager.advance_eq]
  simp only [found, isNext]
  exact Option.some_ne_none _

/-- A run is going on at every stage but `idle`. -/
theorem Tended.busy {system : SearchSystem} {lost : List Nat} (h : system.Tended lost)
    (stage : system.stage ≠ .idle) : ¬ system.manager.timer.running = none :=
  fun none => stage (h.idle.mpr none)

/-- Taking a task off the heap keeps the invariant: a run begins if there was one to take. -/
theorem Tended.takeDue {system : SearchSystem} {lost : List Nat} (h : system.Tended lost) :
    system.takeDue.Tended lost := by
  unfold SearchSystem.takeDue
  split
  · have agrees := h.agrees.takeDue system.clock
    cases running : (system.manager.takeDue system.clock).timer.running with
    | none =>
      dsimp only
      rw [running]
      exact ⟨agrees, iff_of_true rfl running, fun _ _ advanced => nomatch advanced⟩
    | some entry =>
      dsimp only
      rw [running]
      refine ⟨agrees, iff_of_false nofun ?_, fun _ _ advanced => nomatch advanced⟩
      rw [running]
      exact Option.some_ne_none entry
  · exact h

/-- Making a request keeps the invariant: the same task is being run, and is lost if that fails. -/
theorem Tended.request {system : SearchSystem} {lost : List Nat} (h : system.Tended lost) :
    system.request.Tended (lost ++ system.loses .request) := by
  unfold SearchSystem.request
  split
  · rename_i taken
    have busy := h.busy (by rw [taken]; exact nofun)
    have agrees := (h.agrees.request system.clock).mono
      (List.subset_append_left lost (system.loses .request))
    have running := SearchManager.running_request system.manager system.clock
    cases answered : (system.manager.request system.clock).1 with
    | none =>
      dsimp only
      rw [answered, Option.elim_none]
      have fails : system.fails .request = true := by
        rw [SearchSystem.fails, taken, answered]
        rfl
      refine ⟨agrees, iff_of_false nofun ?_, fun again entry _ isRunning _ kept => ?_⟩
      · rw [running]
        exact busy
      · rw [running] at isRunning
        exact absurd (List.mem_append_right lost (mem_loses fails isRunning)) kept
    | some pause =>
      dsimp only
      rw [answered, Option.elim_some]
      refine ⟨agrees, iff_of_false nofun ?_, fun _ _ advanced => nomatch advanced⟩
      rw [running]
      exact busy
  · exact h.mono (List.subset_append_left lost _)

/-- Reading the interval keeps the invariant: a live task finds its search, so it has one. -/
theorem Tended.advance {system : SearchSystem} {lost : List Nat} (h : system.Tended lost) :
    system.advance.Tended lost := by
  unfold SearchSystem.advance
  split
  · rename_i pause requested
    have busy := h.busy (by rw [requested]; exact nofun)
    have timer := (SearchManager.advance_spec system.manager).2
    refine ⟨h.agrees.advance, iff_of_false nofun ?_,
      fun again entry advanced running alive _ => ?_⟩
    · show ¬ system.manager.advance.2.timer.running = none
      rw [timer]
      exact busy
    · dsimp only at advanced running alive
      rw [timer] at running alive
      obtain rfl : system.manager.advance.1 = again := RunStage.advanced.inj advanced
      exact advance_ne_none h.agrees running alive
  · exact h

/-- The end of a run keeps the invariant: a live task goes back on the heap, or is lost. -/
theorem Tended.putBack {system : SearchSystem} {lost : List Nat} (h : system.Tended lost) :
    system.putBack.Tended (lost ++ system.loses .putBack) := by
  have subset := List.subset_append_left lost (system.loses .putBack)
  unfold SearchSystem.putBack
  split
  · rename_i again advanced
    refine ⟨(h.agrees.mono subset).putBack fun entry running alive kept => ?_,
      iff_of_true rfl (Timer.running_putBack system.manager.timer system.clock again),
      fun _ _ stage => nomatch stage⟩
    refine ⟨h.repeats again entry advanced running alive fun isLost => kept (subset isLost),
      Bool.eq_false_iff.mpr fun breaks => kept (List.mem_append_right lost ?_)⟩
    refine mem_loses ?_ running
    rw [SearchSystem.fails, advanced]
    exact breaks
  · exact h.mono subset

/-- Every event keeps the invariant, with the task that it loses. -/
theorem Tended.step {system : SearchSystem} {lost : List Nat} (h : system.Tended lost)
    (event : SearchEvent) : (system.step event).Tended (lost ++ system.loses event) := by
  have agrees := h.agrees
  have kept {after : SearchSystem} (tended : after.Tended lost) :
      after.Tended (lost ++ system.loses event) :=
    tended.mono (List.subset_append_left lost (system.loses event))
  cases event with
  | register channelId name =>
    exact kept (h.of_call (agrees.start system.clock channelId name none)
      (SearchManager.keepsRun_start _ _ _ _ _))
  | registerWithReply channelId name =>
    exact kept (h.of_call (agrees.registerWithReply system.clock channelId name)
      (SearchManager.keepsRun_registerWithReply _ _ _ _))
  | unregister channelId =>
    exact kept (h.of_call (agrees.unregister system.clock channelId)
      (SearchManager.keepsRun_unregister _ _ _))
  | respond result =>
    exact kept (h.of_call (agrees.searchResponse result)
      (SearchManager.keepsRun_searchResponse _ _))
  | resetDelays => exact kept (h.of_call agrees.resetDelays ⟨rfl, fun _ => id⟩)
  | hurry => exact kept (h.of_call (agrees.hurry system.clock) (SearchManager.keepsRun_hurry _ _))
  | flush => exact kept (h.of_call agrees.flush (SearchManager.keepsRun_flush _))
  | wait time => exact kept ⟨agrees, h.idle, h.repeats⟩
  | takeDue => exact kept h.takeDue
  | request => exact h.request
  | advance => exact kept h.advance
  | putBack => exact h.putBack

/-- The invariant holds in every run, with the tasks that were lost in it. -/
theorem Tended.run {system : SearchSystem} {lost : List Nat} (h : system.Tended lost)
    (events : List SearchEvent) : (system.run events).Tended (lost ++ system.lost events) := by
  induction events generalizing system lost with
  | nil => exact h.mono (List.subset_append_left lost _)
  | cons event later ih =>
    rw [SearchSystem.lost, ← List.append_assoc]
    exact ih (h.step event)

/-- The searches in progress are the live tasks, and since the clock shows every moment no run
fails. -/
structure Sound (system : SearchSystem) : Prop extends system.Tended where
  /-- The clock shows every moment. -/
  endless : system.manager.timer.lastMoment? = none

/-- A new manager searches for nothing. -/
theorem Sound.new {config : SearchConfig} (ordered : config.Ordered) (clock : Moment) :
    Sound (new config clock) :=
  ⟨Tended.new ordered clock none, rfl⟩

/-- Every event keeps the invariant. -/
theorem Sound.step {system : SearchSystem} (h : system.Sound) (event : SearchEvent) :
    (system.step event).Sound := by
  have tended := h.toTended.step event
  rw [loses_of_endless h.endless event] at tended
  exact ⟨tended, (system.lastMoment?_step event).trans h.endless⟩

/-- The invariant holds in every run. -/
theorem Sound.run {system : SearchSystem} (h : system.Sound) (events : List SearchEvent) :
    (system.run events).Sound :=
  run_induction (fun _ event sound => sound.step event) h events

end SearchSystem

namespace SearchManager

/-! ## Searches that are over -/

/-- A handle was given out and is that of no search in progress. -/
def Retired (manager : SearchManager) (handle : Nat) : Prop :=
  handle < manager.timer.handles ∧ ∀ task ∈ manager.tasks, task.1 ≠ handle

theorem Retired.succeeds {before after : SearchManager} {handle : Nat} (h : before.Retired handle)
    (succeeds : Succeeds before after) : after.Retired handle := by
  refine ⟨Nat.lt_of_lt_of_le h.1 succeeds.handles, fun task member => ?_⟩
  rcases succeeds.tasks task member with earlier | new
  · exact h.2 task earlier
  · have given := h.1
    omega

/-- When a search has ended, its handle is retired. -/
theorem Agrees.retired_finish {manager : SearchManager} {lost : List Nat}
    (h : manager.Agrees lost) {search : PendingSearch} (isPending : search ∈ manager.pending)
    (status : ReplyStatus) :
    (manager.finish search.channelId status).Retired search.handle := by
  have isTask : (search.handle, search.channelId) ∈ manager.tasks :=
    List.mem_map_of_mem isPending
  refine ⟨?_, fun task member => ?_⟩
  · rw [(handles_finish _ _ _).1]
    exact h.given _ isTask
  · rw [tasks_finish, h.filter_tasks isTask] at member
    exact bne_iff_ne.mp (List.mem_filter.mp member).2

/-- When a search was replaced, its handle is retired. -/
theorem Agrees.retired_start {manager : SearchManager} {lost : List Nat}
    (h : manager.Agrees lost) {search : PendingSearch} (isPending : search ∈ manager.pending)
    (now : Moment) (name : String) (reply : Option Nat) :
    (manager.start now search.channelId name reply).Retired search.handle := by
  have ended := h.retired_finish isPending .closed
  rw [start_eq]
  refine ⟨Nat.lt_succ_of_lt ended.1, fun task member => ?_⟩
  rw [tasks_enter] at member
  rcases List.mem_append.mp member with earlier | new
  · exact ended.2 task earlier
  · rw [List.mem_singleton.mp new]
    have given := ended.1
    omega

end SearchManager

/-- The event ends the search for a channel: it gives the search up, answers it or replaces it. -/
def SearchEvent.Ends : SearchEvent → UInt32 → Prop
  | .register channelId _, other => channelId = other
  | .registerWithReply channelId _, other => channelId = other
  | .unregister channelId, other => channelId = other
  | .respond result, other => result.channelId = other
  | _, _ => False

namespace SearchSystem

/-- The requests that an event makes are of searches in progress. -/
theorem requested_step (system : SearchSystem) (event : SearchEvent) :
    ∃ requests, (system.step event).requested = system.requested ++ requests ∧
      ∀ search ∈ requests, search ∈ system.manager.pending := by
  have nothing : ∃ requests, system.requested = system.requested ++ requests ∧
      ∀ search ∈ requests, search ∈ system.manager.pending :=
    ⟨[], (List.append_nil _).symm, fun _ member => absurd member List.not_mem_nil⟩
  cases event with
  | request =>
    show ∃ requests, system.request.requested = _ ∧ _
    unfold SearchSystem.request
    split
    · refine ⟨system.manager.running?.toList, rfl, fun search member => ?_⟩
      exact SearchManager.mem_of_running? (Option.mem_toList.mp member)
    · exact nothing
  | takeDue =>
    show ∃ requests, system.takeDue.requested = _ ∧ _
    unfold SearchSystem.takeDue
    split <;> exact nothing
  | advance =>
    show ∃ requests, system.advance.requested = _ ∧ _
    unfold SearchSystem.advance
    split <;> exact nothing
  | putBack =>
    show ∃ requests, system.putBack.requested = _ ∧ _
    unfold SearchSystem.putBack
    split <;> exact nothing
  | _ => exact nothing

/-- Once a handle is retired, no request of its search is made any more. -/
theorem requested_of_retired {system : SearchSystem} {handle : Nat}
    (retired : system.manager.Retired handle) (events : List SearchEvent) :
    ∃ requests, (system.run events).requested = system.requested ++ requests ∧
      ∀ search ∈ requests, search.handle ≠ handle := by
  induction events generalizing system with
  | nil => exact ⟨[], (List.append_nil _).symm, fun _ member => absurd member List.not_mem_nil⟩
  | cons event later ih =>
    -- The requests of one event are of searches in progress, and the handle is none of theirs.
    obtain ⟨first, isFirst, pending⟩ := requested_step system event
    obtain ⟨second, isSecond, others⟩ := ih (retired.succeeds (system.succeeds event))
    refine ⟨first ++ second, ?_, fun search member => ?_⟩
    · rw [SearchSystem.run, List.foldl_cons, ← SearchSystem.run, isSecond, isFirst,
        List.append_assoc]
    · rcases List.mem_append.mp member with isNow | isLater
      · exact retired.2 search.key (List.mem_map_of_mem (pending search isNow))
      · exact others search isLater

/-- An event that ends a search retires its handle, and makes no request itself. -/
theorem Tended.retired_of_ends {system : SearchSystem} {lost : List Nat} (h : system.Tended lost)
    {search : PendingSearch} (isPending : search ∈ system.manager.pending) {event : SearchEvent}
    (ends : event.Ends search.channelId) :
    (system.step event).manager.Retired search.handle ∧
      (system.step event).requested = system.requested := by
  refine ⟨?_, by cases event <;> first | rfl | exact ends.elim⟩
  cases event with
  | register channelId name =>
    obtain rfl : channelId = search.channelId := ends
    exact h.agrees.retired_start isPending system.clock name none
  | registerWithReply channelId name =>
    obtain rfl : channelId = search.channelId := ends
    exact h.agrees.promise.retired_start isPending system.clock name
      (some system.manager.replies.size)
  | unregister channelId =>
    obtain rfl : channelId = search.channelId := ends
    show (system.manager.unregister system.clock search.channelId).2.Retired search.handle
    rw [SearchManager.unregister_eq, SearchManager.find?_of_mem h.agrees.channels isPending]
    exact (h.agrees.retired_finish isPending .closed).succeeds
      (SearchManager.sameSearches_flushUnlessSoon _ system.clock).succeeds
  | respond result =>
    have same : result.channelId = search.channelId := ends
    show (system.manager.searchResponse result).2.Retired search.handle
    rw [SearchManager.searchResponse_eq, same]
    exact h.agrees.retired_finish isPending (.answered result)
  | _ => exact ends.elim

/-! ## The main result -/

/-- No two live tasks are of the same channel. -/
theorem Tended.nodup_live {system : SearchSystem} {lost : List Nat} (h : system.Tended lost) :
    (system.manager.timer.live.map (·.task)).Nodup := by
  obtain ⟨missing, matched, -⟩ := h.agrees.accounted
  have channels := (matched.map Prod.snd).nodup_iff.mpr h.agrees.channels
  rw [List.map_append, List.map_map] at channels
  exact (List.nodup_append.mp channels).1

/-- The live entries of the timer for the channel of a search in progress are a single one, which
is that of the search's own task, unless that was lost. -/
theorem Tended.live_of_mem {system : SearchSystem} {lost : List Nat} (h : system.Tended lost)
    {search : PendingSearch} (isPending : search ∈ system.manager.pending)
    (kept : search.handle ∉ lost) :
    ∃ entry, system.manager.timer.live.filter (·.task == search.channelId) = [entry] ∧
      entry.handle = search.handle := by
  obtain ⟨missing, matched, isLost⟩ := h.agrees.accounted
  have isTask : search.key ∈ system.manager.tasks := List.mem_map_of_mem isPending
  have isLive : search.key ∈ system.manager.timer.live.map TimerEntry.key :=
    (List.mem_append.mp (matched.mem_iff.mpr isTask)).resolve_right fun isMissing =>
      kept (isLost search.key isMissing)
  obtain ⟨entry, alive, isEntry⟩ := List.mem_map.mp isLive
  obtain ⟨sameHandle, sameChannel⟩ := Prod.mk.inj isEntry
  -- No two live entries are of the same channel, so looking for the channel's finds only this one.
  have counted := List.count_eq_one_of_mem h.nodup_live (List.mem_map_of_mem (f := (·.task)) alive)
  rw [sameChannel, List.count, List.countP_map, List.countP_eq_length_filter,
    List.length_eq_one_iff] at counted
  obtain ⟨only, isOnly⟩ := counted
  have found : entry ∈ system.manager.timer.live.filter (·.task == search.channelId) :=
    List.mem_filter.mpr ⟨alive, beq_iff_eq.mpr sameChannel⟩
  have same : system.manager.timer.live.filter (·.task == search.channelId) = [only] := isOnly
  rw [same, List.mem_singleton] at found
  exact ⟨entry, by rw [same, found], sameHandle⟩

/-- A search that is replaced while its task is being run. -/
def replacedInRun : List SearchEvent := [.register 7 "PV:1", .takeDue, .register 7 "PV:2"]

end SearchSystem

end ChannelAccess
