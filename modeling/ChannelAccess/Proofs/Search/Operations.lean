import ChannelAccess.Proofs.Search.System
import ChannelAccess.Proofs.Timer.Live

/-!
# The parts of the search operations

The operations of a search manager end searches in one way and start them in one way: `finish` takes
a search out and cancels its task, `enter` schedules a task and puts its search in. The datagram is
likewise sent in one way, by `flushUnlessSoon`, when a request was added and when a search was given
up. `start_eq`, `registerWithReply_eq`, `searchResponse_eq`, `unregister_eq` and `addRequest_eq` say
how the operations are put together from these. All other operations keep the `SameSearches`.
-/

namespace ChannelAccess

/-- What a search shares with its task: the handle and the number of the channel. -/
def PendingSearch.key (search : PendingSearch) : Nat × UInt32 := (search.handle, search.channelId)

namespace SearchManager

/-- Handles and channels of the searches in progress. -/
def tasks (manager : SearchManager) : List (Nat × UInt32) := manager.pending.map PendingSearch.key

/-- Between two states of a manager no search started or ended, and no task was cancelled. -/
structure SameSearches (before after : SearchManager) : Prop where
  /-- The tuning is the same. -/
  config : after.config = before.config
  /-- The same searches are in progress. -/
  tasks : after.tasks = before.tasks
  /-- No handle was given out and no task was cancelled. -/
  marks : before.timer.SameMarks after.timer

/-! ## Finding searches -/

theorem mem_of_find? {manager : SearchManager} {channelId : UInt32} {search : PendingSearch}
    (h : manager.find? channelId = some search) :
    search ∈ manager.pending ∧ search.channelId = channelId := by
  unfold find? at h
  have same := List.find?_some h
  exact ⟨List.mem_of_find?_eq_some h, beq_iff_eq.mp same⟩

theorem find?_eq_none {manager : SearchManager} {channelId : UInt32} :
    manager.find? channelId = none ↔
      ∀ search ∈ manager.pending, search.channelId ≠ channelId := by
  unfold find?
  rw [List.find?_eq_none]
  exact forall₂_congr fun search _ => not_congr beq_iff_eq

/-- The search that a task finds is in progress. -/
theorem mem_of_running? {manager : SearchManager} {search : PendingSearch}
    (h : manager.running? = some search) : search ∈ manager.pending := by
  obtain ⟨entry, -, found⟩ := Option.bind_eq_some_iff.mp h
  exact (mem_of_find? (Option.eq_some_of_filter_eq_some found)).1

/-! ## Ending and starting searches -/

/-- The manager after the search for a channel has ended, if there was one. It is taken out, its
task is cancelled, and the reply that was promised is settled. -/
def finish (manager : SearchManager) (channelId : UInt32) (status : ReplyStatus) :
    SearchManager :=
  match manager.find? channelId with
  | none => manager
  | some search =>
    { manager.remove channelId with
      timer := manager.timer.cancel search.handle
      replies := settle manager.replies search.reply status }

/-- The manager with a search for a channel that it was not searching for, and its task. -/
def enter (manager : SearchManager) (now : Moment) (channelId : UInt32) (name : String)
    (reply : Option Nat) : SearchManager :=
  { manager with
    timer := manager.timer.schedule now channelId
    pending := manager.pending ++
      [{ channelId, name, handle := manager.timer.handles, delay := manager.config.minInterval,
         reply }] }

/-- It makes no difference whether the new task is scheduled before the old one is cancelled. -/
theorem cancel_schedule (timer : Timer UInt32) (due : Moment) (task : UInt32) (handle : Nat) :
    (timer.schedule due task).cancel handle = (timer.cancel handle).schedule due task := by
  unfold Timer.cancel
  split
  · rename_i already
    rw [if_pos (show timer.isCancelled handle = true from already)]
  · rename_i notYet
    rw [if_neg (show ¬ timer.isCancelled handle = true from notYet)]
    rfl

theorem start_eq (manager : SearchManager) (now : Moment) (channelId : UInt32) (name : String)
    (reply : Option Nat) :
    manager.start now channelId name reply =
      (manager.finish channelId .closed).enter now channelId name reply := by
  unfold start finish
  cases found : manager.find? channelId with
  | none => rfl
  | some previous =>
    dsimp only [enter]
    rw [cancel_schedule, (Timer.cancel_spec manager.timer previous.handle).2.2.1]
    rfl

/-- The manager with one more promised reply. -/
def promise (manager : SearchManager) : SearchManager :=
  { manager with replies := manager.replies.push .waiting }

theorem registerWithReply_eq (manager : SearchManager) (now : Moment) (channelId : UInt32)
    (name : String) :
    manager.registerWithReply now channelId name =
      manager.promise.start now channelId name (some manager.replies.size) := rfl

theorem searchResponse_eq (manager : SearchManager) (result : SearchResult) :
    (manager.searchResponse result).2 =
      manager.finish result.channelId (.answered result) := by
  unfold searchResponse finish
  cases manager.find? result.channelId <;> rfl

/-- The manager after it looked whether a task is due soon, having sent the datagram if none is. An
unanswered question sends nothing. -/
def flushUnlessSoon (manager : SearchManager) (now : Moment) : SearchManager :=
  let (soon, timer) := manager.timer.hasNext now manager.config.coalesceWindow
  if soon = some false then { manager with timer }.flush else { manager with timer }

theorem unregister_eq (manager : SearchManager) (now : Moment) (channelId : UInt32) :
    (manager.unregister now channelId).2 =
      if (manager.find? channelId).isSome then
        (manager.finish channelId .closed).flushUnlessSoon now
      else manager := by
  unfold unregister finish flushUnlessSoon
  cases manager.find? channelId with
  | none => rfl
  | some search =>
    dsimp only [remove]
    generalize (manager.timer.cancel search.handle).hasNext now manager.config.coalesceWindow =
      asked
    obtain ⟨_ | _ | _, timer⟩ := asked <;> rfl

/-- With no search for the channel there is nothing to end. -/
theorem finish_of_none {manager : SearchManager} {channelId : UInt32}
    (free : manager.find? channelId = none) (status : ReplyStatus) :
    manager.finish channelId status = manager := by
  rw [finish, free]

/-- The task of a search that has ended is cancelled. -/
theorem timer_finish {manager : SearchManager} {channelId : UInt32} {search : PendingSearch}
    (found : manager.find? channelId = some search) (status : ReplyStatus) :
    (manager.finish channelId status).timer = manager.timer.cancel search.handle := by
  rw [finish, found]

/-- The end of a search leaves the datagrams alone. -/
theorem finish_spec (manager : SearchManager) (channelId : UInt32) (status : ReplyStatus) :
    (manager.finish channelId status).config = manager.config ∧
      (manager.finish channelId status).frame = manager.frame ∧
      (manager.finish channelId status).sent = manager.sent := by
  unfold finish
  split <;> exact ⟨rfl, rfl, rfl⟩

/-- After a search has ended, the searches in progress are those for other channels. -/
theorem pending_finish (manager : SearchManager) (channelId : UInt32) (status : ReplyStatus) :
    (manager.finish channelId status).pending =
      manager.pending.filter (·.channelId != channelId) := by
  cases found : manager.find? channelId with
  | none =>
    rw [finish_of_none found]
    refine (List.filter_eq_self.mpr fun search isPending => ?_).symm
    exact bne_iff_ne.mpr (find?_eq_none.mp found search isPending)
  | some search =>
    rw [finish, found]
    rfl

theorem tasks_finish (manager : SearchManager) (channelId : UInt32) (status : ReplyStatus) :
    (manager.finish channelId status).tasks =
      manager.tasks.filter (·.2 != channelId) := by
  rw [tasks, pending_finish, tasks, List.filter_map]
  rfl

theorem find?_finish (manager : SearchManager) (channelId : UInt32) (status : ReplyStatus) :
    (manager.finish channelId status).find? channelId = none := by
  rw [find?_eq_none, pending_finish]
  intro search isPending
  exact bne_iff_ne.mp (List.mem_filter.mp isPending).2

theorem tasks_enter (manager : SearchManager) (now : Moment) (channelId : UInt32) (name : String)
    (reply : Option Nat) :
    (manager.enter now channelId name reply).tasks =
      manager.tasks ++ [(manager.timer.handles, channelId)] := by
  rw [tasks, enter, List.map_append]
  rfl

/-- Sending the datagram changes nothing but the datagrams. -/
theorem flush_spec (manager : SearchManager) :
    manager.flush.config = manager.config ∧ manager.flush.timer = manager.timer ∧
      manager.flush.pending = manager.pending ∧ manager.flush.frame.searches = 0 := by
  unfold flush
  split
  · rename_i empty
    exact ⟨rfl, rfl, rfl, empty⟩
  · exact ⟨rfl, rfl, rfl, rfl⟩

/-- Looking whether to send the datagram changes nothing but the datagrams and cancelled entries
of the timer. -/
theorem flushUnlessSoon_spec (manager : SearchManager) (now : Moment) :
    (manager.flushUnlessSoon now).config = manager.config ∧
      (manager.flushUnlessSoon now).timer =
        (manager.timer.hasNext now manager.config.coalesceWindow).2 ∧
      (manager.flushUnlessSoon now).pending = manager.pending := by
  unfold flushUnlessSoon
  dsimp only
  split
  · obtain ⟨config, timer, pending, -⟩ := flush_spec
      { manager with timer := (manager.timer.hasNext now manager.config.coalesceWindow).2 }
    exact ⟨config, timer, pending⟩
  · exact ⟨rfl, rfl, rfl⟩

/-- The manager with one more request in the datagram, which is sent first if the request does not
fit it. -/
def withRequest (manager : SearchManager) (search : PendingSearch) : SearchManager :=
  let full := 0 < manager.frame.searches ∧
    maxDatagramSend < manager.frame.buffer.length + search.request.encodedLength
  let manager := if full then manager.flush else manager
  { manager with frame := manager.frame.started.push search.request }

theorem withRequest_spec (manager : SearchManager) (search : PendingSearch) :
    (manager.withRequest search).config = manager.config ∧
      (manager.withRequest search).timer = manager.timer ∧
      (manager.withRequest search).pending = manager.pending := by
  unfold withRequest
  dsimp only
  split
  · exact ⟨(flush_spec manager).1, (flush_spec manager).2.1, (flush_spec manager).2.2.1⟩
  · exact ⟨rfl, rfl, rfl⟩

/-- A request is added and the datagram is sent unless a task is due soon. Besides, the datagrams
that followed each other are counted. -/
theorem addRequest_eq (manager : SearchManager) (now : Moment) (search : PendingSearch) :
    ∃ immediateFlushes, (manager.addRequest now search).2 =
      { (manager.withRequest search).flushUnlessSoon now with immediateFlushes } := by
  unfold addRequest flushUnlessSoon withRequest
  dsimp only
  generalize (if 0 < manager.frame.searches ∧
      maxDatagramSend < manager.frame.buffer.length + search.request.encodedLength
    then manager.flush else manager) = manager
  generalize manager.timer.hasNext now manager.config.coalesceWindow = asked
  obtain ⟨_ | _ | _, timer⟩ := asked
  · exact ⟨_, rfl⟩
  · dsimp only
    split <;> exact ⟨_, rfl⟩
  · exact ⟨_, rfl⟩

/-- The addition of a request fails only if it cannot be said whether a task is due soon. -/
theorem addRequest_ne_none {manager : SearchManager} {now : Moment}
    (answered : (manager.timer.hasNext now manager.config.coalesceWindow).1 ≠ none)
    (search : PendingSearch) : (manager.addRequest now search).1 ≠ none := by
  obtain ⟨config, timer, -⟩ := withRequest_spec manager search
  rw [← config, ← timer] at answered
  unfold withRequest at answered
  unfold addRequest
  dsimp only at answered ⊢
  generalize (if 0 < manager.frame.searches ∧
      maxDatagramSend < manager.frame.buffer.length + search.request.encodedLength
    then manager.flush else manager) = manager at answered ⊢
  generalize manager.timer.hasNext now manager.config.coalesceWindow = asked at answered ⊢
  obtain ⟨_ | _ | _, timer⟩ := asked
  · exact absurd rfl answered
  · dsimp only
    split <;> exact Option.some_ne_none _
  · exact Option.some_ne_none _

/-- Adding a request changes nothing but the datagrams, how many followed each other, and cancelled
entries of the timer. -/
theorem addRequest_spec (manager : SearchManager) (now : Moment) (search : PendingSearch) :
    (manager.addRequest now search).2.config = manager.config ∧
      (manager.addRequest now search).2.timer =
        (manager.timer.hasNext now manager.config.coalesceWindow).2 ∧
      (manager.addRequest now search).2.pending = manager.pending := by
  obtain ⟨immediateFlushes, added⟩ := addRequest_eq manager now search
  obtain ⟨config, timer, pending⟩ := withRequest_spec manager search
  obtain ⟨config', timer', pending'⟩ := flushUnlessSoon_spec (manager.withRequest search) now
  rw [added]
  refine ⟨config'.trans config, ?_, pending'.trans pending⟩
  rw [timer', timer, config]

/-! ## Operations that neither start nor end a search -/

theorem SameSearches.refl (manager : SearchManager) : SameSearches manager manager :=
  ⟨rfl, rfl, Timer.SameMarks.refl _⟩

theorem sameSearches_promise (manager : SearchManager) : SameSearches manager manager.promise :=
  ⟨rfl, rfl, Timer.SameMarks.refl _⟩

theorem sameSearches_flush (manager : SearchManager) : SameSearches manager manager.flush := by
  obtain ⟨config, timer, pending, -⟩ := flush_spec manager
  refine ⟨config, congrArg (List.map PendingSearch.key) pending, ?_⟩
  rw [timer]
  exact Timer.SameMarks.refl _

theorem sameSearches_flushUnlessSoon (manager : SearchManager) (now : Moment) :
    SameSearches manager (manager.flushUnlessSoon now) := by
  obtain ⟨config, timer, pending⟩ := flushUnlessSoon_spec manager now
  refine ⟨config, congrArg (List.map PendingSearch.key) pending, ?_⟩
  rw [timer, Timer.hasNext_snd]
  exact Timer.sameMarks_discardCancelled manager.timer

theorem sameSearches_request (manager : SearchManager) (now : Moment) :
    SameSearches manager (manager.request now).2 := by
  rw [request_eq]
  split
  · exact SameSearches.refl manager
  · rename_i search _
    obtain ⟨config, timer, pending⟩ := addRequest_spec manager now search
    refine ⟨config, congrArg (List.map PendingSearch.key) pending, ?_⟩
    rw [timer, Timer.hasNext_snd]
    exact Timer.sameMarks_discardCancelled manager.timer

/-- Making a request leaves the task that is being run. -/
theorem running_request (manager : SearchManager) (now : Moment) :
    (manager.request now).2.timer.running = manager.timer.running := by
  rw [request_eq]
  split
  · rfl
  · rw [(addRequest_spec manager now _).2.1, Timer.hasNext_snd]
    rfl

theorem sameSearches_resetDelays (manager : SearchManager) :
    SameSearches manager manager.resetDelays := by
  refine ⟨rfl, ?_, Timer.SameMarks.refl _⟩
  rw [tasks, resetDelays, List.map_map]
  rfl

theorem sameSearches_hurry (manager : SearchManager) (now : Moment) :
    SameSearches manager (manager.hurry now) :=
  ⟨rfl, rfl, (Timer.sameMarks_rescheduleAll manager.timer now).1⟩

theorem sameSearches_withDelay (manager : SearchManager) (search : PendingSearch)
    (delay : Duration) : SameSearches manager (manager.withDelay search delay) := by
  refine ⟨rfl, ?_, Timer.SameMarks.refl _⟩
  rw [tasks, withDelay, List.map_map]
  refine List.map_congr_left fun other _ => ?_
  dsimp only [Function.comp]
  split <;> rfl

theorem sameSearches_takeDue (manager : SearchManager) (now : Moment) :
    SameSearches manager (manager.takeDue now) :=
  ⟨rfl, rfl, Timer.sameMarks_takeDue manager.timer now⟩

/-- The end of a run keeps the searches, unless the timer's thread ends with it. -/
theorem sameSearches_putBack {manager : SearchManager} {now : Moment} {again : Option Duration}
    (works : manager.timer.breaksAt now again = false) :
    SameSearches manager (manager.putBack now again) :=
  ⟨rfl, rfl, Timer.sameMarks_putBack works⟩

/-- Lengthening an interval changes no task. -/
theorem advance_spec (manager : SearchManager) :
    SameSearches manager manager.advance.2 ∧ manager.advance.2.timer = manager.timer := by
  rw [advance_eq]
  split
  · exact ⟨SameSearches.refl manager, rfl⟩
  · split
    · exact ⟨SameSearches.refl manager, rfl⟩
    · exact ⟨sameSearches_withDelay manager _ _, rfl⟩

end SearchManager

end ChannelAccess
