import ChannelAccess.Proofs.Search.Retries
import Mathlib.Data.List.Induction

/-!
# Requests that wait for company

A request stays in the datagram because some other task is due soon, which will add its own request
or send the datagram. `SearchSystem.Promised` says that there is such a task whenever the datagram
holds a request. A search that is given up keeps the promise by sending the datagram when no task is
left for it. An answer does not: it `Strands` the datagram if the task it cancels was the last one.

`promised_iff_not_strands` says that this is the only way in which the promise breaks: a run of the
manager keeps it in all of its states exactly when no answer of the run strands the datagram.

Within the run of a task the task itself is as good as one due soon until it has made its request,
so the steps of a run keep a weaker statement, `Covered`, which is the promise between two runs.
-/

namespace ChannelAccess

namespace SearchManager

/-- Some live task on the heap is due within the coalescing window. -/
def DueSoon (manager : SearchManager) (now : Moment) (entry : TimerEntry UInt32) : Prop :=
  entry ∈ manager.timer.waiting ∧ entry.due ≤ now + manager.config.coalesceWindow

/-- When the datagram holds a request, some task is due soon. -/
def Promised (manager : SearchManager) (now : Moment) : Prop :=
  manager.frame.searches ≠ 0 → ∃ entry, manager.DueSoon now entry

/-- A datagram without requests needs no task. -/
theorem promised_of_empty {manager : SearchManager} (empty : manager.frame.searches = 0)
    (now : Moment) : manager.Promised now :=
  fun held => absurd empty held

/-- An operation that keeps the datagram and every task that is due soon keeps the promise. -/
theorem Promised.mono {before after : SearchManager} {earlier now : Moment}
    (h : before.Promised earlier) (frame : after.frame = before.frame)
    (soon : ∀ entry, before.DueSoon earlier entry → ∃ other, after.DueSoon now other) :
    after.Promised now := by
  intro held
  rw [frame] at held
  obtain ⟨entry, isSoon⟩ := h held
  exact soon entry isSoon

/-- Looking whether to send the datagram makes good on the promise, whatever held before. -/
theorem promised_flushUnlessSoon {manager : SearchManager}
    (endless : manager.timer.lastMoment? = none) (now : Moment) :
    (manager.flushUnlessSoon now).Promised now := by
  unfold flushUnlessSoon
  dsimp only
  split
  · exact promised_of_empty (flush_spec _).2.2.2 now
  · rename_i notLater
    intro _
    obtain ⟨soon, answered⟩ := Option.ne_none_iff_exists'.mp
      (Timer.hasNext_ne_none endless now manager.config.coalesceWindow)
    cases soon with
    | false => exact absurd answered notLater
    | true =>
      obtain ⟨entry, waits, due⟩ := Timer.due_of_hasNext answered
      refine ⟨entry, ?_, due⟩
      rw [Timer.hasNext_snd]
      exact (Timer.waiting_discardCancelled manager.timer).mem_iff.mpr waits

/-- A new task is due soon. -/
theorem Agrees.dueSoon_enter {manager : SearchManager} (h : manager.Agrees) (now : Moment)
    (channelId : UInt32) (name : String) (reply : Option Nat) :
    ∃ entry, (manager.enter now channelId name reply).DueSoon now entry := by
  have scheduled := Timer.waiting_schedule manager.timer now channelId h.fresh
  exact ⟨_, scheduled.mem_iff.mpr List.mem_cons_self, Nat.le_add_right _ _⟩

/-- The start of a search makes good on the promise, whatever held before. -/
theorem Agrees.promised_start {manager : SearchManager} (h : manager.Agrees) (now : Moment)
    (channelId : UInt32) (name : String) (reply : Option Nat) :
    (manager.start now channelId name reply).Promised now := by
  rw [start_eq]
  exact fun _ => (h.finish channelId .closed).dueSoon_enter now channelId name reply

/-- Making all tasks due at once keeps the promise. -/
theorem Promised.hurry {manager : SearchManager} {now : Moment} (h : manager.Promised now) :
    (manager.hurry now).Promised now := by
  obtain ⟨keys, dues⟩ := Timer.waiting_rescheduleAll manager.timer now
  refine h.mono rfl fun entry soon => ?_
  obtain ⟨other, waits, -⟩ := List.mem_map.mp
    (keys.mem_iff.mpr (List.mem_map_of_mem (f := TimerEntry.key) soon.1))
  refine ⟨other, waits, ?_⟩
  rw [dues other waits]
  exact Nat.le_add_right _ _

/-- The end of a run keeps the promise. -/
theorem Promised.putBack {manager : SearchManager} {now : Moment} (h : manager.Promised now)
    (again : Option Duration) : (manager.putBack now again).Promised now :=
  h.mono rfl fun entry soon =>
    ⟨entry, Timer.waiting_subset_putBack manager.timer now again soon.1, soon.2⟩

end SearchManager

namespace SearchSystem

/-! ## Within a run -/

/-- A task that is going to add its request to the datagram or to send it: one that is due soon, or
the one that is being run and has not made its request yet. -/
def Sender (system : SearchSystem) (entry : TimerEntry UInt32) : Prop :=
  system.manager.DueSoon system.clock entry ∨
    (system.stage = .taken ∧ system.manager.timer.running = some entry ∧
      system.manager.timer.isLive entry = true)

/-- When the datagram holds a request, some task is going to send it. -/
def Covered (system : SearchSystem) : Prop :=
  system.manager.frame.searches ≠ 0 → ∃ entry, system.Sender entry

/-- An answer ends a search whose task is the only one left to send the request in the datagram. -/
def Strands (system : SearchSystem) (result : SearchResult) : Prop :=
  system.manager.frame.searches ≠ 0 ∧
    ∃ search, system.manager.find? result.channelId = some search ∧
      ∀ entry, system.Sender entry → entry.handle = search.handle

theorem covered_of_promised {system : SearchSystem}
    (h : system.manager.Promised system.clock) : system.Covered := by
  intro held
  obtain ⟨entry, soon⟩ := h held
  exact ⟨entry, .inl soon⟩

/-- Before its second step a run has no task of its own that is going to send the datagram. -/
theorem Covered.promised {system : SearchSystem} (h : system.Covered)
    (stage : system.stage ≠ .taken) : system.manager.Promised system.clock := by
  intro held
  obtain ⟨entry, soon | taken⟩ := h held
  · exact ⟨entry, soon⟩
  · exact absurd taken.1 stage

/-- After an answer ended a search, the tasks that are going to send the datagram are those of other
searches. -/
theorem sender_respond {system : SearchSystem} {result : SearchResult} {search : PendingSearch}
    (found : system.manager.find? result.channelId = some search) (entry : TimerEntry UInt32) :
    (system.step (.respond result)).Sender entry ↔
      system.Sender entry ∧ entry.handle ≠ search.handle := by
  have ended : (system.step (.respond result)).manager =
      system.manager.finish result.channelId (.answered result) :=
    SearchManager.searchResponse_eq system.manager result
  have alive := Timer.isLive_cancel system.manager.timer search.handle entry
  unfold Sender SearchManager.DueSoon
  rw [ended, SearchManager.timer_finish found, (SearchManager.finish_spec _ _ _).1,
    Timer.waiting_cancel, List.mem_filter, bne_iff_ne, alive, Bool.and_eq_true, bne_iff_ne,
    (Timer.cancel_spec system.manager.timer search.handle).2.1]
  show (_ ∧ _) ∧ _ ∨ system.stage = .taken ∧ _ ↔ _
  constructor
  · rintro (⟨⟨waits, other⟩, due⟩ | ⟨stage, running, isLive, other⟩)
    · exact ⟨.inl ⟨waits, due⟩, other⟩
    · exact ⟨.inr ⟨stage, running, isLive⟩, other⟩
  · rintro ⟨⟨waits, due⟩ | ⟨stage, running, isLive⟩, other⟩
    · exact .inl ⟨⟨waits, other⟩, due⟩
    · exact .inr ⟨stage, running, isLive, other⟩

/-- An answer leaves the datagram covered exactly when it does not strand it. -/
theorem covered_respond_iff {system : SearchSystem} (h : system.Covered) (result : SearchResult) :
    (system.step (.respond result)).Covered ↔ ¬ system.Strands result := by
  cases found : system.manager.find? result.channelId with
  | none =>
    have same : system.step (.respond result) = system := by
      show { system with manager := (system.manager.searchResponse result).2 } = system
      rw [SearchManager.searchResponse_eq, SearchManager.finish_of_none found]
    rw [same]
    refine iff_of_true h ?_
    rintro ⟨-, search, isFound, -⟩
    rw [found] at isFound
    contradiction
  | some search =>
    have frame : (system.step (.respond result)).manager.frame = system.manager.frame := by
      show (system.manager.searchResponse result).2.frame = _
      rw [SearchManager.searchResponse_eq]
      exact (SearchManager.finish_spec _ _ _).2.1
    unfold Covered Strands
    rw [frame, found]
    constructor
    · rintro covered ⟨held, other, isOther, only⟩
      obtain rfl := Option.some.inj isOther
      obtain ⟨entry, sends⟩ := covered held
      obtain ⟨sent, differs⟩ := (sender_respond found entry).mp sends
      exact differs (only entry sent)
    · intro safe held
      by_cases only : ∀ entry, system.Sender entry → entry.handle = search.handle
      · exact absurd ⟨held, search, rfl, only⟩ safe
      · simp only [not_forall] at only
        obtain ⟨entry, sends, differs⟩ := only
        exact ⟨entry, (sender_respond found entry).mpr ⟨sends, differs⟩⟩

/-- Taking a task off the heap leaves the datagram covered: the task that was taken is live. -/
theorem Covered.takeDue {system : SearchSystem} (h : system.Covered) (sound : system.Sound) :
    system.takeDue.Covered := by
  unfold SearchSystem.takeDue
  split
  · rename_i idle
    have promised := h.promised (by rw [idle]; exact nofun)
    obtain ⟨marks, taken⟩ := Timer.takeDue_spec system.manager.timer system.clock
      (sound.idle.mp idle) sound.agrees.goesOn
    rcases taken with ⟨none, waiting⟩ | ⟨entry, running, alive, -, -⟩
    · refine covered_of_promised (promised.mono rfl fun entry soon => ?_)
      exact ⟨entry, waiting.mem_iff.mpr soon.1, soon.2⟩
    · intro _
      have isRunning : (system.manager.takeDue system.clock).timer.running = some entry := running
      refine ⟨entry, .inr ⟨?_, isRunning, ?_⟩⟩
      · dsimp only
        rw [isRunning, Option.isSome_some, if_pos rfl]
      · exact (congrFun marks.isLive_eq entry).trans alive
  · exact h

/-- Making a request leaves the datagram covered: it is sent unless another task is due soon. -/
theorem Covered.request {system : SearchSystem} (h : system.Covered) (sound : system.Sound) :
    system.request.Covered := by
  unfold SearchSystem.request
  split
  · refine covered_of_promised ?_
    show (system.manager.request system.clock).2.Promised system.clock
    rw [SearchManager.request_eq]
    split
    · rename_i lost
      intro held
      obtain ⟨entry, soon | ⟨-, running, alive⟩⟩ := h held
      · exact ⟨entry, soon⟩
      · -- A live task finds its search.
        obtain ⟨search, -, found, -⟩ := sound.agrees.running?_of_live running alive
        rw [found] at lost
        contradiction
    · rename_i search _
      obtain ⟨immediateFlushes, added⟩ :=
        SearchManager.addRequest_eq system.manager system.clock search
      rw [added]
      have timer := (SearchManager.withRequest_spec system.manager search).2.1
      exact SearchManager.promised_flushUnlessSoon
        ((congrArg Timer.lastMoment? timer).trans sound.endless) system.clock
  · exact h

/-- Reading the interval leaves the datagram covered: time only goes on. -/
theorem Covered.advance {system : SearchSystem} (h : system.Covered) :
    system.advance.Covered := by
  unfold SearchSystem.advance
  split
  · rename_i pause requested
    have promised := h.promised (by rw [requested]; exact nofun)
    refine covered_of_promised (promised.mono ?_ fun entry soon => ⟨entry, ?_⟩)
    · show system.manager.advance.2.frame = system.manager.frame
      rw [SearchManager.advance_eq]
      split
      · rfl
      · split <;> rfl
    · obtain ⟨same, timer⟩ := SearchManager.advance_spec system.manager
      obtain ⟨waits, due⟩ := soon
      show entry ∈ system.manager.advance.2.timer.waiting ∧ entry.due ≤ _
      rw [timer]
      refine ⟨waits, ?_⟩
      rw [same.config]
      rw [Duration.le_def] at due ⊢
      cases pause <;>
        simp only [Duration.nanos_add, if_true, Bool.false_eq_true, if_false] at due ⊢ <;> omega
  · exact h

/-- The end of a run leaves the datagram covered. -/
theorem Covered.putBack {system : SearchSystem} (h : system.Covered) :
    system.putBack.Covered := by
  unfold SearchSystem.putBack
  split
  · rename_i again advanced
    have promised := h.promised (by rw [advanced]; exact nofun)
    exact covered_of_promised (promised.putBack again)
  · exact h

/-- Every event but an answer that strands it leaves the datagram covered. -/
theorem Covered.step {system : SearchSystem} (h : system.Covered) (sound : system.Sound)
    (event : SearchEvent) (safe : ∀ result, event = .respond result → ¬ system.Strands result) :
    (system.step event).Covered := by
  have agrees := sound.agrees
  cases event with
  | register channelId name =>
    exact covered_of_promised (agrees.promised_start system.clock channelId name none)
  | registerWithReply channelId name =>
    exact covered_of_promised (agrees.promise.promised_start system.clock channelId name _)
  | unregister channelId =>
    show Covered { system with manager := (system.manager.unregister system.clock channelId).2 }
    rw [SearchManager.unregister_eq]
    split
    · have endless := (SearchManager.handles_finish system.manager channelId .closed).2
      exact covered_of_promised (SearchManager.promised_flushUnlessSoon
        (endless.trans sound.endless) system.clock)
    · exact h
  | respond result => exact (covered_respond_iff h result).mpr (safe result rfl)
  | resetDelays => exact h
  | hurry =>
    intro held
    obtain ⟨entry, soon | ⟨stage, running, alive⟩⟩ := h held
    · have promised : system.manager.Promised system.clock := fun _ => ⟨entry, soon⟩
      obtain ⟨other, otherSoon⟩ := promised.hurry held
      exact ⟨other, .inl otherSoon⟩
    · obtain ⟨marks, same⟩ :=
        Timer.sameMarks_rescheduleAll system.manager.timer system.clock
      exact ⟨entry, .inr ⟨stage, same.trans running, (congrFun marks.isLive_eq entry).trans alive⟩⟩
  | flush =>
    exact covered_of_promised
      (SearchManager.promised_of_empty (SearchManager.flush_spec _).2.2.2 system.clock)
  | wait time =>
    intro held
    obtain ⟨entry, ⟨waits, due⟩ | taken⟩ := h held
    · refine ⟨entry, .inl ⟨waits, ?_⟩⟩
      rw [Duration.le_def] at due ⊢
      simp only [SearchSystem.step, Duration.nanos_add] at due ⊢
      omega
    · exact ⟨entry, .inr taken⟩
  | takeDue => exact h.takeDue sound
  | request => exact h.request sound
  | advance => exact h.advance
  | putBack => exact h.putBack

end SearchSystem

/-! ## Between runs -/

/-- What can be done with a search manager as a whole before it is shut down. -/
inductive SearchOperation where
  /-- A search is started. -/
  | register (channelId : UInt32) (name : String)
  /-- A search with a promised reply is started. -/
  | registerWithReply (channelId : UInt32) (name : String)
  /-- A search is given up. -/
  | unregister (channelId : UInt32)
  /-- A server's answer comes. -/
  | respond (result : SearchResult)
  /-- A server reappeared. -/
  | beaconAnomaly
  /-- The datagram is sent. -/
  | flush
  /-- Time passes. -/
  | wait (time : Duration)
  /-- The timer runs the next task if it is due. -/
  | iterate
  deriving DecidableEq, Repr

/-- The events that an operation consists of. -/
def SearchOperation.events : SearchOperation → List SearchEvent
  | .register channelId name => [.register channelId name]
  | .registerWithReply channelId name => [.registerWithReply channelId name]
  | .unregister channelId => [.unregister channelId]
  | .respond result => [.respond result]
  | .beaconAnomaly => [.resetDelays, .hurry]
  | .flush => [.flush]
  | .wait time => [.wait time]
  | .iterate => SearchSystem.iteration

namespace SearchSystem

/-- What an operation does. -/
def perform (system : SearchSystem) (operation : SearchOperation) : SearchSystem :=
  system.run operation.events

/-- What some operations do, one after the other. -/
def performAll (system : SearchSystem) (operations : List SearchOperation) : SearchSystem :=
  operations.foldl perform system

/-- When the datagram holds a request, a live task is due within the coalescing window. -/
def Promised (system : SearchSystem) : Prop := system.manager.Promised system.clock

/-- No task is being run between two operations. -/
theorem stage_perform {system : SearchSystem} (idle : system.stage = .idle)
    (operation : SearchOperation) : (system.perform operation).stage = .idle := by
  cases operation with
  | iterate =>
    show (system.run iteration).stage = .idle
    cases running : (system.manager.takeDue system.clock).timer.running with
    | none => rw [run_iteration_of_none system idle running, idle]
    | some entry => rw [run_iteration system idle (by rw [running]; rfl)]
  | _ => exact idle

/-- Events without an answer leave the datagram covered. -/
theorem Covered.run {system : SearchSystem} (h : system.Covered) (sound : system.Sound)
    (events : List SearchEvent) (unanswered : ∀ result, .respond result ∉ events) :
    (system.run events).Covered := by
  induction events generalizing system with
  | nil => exact h
  | cons event later ih =>
    have covered := h.step sound event fun result isAnswer _ =>
      unanswered result (isAnswer ▸ List.mem_cons_self)
    exact ih covered (sound.step event) fun result member =>
      unanswered result (List.mem_cons_of_mem event member)

/-- An operation keeps the promise exactly when it is no answer that strands the datagram. -/
theorem promised_perform_iff {system : SearchSystem} (h : system.Promised) (sound : system.Sound)
    (idle : system.stage = .idle) (operation : SearchOperation) :
    (system.perform operation).Promised ↔
      ∀ result, operation = .respond result → ¬ system.Strands result := by
  have covered : system.Covered := covered_of_promised h
  have between : (system.perform operation).Promised ↔ (system.perform operation).Covered := by
    have notTaken : (system.perform operation).stage ≠ .taken := by
      rw [stage_perform idle operation]
      exact nofun
    exact ⟨covered_of_promised, fun after => after.promised notTaken⟩
  rw [between]
  by_cases answer : ∃ result, operation = .respond result
  · obtain ⟨result, rfl⟩ := answer
    refine (covered_respond_iff covered result).trans ⟨fun safe other same => ?_, fun safe => ?_⟩
    · obtain rfl := SearchOperation.respond.inj same
      exact safe
    · exact safe result rfl
  · refine iff_of_true (covered.run sound operation.events fun result member => ?_)
      fun result same => absurd ⟨result, same⟩ answer
    cases operation with
    | respond other => exact answer ⟨other, rfl⟩
    | _ => simp [SearchOperation.events, iteration] at member

/-- Between operations the invariant of the system holds and no task is being run. -/
theorem sound_performAll {config : SearchConfig} (ordered : config.Ordered) (clock : Moment)
    (operations : List SearchOperation) :
    ((new config clock).performAll operations).Sound ∧
      ((new config clock).performAll operations).stage = .idle := by
  induction operations using List.reverseRecOn with
  | nil => exact ⟨Sound.new ordered clock, rfl⟩
  | append_singleton earlier operation ih =>
    rw [performAll, List.foldl_append]
    exact ⟨ih.1.run operation.events, stage_perform ih.2 operation⟩

/-- A run of operations keeps the promise in all of its states exactly when no answer among them
strands the datagram. -/
theorem promised_iff_not_strands (config : SearchConfig) (ordered : config.Ordered)
    (clock : Moment) (operations : List SearchOperation) :
    (∀ earlier, earlier <+: operations → ((new config clock).performAll earlier).Promised) ↔
      ∀ earlier result, earlier ++ [.respond result] <+: operations →
        ¬ ((new config clock).performAll earlier).Strands result := by
  -- One operation more keeps the promise unless it is an answer that strands the datagram.
  have onward := fun earlier (promised : ((new config clock).performAll earlier).Promised)
      (operation : SearchOperation) =>
    promised_perform_iff promised (sound_performAll ordered clock earlier).1
      (sound_performAll ordered clock earlier).2 operation
  have performed : ∀ earlier operation,
      (new config clock).performAll (earlier ++ [operation]) =
        ((new config clock).performAll earlier).perform operation :=
    fun _ _ => List.foldl_append
  constructor
  · -- An answer that strands the datagram breaks the promise in the next state.
    intro promised earlier result isPrefix
    have before := promised earlier ((List.prefix_append earlier _).trans isPrefix)
    have after := promised _ isPrefix
    rw [performed] at after
    exact (onward earlier before (.respond result)).mp after result rfl
  · intro safe earlier isPrefix
    induction earlier using List.reverseRecOn with
    | nil => exact SearchManager.promised_of_empty rfl clock
    | append_singleton earlier operation ih =>
      have before := ih ((List.prefix_append earlier _).trans isPrefix)
      rw [performed]
      refine (onward earlier before operation).mpr fun result same => ?_
      rw [same] at isPrefix
      exact safe earlier result isPrefix

/-- A server's answer for a channel. -/
def answerFor (channelId : UInt32) : SearchResult where
  channelId := channelId
  serverId := 0xFFFFFFFF
  dataType := 5064
  dataCount := 0
  minorVersion := 13
  serverAddress := ⟨.v4 0x0A000005, 5064⟩

/-- Of two channels whose requests are due at the same time the second is answered when the first
has made its request. -/
def answeredCompany : List SearchOperation :=
  [.register 1 "PV:1", .register 2 "PV:2", .iterate, .respond (answerFor 2)]

/-- The request of the first channel is left in the datagram, and no task is due soon. -/
theorem promised_iff_not_strands_answeredCompany :
    SearchConfig.Ordered {} ∧ ¬ ∀ earlier, earlier <+: answeredCompany →
      ((new {} Duration.zero).performAll earlier).Promised := by
  have ordered : SearchConfig.Ordered {} := by decide
  refine ⟨ordered, fun promised => ?_⟩
  let before := (new {} Duration.zero).performAll
    [.register 1 "PV:1", .register 2 "PV:2", .iterate]
  refine (promised_iff_not_strands {} ordered Duration.zero answeredCompany).mp promised
    [.register 1 "PV:1", .register 2 "PV:2", .iterate] (answerFor 2) (List.prefix_refl _)
    ⟨by decide +kernel, ⟨2, "PV:2", 1, Duration.ofMillis 100, none⟩, by decide +kernel, ?_⟩
  rintro entry (⟨waits, due⟩ | ⟨taken, -⟩)
  · have only : ∀ entry ∈ before.manager.timer.waiting,
        entry.due ≤ before.clock + before.manager.config.coalesceWindow → entry.handle = 1 := by
      decide +kernel
    exact only entry waits due
  · have idle : before.stage = .idle := by decide +kernel
    rw [idle] at taken
    contradiction

/-- Requests share datagrams for longer than the shortest interval. -/
def longWindow : SearchConfig :=
  { minInterval := Duration.ofSeconds 5
    maxInterval := Duration.ofSeconds 60
    coalesceWindow := Duration.ofSeconds 10
    flushPause := Duration.zero }

/-- Two channels are searched for one after the other, and both are answered. -/
def answeredBoth : List SearchOperation :=
  [.register 1 "PV:1", .iterate, .register 2 "PV:2", .iterate, .respond (answerFor 1),
    .respond (answerFor 2)]

/-- When both channels are answered, the second request stays in the datagram without any task. -/
theorem not_promised_answeredBoth :
    longWindow.Ordered ∧ ¬ ((new longWindow Duration.zero).performAll answeredBoth).Promised := by
  refine ⟨by decide, fun promised => ?_⟩
  obtain ⟨entry, waits, -⟩ := promised (by decide +kernel)
  have nothing : ((new longWindow Duration.zero).performAll answeredBoth).manager.timer.waiting =
      [] := by
    decide +kernel
  rw [nothing] at waits
  contradiction

end SearchSystem

end ChannelAccess
