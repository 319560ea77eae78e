import ChannelAccess.Proofs.Search.Retries
import Mathlib.Algebra.Group.Nat.Defs

/-!
# The intervals between requests

The intervals that the task of a channel asks for form a geometric sequence, cut off at the longest
interval: `SearchConfig.interval` is its closed form. The sequence starts when the search for the
channel is registered, and starts again with every beacon anomaly, one that comes in the middle of a
run among them. `SearchBackoff` keeps account of the intervals since then, and
`SearchSystem.Origin` says what an event does to the interval that is stored for each search.
`backoff_closed_form` is the conclusion for every run of a manager. Whether the sender could send a
datagram is looked at nowhere.
-/

namespace ChannelAccess

namespace SearchConfig

/-- The interval that a task asks for when it has asked for so many others before. -/
def interval (config : SearchConfig) (count : Nat) : Duration :=
  min config.maxInterval ⟨config.minInterval.nanos * config.multiplier.toNat ^ count⟩

theorem nanos_interval (config : SearchConfig) (count : Nat) :
    (config.interval count).nanos =
      min config.maxInterval.nanos (config.minInterval.nanos * config.multiplier.toNat ^ count) :=
  rfl

/-- A task asks for the shortest interval first. -/
theorem interval_zero {config : SearchConfig} (ordered : config.Ordered) :
    config.interval 0 = config.minInterval := by
  have bounds : config.minInterval.nanos ≤ config.maxInterval.nanos := ordered
  ext
  rw [nanos_interval, pow_zero, Nat.mul_one]
  omega

/-- No interval is longer than the longest one. -/
theorem interval_le (config : SearchConfig) (count : Nat) :
    config.interval count ≤ config.maxInterval :=
  Nat.min_le_left _ _

/-- An interval is as many times longer than the one before as the tuning says, or it is the longest
one. -/
theorem nanos_interval_succ {config : SearchConfig} (positive : 1 ≤ config.multiplier)
    (count : Nat) :
    (config.interval (count + 1)).nanos =
      min config.maxInterval.nanos ((config.interval count).nanos * config.multiplier.toNat) := by
  have factor : 1 ≤ config.multiplier.toNat := UInt32.le_iff_toNat_le.mp positive
  rw [nanos_interval, nanos_interval, pow_succ, ← Nat.mul_assoc,
    ← Nat.mul_min_mul_right]
  have longest := Nat.le_mul_of_pos_right config.maxInterval.nanos factor
  omega

/-- Intervals do not get shorter. -/
theorem interval_mono {config : SearchConfig} (positive : 1 ≤ config.multiplier)
    {earlier later : Nat} (h : earlier ≤ later) :
    config.interval earlier ≤ config.interval later := by
  have factor : 1 ≤ config.multiplier.toNat := UInt32.le_iff_toNat_le.mp positive
  have powers := Nat.mul_le_mul_left config.minInterval.nanos (Nat.pow_le_pow_right factor h)
  rw [Duration.le_def, nanos_interval, nanos_interval]
  omega

/-- The delay that follows an interval is the next interval. -/
theorem nextDelay?_interval {config : SearchConfig} (ordered : config.Ordered)
    (positive : 1 ≤ config.multiplier) (fits : config.maxInterval ≤ Duration.longest)
    (count : Nat) :
    config.nextDelay? (config.interval count) = some (config.interval (count + 1)) := by
  have shortest : config.minInterval.nanos ≤ (config.interval (count + 1)).nanos := by
    have first := interval_mono positive (Nat.zero_le (count + 1))
    rw [interval_zero ordered] at first
    exact first
  have next := nanos_interval_succ positive count
  have bound : config.maxInterval.nanos ≤ Duration.longest.nanos := fits
  rw [nextDelay?, if_pos ordered]
  congr 1
  ext
  rw [Duration.nanos_min, Duration.nanos_max, Duration.saturatingMul, Duration.nanos_min]
  -- The product saturates only beyond the longest interval.
  generalize (config.interval count).nanos * config.multiplier.toNat = product at next ⊢
  show min (max (min product Duration.longest.nanos) config.minInterval.nanos)
    config.maxInterval.nanos = (config.interval (count + 1)).nanos
  omega

end SearchConfig

/-- The event makes the search for a channel go on from the shortest interval. -/
def SearchEvent.Refreshes : SearchEvent → UInt32 → Prop
  | .register channelId _, other => channelId = other
  | .registerWithReply channelId _, other => channelId = other
  | .resetDelays, _ => True
  | _, _ => False

instance (event : SearchEvent) (channelId : UInt32) : Decidable (event.Refreshes channelId) := by
  unfold SearchEvent.Refreshes
  split <;> infer_instance

namespace SearchManager

/-! ## The task of a search -/

/-- The task of a search that is found in progress by the task being run is that task, and live. -/
theorem Agrees.entry_of_running? {manager : SearchManager} (h : manager.Agrees)
    {search : PendingSearch} (running : manager.running? = some search) :
    ∃ entry, manager.timer.running = some entry ∧ manager.timer.isLive entry = true ∧
      entry.key = search.key := by
  obtain ⟨entry, isRunning, found⟩ := Option.bind_eq_some_iff.mp running
  obtain ⟨found, sameHandle⟩ := Option.filter_eq_some_iff.mp found
  obtain ⟨isPending, sameChannel⟩ := mem_of_find? found
  have same : entry.key = search.key :=
    Prod.ext (beq_iff_eq.mp sameHandle).symm sameChannel.symm
  -- The search has a live task, which has the handle of the one that is being run.
  obtain ⟨other, alive, isOther⟩ :=
    List.mem_map.mp (h.matched.mem_iff.mpr (List.mem_map_of_mem isPending))
  have isLive : manager.timer.isLive other = true := by
    rcases Timer.mem_live.mp alive with ⟨-, isLive⟩ | waits
    · exact isLive
    · exact (Timer.mem_waiting.mp waits).2
  have handles : other.handle = entry.handle := (Prod.mk.inj (isOther.trans same.symm)).1
  refine ⟨entry, isRunning, ?_, same⟩
  rw [Timer.isLive, ← handles]
  exact isLive

/-- The task of a search waits on the heap unless it is being run. -/
theorem Agrees.waits_or_runs {manager : SearchManager} (h : manager.Agrees)
    {search : PendingSearch} (isPending : search ∈ manager.pending) :
    manager.running? = some search ∨
      ∃ entry ∈ manager.timer.waiting, entry.key = search.key := by
  obtain ⟨entry, alive, same⟩ :=
    List.mem_map.mp (h.matched.mem_iff.mpr (List.mem_map_of_mem isPending))
  rcases Timer.mem_live.mp alive with ⟨running, isLive⟩ | waits
  · obtain ⟨other, otherPending, found, sameEntry⟩ := h.running?_of_live running isLive
    have sameChannel : other.channelId = search.channelId :=
      (Prod.mk.inj (sameEntry.trans same)).2
    rw [eq_of_channelId_eq h.channels otherPending isPending sameChannel] at found
    exact .inl found
  · exact .inr ⟨entry, waits, same⟩

/-- The task of a search that is being run does not wait on the heap as well. -/
theorem Agrees.not_waiting_of_running? {manager : SearchManager} (h : manager.Agrees)
    {search : PendingSearch} (running : manager.running? = some search)
    {entry : TimerEntry UInt32} (waits : entry ∈ manager.timer.waiting) :
    entry.key ≠ search.key := by
  intro same
  obtain ⟨other, isRunning, alive, isOther⟩ := h.entry_of_running? running
  have distinct := (h.matched.map Prod.fst).nodup_iff.mpr h.handles
  rw [Timer.live, isRunning, Option.toList_some, List.filter_cons_of_pos alive, List.map_append,
    List.map_append] at distinct
  refine (List.nodup_append.mp distinct).2.2 other.handle (List.mem_singleton_self _) entry.handle
    ?_ (congrArg Prod.fst (isOther.trans same.symm))
  rw [List.map_map]
  exact List.mem_map_of_mem (f := Prod.fst ∘ TimerEntry.key) waits

/-- When the waiting task of a channel is due, and the interval that it will ask for then. -/
def schedule? (manager : SearchManager) (channelId : UInt32) : Option (Moment × Duration) := do
  let search ← manager.find? channelId
  let entry ← manager.timer.waiting.find? (·.task == channelId)
  some (entry.due, search.delay)

/-- The schedule of a channel is told by its search and the task of that. -/
theorem Agrees.schedule?_eq {manager : SearchManager} (h : manager.Agrees)
    {search : PendingSearch} (isPending : search ∈ manager.pending) {entry : TimerEntry UInt32}
    (waits : entry ∈ manager.timer.waiting) (same : entry.key = search.key) :
    manager.schedule? search.channelId = some (entry.due, search.delay) := by
  -- No two live tasks are of the same channel, so looking for the channel's task finds it.
  have distinct : (manager.timer.waiting.map (·.task)).Nodup := by
    have keys := (h.matched.map Prod.snd).nodup_iff.mpr h.channels
    rw [Timer.live, List.map_append, List.map_append] at keys
    have waiting := (List.nodup_append.mp keys).2.1
    rw [List.map_map] at waiting
    exact waiting
  have sameChannel : entry.task = search.channelId := (Prod.mk.inj same).2
  have found : manager.timer.waiting.find? (·.task == search.channelId) = some entry := by
    cases found : manager.timer.waiting.find? (·.task == search.channelId) with
    | none => exact absurd (beq_iff_eq.mpr sameChannel) (List.find?_eq_none.mp found entry waits)
    | some other =>
      have otherChannel := List.find?_some found
      rw [List.inj_on_of_nodup_map distinct (List.mem_of_find?_eq_some found) waits
        ((beq_iff_eq.mp otherChannel).trans sameChannel.symm)]
  simp only [schedule?, find?_of_mem h.channels isPending, found, Option.bind_eq_bind,
    Option.bind_some]

/-- A search that was just started is due at once and goes on from the shortest interval. -/
theorem Agrees.schedule?_start {manager : SearchManager} (h : manager.Agrees) (now : Moment)
    (channelId : UInt32) (name : String) (reply : Option Nat) :
    (manager.start now channelId name reply).schedule? channelId =
      some (now, manager.config.minInterval) := by
  have agrees := h.start now channelId name reply
  rw [start_eq] at agrees ⊢
  have finished := h.finish channelId .closed
  have scheduled := Timer.waiting_schedule (manager.finish channelId .closed).timer now
    channelId finished.fresh
  have schedule := agrees.schedule?_eq
    (List.mem_append_right _ (List.mem_singleton_self _))
    (scheduled.mem_iff.mpr List.mem_cons_self) rfl
  rw [(finish_spec manager channelId .closed).1] at schedule
  exact schedule

/-- After a beacon anomaly a search whose task is not being run is due at once and goes on from the
shortest interval. -/
theorem Agrees.schedule?_beaconAnomaly {manager : SearchManager} (h : manager.Agrees)
    (now : Moment) {search : PendingSearch} (isPending : search ∈ manager.pending)
    (notRunning : manager.running? ≠ some search) :
    (manager.beaconAnomaly now).schedule? search.channelId =
      some (now, manager.config.minInterval) := by
  rcases h.waits_or_runs isPending with running | ⟨entry, waits, same⟩
  · exact absurd running notRunning
  · obtain ⟨keys, dues⟩ := Timer.waiting_rescheduleAll manager.timer now
    obtain ⟨hurried, stillWaits, sameKey⟩ := List.mem_map.mp
      (keys.mem_iff.mpr (List.mem_map_of_mem (f := TimerEntry.key) waits))
    have reset : { search with delay := manager.config.minInterval } ∈
        (manager.beaconAnomaly now).pending :=
      List.mem_map_of_mem (f := fun other : PendingSearch =>
        { other with delay := manager.config.minInterval }) isPending
    have schedule := (h.resetDelays.hurry now).schedule?_eq reset stillWaits (sameKey.trans same)
    rw [dues hurried stillWaits] at schedule
    exact schedule

/-- When the run of a search's task is over, the search is due after the interval that was read. -/
theorem Agrees.schedule?_putBack {manager : SearchManager} (h : manager.Agrees)
    (endless : manager.timer.lastMoment? = none) (now : Moment) {search : PendingSearch}
    (running : manager.running? = some search) (interval : Duration) :
    (manager.putBack now (some interval)).schedule? search.channelId =
      some (now + interval, search.delay) := by
  obtain ⟨entry, isRunning, alive, same⟩ := h.entry_of_running? running
  have back := Timer.waiting_putBack_of_live isRunning alive h.goesOn
    (Timer.after?_of_endless endless now interval)
  have agrees := h.putBack fun _ _ _ _ =>
    ⟨Option.some_ne_none interval, Timer.breaksAt_of_endless endless now (some interval)⟩
  have isPending : search ∈ manager.pending := mem_of_running? running
  exact agrees.schedule?_eq isPending (back.mem_iff.mpr List.mem_cons_self) same

end SearchManager

namespace SearchSystem

/-- The interval that an event asks for in the name of the task of a channel. -/
def asks? (system : SearchSystem) (channelId : UInt32) : SearchEvent → Option Duration
  | .advance =>
    match system.stage with
    | .requested _ =>
      if system.manager.running?.any (·.channelId == channelId) then system.manager.advance.1
      else none
    | _ => none
  | _ => none

/-- The step of a run that reads the interval asks for that in the name of the task's channel. -/
theorem asks?_of_requested {system : SearchSystem} {pause : Bool}
    (requested : system.stage = .requested pause) (channelId : UInt32) :
    system.asks? channelId .advance =
      if system.manager.running?.any (·.channelId == channelId) then system.manager.advance.1
      else none := by
  unfold asks?
  rw [requested]

/-- The tuning stays as it is. -/
theorem config_step (system : SearchSystem) (event : SearchEvent) :
    (system.step event).manager.config = system.manager.config := by
  cases event with
  | register channelId name =>
    show (system.manager.start system.clock channelId name none).config = _
    rw [SearchManager.start_eq]
    exact (SearchManager.finish_spec system.manager channelId .closed).1
  | registerWithReply channelId name =>
    show (system.manager.registerWithReply system.clock channelId name).config = _
    rw [SearchManager.registerWithReply_eq, SearchManager.start_eq]
    exact (SearchManager.finish_spec system.manager.promise channelId .closed).1
  | unregister channelId =>
    show (system.manager.unregister system.clock channelId).2.config = _
    rw [SearchManager.unregister_eq]
    split
    · rw [(SearchManager.flushUnlessSoon_spec _ _).1, (SearchManager.finish_spec _ _ _).1]
    · rfl
  | respond result =>
    show (system.manager.searchResponse result).2.config = _
    rw [SearchManager.searchResponse_eq]
    exact (SearchManager.finish_spec system.manager result.channelId _).1
  | flush => exact (SearchManager.flush_spec system.manager).1
  | request =>
    show system.request.manager.config = _
    unfold SearchSystem.request
    split
    · exact (SearchManager.sameSearches_request _ _).config
    · rfl
  | advance =>
    show system.advance.manager.config = _
    unfold SearchSystem.advance
    split
    · exact (SearchManager.advance_spec _).1.config
    · rfl
  | takeDue =>
    show system.takeDue.manager.config = _
    unfold SearchSystem.takeDue
    split <;> rfl
  | putBack =>
    show system.putBack.manager.config = _
    unfold SearchSystem.putBack
    split <;> rfl
  | _ => rfl

/-- A search in progress after another was started is the new one or was in progress before. -/
theorem pending_start {manager : SearchManager} {now : Moment} {channelId : UInt32} {name : String}
    {reply : Option Nat} {search : PendingSearch}
    (isPending : search ∈ (manager.start now channelId name reply).pending) :
    (channelId = search.channelId ∧ search.delay = manager.config.minInterval) ∨
      (channelId ≠ search.channelId ∧ search ∈ manager.pending) := by
  rw [SearchManager.start_eq] at isPending
  rcases List.mem_append.mp isPending with earlier | new
  · rw [SearchManager.pending_finish, List.mem_filter] at earlier
    exact .inr ⟨(bne_iff_ne.mp earlier.2).symm, earlier.1⟩
  · rw [List.mem_singleton.mp new, (SearchManager.finish_spec manager channelId .closed).1]
    exact .inl ⟨rfl, rfl⟩

/-- Where a search that is in progress after an event comes from. -/
inductive Origin (system : SearchSystem) (event : SearchEvent) (search : PendingSearch) : Prop where
  /-- The event made it go on from the shortest interval. -/
  | refreshed (refreshes : event.Refreshes search.channelId)
      (shortest : search.delay = system.manager.config.minInterval)
  /-- It was in progress before, and the event asked for no interval of it. -/
  | kept (goesOn : ¬ event.Refreshes search.channelId)
      (nothing : system.asks? search.channelId event = none)
      (wasPending : search ∈ system.manager.pending)
  /-- It was in progress before with an interval that the event asked for, and has the one that
  follows. -/
  | lengthened (goesOn : ¬ event.Refreshes search.channelId) (before : PendingSearch)
      (wasPending : before ∈ system.manager.pending) (same : before.key = search.key)
      (asks : system.asks? search.channelId event = some before.delay)
      (follows : system.manager.config.nextDelay? before.delay = some search.delay)

/-- Reading the interval of a running task lengthens that of its search, and no other. -/
theorem Sound.origin_advance {system : SearchSystem} (h : system.Sound) {search : PendingSearch}
    (isPending : search ∈ system.advance.manager.pending) : system.Origin .advance search := by
  unfold SearchSystem.advance at isPending
  split at isPending
  · rename_i pause requested
    rw [SearchManager.advance_eq] at isPending
    have asks := asks?_of_requested requested search.channelId
    cases running : system.manager.running? with
    | none =>
      rw [running] at isPending asks
      exact .kept id asks isPending
    | some own =>
      rw [running] at isPending asks
      obtain ⟨next, follows⟩ : ∃ next, system.manager.config.nextDelay? own.delay = some next := by
        rw [SearchConfig.nextDelay?, if_pos h.agrees.ordered]
        exact ⟨_, rfl⟩
      have read : system.manager.advance.1 = some own.delay := by
        rw [SearchManager.advance_eq]
        simp only [running, follows]
      simp only [follows] at isPending
      rw [Option.any_some, read] at asks
      obtain ⟨before, wasPending, isAfter⟩ := List.mem_map.mp isPending
      by_cases same : before.channelId = own.channelId
      · obtain rfl := SearchManager.eq_of_channelId_eq h.agrees.channels wasPending
          (SearchManager.mem_of_running? running) same
        rw [if_pos (beq_iff_eq.mpr rfl)] at isAfter
        subst isAfter
        rw [if_pos (beq_iff_eq.mpr rfl)] at asks
        exact .lengthened id before wasPending rfl asks follows
      · rw [if_neg fun isOwn => same (beq_iff_eq.mp isOwn)] at isAfter
        subst isAfter
        rw [if_neg fun isOwn => same (beq_iff_eq.mp isOwn).symm] at asks
        exact .kept id asks wasPending
  · rename_i other
    refine .kept id ?_ isPending
    show (match system.stage with | .requested _ => _ | _ => none) = none
    split
    · rename_i pause requested
      exact absurd requested (other pause)
    · rfl

/-- Every search that is in progress after an event has an origin. -/
theorem Sound.origin {system : SearchSystem} (h : system.Sound) {event : SearchEvent}
    {search : PendingSearch} (isPending : search ∈ (system.step event).manager.pending) :
    system.Origin event search := by
  cases event with
  | register channelId name =>
    rcases pending_start isPending with ⟨isNew, shortest⟩ | ⟨other, wasPending⟩
    · exact .refreshed isNew shortest
    · exact .kept other rfl wasPending
  | registerWithReply channelId name =>
    rcases pending_start isPending with ⟨isNew, shortest⟩ | ⟨other, wasPending⟩
    · exact .refreshed isNew shortest
    · exact .kept other rfl wasPending
  | unregister channelId =>
    refine .kept id rfl ?_
    have stillPending : search ∈ (system.manager.unregister system.clock channelId).2.pending :=
      isPending
    rw [SearchManager.unregister_eq] at stillPending
    split at stillPending
    · rw [(SearchManager.flushUnlessSoon_spec _ _).2.2, SearchManager.pending_finish]
        at stillPending
      exact (List.mem_filter.mp stillPending).1
    · exact stillPending
  | respond result =>
    refine .kept id rfl ?_
    have stillPending : search ∈ (system.manager.searchResponse result).2.pending := isPending
    rw [SearchManager.searchResponse_eq, SearchManager.pending_finish] at stillPending
    exact (List.mem_filter.mp stillPending).1
  | resetDelays =>
    obtain ⟨before, -, isAfter⟩ := List.mem_map.mp isPending
    refine .refreshed trivial ?_
    rw [← isAfter]
  | flush =>
    have stillPending : search ∈ system.manager.flush.pending := isPending
    rw [(SearchManager.flush_spec system.manager).2.2.1] at stillPending
    exact .kept id rfl stillPending
  | takeDue =>
    have stillPending : search ∈ system.takeDue.manager.pending := isPending
    unfold SearchSystem.takeDue at stillPending
    split at stillPending <;> exact .kept id rfl stillPending
  | request =>
    have stillPending : search ∈ system.request.manager.pending := isPending
    unfold SearchSystem.request at stillPending
    split at stillPending
    · dsimp only at stillPending
      rw [SearchManager.request_eq] at stillPending
      split at stillPending
      · exact .kept id rfl stillPending
      · rw [(SearchManager.addRequest_spec _ _ _).2.2] at stillPending
        exact .kept id rfl stillPending
    · exact .kept id rfl stillPending
  | advance => exact h.origin_advance isPending
  | putBack =>
    have stillPending : search ∈ system.putBack.manager.pending := isPending
    unfold SearchSystem.putBack at stillPending
    split at stillPending <;> exact .kept id rfl stillPending
  | _ => exact .kept id rfl isPending

end SearchSystem

/-- A system, and the intervals that the task of one channel has asked for since it was last made to
go on from the shortest one. -/
structure SearchBackoff where
  /-- The system. -/
  system : SearchSystem
  /-- The intervals, in the order in which they were asked for. -/
  asked : List Duration := []

namespace SearchBackoff

/-- A new manager, whose channels have asked for nothing. -/
def new (config : SearchConfig) (clock : Moment) : SearchBackoff := ⟨.new config clock, []⟩

/-- What an event does to the system, and to the account of one channel. -/
def step (channelId : UInt32) (record : SearchBackoff) (event : SearchEvent) : SearchBackoff where
  system := record.system.step event
  asked :=
    if event.Refreshes channelId then []
    else record.asked ++ (record.system.asks? channelId event).toList

theorem asked_step (channelId : UInt32) (record : SearchBackoff) (event : SearchEvent) :
    (record.step channelId event).asked =
      if event.Refreshes channelId then []
      else record.asked ++ (record.system.asks? channelId event).toList :=
  rfl

/-- What some events do, one after the other. -/
def run (channelId : UInt32) (record : SearchBackoff) (events : List SearchEvent) : SearchBackoff :=
  events.foldl (step channelId) record

/-- The account is that of the system's own run. -/
theorem system_run (channelId : UInt32) (record : SearchBackoff) (events : List SearchEvent) :
    (record.run channelId events).system = record.system.run events := by
  induction events generalizing record with
  | nil => rfl
  | cons event later ih => exact ih (record.step channelId event)

/-- The intervals so far follow the closed form, and so will the next one. -/
structure Sound (config : SearchConfig) (channelId : UInt32) (record : SearchBackoff) : Prop where
  /-- The searches in progress are the live tasks of the timer. -/
  system : record.system.Sound
  /-- The tuning is the one that the manager started with. -/
  tuning : record.system.manager.config = config
  /-- The intervals that were asked for are the first ones of the closed form. -/
  asked : record.asked = (List.range record.asked.length).map config.interval
  /-- The interval that is stored for the channel is the one after those. -/
  stored : ∀ search ∈ record.system.manager.pending, search.channelId = channelId →
    search.delay = config.interval record.asked.length

/-- A new manager has asked for nothing and stores nothing. -/
theorem Sound.new {config : SearchConfig} (ordered : config.Ordered) (clock : Moment)
    (channelId : UInt32) : Sound config channelId (new config clock) where
  system := SearchSystem.Sound.new ordered clock
  tuning := rfl
  asked := rfl
  stored := fun _ isPending => absurd isPending List.not_mem_nil

/-- What an event asks for is the interval that was stored for the channel. -/
theorem of_asks? {system : SearchSystem} {channelId : UInt32} {event : SearchEvent}
    {interval : Duration} (h : system.asks? channelId event = some interval) :
    ∃ search ∈ system.manager.pending, search.channelId = channelId ∧ search.delay = interval := by
  unfold SearchSystem.asks? at h
  -- Only the step of a run that reads the interval asks for one.
  split at h
  · split at h
    · split at h
      · rename_i isChannel
        obtain ⟨search, running, same⟩ := Option.any_eq_true .. |>.mp isChannel
        rw [SearchManager.advance_eq, running] at h
        refine ⟨search, SearchManager.mem_of_running? running, beq_iff_eq.mp same, ?_⟩
        dsimp only at h
        split at h
        · contradiction
        · exact Option.some.inj h
      · contradiction
    · contradiction
  · contradiction

/-- Every event keeps the intervals at their closed form. -/
theorem Sound.step {config : SearchConfig} {channelId : UInt32} {record : SearchBackoff}
    (h : record.Sound config channelId) (ordered : config.Ordered)
    (positive : 1 ≤ config.multiplier) (fits : config.maxInterval ≤ Duration.longest)
    (event : SearchEvent) : (record.step channelId event).Sound config channelId where
  system := h.system.step event
  tuning := (SearchSystem.config_step record.system event).trans h.tuning
  asked := by
    rw [asked_step]
    split
    · rfl
    · cases asks : record.system.asks? channelId event with
      | none => simpa using h.asked
      | some interval =>
        obtain ⟨search, isPending, isChannel, rfl⟩ := of_asks? asks
        have next := h.stored search isPending isChannel
        rw [Option.toList_some, List.length_append, List.length_singleton, List.range_succ,
          List.map_append, ← h.asked, List.map_singleton, next]
  stored := by
    intro search isPending isChannel
    subst isChannel
    -- The account is emptied, kept or made longer by one just as the stored interval is.
    cases h.system.origin isPending with
    | refreshed refreshes shortest =>
      rw [asked_step, if_pos refreshes, List.length_nil, SearchConfig.interval_zero ordered,
        shortest, h.tuning]
    | kept goesOn nothing wasPending =>
      rw [asked_step, if_neg goesOn, nothing, Option.toList_none, List.append_nil]
      exact h.stored search wasPending rfl
    | lengthened goesOn before wasPending same asks follows =>
      have stored := h.stored before wasPending (Prod.mk.inj same).2
      rw [h.tuning, stored, SearchConfig.nextDelay?_interval ordered positive fits] at follows
      rw [asked_step, if_neg goesOn, asks, Option.toList_some, List.length_append,
        List.length_singleton]
      exact (Option.some.inj follows).symm

/-- The intervals stay at their closed form in every run. -/
theorem Sound.run {config : SearchConfig} {channelId : UInt32} {record : SearchBackoff}
    (h : record.Sound config channelId) (ordered : config.Ordered)
    (positive : 1 ≤ config.multiplier) (fits : config.maxInterval ≤ Duration.longest)
    (events : List SearchEvent) : (record.run channelId events).Sound config channelId := by
  induction events generalizing record with
  | nil => exact h
  | cons event later ih => exact ih (h.step ordered positive fits event)

/-- When a run of the channel's task reads its interval, that is the next one of the closed form. -/
theorem Sound.advance {config : SearchConfig} {channelId : UInt32} {record : SearchBackoff}
    (h : record.Sound config channelId) {pause : Bool}
    (requested : record.system.stage = .requested pause) {search : PendingSearch}
    (running : record.system.manager.running? = some search)
    (isChannel : search.channelId = channelId) :
    let after := record.step channelId .advance
    after.asked = record.asked ++ [config.interval record.asked.length] ∧
      after.system.stage = .advanced (some (config.interval record.asked.length)) := by
  have stored := h.stored search (SearchManager.mem_of_running? running) isChannel
  have read : record.system.manager.advance.1 = some (config.interval record.asked.length) := by
    rw [SearchManager.advance_eq]
    simp only [running, SearchConfig.nextDelay?, if_pos h.system.agrees.ordered, stored]
  constructor
  · rw [asked_step, if_neg (show ¬ SearchEvent.Refreshes .advance channelId from id),
      SearchSystem.asks?_of_requested requested, running, Option.any_some,
      if_pos (beq_iff_eq.mpr isChannel), read, Option.toList_some]
  · show record.system.advance.stage = _
    unfold SearchSystem.advance
    rw [requested]
    exact congrArg RunStage.advanced read

/-- The intervals that were asked for are those of the closed form, each at its place. -/
theorem Sound.eq_interval {config : SearchConfig} {channelId : UInt32} {record : SearchBackoff}
    (h : record.Sound config channelId) {count : Nat} {interval : Duration}
    (isInterval : record.asked[count]? = some interval) : interval = config.interval count := by
  have within : count < record.asked.length := (List.getElem?_eq_some_iff.mp isInterval).1
  rw [h.asked, List.getElem?_map, List.getElem?_range within] at isInterval
  exact (Option.some.inj isInterval).symm

/-- A task that holds an interval is due after it, and asks for the next one of the closed form
then. -/
theorem Sound.schedule?_putBack {config : SearchConfig} {channelId : UInt32}
    {record : SearchBackoff} (h : record.Sound config channelId) {interval : Duration}
    (advanced : record.system.stage = .advanced (some interval)) {search : PendingSearch}
    (running : record.system.manager.running? = some search)
    (isChannel : search.channelId = channelId) :
    (record.system.step .putBack).manager.schedule? channelId =
      some (record.system.clock + interval, config.interval record.asked.length) := by
  have stored := h.stored search (SearchManager.mem_of_running? running) isChannel
  have schedule := h.system.agrees.schedule?_putBack h.system.endless
    record.system.clock running interval
  rw [isChannel, stored] at schedule
  show record.system.putBack.manager.schedule? channelId = _
  unfold SearchSystem.putBack
  rw [advanced]
  exact schedule

/-- A channel is registered and its task has asked for one interval, after which it makes its second
request. -/
def askedOnce : List SearchEvent :=
  [.register 7 "PV:1", .takeDue, .request, .advance, .putBack, .wait (Duration.ofMillis 100),
    .takeDue, .request]

end SearchBackoff

end ChannelAccess
