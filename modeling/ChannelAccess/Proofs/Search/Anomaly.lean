import ChannelAccess.Proofs.Search.Backoff
import Mathlib.Data.List.Induction

/-!
# Beacon anomalies and running tasks

A beacon anomaly resets the intervals that are stored for the searches and then makes every task on
the heap due at once. A task that is being run is not on the heap, and holds its interval from when
it read it to when it is put back. So an anomaly reaches the search of that task through the stored
interval only, which is too late once the task has read it.

`anomaly_prompt_iff` says what an anomaly comes to for a search, whatever falls between its halves
and between the steps of a run: the search is next made within the shortest interval
(`SearchSystem.Prompt`) unless its task is being run and holds a longer one, which it read before
the reset or with a second request since. `not_prompt_readTwice` is a run in which it did.
-/

namespace ChannelAccess

namespace SearchSystem

/-- The interval with which the task being run is going to be put back, once it has made its
request: it holds it already or is about to read it. -/
def upcoming? (system : SearchSystem) : Option Duration :=
  match system.stage with
  | .requested _ => system.manager.advance.1
  | .advanced again => again
  | _ => none

theorem upcoming?_of_taken {system : SearchSystem} (taken : system.stage = .taken) :
    system.upcoming? = none := by
  rw [upcoming?, taken]

/-- The next request of a search is made within the shortest interval: its task waits and is due by
then, or is being run and is going to make the request, or to be put back with such an interval. -/
def Prompt (system : SearchSystem) (search : PendingSearch) : Prop :=
  let within := system.manager.config.minInterval
  (∃ entry ∈ system.manager.timer.waiting, entry.key = search.key ∧
      entry.due ≤ system.clock + within) ∨
    (system.manager.running? = some search ∧
      (system.stage = .taken ∨ ∃ interval, system.upcoming? = some interval ∧ interval ≤ within))

/-- The task of a search read an interval in its run, and some later event of the run of the system
reset the stored one while it held that. -/
def ReadBeforeReset (start : SearchSystem) (events : List SearchEvent) (search : PendingSearch)
    (interval : Duration) : Prop :=
  ∃ earlier later, events = earlier ++ .resetDelays :: later ∧
    (start.run earlier).stage = .advanced (some interval) ∧
      ∃ other, (start.run earlier).manager.running? = some other ∧ other.key = search.key

/-- How a run comes to hold an interval: it held it before, and the event was none of its own, or it
has just read it. -/
theorem of_advanced_step {system : SearchSystem} {event : SearchEvent} {interval : Duration}
    (advanced : (system.step event).stage = .advanced (some interval)) :
    (system.stage = .advanced (some interval) ∧
        system.manager.KeepsRun (system.step event).manager ∧
          ∀ channelId, system.asks? channelId event = none) ∨
      (event = .advance ∧ system.manager.advance.1 = some interval ∧
        ∃ pause, system.stage = .requested pause) := by
  cases event with
  | register channelId name =>
    exact .inl ⟨advanced, SearchManager.keepsRun_start _ _ _ _ _, fun _ => rfl⟩
  | registerWithReply channelId name =>
    exact .inl ⟨advanced, SearchManager.keepsRun_registerWithReply _ _ _ _, fun _ => rfl⟩
  | unregister channelId =>
    exact .inl ⟨advanced, SearchManager.keepsRun_unregister _ _ _, fun _ => rfl⟩
  | respond result =>
    exact .inl ⟨advanced, SearchManager.keepsRun_searchResponse _ _, fun _ => rfl⟩
  | hurry => exact .inl ⟨advanced, SearchManager.keepsRun_hurry _ _, fun _ => rfl⟩
  | flush => exact .inl ⟨advanced, SearchManager.keepsRun_flush _, fun _ => rfl⟩
  | resetDelays => exact .inl ⟨advanced, ⟨rfl, fun _ => id⟩, fun _ => rfl⟩
  | wait time => exact .inl ⟨advanced, SearchManager.KeepsRun.refl _, fun _ => rfl⟩
  | takeDue =>
    have stage : system.takeDue.stage = .advanced (some interval) := advanced
    have same : system.takeDue = system := by
      unfold SearchSystem.takeDue at stage ⊢
      split at stage
      · dsimp only at stage
        split at stage <;> contradiction
      · rfl
    show (_ ∧ system.manager.KeepsRun system.takeDue.manager ∧ _) ∨ _
    rw [same] at stage ⊢
    exact .inl ⟨stage, SearchManager.KeepsRun.refl _, fun _ => rfl⟩
  | request =>
    have stage : system.request.stage = .advanced (some interval) := advanced
    have same : system.request = system := by
      unfold SearchSystem.request at stage ⊢
      split at stage
      · dsimp only at stage
        cases answered : (system.manager.request system.clock).1 with
        | none =>
          rw [answered, Option.elim_none] at stage
          exact nomatch RunStage.advanced.inj stage
        | some pause =>
          rw [answered, Option.elim_some] at stage
          contradiction
      · rfl
    show (_ ∧ system.manager.KeepsRun system.request.manager ∧ _) ∨ _
    rw [same] at stage ⊢
    exact .inl ⟨stage, SearchManager.KeepsRun.refl _, fun _ => rfl⟩
  | advance =>
    have stage : system.advance.stage = .advanced (some interval) := advanced
    show (_ ∧ system.manager.KeepsRun system.advance.manager ∧ _) ∨ _
    cases before : system.stage with
    | requested pause =>
      simp only [SearchSystem.advance, before] at stage
      exact .inr ⟨rfl, RunStage.advanced.inj stage, pause, rfl⟩
    | _ =>
      have same : system.advance = system := by simp only [SearchSystem.advance, before]
      rw [same, before] at stage
      rw [same]
      refine .inl ⟨stage, SearchManager.KeepsRun.refl _, fun channelId => ?_⟩
      simp only [asks?, before]
  | putBack =>
    have stage : system.putBack.stage = .advanced (some interval) := advanced
    unfold SearchSystem.putBack at stage
    split at stage
    · contradiction
    · rename_i other
      exact absurd stage (other (some interval))

/-- A task that is still being run was the task of the same search before, unless that was ended. -/
theorem Sound.running?_of_keepsRun {system : SearchSystem} (h : system.Sound)
    {manager : SearchManager} (agrees : manager.Agrees) (keeps : system.manager.KeepsRun manager)
    {search : PendingSearch} (running : manager.running? = some search) :
    ∃ before, system.manager.running? = some before ∧ before.key = search.key := by
  obtain ⟨entry, isRunning, alive, same⟩ := agrees.entry_of_running? running
  rw [keeps.running] at isRunning
  obtain ⟨before, -, found, isBefore⟩ :=
    h.agrees.running?_of_live isRunning (keeps.live entry alive)
  exact ⟨before, found, isBefore.trans same⟩

end SearchSystem

namespace SearchBackoff

theorem run_concat (channelId : UInt32) (record : SearchBackoff) (events : List SearchEvent)
    (last : SearchEvent) :
    record.run channelId (events ++ [last]) = (record.run channelId events).step channelId last :=
  List.foldl_concat ..

/-- Whoever makes the search of a running task go on from the shortest interval resets the intervals
of all searches. -/
theorem eq_resetDelays_of_refreshes {system : SearchSystem} (h : system.Sound)
    {before search : PendingSearch} (wasPending : before ∈ system.manager.pending)
    (same : before.key = search.key) {event : SearchEvent}
    (isPending : search ∈ (system.step event).manager.pending)
    (refreshes : event.Refreshes search.channelId) : event = .resetDelays := by
  by_contra other
  -- The other events that do so start another search, with another handle.
  have ends : event.Ends before.channelId := by
    rw [(Prod.mk.inj same).2]
    cases event <;> first | exact refreshes | exact refreshes.elim | exact absurd rfl other
  obtain ⟨⟨-, retired⟩, -⟩ := h.retired_of_ends wasPending ends
  exact retired search.key (List.mem_map_of_mem isPending) (Prod.mk.inj same.symm).1

/-- In every run of a manager, the interval that the task of a channel holds is the last one that it
asked for since the stored one was reset, or it has asked for none since and read that before. -/
theorem held_interval {config : SearchConfig} (ordered : config.Ordered)
    (positive : 1 ≤ config.multiplier) (fits : config.maxInterval ≤ Duration.longest)
    (clock : Moment) (channelId : UInt32) (events : List SearchEvent) {interval : Duration}
    {search : PendingSearch} :
    let record := (new config clock).run channelId events
    record.system.stage = .advanced (some interval) →
      record.system.manager.running? = some search → search.channelId = channelId →
        record.asked.getLast? = some interval ∨
          (record.asked = [] ∧
            (SearchSystem.new config clock).ReadBeforeReset events search interval) := by
  induction events using List.reverseRecOn generalizing search with
  | nil =>
    intro record advanced
    contradiction
  | append_singleton earlier event ih =>
    rw [run_concat]
    intro record advanced running isChannel
    have sound := (Sound.new ordered clock channelId).run ordered positive fits earlier
    set before := (new config clock).run channelId earlier with isBefore
    have isPending := SearchManager.mem_of_running? running
    rcases SearchSystem.of_advanced_step advanced with
      ⟨wasAdvanced, keeps, nothing⟩ | ⟨rfl, -, pause, requested⟩
    · -- The task held the interval before, so the event was none of its own.
      obtain ⟨own, wasRunning, same⟩ :=
        sound.system.running?_of_keepsRun (sound.system.step event).agrees keeps running
      have ownChannel : own.channelId = channelId := (Prod.mk.inj same).2.trans isChannel
      by_cases refreshes : event.Refreshes channelId
      · have isReset : event = .resetDelays := by
          rw [← isChannel] at refreshes
          exact eq_resetDelays_of_refreshes sound.system (SearchManager.mem_of_running? wasRunning)
            same isPending refreshes
        right
        refine ⟨if_pos refreshes, earlier, [], by rw [isReset], ?_⟩
        have system : before.system = (SearchSystem.new config clock).run earlier :=
          system_run channelId (new config clock) earlier
        rw [← system]
        exact ⟨wasAdvanced, own, wasRunning, same⟩
      · have asked : record.asked = before.asked := by
          show (before.step channelId event).asked = _
          rw [asked_step, if_neg refreshes, nothing, Option.toList_none, List.append_nil]
        rw [asked]
        rcases ih wasAdvanced wasRunning ownChannel with last | ⟨empty, first, later, rfl, held⟩
        · exact .inl last
        · obtain ⟨advancedThen, other, runningThen, sameThen⟩ := held
          exact .inr ⟨empty, first, later ++ [event], by rw [List.append_assoc, List.cons_append],
            advancedThen, other, runningThen, sameThen.trans same⟩
    · -- The event was the step of the run that reads the interval.
      left
      have keeps : before.system.manager.KeepsRun record.system.manager := by
        have timer := (SearchManager.advance_spec before.system.manager).2
        show before.system.manager.KeepsRun before.system.advance.manager
        unfold SearchSystem.advance
        rw [requested]
        exact ⟨congrArg Timer.running timer, fun entry alive => by rwa [timer] at alive⟩
      obtain ⟨own, wasRunning, same⟩ :=
        sound.system.running?_of_keepsRun (sound.system.step .advance).agrees keeps running
      obtain ⟨asked, stage⟩ :=
        sound.advance requested wasRunning ((Prod.mk.inj same).2.trans isChannel)
      have isLast := Option.some.inj (RunStage.advanced.inj (stage.symm.trans advanced))
      rw [asked, List.getLast?_concat, isLast]

/-- What a running task is about to be put back with is the next interval of the closed form, or the
one that it holds. -/
theorem Sound.upcoming?_cases {config : SearchConfig} {channelId : UInt32} {record : SearchBackoff}
    (h : record.Sound config channelId) {search : PendingSearch}
    (running : record.system.manager.running? = some search)
    (isChannel : search.channelId = channelId) :
    record.system.stage = .taken ∨
      (∃ pause, record.system.stage = .requested pause ∧
        record.system.upcoming? = some (config.interval record.asked.length)) ∨
      ∃ interval, record.system.stage = .advanced (some interval) ∧
        record.system.upcoming? = some interval := by
  obtain ⟨entry, isRunning, alive, -⟩ := h.system.agrees.entry_of_running? running
  cases stage : record.system.stage with
  | idle => rw [h.system.idle.mp stage] at isRunning; contradiction
  | taken => exact .inl rfl
  | requested pause =>
    obtain ⟨-, next⟩ := h.advance stage running isChannel
    refine .inr (.inl ⟨pause, rfl, ?_⟩)
    have read : record.system.advance.stage = .advanced record.system.manager.advance.1 := by
      simp only [SearchSystem.advance, stage]
    rw [SearchSystem.upcoming?, stage]
    exact RunStage.advanced.inj (read.symm.trans next)
  | advanced again =>
    obtain ⟨interval, rfl⟩ :=
      Option.ne_none_iff_exists'.mp
        (h.system.repeats again entry stage isRunning alive List.not_mem_nil)
    refine .inr (.inr ⟨interval, rfl, ?_⟩)
    rw [SearchSystem.upcoming?, stage]

/-- Whatever falls between the halves of a beacon anomaly and between the steps of a run, a search
in progress after the anomaly is next made within the shortest interval exactly when its task is not
being run with a longer one still to come. A task that is not being run is due at once. One that is
being run comes back with the last interval that was asked for since the intervals were reset, with
the next one, or with one that it read before the reset, in which case the search waits for all of
that. The intervals asked for since the reset follow the closed form from the shortest one on, also
later. -/
theorem anomaly_prompt_iff (config : SearchConfig) (ordered : config.Ordered)
    (positive : 1 ≤ config.multiplier) (fits : config.maxInterval ≤ Duration.longest)
    (clock : Moment) (channelId : UInt32) (earlier between : List SearchEvent) :
    let events := earlier ++ .resetDelays :: between ++ [.hurry]
    let record := (new config clock).run channelId events
    let system := record.system
    let next := config.interval record.asked.length
    ∀ search ∈ system.manager.pending, search.channelId = channelId →
      (system.Prompt search ↔
        ∀ interval, system.manager.running? = some search → system.upcoming? = some interval →
          interval ≤ config.minInterval) ∧
      (system.manager.running? ≠ some search →
        system.manager.schedule? channelId = some (system.clock, next)) ∧
      (∀ interval, system.manager.running? = some search → system.upcoming? = some interval →
        interval = next ∨ record.asked.getLast? = some interval ∨
          (record.asked = [] ∧
            (SearchSystem.new config clock).ReadBeforeReset events search interval)) ∧
      (∀ interval, system.manager.running? = some search →
        system.stage = .advanced (some interval) →
          (system.step .putBack).manager.schedule? channelId =
            some (system.clock + interval, next)) ∧
      ∀ later count interval, (record.run channelId later).asked[count]? = some interval →
        interval = config.interval count := by
  intro events record system next search isPending isChannel
  have sound : record.Sound config channelId :=
    (Sound.new ordered clock channelId).run ordered positive fits events
  have agrees : system.manager.Agrees := sound.system.agrees
  have tuning : system.manager.config = config := sound.tuning
  -- The second half of the anomaly comes last, so what waits on the heap is due now.
  have dues : ∀ entry ∈ system.manager.timer.waiting, entry.due = system.clock := by
    have last : record = step channelId
        ((new config clock).run channelId (earlier ++ .resetDelays :: between)) .hurry :=
      run_concat channelId (new config clock) (earlier ++ .resetDelays :: between) .hurry
    intro entry waits
    rw [show system = record.system from rfl, last] at waits ⊢
    exact (Timer.waiting_rescheduleAll _ _).2 entry waits
  have onHeap : system.manager.running? ≠ some search →
      ∃ entry ∈ system.manager.timer.waiting, entry.key = search.key := fun notRunning =>
    (agrees.waits_or_runs isPending).resolve_left notRunning
  refine ⟨?prompt, ?waits, ?runs, ?back, ?later⟩
  case prompt =>
    rw [SearchSystem.Prompt, tuning]
    constructor
    · rintro (⟨entry, waits, same, -⟩ | ⟨-, taken | ⟨other, isOther, short⟩⟩) interval running
        upcoming
      · exact absurd same (agrees.not_waiting_of_running? running waits)
      · rw [SearchSystem.upcoming?_of_taken taken] at upcoming
        contradiction
      · rw [isOther] at upcoming
        exact Option.some.inj upcoming ▸ short
    · intro short
      by_cases running : system.manager.running? = some search
      · refine .inr ⟨running, ?_⟩
        rcases sound.upcoming?_cases running isChannel with
          taken | ⟨pause, -, upcoming⟩ | ⟨interval, -, upcoming⟩
        · exact .inl taken
        · exact .inr ⟨_, upcoming, short _ running upcoming⟩
        · exact .inr ⟨_, upcoming, short _ running upcoming⟩
      · obtain ⟨entry, waits, same⟩ := onHeap running
        refine .inl ⟨entry, waits, same, ?_⟩
        rw [dues entry waits]
        exact Nat.le_add_right _ _
  case waits =>
    intro notRunning
    obtain ⟨entry, waits, same⟩ := onHeap notRunning
    have schedule := agrees.schedule?_eq isPending waits same
    rw [isChannel, dues entry waits, sound.stored search isPending isChannel] at schedule
    exact schedule
  case runs =>
    intro interval running upcoming
    rcases sound.upcoming?_cases running isChannel with
      taken | ⟨pause, -, isNext⟩ | ⟨held, advanced, isHeld⟩
    · rw [SearchSystem.upcoming?_of_taken taken] at upcoming
      contradiction
    · exact .inl (Option.some.inj (upcoming.symm.trans isNext))
    · obtain rfl := Option.some.inj (upcoming.symm.trans isHeld)
      exact .inr
        (held_interval ordered positive fits clock channelId events advanced running isChannel)
  case back =>
    intro interval running advanced
    exact sound.schedule?_putBack advanced running isChannel
  case later =>
    intro later count interval
    exact (sound.run ordered positive fits later).eq_interval

/-- A task whose run has made the request, but has not read the interval when a beacon anomaly
comes, is put back with the shortest interval. -/
theorem anomaly_prompt_iff_askedOnce :
    let config : SearchConfig := {}
    let record := (new config Duration.zero).run 7 (askedOnce ++ [.resetDelays, .hurry])
    config.Ordered ∧ 1 ≤ config.multiplier ∧ config.maxInterval ≤ Duration.longest ∧
      record.system.Prompt ⟨7, "PV:1", 0, Duration.ofMillis 100, none⟩ := by
  have ordered : SearchConfig.Ordered {} := by decide
  have positive : 1 ≤ SearchConfig.multiplier {} := by decide
  have fits : SearchConfig.maxInterval {} ≤ Duration.longest := by decide +kernel
  refine ⟨ordered, positive, fits, ?_⟩
  obtain ⟨prompt, -⟩ := anomaly_prompt_iff {} ordered positive fits Duration.zero 7 askedOnce []
    ⟨7, "PV:1", 0, Duration.ofMillis 100, none⟩ (by decide +kernel) rfl
  refine prompt.mpr fun interval _ upcoming => ?_
  have isShortest : ((new {} Duration.zero).run 7
      (askedOnce ++ [.resetDelays, .hurry])).system.upcoming? = some (Duration.ofMillis 100) := by
    decide +kernel
  rw [← Option.some.inj (isShortest.symm.trans upcoming)]
  exact Nat.le_refl _

/-- A task whose run has read its second interval. -/
def readTwice : List SearchEvent := askedOnce ++ [.advance]

/-- Bounds out of order, so that no interval follows the first. -/
def outOfOrder : SearchConfig :=
  { minInterval := Duration.ofSeconds 60, maxInterval := Duration.ofSeconds 30 }

/-- A beacon anomaly that comes when the run has read its second interval makes the search wait for
that, which is twice the shortest. With bounds out of order it does not reach the search at all,
whose task was gone after its first run. -/
theorem not_prompt_readTwice :
    (let system := (SearchSystem.new {} Duration.zero).run (readTwice ++ [.resetDelays, .hurry])
      let search : PendingSearch := ⟨7, "PV:1", 0, Duration.ofMillis 100, none⟩
      SearchConfig.Ordered {} ∧ search ∈ system.manager.pending ∧ ¬ system.Prompt search ∧
        (system.step .putBack).manager.schedule? 7 =
          some (system.clock + Duration.ofMillis 200, Duration.ofMillis 100)) ∧
      (let system := (SearchSystem.new outOfOrder Duration.zero).run
          (.register 7 "PV:1" :: SearchSystem.iteration ++ [.resetDelays, .hurry])
        let search : PendingSearch := ⟨7, "PV:1", 0, Duration.ofSeconds 60, none⟩
        search ∈ system.manager.pending ∧ system.manager.timer.live = [] ∧
          ¬ system.Prompt search) := by
  refine ⟨⟨by decide, by decide +kernel, ?_, by decide +kernel⟩, by decide +kernel,
    by decide +kernel, ?_⟩
  · rintro (⟨entry, waits, -⟩ | ⟨-, taken | ⟨interval, upcoming, short⟩⟩)
    · have nothing : ((SearchSystem.new {} Duration.zero).run
          (readTwice ++ [.resetDelays, .hurry])).manager.timer.waiting = [] := by
        decide +kernel
      rw [nothing] at waits
      contradiction
    · exact absurd taken (by decide +kernel)
    · have isLonger : ((SearchSystem.new {} Duration.zero).run
          (readTwice ++ [.resetDelays, .hurry])).upcoming? = some (Duration.ofMillis 200) := by
        decide +kernel
      rw [← Option.some.inj (isLonger.symm.trans upcoming)] at short
      exact absurd short (by decide +kernel)
  · rintro (⟨entry, waits, -⟩ | ⟨running, -⟩)
    · have nothing : ((SearchSystem.new outOfOrder Duration.zero).run (.register 7 "PV:1" ::
          SearchSystem.iteration ++ [.resetDelays, .hurry])).manager.timer.waiting = [] := by
        decide +kernel
      rw [nothing] at waits
      contradiction
    · exact absurd running (by decide +kernel)

end SearchBackoff

end ChannelAccess
