import ChannelAccess.Search.Manager

/-!
# A search manager among its callers

Callers start and end searches while the timer's thread runs one task after the other.
`SearchSystem.step` is one event of this: a call, or one step of a run. Between any two steps of a
run anything else may happen. The system keeps account of the requests that were made, which no
definition of the manager looks at: by `request_eq` those are of the searches that a run finds in
progress.

`run_iteration` says that the four steps of a run, one after the other, are what the manager calls a
run.
-/

namespace ChannelAccess

namespace SearchManager

/-- The search that the task being run finds in progress for itself. -/
def running? (manager : SearchManager) : Option PendingSearch :=
  manager.timer.running.bind fun entry =>
    (manager.find? entry.task).filter (·.handle == entry.handle)

/-- A run makes the request of the search that it finds in progress. -/
theorem request_eq (manager : SearchManager) (now : Moment) :
    manager.request now =
      match manager.running? with
      | none => (some false, manager)
      | some search => manager.addRequest now search := by
  unfold request running?
  cases manager.timer.running with
  | none => rfl
  | some entry => rfl

/-- The searches in progress after one of them got another interval. -/
def withDelay (manager : SearchManager) (search : PendingSearch) (delay : Duration) :
    SearchManager :=
  { manager with
    pending := manager.pending.map fun other =>
      if other.channelId == search.channelId then { other with delay } else other }

/-- A run lengthens the interval of the search that it finds in progress. -/
theorem advance_eq (manager : SearchManager) :
    manager.advance =
      match manager.running? with
      | none => (none, manager)
      | some search =>
        match manager.config.nextDelay? search.delay with
        | none => (none, manager)
        | some next => (some search.delay, manager.withDelay search next) := by
  unfold advance running?
  cases manager.timer.running with
  | none => rfl
  | some entry => rfl

end SearchManager

/-- How far the run of a task has come. -/
inductive RunStage where
  /-- No task is being run. -/
  | idle
  /-- A task was taken off the heap. -/
  | taken
  /-- Its request was made, if its search was found in progress. -/
  | requested (pause : Bool)
  /-- The interval was read and lengthened, or the run has failed. -/
  | advanced (again : Option Duration)
  deriving DecidableEq, Repr

/-- What can happen to a search manager before it is shut down. -/
inductive SearchEvent where
  /-- A search is started. -/
  | register (channelId : UInt32) (name : String)
  /-- A search with a promised reply is started. -/
  | registerWithReply (channelId : UInt32) (name : String)
  /-- A search is given up. -/
  | unregister (channelId : UInt32)
  /-- A server's answer comes. -/
  | respond (result : SearchResult)
  /-- First half of a beacon anomaly: every search goes on from the shortest interval. -/
  | resetDelays
  /-- Second half of a beacon anomaly: every task on the heap is due at once. -/
  | hurry
  /-- The datagram is sent. -/
  | flush
  /-- Time passes. -/
  | wait (time : Duration)
  /-- First step of a run. -/
  | takeDue
  /-- Second step of a run. -/
  | request
  /-- Third step of a run, after the pause if there is one. -/
  | advance
  /-- Last step of a run. -/
  | putBack
  deriving DecidableEq, Repr

/-- A search manager, the time, and how far the run of a task has come. -/
structure SearchSystem where
  /-- The manager. -/
  manager : SearchManager
  /-- What time it is. -/
  clock : Moment
  /-- How far the run of a task has come. -/
  stage : RunStage := .idle
  /-- The searches whose requests were added to the datagram, in this order. -/
  requested : List PendingSearch := []

namespace SearchSystem

/-- A new manager. The clock shows every moment, unless the last one is given. -/
def new (config : SearchConfig) (clock : Moment) (lastMoment? : Option Moment := none) :
    SearchSystem :=
  { manager := { config, timer := { lastMoment? } }, clock }

/-- First step of a run, when no task is being run. -/
def takeDue (system : SearchSystem) : SearchSystem :=
  match system.stage with
  | .idle =>
    let manager := system.manager.takeDue system.clock
    { system with manager, stage := if manager.timer.running.isSome then .taken else .idle }
  | _ => system

/-- Second step of a run, when a task was taken off the heap. -/
def request (system : SearchSystem) : SearchSystem :=
  match system.stage with
  | .taken =>
    let (pause, manager) := system.manager.request system.clock
    { system with
      manager
      -- A task whose run fails is not put back.
      stage := pause.elim (.advanced none) .requested
      requested := system.requested ++ system.manager.running?.toList }
  | _ => system

/-- Third step of a run, when the request was made. -/
def advance (system : SearchSystem) : SearchSystem :=
  match system.stage with
  | .requested pause =>
    let (again, manager) := system.manager.advance
    { system with
      manager
      clock := if pause then system.clock + system.manager.config.flushPause else system.clock
      stage := .advanced again }
  | _ => system

/-- Last step of a run, when the interval was read. -/
def putBack (system : SearchSystem) : SearchSystem :=
  match system.stage with
  | .advanced again =>
    { system with manager := system.manager.putBack system.clock again, stage := .idle }
  | _ => system

/-- What an event does. A step of a run whose turn it is not does nothing. -/
def step (system : SearchSystem) : SearchEvent → SearchSystem
  | .register channelId name =>
    { system with manager := system.manager.register system.clock channelId name }
  | .registerWithReply channelId name =>
    { system with manager := system.manager.registerWithReply system.clock channelId name }
  | .unregister channelId =>
    { system with manager := (system.manager.unregister system.clock channelId).2 }
  | .respond result => { system with manager := (system.manager.searchResponse result).2 }
  | .resetDelays => { system with manager := system.manager.resetDelays }
  | .hurry => { system with manager := system.manager.hurry system.clock }
  | .flush => { system with manager := system.manager.flush }
  | .wait time => { system with clock := system.clock + time }
  | .takeDue => system.takeDue
  | .request => system.request
  | .advance => system.advance
  | .putBack => system.putBack

/-- What some events do, one after the other. -/
def run (system : SearchSystem) (events : List SearchEvent) : SearchSystem :=
  events.foldl step system

/-- What every step keeps, every run keeps. -/
theorem run_induction {motive : SearchSystem → Prop}
    (steps : ∀ system event, motive system → motive (system.step event)) {system : SearchSystem}
    (start : motive system) (events : List SearchEvent) : motive (system.run events) := by
  induction events generalizing system with
  | nil => exact start
  | cons event later ih => exact ih (steps system event start)

/-- The steps of a run. -/
def iteration : List SearchEvent := [.takeDue, .request, .advance, .putBack]

/-- With no task due, the steps of a run only throw cancelled entries away. -/
theorem run_iteration_of_none (system : SearchSystem) (idle : system.stage = .idle)
    (none : (system.manager.takeDue system.clock).timer.running = none) :
    system.run iteration =
      { system with manager := system.manager.takeDue system.clock } := by
  obtain ⟨manager, clock, stage, requested⟩ := system
  obtain rfl : stage = .idle := idle
  have taken : step ⟨manager, clock, .idle, requested⟩ .takeDue =
      ⟨manager.takeDue clock, clock, .idle, requested⟩ := by
    simp only [step, takeDue, none, Option.isSome_none, if_neg Bool.false_ne_true]
  rw [run, iteration, List.foldl_cons, taken]
  rfl

/-- The steps of a run, one after the other, are the run of a task as the manager has it. -/
theorem run_iteration (system : SearchSystem) (idle : system.stage = .idle)
    (due : (system.manager.takeDue system.clock).timer.running.isSome) :
    system.run iteration =
      let taken := system.manager.takeDue system.clock
      let (clock, manager) := taken.runTask system.clock
      { manager, clock, stage := .idle
        requested := system.requested ++ taken.running?.toList } := by
  obtain ⟨manager, clock, stage, requested⟩ := system
  obtain rfl : stage = .idle := idle
  have taken : step ⟨manager, clock, .idle, requested⟩ .takeDue =
      ⟨manager.takeDue clock, clock, .taken, requested⟩ := by
    simp only [step, takeDue, due, if_true]
  rw [run, iteration, List.foldl_cons, taken]
  dsimp only [SearchManager.runTask]
  rcases requests : (manager.takeDue clock).request clock with ⟨pause, made⟩
  cases pause with
  | none => simp only [List.foldl_cons, List.foldl_nil, step, request, requests]; rfl
  | some pause => simp only [List.foldl_cons, List.foldl_nil, step, request, requests]; rfl

end SearchSystem

end ChannelAccess
