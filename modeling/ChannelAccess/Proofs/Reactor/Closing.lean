import ChannelAccess.Proofs.Reactor.Watching
import ChannelAccess.Reactor.Process

/-!
# Closing sockets

`every_closer_runs_once` says what becomes of sockets that are taken out, in every order of what is
done to a reactor: each closer runs once, after its key has left the poll; the handler of a key that
was taken out is not called again; and a reactor that was shut down has let go of everything.

While the reactor is open its requests see to all keys (`Reactor.SeenTo`). So a key that is still
watched although it was taken out has a request with its closer in the queue, which is why shutting
down, after the requests were carried out, leaves only registered keys to be taken out of the poll
(`Reactor.SeenTo.shutdown_eq`). Everything that can happen is one of five moves
(`ReactorHistory.Move`), and each of them hands a closer on from those that were passed in to those
that wait or have run (`ReactorHistory.Sound.move`).

The handler of a key is looked up and called in one step, at the end of a turn.
-/

namespace ChannelAccess

variable {C : Type}

namespace Reactor

/-! ## Turns -/

/-- Taking a report up changes the reports only. -/
theorem report_eq (reactor : Reactor C) (key : SelectionKey) (readiness : Readiness) :
    reactor.report key readiness =
      { reactor with ready := (reactor.report key readiness).ready } := by
  unfold report
  split <;> rfl

theorem reportReady_eq (states : SocketStates) (reactor : Reactor C) (key : SelectionKey) :
    reportReady states reactor key =
      { reactor with ready := (reportReady states reactor key).ready } := by
  unfold reportReady
  split
  · rfl
  · dsimp only
    split
    · rfl
    · exact report_eq reactor key _

/-- Handing a report out changes the reports only, and it is handed to the handler of a key that is
registered and not disabled. -/
theorem nextEvent_spec (reactor : Reactor C) :
    reactor.nextEvent.2 = { reactor with ready := reactor.nextEvent.2.ready } ∧
      ∀ call ∈ reactor.nextEvent.1, reactor.disabled? call.1 = some false := by
  unfold nextEvent
  cases reports : reactor.ready with
  | nil => exact ⟨rfl, nofun⟩
  | cons first later =>
    dsimp only
    split
    · rename_i interest known
      refine ⟨rfl, fun call isFirst => ?_⟩
      obtain rfl := Option.some.inj isFirst
      exact congrArg (Option.map KeyEntry.disabled) known
    · exact ⟨rfl, nofun⟩

/-- Waiting carries all requests out, with their closers, and changes nothing else but the
reports. -/
theorem wait_spec (reactor : Reactor C) (states : SocketStates) :
    (reactor.wait states).1 =
        { (reactor.drainRequests false).1 with ready := (reactor.wait states).1.ready } ∧
      (reactor.wait states).2 = reactor.requests.filterMap PollRequest.closer? := by
  refine ⟨?_, (reactor.drainRequests_eq false).2⟩
  refine List.foldlRecOn (motive := fun left : Reactor C =>
    left = { (reactor.drainRequests false).1 with ready := left.ready }) _ _ rfl ?_
  intro left same key _
  rw [reportReady_eq states left key]
  exact congrArg (fun before : Reactor C =>
    { before with ready := (reportReady states left key).ready }) same

/-- A reactor that was shut down takes no turn. -/
theorem process_of_closed {reactor : Reactor C} (closed : reactor.closed = true)
    (states : SocketStates) : reactor.process states = { reactor, isOpen := false } := by
  rw [process, if_pos closed]

/-- A turn of an open reactor hands out a report that has come up before, or carries out all
requests with their closers. Only the handler of a key that is registered and not disabled is
called. -/
theorem process_of_open {reactor : Reactor C} (isOpen : reactor.closed = false)
    (states : SocketStates) :
    (reactor.process states).isOpen = true ∧
      ((reactor.process states).closers = [] ∧
          (reactor.process states).reactor =
            { reactor with ready := (reactor.process states).reactor.ready } ∨
        (reactor.process states).closers = reactor.requests.filterMap PollRequest.closer? ∧
          (reactor.process states).reactor =
            { (reactor.drainRequests false).1 with
              ready := (reactor.process states).reactor.ready }) ∧
      ∀ call ∈ (reactor.process states).event, reactor.disabled? call.1 = some false := by
  rw [process, if_neg (Bool.eq_false_iff.mp isOpen)]
  by_cases waits : reactor.ready.isEmpty = true
  · rw [if_pos waits]
    obtain ⟨waited, closers⟩ := reactor.wait_spec states
    obtain ⟨left, handed⟩ := (reactor.wait states).1.nextEvent_spec
    refine ⟨rfl, .inr ⟨closers, ?_⟩, fun call isCall => ?_⟩
    · show (reactor.wait states).1.nextEvent.2 = _
      rw [left]
      exact congrArg (fun before : Reactor C =>
        { before with ready := (reactor.wait states).1.nextEvent.2.ready }) waited
    · have keys : (reactor.wait states).1.keys = reactor.keys :=
        (congrArg Reactor.keys waited).trans (reactor.drainRequests_spec false).1
      have known := handed call isCall
      rw [disabled?, entry?, keys] at known
      exact known
  · rw [if_neg waits]
    obtain ⟨left, handed⟩ := reactor.nextEvent_spec
    exact ⟨rfl, .inl ⟨rfl, left⟩, handed⟩

/-! ## Shutting down -/

theorem Tidy.carryAll {reactor : Reactor C} (tidy : reactor.Tidy) (stopping : Bool)
    (requests : List (PollRequest C)) : (reactor.carryAll stopping requests).Tidy := by
  induction requests generalizing reactor with
  | nil => exact tidy
  | cons request requests ih => exact ih (tidy.carryOut stopping request)

/-- While the reactor shuts down, a request takes its key out of the poll or does nothing. -/
theorem Tidy.watched?_carryOut_stopping {reactor : Reactor C} (tidy : reactor.Tidy)
    (request : PollRequest C) (key : SelectionKey) :
    (reactor.carryOut true request).1.watched? key =
      if request.takesOut = true ∧ key = request.key then none else reactor.watched? key := by
  cases request with
  | register asked | rearm asked => exact (if_neg fun takesOut => nomatch takesOut.1).symm
  | deregister asked closer =>
    refine (tidy.watched?_disarmed asked key).trans ?_
    by_cases same : key = asked
    · exact (if_pos same).trans (if_pos ⟨rfl, same⟩).symm
    · exact (if_neg same).trans (if_neg (same ·.2)).symm

/-- A key that is watched after all requests was so before, and was not to be taken out. -/
theorem Tidy.watched_carryAll_stopping {reactor : Reactor C} (tidy : reactor.Tidy)
    {requests : List (PollRequest C)} {key : SelectionKey}
    (watched : (reactor.carryAll true requests).watched? key ≠ none) :
    reactor.watched? key ≠ none ∧
      ∀ request ∈ requests, request.takesOut = true → request.key ≠ key := by
  induction requests generalizing reactor with
  | nil => exact ⟨watched, nofun⟩
  | cons request requests ih =>
    obtain ⟨before, later⟩ := ih (tidy.carryOut true request) watched
    rw [tidy.watched?_carryOut_stopping request key] at before
    split at before
    · exact absurd rfl before
    · rename_i stays
      refine ⟨before, fun other member takesOut isKey => ?_⟩
      rcases List.mem_cons.mp member with rfl | member
      · exact stays ⟨takesOut, isKey.symm⟩
      · exact later other member takesOut isKey

/-- When some keys are taken out of the poll, they are not watched, and no other key is that was not
before. -/
theorem Tidy.disarmEach {reactor : Reactor C} (tidy : reactor.Tidy)
    (known : List (SelectionKey × KeyEntry)) :
    let left := known.foldl (fun reactor known =>
      if reactor.armed.contains known.1 then reactor.disarm known.1 else reactor) reactor
    left.Tidy ∧ left.requests = reactor.requests ∧ left.nextKey = reactor.nextKey ∧
      left.closed = reactor.closed ∧
      ∀ key, left.watched? key ≠ none →
        reactor.watched? key ≠ none ∧ key ∉ known.map (·.1) := by
  induction known generalizing reactor with
  | nil => exact ⟨tidy, rfl, rfl, rfl, fun key watched => ⟨watched, List.not_mem_nil⟩⟩
  | cons first later ih =>
    have alike : (if reactor.armed.contains first.1 then reactor.disarm first.1 else reactor) =
        { reactor with
          armed := (if reactor.armed.contains first.1 then reactor.disarm first.1
            else reactor).armed
          poll := (if reactor.armed.contains first.1 then reactor.disarm first.1
            else reactor).poll } := by
      split <;> rfl
    obtain ⟨stillTidy, requests, nextKey, closed, fromBefore⟩ := ih (tidy.disarmed first.1)
    refine ⟨stillTidy, requests.trans (by rw [alike]), nextKey.trans (by rw [alike]),
      closed.trans (by rw [alike]), fun key watched => ?_⟩
    obtain ⟨before, notLater⟩ := fromBefore key watched
    rw [tidy.watched?_disarmed first.1 key] at before
    split at before
    · exact absurd rfl before
    · rename_i other
      refine ⟨before, fun member => ?_⟩
      rcases List.mem_cons.mp member with isFirst | isLater
      · exact other isFirst
      · exact notLater isLater

theorem poll_eq_nil {reactor : Reactor C} (unwatched : ∀ key, reactor.watched? key = none) :
    reactor.poll = [] := by
  refine List.eq_nil_iff_forall_not_mem.mpr fun watched member => ?_
  have missing := Option.map_eq_none_iff.mp (unwatched watched.1)
  exact List.find?_eq_none.mp missing watched member (beq_self_eq_true _)

/-- The tables of a reactor that was shut down are empty, and all closers that waited have run. -/
theorem SeenTo.shutdown_eq {reactor : Reactor C} (h : SeenTo reactor reactor.requests)
    (isOpen : reactor.closed = false) :
    reactor.shutdown = (reactor.requests.filterMap PollRequest.closer?,
      { nextKey := reactor.nextKey, closed := true }) := by
  rw [shutdown, if_neg (Bool.eq_false_iff.mp isOpen)]
  obtain ⟨carried, closers⟩ := drainRequests_eq { reactor with closed := true } true
  obtain ⟨keys, nextKey, closed⟩ := drainRequests_spec { reactor with closed := true } true
  dsimp only
  rw [closers]
  generalize (drainRequests { reactor with closed := true } true).1 = drained at *
  have start : ({ reactor with closed := true, requests := [] } : Reactor C).Tidy :=
    ⟨h.tidy.poll, h.tidy.nodup, h.tidy.armed⟩
  have tidy : drained.Tidy := carried ▸ start.carryAll true reactor.requests
  have none : drained.requests = [] := carried ▸ requests_carryAll _ true reactor.requests
  obtain ⟨leftTidy, leftRequests, leftNext, leftClosed, fromBefore⟩ := tidy.disarmEach drained.keys
  -- A key that is watched is registered, or there was a request to take it out of the poll.
  have unwatched : ∀ key, (drained.keys.foldl (fun reactor known =>
      if reactor.armed.contains known.1 then reactor.disarm known.1 else reactor)
        drained).watched? key = Option.none := by
    intro key
    by_contra watched
    obtain ⟨still, notKnown⟩ := fromBefore key watched
    rw [carried] at still
    obtain ⟨before, notAsked⟩ := start.watched_carryAll_stopping still
    rw [keys] at notKnown
    have unknown : reactor.entry? key = Option.none :=
      Option.map_eq_none_iff.mpr (Table.find?_eq_none_iff.mpr notKnown)
    have differs : reactor.watched? key ≠ reactor.wanted? key := by
      rw [wanted?_of_unknown unknown]
      exact before
    obtain ⟨request, member, isKey, takesOut⟩ := h.seen key differs
    rw [unknown] at takesOut
    exact notAsked request member takesOut isKey
  have unarmed := List.eq_nil_iff_forall_not_mem.mpr fun key armed =>
    (leftTidy.armed key).mp armed (unwatched key)
  refine congrArg (Prod.mk _) ?_
  rw [Reactor.mk.injEq]
  exact ⟨rfl, leftRequests.trans none, rfl, poll_eq_nil unwatched, unarmed, leftNext.trans nextKey,
    leftClosed.trans closed⟩

end Reactor

/-! ## What happens to a reactor -/

/-- What is done to a reactor, or happens to it. -/
inductive ReactorEvent (C : Type) where
  /-- A socket is registered. -/
  | register (interest : Interest)
  /-- What a key is watched for is changed. -/
  | setInterest (key : SelectionKey) (interest : Interest)
  /-- What is reported of a key is dropped from now on. -/
  | disable (key : SelectionKey)
  /-- What is reported of a key is handed out again. -/
  | enable (key : SelectionKey)
  /-- A key is taken out. -/
  | unregister (key : SelectionKey) (closer : C)
  /-- Something is reported of a key, be it watched or not. -/
  | report (key : SelectionKey) (readiness : Readiness)
  /-- The reactor takes a turn, at whose end it may call a handler. -/
  | process (states : SocketStates)
  /-- The reactor is shut down. -/
  | shutdown

/-- A reactor and what has happened to it. Whether a closer panics is nothing that the reactor
learns of. -/
structure ReactorHistory (C : Type) where
  /-- The reactor itself. -/
  reactor : Reactor C := {}
  /-- The closers that were passed in, in order. -/
  passed : List C := []
  /-- The closers that have run, in order. -/
  ran : List C := []
  /-- The calls of handlers that have begun, in order. -/
  handled : List (SelectionKey × Readiness) := []

namespace ReactorHistory

/-- What an event does. -/
def happen (history : ReactorHistory C) : ReactorEvent C → ReactorHistory C
  | .register interest =>
    match history.reactor.register interest with
    | .error _ => history
    | .ok (_, reactor) => { history with reactor }
  | .setInterest key interest =>
    { history with reactor := history.reactor.setInterest key interest }
  | .disable key => { history with reactor := (history.reactor.disable key).2 }
  | .enable key => { history with reactor := history.reactor.enable key }
  | .unregister key closer =>
    let (closers, reactor) := history.reactor.unregister key closer
    { history with
      reactor
      passed := history.passed ++ [closer]
      ran := history.ran ++ closers }
  | .report key readiness =>
    -- Nobody looks at the poll any more once the reactor was shut down.
    if history.reactor.closed then history
    else { history with reactor := history.reactor.report key readiness }
  | .process states =>
    let turn := history.reactor.process states
    { history with
      reactor := turn.reactor
      ran := history.ran ++ turn.closers
      handled := history.handled ++ turn.event.toList }
  | .shutdown =>
    let (closers, reactor) := history.reactor.shutdown
    { history with reactor, ran := history.ran ++ closers }

/-- What some events do, one after the other. -/
def run (history : ReactorHistory C) (events : List (ReactorEvent C)) : ReactorHistory C :=
  events.foldl happen history

/-- The closers that wait for their keys to leave the poll. -/
def waiting (history : ReactorHistory C) : List C :=
  history.reactor.requests.filterMap PollRequest.closer?

/-- The invariant of a reactor and what has happened to it. -/
structure Sound (history : ReactorHistory C) : Prop where
  /-- While the reactor is open its requests see to all keys. -/
  seen : history.reactor.closed = false → history.reactor.SeenTo history.reactor.requests
  /-- A reactor that was shut down has let go of everything. -/
  empty : history.reactor.closed = true →
    ∃ nextKey, history.reactor = { nextKey, closed := true }
  /-- Each closer that was passed in has run or waits, once. -/
  balance : history.passed.Perm (history.ran ++ history.waiting)

theorem Sound.new : Sound ({} : ReactorHistory C) where
  seen := fun _ => .new
  empty := fun closed => absurd closed Bool.false_ne_true
  balance := List.Perm.refl []

/-- Everything that can happen to a reactor. -/
inductive Move (history : ReactorHistory C) : ReactorHistory C → Prop
  /-- An operation on an open reactor passes a closer to its request, or runs it at once. -/
  | operates (isOpen : history.reactor.closed = false) {after : Reactor C}
      {asked : List (PollRequest C)} (alters : history.reactor.Alters after asked)
      {passed now : List C} (once : now ++ asked.filterMap PollRequest.closer? = passed) :
      Move history { history with
        reactor := after
        passed := history.passed ++ passed
        ran := history.ran ++ now }
  /-- Reports are taken up or handed out, to the handlers of registered keys. -/
  | reports (isOpen : history.reactor.closed = false) {after : Reactor C}
      (same : after = { history.reactor with ready := after.ready })
      {calls : List (SelectionKey × Readiness)}
      (known : ∀ call ∈ calls, history.reactor.entry? call.1 ≠ none) :
      Move history { history with reactor := after, handled := history.handled ++ calls }
  /-- All requests are carried out as well. -/
  | drains (isOpen : history.reactor.closed = false) {after : Reactor C}
      (same : after = { (history.reactor.drainRequests false).1 with ready := after.ready })
      {calls : List (SelectionKey × Readiness)}
      (known : ∀ call ∈ calls, history.reactor.entry? call.1 ≠ none) :
      Move history { history with
        reactor := after
        ran := history.ran ++ history.waiting
        handled := history.handled ++ calls }
  /-- The reactor is shut down. -/
  | shuts (isOpen : history.reactor.closed = false) :
      Move history { history with
        reactor := { nextKey := history.reactor.nextKey, closed := true }
        ran := history.ran ++ history.waiting }
  /-- The reactor was shut down already, and a closer that is passed in runs at once. -/
  | late (closed : history.reactor.closed = true) (now : List C) :
      Move history { history with passed := history.passed ++ now, ran := history.ran ++ now }

/-- Nothing changes a reactor that was shut down. -/
theorem Sound.move_of_closed {history : ReactorHistory C} (h : history.Sound)
    (closed : history.reactor.closed = true) (event : ReactorEvent C) :
    history.Move (history.happen event) := by
  have late := Move.late closed
  obtain ⟨reactor, passed, ran, handled⟩ := history
  obtain ⟨nextKey, rfl⟩ := h.empty closed
  have nothing := late []
  rw [List.append_nil, List.append_nil] at nothing
  cases event with
  | register interest | setInterest key interest | disable key | enable key
  | report key readiness => exact nothing
  | unregister key closer => exact late [closer]
  | process states =>
    rw [happen, Reactor.process_of_closed rfl]
    simpa using nothing
  | shutdown =>
    rw [happen, Reactor.shutdown, if_pos rfl]
    simpa using nothing

theorem Sound.move_of_open {history : ReactorHistory C} (h : history.Sound)
    (isOpen : history.reactor.closed = false) (event : ReactorEvent C) :
    history.Move (history.happen event) := by
  have given := (h.seen isOpen).given
  have operates : ∀ {after : Reactor C} {asked : List (PollRequest C)},
      history.reactor.Alters after asked → asked.filterMap PollRequest.closer? = [] →
        history.Move { history with reactor := after } := by
    intro after asked alters none
    have once : [] ++ asked.filterMap PollRequest.closer? = [] := none
    simpa using Move.operates isOpen alters once
  cases event with
  | register interest =>
    rw [happen]
    cases registers : history.reactor.register interest with
    | error refused =>
      rw [Reactor.register_of_open isOpen] at registers
      contradiction
    | ok result =>
      obtain ⟨-, -, alters⟩ := Reactor.alters_register given isOpen registers
      exact operates alters rfl
  | setInterest key interest =>
    obtain ⟨asked, alters, none⟩ := Reactor.exists_alters_setInterest given isOpen key interest
    exact operates alters none
  | disable key => exact operates (Reactor.alters_disable given key) rfl
  | enable key =>
    obtain ⟨asked, alters, none⟩ := Reactor.exists_alters_enable given isOpen key
    exact operates alters none
  | unregister key closer =>
    obtain ⟨asked, alters, once⟩ := Reactor.exists_alters_unregister given isOpen key closer
    exact .operates isOpen alters once
  | report key readiness =>
    rw [happen, if_neg (Bool.eq_false_iff.mp isOpen)]
    simpa using Move.reports isOpen (history.reactor.report_eq key readiness)
      (List.forall_mem_nil _)
  | process states =>
    obtain ⟨-, turns, known⟩ := Reactor.process_of_open isOpen states
    have registered : ∀ call ∈ (history.reactor.process states).event.toList,
        history.reactor.entry? call.1 ≠ none := by
      intro call member unknown
      have isKnown := known call (Option.mem_toList.mp member)
      rw [Reactor.disabled?, unknown] at isKnown
      contradiction
    rw [happen]
    rcases turns with ⟨none, same⟩ | ⟨all, drained⟩
    · rw [none, List.append_nil]
      exact .reports isOpen same registered
    · rw [all]
      exact .drains isOpen drained registered
  | shutdown =>
    rw [happen, (h.seen isOpen).shutdown_eq isOpen]
    exact .shuts isOpen

/-- Whatever happens is one of these. -/
theorem Sound.move_happen {history : ReactorHistory C} (h : history.Sound)
    (event : ReactorEvent C) : history.Move (history.happen event) := by
  cases state : history.reactor.closed with
  | true => exact h.move_of_closed state event
  | false => exact h.move_of_open state event

/-- When all requests were carried out, none is left and the poll is as the keys say. -/
theorem Sound.seen_drained {history : ReactorHistory C} (h : history.Sound)
    (isOpen : history.reactor.closed = false) :
    (history.reactor.drainRequests false).1.requests = [] ∧
      (history.reactor.drainRequests false).1.SeenTo [] := by
  rw [(history.reactor.drainRequests_eq false).1]
  refine ⟨Reactor.requests_carryAll _ false history.reactor.requests, ?_⟩
  have start : Reactor.SeenTo { history.reactor with requests := [] }
      (history.reactor.requests ++ []) := by
    rw [List.append_nil]
    exact (h.seen isOpen).of_eq rfl
  exact start.carryAll

/-- Whatever happens keeps the invariant. -/
theorem Sound.move {history after : ReactorHistory C} (h : history.Sound)
    (move : history.Move after) : after.Sound := by
  cases move with
  | operates isOpen alters once =>
    rename_i after asked passed now
    refine ⟨fun _ => ?_, fun closed => ?_, ?_⟩
    · show after.SeenTo after.requests
      rw [alters.requests]
      exact (h.seen isOpen).alters alters
    · exact absurd (isOpen.symm.trans (alters.closed.symm.trans closed)) Bool.false_ne_true
    · show (history.passed ++ passed).Perm
        (history.ran ++ now ++ after.requests.filterMap PollRequest.closer?)
      rw [alters.requests, List.filterMap_append, ← once]
      -- The closers that run at once get before those that waited already.
      refine (h.balance.append_right _).trans ?_
      rw [List.append_assoc, List.append_assoc]
      refine List.Perm.append_left _ ?_
      rw [← List.append_assoc, ← List.append_assoc]
      exact List.perm_append_comm.append_right _
  | reports isOpen same known =>
    rename_i after calls
    refine ⟨fun _ => ?_, fun closed => ?_, ?_⟩
    · show after.SeenTo after.requests
      rw [same]
      exact (h.seen isOpen).of_eq rfl
    · have closes : after.closed = true := closed
      rw [same] at closes
      exact absurd (isOpen.symm.trans closes) Bool.false_ne_true
    · show history.passed.Perm (history.ran ++ after.requests.filterMap _)
      rw [same]
      exact h.balance
  | drains isOpen same known =>
    rename_i after calls
    obtain ⟨none, seen⟩ := h.seen_drained isOpen
    have left : after.requests = [] := same ▸ none
    refine ⟨fun _ => ?_, fun closed => ?_, ?_⟩
    · show after.SeenTo after.requests
      rw [left]
      exact seen.of_eq (by rw [same])
    · have closes : after.closed = true := closed
      rw [same] at closes
      have stays := (history.reactor.drainRequests_spec false).2.2
      exact absurd (isOpen.symm.trans (stays.symm.trans closes)) Bool.false_ne_true
    · show history.passed.Perm (history.ran ++ history.waiting ++ after.requests.filterMap _)
      rw [left]
      exact h.balance.trans (List.Perm.of_eq (List.append_nil _).symm)
  | shuts isOpen =>
    refine ⟨nofun, fun _ => ⟨_, rfl⟩, ?_⟩
    exact h.balance.trans (List.Perm.of_eq (List.append_nil _).symm)
  | late closed now =>
    refine ⟨fun isOpen => absurd (isOpen.symm.trans closed) Bool.false_ne_true, h.empty, ?_⟩
    obtain ⟨nextKey, empty⟩ := h.empty closed
    have balance := h.balance
    rw [waiting, empty] at balance ⊢
    simpa using balance.append_right now

theorem Sound.happen {history : ReactorHistory C} (h : history.Sound) (event : ReactorEvent C) :
    (history.happen event).Sound :=
  h.move (h.move_happen event)

theorem Sound.run {history : ReactorHistory C} (h : history.Sound)
    (events : List (ReactorEvent C)) : (history.run events).Sound := by
  induction events generalizing history with
  | nil => exact h
  | cons event later ih => exact ih (h.happen event)

/-! ## What follows for users -/

/-- A key that was taken out stays so, and its handler is not called. -/
theorem Move.of_unknown {history after : ReactorHistory C} (move : history.Move after)
    {key : SelectionKey} (given : key < history.reactor.nextKey)
    (unknown : history.reactor.entry? key = none) :
    (key < after.reactor.nextKey ∧ after.reactor.entry? key = none) ∧
      ∃ calls, after.handled = history.handled ++ calls ∧ ∀ call ∈ calls, call.1 ≠ key := by
  have others : ∀ {calls : List (SelectionKey × Readiness)},
      (∀ call ∈ calls, history.reactor.entry? call.1 ≠ none) → ∀ call ∈ calls, call.1 ≠ key := by
    rintro calls known call member rfl
    exact known call member unknown
  cases move with
  | operates isOpen alters once =>
    exact ⟨⟨Nat.lt_of_lt_of_le given alters.nextKey, alters.gone key given unknown⟩,
      [], (List.append_nil _).symm, nofun⟩
  | reports isOpen same known =>
    refine ⟨?_, _, rfl, others known⟩
    dsimp only
    rw [same]
    exact ⟨given, unknown⟩
  | drains isOpen same known =>
    obtain ⟨keys, nextKey, -⟩ := history.reactor.drainRequests_spec false
    refine ⟨?_, _, rfl, others known⟩
    dsimp only
    rw [same, Reactor.entry?]
    dsimp only
    rw [keys, nextKey]
    exact ⟨given, unknown⟩
  | shuts isOpen => exact ⟨⟨given, rfl⟩, [], (List.append_nil _).symm, nofun⟩
  | late closed now => exact ⟨⟨given, unknown⟩, [], (List.append_nil _).symm, nofun⟩

/-- The handler of a key that was taken out is never called again. -/
theorem Sound.run_of_unknown {history : ReactorHistory C} (h : history.Sound)
    {key : SelectionKey} (given : key < history.reactor.nextKey)
    (unknown : history.reactor.entry? key = none) (events : List (ReactorEvent C)) :
    ∃ calls, (history.run events).handled = history.handled ++ calls ∧
      ∀ call ∈ calls, call.1 ≠ key := by
  induction events generalizing history with
  | nil => exact ⟨[], (List.append_nil _).symm, nofun⟩
  | cons event later ih =>
    obtain ⟨⟨stillGiven, stillUnknown⟩, calls, handled, others⟩ :=
      (h.move_happen event).of_unknown given unknown
    obtain ⟨more, handledLater, othersLater⟩ := ih (h.happen event) stillGiven stillUnknown
    refine ⟨calls ++ more, ?_, fun call member => ?_⟩
    · show ((history.happen event).run later).handled = _
      rw [handledLater, handled, List.append_assoc]
    · rcases List.mem_append.mp member with first | second
      · exact others call first
      · exact othersLater call second

theorem Move.of_closed {history after : ReactorHistory C} (move : history.Move after)
    (closed : history.reactor.closed = true) : after.reactor = history.reactor := by
  cases move with
  | operates isOpen | reports isOpen | drains isOpen | shuts isOpen =>
    exact absurd (isOpen.symm.trans closed) Bool.false_ne_true
  | late closed now => rfl

/-- Nothing changes a reactor any more that was shut down. -/
theorem Sound.run_of_closed {history : ReactorHistory C} (h : history.Sound)
    (closed : history.reactor.closed = true) (events : List (ReactorEvent C)) :
    (history.run events).reactor = history.reactor := by
  induction events generalizing history with
  | nil => rfl
  | cons event later ih =>
    have same := (h.move_happen event).of_closed closed
    exact (ih (h.happen event) (same ▸ closed)).trans same

/-- While a reactor is open, a key that is watched although it was taken out waits with its closer
to be taken out of the poll. -/
theorem Sound.exists_deregister {history : ReactorHistory C} (h : history.Sound)
    (isOpen : history.reactor.closed = false) {key : SelectionKey}
    (unknown : history.reactor.entry? key = none)
    (watched : history.reactor.watched? key ≠ none) :
    ∃ closer, .deregister key closer ∈ history.reactor.requests := by
  have differs : history.reactor.watched? key ≠ history.reactor.wanted? key := by
    rw [Reactor.wanted?_of_unknown unknown]
    exact watched
  obtain ⟨request, member, rfl, takesOut⟩ := (h.seen isOpen).seen key differs
  rw [unknown] at takesOut
  cases request with
  | register key | rearm key => exact absurd takesOut Bool.false_ne_true
  | deregister key closer => exact ⟨closer, member⟩

/-- When a request to take a key out of the poll is carried out after those before it, its closer
runs, and the key is not watched by then. -/
theorem Sound.carryOut_deregister {history : ReactorHistory C} (h : history.Sound)
    (isOpen : history.reactor.closed = false) {earlier later : List (PollRequest C)}
    {key : SelectionKey} {closer : C}
    (queued : history.reactor.requests = earlier ++ .deregister key closer :: later) :
    let carried := ({ history.reactor with requests := [] }.carryAll false earlier).carryOut false
      (.deregister key closer)
    carried.2.2 = [closer] ∧ carried.1.watched? key = none ∧ key ∉ carried.1.armed ∧
      carried.1.carryAll false later = (history.reactor.drainRequests false).1 := by
  intro carried
  have start : Reactor.Tidy { history.reactor with requests := [] } :=
    ((h.seen isOpen).of_eq rfl).tidy
  have tidy := start.carryAll false earlier
  have unwatched : carried.1.watched? key = none :=
    (tidy.watched?_disarmed key key).trans (if_pos rfl)
  refine ⟨rfl, unwatched, fun armed => ?_, ?_⟩
  · exact ((tidy.carryOut false (.deregister key closer)).armed key).mp armed unwatched
  · rw [(history.reactor.drainRequests_eq false).1, queued, Reactor.carryAll, Reactor.carryAll,
      List.foldl_append]
    rfl

/-- The closer of a registered key of an open reactor waits from then on. -/
theorem happen_unregister {history : ReactorHistory C} (isOpen : history.reactor.closed = false)
    {key : SelectionKey} (known : history.reactor.entry? key ≠ none) (closer : C) :
    (history.happen (.unregister key closer)).ran = history.ran ∧
      (history.happen (.unregister key closer)).waiting = history.waiting ++ [closer] := by
  obtain ⟨entry, isKnown⟩ := Option.ne_none_iff_exists'.mp known
  rw [happen, Reactor.unregister_of_open isOpen isKnown]
  exact ⟨List.append_nil _, List.filterMap_append⟩

end ReactorHistory

/-- Whatever is done to a reactor, in any order: each closer that was passed in has run once, or
waits once, and none waits when the reactor was shut down. A closer runs at once if its key is not
registered or the reactor was shut down. Otherwise it runs when the requests are carried out, after
its key has left the poll. The handler of a key that was taken out is not called any more, whatever
is reported of the key. A reactor that was shut down has let go of everything, registers nothing,
takes no turns and stays as it is. -/
theorem every_closer_runs_once (events : List (ReactorEvent C)) :
    let history : ReactorHistory C := ({} : ReactorHistory C).run events
    let reactor := history.reactor
    history.passed.Perm (history.ran ++ history.waiting) ∧
      (∀ key closer, reactor.closed = true ∨ reactor.entry? key = none →
        reactor.unregister key closer = ([closer], reactor)) ∧
      (reactor.closed = false →
        (∀ key closer, reactor.entry? key ≠ none →
          (history.happen (.unregister key closer)).ran = history.ran ∧
            (history.happen (.unregister key closer)).waiting = history.waiting ++ [closer]) ∧
          (∀ states, (reactor.process states).closers = [] ∨
            (reactor.process states).closers = history.waiting) ∧
          (∀ earlier key closer later,
            reactor.requests = earlier ++ .deregister key closer :: later →
              let carried := ({ reactor with requests := [] }.carryAll false earlier).carryOut false
                (.deregister key closer)
              carried.2.2 = [closer] ∧ carried.1.watched? key = none ∧ key ∉ carried.1.armed ∧
                carried.1.carryAll false later = (reactor.drainRequests false).1) ∧
          ∀ key, reactor.entry? key = none → reactor.watched? key ≠ none →
            ∃ closer, .deregister key closer ∈ reactor.requests) ∧
      (∀ key closer later, key < reactor.nextKey →
        let unregistered := history.happen (.unregister key closer)
        ∃ calls, (unregistered.run later).handled = unregistered.handled ++ calls ∧
          ∀ call ∈ calls, call.1 ≠ key) ∧
      (history.happen .shutdown).reactor.closed = true ∧
      (reactor.closed = true →
        history.passed.Perm history.ran ∧ reactor.keys = [] ∧ reactor.poll = [] ∧
          reactor.armed = [] ∧ reactor.ready = [] ∧ reactor.requests = [] ∧
          (∀ interest, reactor.register interest = .error .closed) ∧
          (∀ states, reactor.process states = { reactor, isOpen := false }) ∧
          ∀ later, (history.run later).reactor = reactor) := by
  intro history reactor
  have sound : history.Sound := ReactorHistory.Sound.new.run events
  refine ⟨sound.balance, fun key closer runs => ?_, fun isOpen => ⟨fun key closer known => ?_,
    fun states => ?_, fun earlier key closer later queued => ?_, fun key unknown watched => ?_⟩,
    fun key closer later given => ?_, ?_, fun closed => ?_⟩
  · have unknown : reactor.entry? key = none := by
      rcases runs with closed | unknown
      · obtain ⟨nextKey, empty⟩ := sound.empty closed
        exact congrArg (Reactor.entry? · key) empty
      · exact unknown
    rw [Reactor.unregister, unknown]
  · exact ReactorHistory.happen_unregister isOpen known closer
  · obtain ⟨-, turns, -⟩ := Reactor.process_of_open isOpen states
    exact turns.imp And.left And.left
  · exact sound.carryOut_deregister isOpen queued
  · exact sound.exists_deregister isOpen unknown watched
  · obtain ⟨nextKey, -⟩ := reactor.unregister_spec key closer
    refine (sound.happen (.unregister key closer)).run_of_unknown ?_ ?_ later
    · exact nextKey.symm ▸ given
    · exact (reactor.entry?_unregister key closer key).trans (if_pos rfl)
  · cases state : reactor.closed with
    | true =>
      have same := (sound.move_happen .shutdown).of_closed state
      exact (congrArg Reactor.closed same).trans state
    | false =>
      rw [ReactorHistory.happen, (sound.seen state).shutdown_eq state]
  · obtain ⟨nextKey, empty⟩ := sound.empty closed
    have balance := sound.balance
    have later := sound.run_of_closed closed
    rw [ReactorHistory.waiting, empty] at balance
    rw [show reactor = { nextKey, closed := true } from empty]
    rw [show history.reactor = { nextKey, closed := true } from empty] at later
    refine ⟨?_, rfl, rfl, rfl, rfl, rfl, fun _ => rfl, fun _ => rfl, later⟩
    exact balance.trans (List.Perm.of_eq (List.append_nil _))

/-- A closer for a key that was taken out already runs before the one that waits for the poll, and
what was reported of the key is not handed to its handler. -/
example :
    let history := ({} : ReactorHistory Char).run
      [.register { read := true }, .report 0 { readable := true }, .unregister 0 'a',
        .unregister 0 'b', .report 0 { readable := true }, .process { readiness := fun _ => {} },
        .shutdown]
    history.ran = ['b', 'a'] ∧ history.handled = [] := by
  decide

end ChannelAccess
