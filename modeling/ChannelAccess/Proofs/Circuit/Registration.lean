import ChannelAccess.Proofs.Circuit.Sharing
import Mathlib.Data.List.Induction

/-!
# Circuits that are registered too late

A circuit is in the hands of the reactor before it is registered, so its peer can disconnect before
that. Closing takes a circuit out of the registry once. When that was done before the circuit is
registered, the circuit is registered for good, closed as it is, since closing it again has no
effect.

`registered_closed_iff_late` says that this is the only way in which a closed circuit is registered
once no call to connect and no closing is in progress, also for a call that returned an error.
`closed_registered_lateCall` is a run in which it happens.
-/

namespace ChannelAccess

/-- A call that goes on has the circuit that it had, or it is decided what it returns. -/
theorem ConnectPhase.Next.circuit?_or_decided? {before after : ConnectPhase}
    (next : before.Next after) :
    after.circuit? = before.circuit? ∨ ∃ result, after.decided? = some result := by
  cases next <;> first | exact .inl rfl | exact .inr ⟨_, rfl⟩

namespace Connector

variable {direct : CircuitKey → Prop}

/-- A call registered a circuit whose closing had come past the registry already. -/
def RegisteredLate (start : Connector) (events : List ConnectorEvent) (number : Nat) : Prop :=
  ∃ earlier index world later, events = earlier ++ .advance index world :: later ∧
    (start.run earlier).registry.hasLeft number = true ∧
      ∃ call lock, (start.run earlier).calls[index]? = some call ∧
        call.phase = .registering lock number

/-- No call to connect is in progress, and no circuit is being closed. -/
structure AtRest (connector : Connector) : Prop where
  /-- Every call has returned. -/
  returned : ∀ call ∈ connector.calls, call.phase.result?.isSome = true
  /-- Every circuit is open, or all that is done to close it was done. -/
  settled : ∀ circuit ∈ connector.registry.circuits,
    circuit.phase = .isOpen ∨ circuit.phase = .telling []

theorem run_append (connector : Connector) (events later : List ConnectorEvent) :
    connector.run (events ++ later) = (connector.run events).run later :=
  List.foldl_append

/-! ## Circuits that have left -/

/-- A circuit that has left the registry does not come back by itself. -/
theorem hasLeft_event {connector after : Connector} (event : connector.Event direct after)
    {number : Nat} (left : connector.registry.hasLeft number = true) :
    after.registry.hasLeft number = true := by
  cases event with
  | calls client key => exact left
  | uses wanes => exact wanes.left number left
  | moves here move =>
    cases move with
    | proceeds wanes => exact wanes.left number left
    | learns | locks | begins | cleans => exact left
    | registers opened =>
      show (connector.registry.put _).hasLeft number = true
      rw [CircuitRegistry.hasLeft, CircuitRegistry.circuits_put]
      exact left
    | opens connected alike =>
      rename_i circuit
      obtain ⟨old, present, -⟩ := Option.any_eq_true .. |>.mp left
      obtain ⟨inRange, -⟩ := List.getElem?_eq_some_iff.mp present
      show (connector.registry.add circuit).hasLeft number = true
      rw [CircuitRegistry.hasLeft, CircuitRegistry.getElem?_add, if_neg (Nat.ne_of_lt inRange)]
      exact left

theorem Sound.hasLeft_run {connector : Connector} (h : connector.Sound direct) {number : Nat}
    (left : connector.registry.hasLeft number = true) {events : List ConnectorEvent}
    (leads : connector.RunsDirectly direct events) :
    (connector.run events).registry.hasLeft number = true := by
  induction events generalizing connector with
  | nil => exact left
  | cons event later ih =>
    have event := event_of_happen h.sharing.filed leads.1
    exact ih (h.event event) (hasLeft_event event left) leads.2

/-- A circuit that has left and is registered had left before, and was registered then or is
registered by a call just now. -/
theorem Sharing.registered_hasLeft {connector : Connector} (h : connector.Sharing direct)
    {event : ConnectorEvent} {key : CircuitKey} {number : Nat}
    (registered : (connector.happen event).registry.lookup? key = some number)
    (left : (connector.happen event).registry.hasLeft number = true) :
    connector.registry.hasLeft number = true ∧
      (connector.registry.lookup? key = some number ∨
        ∃ index world call lock, event = .advance index world ∧
          connector.calls[index]? = some call ∧ call.phase = .registering lock number) := by
  have used : ∀ {used : Nat} {registry : CircuitRegistry},
      connector.registry.Wanes used registry → registry.lookup? key = some number →
        registry.hasLeft number = true →
          connector.registry.hasLeft number = true ∧
            connector.registry.lookup? key = some number := by
    intro used registry wanes registered left
    have before := wanes.found key number registered
    exact ⟨wanes.leaves key number (h.filed key number before) registered left, before⟩
  cases event with
  | call client key => exact ⟨left, .inl registered⟩
  | use other writes deed =>
    rw [happen] at registered left
    cases uses : connector.useCircuit other writes fun run => ((), deed.act run) with
    | none =>
      rw [uses] at registered left
      exact ⟨left, .inl registered⟩
    | some result =>
      obtain ⟨_, after, effects⟩ := result
      obtain ⟨registry, rfl, wanes, -⟩ := useCircuit_eq_some (deed_wanes deed) uses
      rw [uses] at registered left
      exact (used wanes registered left).imp_right .inl
  | advance index world =>
    rw [happen] at registered left
    cases steps : connector.step index world with
    | none =>
      rw [steps] at registered left
      exact ⟨left, .inl registered⟩
    | some result =>
      obtain ⟨after, effects⟩ := result
      rw [steps] at registered left
      obtain ⟨call, here, -⟩ := Option.bind_eq_some_iff.mp steps
      have move : connector.Move (fun _ => False) index call after :=
        move_of_step h.filed here (fun _ _ _ => False.elim) steps
      cases move with
      | proceeds wanes => exact (used wanes registered left).imp_right .inl
      | learns | locks | begins | cleans => exact ⟨left, .inl registered⟩
      | opens connected alike =>
        refine ⟨?_, .inl registered⟩
        have inRange := CircuitRegistry.lt_of_key? (h.filed key number registered)
        have added : (connector.registry.add _).hasLeft number = true := left
        rw [CircuitRegistry.hasLeft, CircuitRegistry.getElem?_add, if_neg (Nat.ne_of_lt inRange)]
          at added
        exact added
      | registers opened =>
        rename_i lock own
        have put : (connector.registry.put own).hasLeft number = true := left
        rw [CircuitRegistry.hasLeft, CircuitRegistry.circuits_put] at put
        refine ⟨put, ?_⟩
        obtain ⟨filed, isKey, -⟩ := h.own index call own here (.inl (by rw [opened]; rfl))
        have found : (connector.registry.put own).lookup? key = some number := registered
        rw [CircuitRegistry.lookup?_put isKey] at found
        split at found
        · obtain rfl := Option.some.inj found
          exact .inr ⟨index, world, call, lock, rfl, here, opened⟩
        · exact .inl found

/-- In every run, the closing of a registered circuit has come past the registry exactly if the
circuit was registered late. -/
theorem hasLeft_iff_registeredLate (settings : ConnectorSettings) (events : List ConnectorEvent)
    {key : CircuitKey} {number : Nat}
    (registered : (({ settings } : Connector).run events).registry.lookup? key = some number) :
    (({ settings } : Connector).run events).registry.hasLeft number = true ↔
      ({ settings } : Connector).RegisteredLate events number := by
  let start : Connector := { settings }
  have sound : ∀ earlier, (start.run earlier).Sound fun _ => False := fun earlier =>
    (Sound.start settings).run (start.runsDirectly_none earlier)
  constructor
  · intro left
    induction events using List.reverseRecOn with
    | nil => contradiction
    | append_singleton earlier event ih =>
      rw [run_append] at registered left
      obtain ⟨before, was | ⟨index, world, call, lock, rfl, here, registers⟩⟩ :=
        (sound earlier).sharing.registered_hasLeft registered left
      · obtain ⟨first, index, world, later, rfl, late⟩ := ih was before
        exact ⟨first, index, world, later ++ [event], by rw [List.append_assoc, List.cons_append],
          late⟩
      · exact ⟨earlier, index, world, [], rfl, before, call, lock, here, registers⟩
  · rintro ⟨earlier, index, world, later, rfl, left, -⟩
    rw [run_append]
    exact (sound earlier).hasLeft_run left (runsDirectly_none _ _)

/-! ## Calls that return errors -/

/-- A call that has opened a circuit has it still, returns it, or returns an error and the circuit
is closed. -/
def Answers (connector : Connector) (index number : Nat) : Prop :=
  ∃ call, connector.calls[index]? = some call ∧
    (call.phase.circuit? = some number ∨ call.phase.decided? = some (.ok number) ∨
      (∃ error, call.phase.decided? = some (.error error)) ∧
        ∃ key, connector.registry.key? number = some key ∧
          ¬ connector.registry.OpenUnder key number)

/-- A call that goes on keeps its circuit, returns it, or leaves it closed. -/
theorem Sharing.answers_proceeds {connector : Connector} (h : connector.Sharing direct)
    {index number used : Nat} {call : ConnectCall} (here : connector.calls[index]? = some call)
    (isOwn : call.phase.circuit? = some number) {registry : CircuitRegistry}
    {phase : ConnectPhase} (wanes : connector.registry.Wanes used registry)
    (next : call.phase.Next phase)
    (decided : ∀ result, phase.decided? = some result →
      call.phase.decided? = some result ∨ Justified registry call result) :
    phase.circuit? = some number ∨ phase.decided? = some (.ok number) ∨
      (∃ error, phase.decided? = some (.error error)) ∧
        ∃ key, registry.key? number = some key ∧ ¬ registry.OpenUnder key number := by
  have undecided : call.phase.decided? = none := by
    cases phase : call.phase <;> first | rfl | (rw [phase] at isOwn; contradiction)
  rcases next.circuit?_or_decided? with same | ⟨result, isResult⟩
  · exact .inl (same.trans isOwn)
  · have justified := (decided result isResult).resolve_left fun already =>
      Option.some_ne_none result (already.symm.trans undecided)
    cases result with
    | ok other =>
      rcases justified with ⟨isOther, -⟩ | ⟨none, -⟩
      · obtain rfl := Option.some.inj (isOther.symm.trans isOwn)
        exact .inr (.inl isResult)
      · exact absurd (none.symm.trans isOwn) nofun
    | error error =>
      obtain ⟨key, isKey, -⟩ := h.own index call number here (.inl isOwn)
      exact .inr (.inr ⟨⟨error, isResult⟩, key, (wanes.key? number).trans isKey,
        justified.2 number isOwn key⟩)

/-- Whatever happens, a call answers for the circuit that it has opened. -/
theorem Sound.answers_event {connector after : Connector} (h : connector.Sound direct)
    (event : connector.Event direct after) {index number : Nat}
    (answers : connector.Answers index number) : after.Answers index number := by
  obtain ⟨call, here, state⟩ := answers
  have later := h.later_event event
  -- What was decided stays so, and a closed circuit stays closed.
  have goesOn : ∀ phase : ConnectPhase, after.calls[index]? = some { call with phase } →
      (∀ result, call.phase.decided? = some result → phase.decided? = some result) →
      (call.phase.circuit? = some number → phase.circuit? = some number ∨
        phase.decided? = some (.ok number) ∨ (∃ error, phase.decided? = some (.error error)) ∧
          ∃ key, after.registry.key? number = some key ∧
            ¬ after.registry.OpenUnder key number) → after.Answers index number := by
    intro phase there decided own
    rcases state with isOwn | isResult | ⟨⟨error, isError⟩, key, isKey, closed⟩
    · exact ⟨_, there, own isOwn⟩
    · exact ⟨_, there, .inr (.inl (decided _ isResult))⟩
    · exact ⟨_, there, .inr (.inr ⟨⟨error, decided _ isError⟩, key, later.key? number key isKey,
        fun isOpen => closed (later.opens number key isKey isOpen)⟩)⟩
  cases event with
  | calls client key => exact goesOn call.phase (call_stays client key here) (fun _ => id) .inl
  | uses wanes => exact goesOn call.phase here (fun _ => id) .inl
  | moves there move =>
    rename_i mover moving
    by_cases same : mover = index
    · subst same
      obtain rfl := Option.some.inj (there.symm.trans here)
      -- In the phases that are told by name the call has no circuit, or keeps it.
      cases move with
      | proceeds wanes used next decided =>
        exact goesOn _ (by rw [getElem?_enter, if_pos rfl]; exact congrArg _ here)
          (fun result => next.decided?)
          fun isOwn => h.sharing.answers_proceeds here isOwn wanes next decided
      | learns phase | locks phase | begins phase | opens phase =>
        rw [phase] at state
        rcases state with isOwn | isResult | ⟨⟨error, isError⟩, -⟩ <;> contradiction
      | registers phase =>
        refine goesOn _ (by rw [getElem?_enter, if_pos rfl]; exact congrArg _ here) ?_ ?_
        · rw [phase]
          nofun
        · rw [phase]
          exact .inl
      | cleans phase =>
        refine goesOn _ (by rw [getElem?_enter, if_pos rfl]; exact congrArg _ here) ?_ ?_
        · rw [phase]
          exact fun _ => id
        · rw [phase]
          nofun
    · have stays : after.calls[index]? = some call := by
        cases move <;> exact (getElem?_enter _ mover _ index).trans ((if_neg same).trans here)
      exact goesOn call.phase stays (fun _ => id) .inl

theorem Sound.answers_run {connector : Connector} (h : connector.Sound direct)
    {index number : Nat} (answers : connector.Answers index number)
    {events : List ConnectorEvent} (leads : connector.RunsDirectly direct events) :
    (connector.run events).Answers index number := by
  induction events generalizing connector with
  | nil => exact answers
  | cons event later ih =>
    have event := event_of_happen h.sharing.filed leads.1
    exact ih (h.event event) (h.answers_event event answers) leads.2

/-- At rest a circuit is closed exactly if its closing has come past the registry. -/
theorem AtRest.isClosed_eq {connector : Connector} (h : connector.AtRest) (number : Nat) :
    connector.registry.isClosed number = connector.registry.hasLeft number := by
  rw [CircuitRegistry.isClosed, CircuitRegistry.hasLeft]
  cases present : connector.registry.circuits[number]? with
  | none => rfl
  | some circuit =>
    rw [Option.any_some, Option.any_some]
    rcases h.settled circuit (List.mem_of_getElem? present) with isOpen | isOver
    · simp only [Circuit.isClosed, Circuit.hasLeft, isOpen]
      rfl
    · simp only [Circuit.isClosed, Circuit.hasLeft, isOver]
      rfl

/-- Clients connect, peers disconnect, circuits are released and closed, in any order of their
steps. The closing of a registered circuit has come past the registry exactly if the circuit was
registered late. So once no call and no closing is in progress, all registered circuits are open
exactly if none of them was registered late, and if a call has returned an error, the circuit that
it opened is registered only if it was registered late. -/
theorem registered_closed_iff_late (settings : ConnectorSettings) (events : List ConnectorEvent) :
    let start : Connector := { settings }
    let connector := start.run events
    let registry := connector.registry
    (∀ key number, registry.lookup? key = some number →
      (registry.hasLeft number = true ↔ start.RegisteredLate events number)) ∧
    (connector.AtRest →
      ((∀ key number, registry.lookup? key = some number → registry.isClosed number = false) ↔
        ∀ key number, registry.lookup? key = some number →
          ¬ start.RegisteredLate events number)) ∧
    (connector.AtRest → ∀ (earlier later : List ConnectorEvent) (index number : Nat)
      (opened call : ConnectCall) (error : TransportError), events = earlier ++ later →
      (start.run earlier).calls[index]? = some opened → opened.phase.circuit? = some number →
      connector.calls[index]? = some call → call.phase.result? = some (.error error) →
      ∀ key, registry.lookup? key = some number → start.RegisteredLate events number) := by
  intro start connector registry
  have late := fun key number (registered : registry.lookup? key = some number) =>
    hasLeft_iff_registeredLate settings events registered
  refine ⟨late, fun atRest => ⟨fun allOpen key number registered isLate => ?_,
    fun noneLate key number registered => ?_⟩, ?_⟩
  · have closed := (atRest.isClosed_eq number).trans ((late key number registered).mpr isLate)
    exact Bool.false_ne_true ((allOpen key number registered).symm.trans closed)
  · rw [atRest.isClosed_eq number]
    exact Bool.eq_false_iff.mpr fun left =>
      noneLate key number registered ((late key number registered).mp left)
  · intro atRest earlier later index number opened call error isSplit there isOwn here returned key
      registered
    have sound : (start.run earlier).Sound fun _ => False :=
      (Sound.start settings).run (start.runsDirectly_none earlier)
    obtain ⟨last, isLast, state⟩ :=
      sound.answers_run ⟨opened, there, .inl isOwn⟩ (runsDirectly_none _ later)
    rw [← run_append, ← isSplit] at isLast state
    obtain rfl := Option.some.inj (here.symm.trans isLast)
    obtain ⟨result, isResult⟩ : ∃ result, call.phase = .returned result := by
      cases phase : call.phase <;> first | exact ⟨_, rfl⟩ | (rw [phase] at returned; contradiction)
    rw [isResult] at returned state
    obtain rfl := Option.some.inj returned
    -- The call returned no circuit, so the one that it opened is closed.
    obtain ⟨isKey, known, notOpen⟩ :=
      ((state.resolve_left nofun).resolve_left (by nofun)).2
    refine (late key number registered).mp ?_
    rw [← atRest.isClosed_eq number]
    exact (Bool.not_eq_false _).mp fun isOpen =>
      notOpen (CircuitRegistry.openUnder_of_key? known isOpen)

/-- The server disconnects when a call has made its circuit and is about to register it. The circuit
is closed, and then the call goes on to its end. -/
def lateCall : List ConnectorEvent :=
  .call 1 someKey :: List.replicate 6 (.advance 0 {}) ++
    .use 0 [] (.beginClose true) :: List.replicate 3 (.use 0 [] .closeStep) ++
    List.replicate 5 (.advance 0 {})

/-- The circuit is registered late. -/
theorem registered_closed_iff_late_lateCall :
    let start : Connector := { settings := someSettings }
    (start.run lateCall).registry.lookup? someKey = some 0 ∧ (start.run lateCall).AtRest ∧
      start.RegisteredLate lateCall 0 ∧
      ¬ ∀ key number, (start.run lateCall).registry.lookup? key = some number →
        (start.run lateCall).registry.isClosed number = false := by
  intro start
  obtain ⟨late, allOpen, -⟩ := registered_closed_iff_late someSettings lateCall
  have registered : (start.run lateCall).registry.lookup? someKey = some 0 := by decide +kernel
  have atRest : (start.run lateCall).AtRest := ⟨by decide +kernel, by decide +kernel⟩
  have isLate := (late someKey 0 registered).mp (by decide +kernel)
  exact ⟨registered, atRest, isLate, fun isOpen =>
    (allOpen atRest).mp isOpen someKey 0 registered isLate⟩

/-- The call returns an error and leaves its circuit registered, which is closed. -/
theorem closed_registered_lateCall :
    let connector := ({ settings := someSettings } : Connector).run lateCall
    connector.AtRest ∧ connector.registry.lookup? someKey = some 0 ∧
      connector.registry.isClosed 0 = true ∧
      connector.calls.map (·.phase.result?.map Except.toOption) = [some none] := by
  refine ⟨⟨by decide +kernel, by decide +kernel⟩, ?_, ?_, ?_⟩ <;> decide +kernel

end Connector

end ChannelAccess
