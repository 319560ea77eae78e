import ChannelAccess.Proofs.Circuit.Ownership
import ChannelAccess.Proofs.Circuit.Reassembly
import ChannelAccess.Proofs.Circuit.Registry

/-!
# Owners of a circuit that is used

Whatever a circuit sends, receives or finds out about its peer, it goes on with its owners, or it is
closed by one who is not interrupted: then its socket was shut down once, each owner was told, and
none is left (`CircuitRun.Settles`).
-/

namespace ChannelAccess

namespace CircuitRun

/-- The owners that were told so far, in order. -/
def told (run : CircuitRun) : List ClientId := run.effects.filterMap CircuitEffect.owner?

/-- How often the socket was shut down so far. -/
def disconnections (run : CircuitRun) : Nat := run.effects.count .disconnected

/-- What can become of the owners of a circuit that is used. -/
inductive Fate (before after : CircuitRun) : Prop
  /-- They stay owners, and the circuit is as open as it was. -/
  | stays (closed : after.circuit.isClosed = before.circuit.isClosed)
      (owners : after.circuit.owners = before.circuit.owners) (told : after.told = before.told)
      (disconnections : after.disconnections = before.disconnections) : Fate before after
  /-- The circuit is closed, and they are told. -/
  | closes (isOpen : before.circuit.isClosed = false) (closed : after.circuit.isClosed = true)
      (owners : after.circuit.owners = [])
      (told : after.told = before.told ++ before.circuit.owners)
      (disconnections : after.disconnections = before.disconnections + 1) : Fate before after

/-- What can become of a circuit and its owners. -/
structure Settles (before after : CircuitRun) : Prop extends Wanes before after where
  /-- What becomes of the owners. -/
  fate : Fate before after

theorem Fate.refl (run : CircuitRun) : Fate run run := .stays rfl rfl rfl rfl

theorem Fate.trans {a b c : CircuitRun} (h₁ : Fate a b) (h₂ : Fate b c) : Fate a c := by
  cases h₁ with
  | stays closed owners told disconnections =>
    cases h₂ with
    | stays closed' owners' told' disconnections' =>
      exact .stays (closed'.trans closed) (owners'.trans owners) (told'.trans told)
        (disconnections'.trans disconnections)
    | closes isOpen closed' owners' told' disconnections' =>
      rw [closed] at isOpen
      rw [owners, told] at told'
      rw [disconnections] at disconnections'
      exact .closes isOpen closed' owners' told' disconnections'
  | closes isOpen closed owners told disconnections =>
    cases h₂ with
    | stays closed' owners' told' disconnections' =>
      exact .closes isOpen (closed'.trans closed) (owners'.trans owners) (told'.trans told)
        (disconnections'.trans disconnections)
    | closes isOpen' => exact absurd (isOpen'.symm.trans closed) Bool.false_ne_true

theorem Settles.refl (run : CircuitRun) : Settles run run := ⟨.refl run, .refl run⟩

theorem Settles.trans {a b c : CircuitRun} (h₁ : Settles a b) (h₂ : Settles b c) : Settles a c :=
  ⟨h₁.toWanes.trans h₂.toWanes, h₁.fate.trans h₂.fate⟩

/-! ## What others see -/

@[simp]
theorem told_emit (run : CircuitRun) (effect : CircuitEffect) :
    (run.emit effect).told = run.told ++ effect.owner?.toList := by
  rw [told, emit, List.filterMap_append]
  cases effect <;> rfl

@[simp]
theorem disconnections_emit (run : CircuitRun) (effect : CircuitEffect) :
    (run.emit effect).disconnections =
      run.disconnections + if effect = .disconnected then 1 else 0 := by
  rw [disconnections, emit, List.count_append, List.count_singleton]
  simp only [beq_iff_eq]
  rfl

/-- Writing the send buffer out tells nobody, and leaves the socket as it is. -/
theorem told_writeOut (run : CircuitRun) :
    run.writeOut.2.told = run.told ∧ run.writeOut.2.disconnections = run.disconnections := by
  obtain ⟨sent, effects⟩ := OwnedCircuit.effects_writeOut run
  rw [told, disconnections, effects, List.filterMap_append, List.count_append]
  have nobody : (sent.map CircuitEffect.sent).filterMap CircuitEffect.owner? = [] := by
    simp [CircuitEffect.owner?]
  have stays : (sent.map CircuitEffect.sent).count .disconnected = 0 := by
    simp [List.count_eq_zero]
  rw [nobody, stays, List.append_nil]
  exact ⟨rfl, rfl⟩

/-- Something that is neither of these is seen, of a circuit that is not changed. -/
theorem Settles.emit (run : CircuitRun) {effect : CircuitEffect} (nobody : effect.owner? = none)
    (stays : effect ≠ .disconnected) (still : effect ≠ .unregistered) :
    Settles run (run.emit effect) where
  key := rfl
  closed := id
  unregistered := by
    intro unregistered
    rcases List.mem_append.mp unregistered with before | last
    · exact .inl before
    · exact absurd (List.mem_singleton.mp last).symm still
  left := id
  leaves := .inl
  seen := List.subset_append_left _ _
  fate := by
    refine .stays rfl rfl ?_ ?_
    · rw [told_emit, nobody]
      exact List.append_nil _
    · rw [disconnections_emit, if_neg stays, Nat.add_zero]

/-- Changes to an open circuit that concern neither its owners nor the registry. -/
theorem Settles.of_circuit {run : CircuitRun} {circuit : Circuit}
    (key : circuit.key = run.circuit.key) (phase : circuit.phase = run.circuit.phase)
    (owners : circuit.owners = run.circuit.owners) : Settles run { run with circuit } := by
  have closed : circuit.isClosed = run.circuit.isClosed := congrArg (· != ClosePhase.isOpen) phase
  refine ⟨.of_circuit key closed.trans ?_, .stays closed owners rfl rfl⟩
  rw [Circuit.hasLeft, phase]
  rfl

theorem Settles.writeOut (run : CircuitRun) : Settles run run.writeOut.2 :=
  ⟨wanes_writeOut run, .stays rfl rfl run.told_writeOut.1 run.told_writeOut.2⟩

/-! ## Closing -/

/-- The owners that are about to be told are told. -/
theorem closeSteps_telling {run : CircuitRun} {owners : List ClientId}
    (phase : run.circuit.phase = .telling owners) {count : Nat} (enough : owners.length ≤ count) :
    (run.closeSteps count).circuit.owners = run.circuit.owners ∧
      (run.closeSteps count).told = run.told ++ owners ∧
      (run.closeSteps count).disconnections = run.disconnections := by
  induction count generalizing run owners with
  | zero =>
    obtain rfl := List.length_eq_zero_iff.mp (Nat.le_zero.mp enough)
    exact ⟨rfl, (List.append_nil _).symm, rfl⟩
  | succ count ih =>
    rw [closeSteps]
    cases owners with
    | nil =>
      have rests : run.closeStep = run := by rw [closeStep, phase]
      rw [rests]
      exact ih phase (Nat.zero_le _)
    | cons owner later =>
      have tells : run.closeStep = { run.emit (.told owner) with
          circuit := { run.circuit with phase := .telling later } } := by
        rw [closeStep, phase]
        rfl
      obtain ⟨owners, told, disconnections⟩ :=
        @ih run.closeStep later (by rw [tells]) (Nat.le_of_succ_le_succ enough)
      rw [tells] at owners told disconnections ⊢
      refine ⟨owners, ?_, disconnections.trans (run.disconnections_emit (.told owner))⟩
      refine (told.trans (congrArg (· ++ later) (run.told_emit (.told owner)))).trans ?_
      exact List.append_assoc _ _ _

/-- From the socket on, closing tells all owners, and none is left. -/
theorem closeSteps_disconnecting {run : CircuitRun} (phase : run.circuit.phase = .disconnecting)
    {count : Nat} (enough : 3 + run.circuit.owners.length ≤ count) :
    (run.closeSteps count).circuit.owners = [] ∧
      (run.closeSteps count).told = run.told ++ run.circuit.owners ∧
      (run.closeSteps count).disconnections = run.disconnections + 1 := by
  obtain ⟨count, rfl⟩ := Nat.exists_eq_add_of_le (Nat.le_of_add_right_le enough)
  have shut : run.closeStep =
      { run.emit .disconnected with circuit := { run.circuit with phase := .unregistering } } := by
    rw [closeStep, phase]
    rfl
  have taken : run.closeStep.closeStep.closeStep =
      { (run.emit .disconnected).emit .unregistered with
        circuit := { run.circuit with phase := .telling run.circuit.owners, owners := [] } } := by
    rw [shut]
    rfl
  have rest := @closeSteps_telling run.closeStep.closeStep.closeStep run.circuit.owners
    (by rw [taken]) count (Nat.add_le_add_iff_left.mp enough)
  rw [Nat.add_comm 3 count]
  show ((run.closeStep.closeStep.closeStep).closeSteps count).circuit.owners = [] ∧
    ((run.closeStep.closeStep.closeStep).closeSteps count).told = _ ∧
    ((run.closeStep.closeStep.closeStep).closeSteps count).disconnections = _
  obtain ⟨owners, told, disconnections⟩ := rest
  rw [owners, told, disconnections, taken]
  refine ⟨rfl, congrArg (· ++ run.circuit.owners) ?_, ?_⟩
  · show ((run.emit .disconnected).emit .unregistered).told = run.told
    simp [CircuitEffect.owner?]
  · show ((run.emit .disconnected).emit .unregistered).disconnections = _
    simp

/-- An open circuit is closed, whether or not its peer is gone. A closed one is left alone. -/
theorem Settles.close (run : CircuitRun) (peerGone : Bool) : Settles run (run.close peerGone) := by
  refine ⟨wanes_close run peerGone, ?_⟩
  cases closed : run.circuit.isClosed with
  | true =>
    rw [CircuitRun.close, if_pos closed]
    exact .refl run
  | false =>
    have goesOn : run.close peerGone = closeSteps { run with
        circuit := { run.circuit with phase := if peerGone then .disconnecting else .flushing } }
        (4 + run.circuit.owners.length) := by
      rw [CircuitRun.close, Circuit.beginClose, closed]
      rfl
    suffices settled : (run.close peerGone).circuit.owners = [] ∧
        (run.close peerGone).told = run.told ++ run.circuit.owners ∧
        (run.close peerGone).disconnections = run.disconnections + 1 from
      .closes closed (close_spec run peerGone).2 settled.1 settled.2.1 settled.2.2
    rw [goesOn]
    cases peerGone with
    | true =>
      exact @closeSteps_disconnecting { run with
        circuit := { run.circuit with phase := .disconnecting } } rfl _
        (Nat.add_le_add_right (by decide) _)
    | false =>
      -- What is left to send is written first.
      have written := told_writeOut { run with
        circuit := { run.circuit with phase := .flushing } }
      rw [Nat.add_right_comm 3 1]
      obtain ⟨owners, told, disconnections⟩ := @closeSteps_disconnecting
        (closeStep { run with circuit := { run.circuit with phase := .flushing } }) rfl _
        (Nat.le_refl _)
      exact ⟨owners, told.trans (congrArg (· ++ run.circuit.owners) written.1),
        disconnections.trans (congrArg (· + 1) written.2)⟩

/-! ## Sending and receiving -/

theorem Settles.send (run : CircuitRun) (bytes : List UInt8) (finish : SendEnd) :
    Settles run (run.send bytes finish).2 := by
  have added : Settles run { run with circuit :=
      { run.circuit with sendBuffer := run.circuit.sendBuffer ++ bytes } } :=
    .of_circuit rfl rfl rfl
  unfold CircuitRun.send
  split
  · exact .refl run
  · cases finish with
    | discard => exact .refl run
    | commit => exact added
    | flush =>
      have written := added.trans (.writeOut _)
      dsimp only
      split
      · rename_i sent report
        rwa [report] at written
      · rename_i error sent report
        rw [report] at written
        dsimp only
        split
        · exact written.trans (.close sent true)
        · exact written

/-- The first messages are sent, which leaves the circuit as open as it was unless that fails. -/
theorem handshake_spec (run : CircuitRun) (clientName hostName : String) :
    Settles run (run.handshake clientName hostName).2 ∧
      ((run.handshake clientName hostName).1 = none →
        (run.handshake clientName hostName).2.circuit.phase = run.circuit.phase) := by
  refine ⟨.send run _ .flush, fun sent => (send_spec run _ .flush).2 fun error failed => ?_⟩
  exact absurd (sent.symm.trans failed) (Option.some_ne_none error).symm

/-- Frames are handed out. -/
theorem Settles.deliver (run : CircuitRun) (frames : List Frame) :
    Settles run (frames.foldl (fun run frame => run.emit (.delivered frame)) run) := by
  induction frames generalizing run with
  | nil => exact .refl run
  | cons frame later ih =>
    refine Settles.trans (.emit run rfl ?_ ?_) (ih (run.emit (.delivered frame)))
    · exact CircuitEffect.noConfusion
    · exact CircuitEffect.noConfusion

/-- Bytes are taken in, and the peer may be asked to pause or to go on. -/
theorem Settles.takeIn (run : CircuitRun) (now : Moment) (bytes : List UInt8) :
    Settles run (run.takeIn now bytes).2 := by
  have filled : Settles run { run with circuit :=
      { run.circuit.markAlive now with
        receiveBuffer := run.circuit.receiveBuffer.fill bytes
        flow := (run.circuit.flow.afterRead (run.circuit.receiveBuffer.fill bytes).isFull).2 } } :=
    .of_circuit rfl rfl rfl
  unfold CircuitRun.takeIn
  dsimp only
  split
  · exact filled
  · exact filled.trans (.send _ _ .flush)

/-- What the buffer holds is handed out, or the circuit is closed if that is too long for it. -/
theorem Settles.handOut (run : CircuitRun) : Settles run run.handOut.2 := by
  have handed := Settles.deliver run run.circuit.receiveBuffer.deliver.1.frames
  unfold CircuitRun.handOut
  dsimp only
  generalize run.circuit.receiveBuffer.deliver.1.frames.foldl
    (fun run frame => run.emit (.delivered frame)) run = emitted at handed ⊢
  split
  · exact handed.trans (.close emitted false)
  · have moved : Settles run { emitted with circuit :=
        { emitted.circuit with receiveBuffer := run.circuit.receiveBuffer.deliver.2 } } :=
      handed.trans (.of_circuit rfl rfl rfl)
    split
    · refine moved.trans (.emit _ rfl ?_ ?_)
      · exact CircuitEffect.noConfusion
      · exact CircuitEffect.noConfusion
    · exact moved

theorem Settles.received (run : CircuitRun) (now : Moment) (bytes : List UInt8) :
    Settles run (run.received now bytes).2 := by
  rw [received_eq]
  exact (Settles.takeIn run now bytes).trans (.handOut _)

theorem Settles.readOnce (run : CircuitRun) (now : Moment) (outcome : ReadOutcome) :
    Settles run (run.readOnce now outcome).2 := by
  unfold CircuitRun.readOnce
  split
  · exact .refl run
  · cases outcome with
    | data bytes =>
      dsimp only
      split
      · exact .close run true
      · exact .received run now _
    | endOfStream | failed => exact .close run true
    | wouldBlock | interrupted => exact .refl run

theorem Settles.readAll (run : CircuitRun) (now : Moment) (reads : List ReadOutcome) :
    Settles run (run.readAll now reads).1 := by
  induction reads generalizing run with
  | nil => exact .refl run
  | cons outcome later ih =>
    have once := Settles.readOnce run now outcome
    unfold CircuitRun.readAll
    split
    · rename_i read report
      rw [report] at once
      exact once.trans (ih read)
    · rename_i read report
      rwa [report] at once

theorem Settles.checkLiveness (run : CircuitRun) (now : Moment) (timeout : Duration) :
    Settles run (run.checkLiveness now timeout).2 := by
  unfold CircuitRun.checkLiveness
  split
  · exact .refl run
  · have noted : Settles run { run with circuit :=
        { run.circuit with liveness := (run.circuit.liveness.check now timeout).2 } } :=
      .of_circuit rfl rfl rfl
    dsimp only
    split
    · exact noted
    · exact noted.trans (.close _ true)
    · exact noted.trans (.send _ _ .flush)

end CircuitRun

end ChannelAccess
