import ChannelAccess.Circuit.Basic

/-!
# Sending and closing leave reception alone

Whatever a circuit sends, and all steps of closing it, deliver no frame and do not touch the receive
buffer (`CircuitRun.SameReception`). Closing a circuit leaves it closed, and sending leaves it open
unless it fails for good.
-/

namespace ChannelAccess

/-- The frame that is delivered, if this is what others see. -/
def CircuitEffect.frame? : CircuitEffect → Option Frame
  | .delivered frame => some frame
  | _ => none

namespace CircuitRun

/-- The frames delivered so far. -/
def delivered (run : CircuitRun) : List Frame := run.effects.filterMap CircuitEffect.frame?

/-- Between two states of a circuit no frame was delivered and the receive buffer stayed as it
was. -/
def SameReception (before after : CircuitRun) : Prop :=
  after.delivered = before.delivered ∧
    after.circuit.receiveBuffer = before.circuit.receiveBuffer

theorem SameReception.refl (run : CircuitRun) : SameReception run run := ⟨rfl, rfl⟩

theorem SameReception.trans {a b c : CircuitRun} (h₁ : SameReception a b)
    (h₂ : SameReception b c) : SameReception a c :=
  ⟨h₂.1.trans h₁.1, h₂.2.trans h₁.2⟩

@[simp]
theorem delivered_emit (run : CircuitRun) (effect : CircuitEffect) :
    (run.emit effect).delivered = run.delivered ++ effect.frame?.toList := by
  simp only [emit, delivered, List.filterMap_append]
  cases effect <;> rfl

/-- Writing the send buffer out delivers nothing. -/
theorem sameReception_writeOut (run : CircuitRun) : SameReception run run.writeOut.2 := by
  refine ⟨?_, rfl⟩
  simp only [writeOut, delivered]
  split
  · rfl
  · rw [List.filterMap_append]
    exact List.append_nil _

/-! ## Closing -/

/-- A step of closing delivers nothing. -/
theorem sameReception_closeStep (run : CircuitRun) : SameReception run run.closeStep := by
  unfold closeStep
  dsimp only
  split
  · exact SameReception.refl run
  · exact ⟨(sameReception_writeOut run).1, (sameReception_writeOut run).2⟩
  · exact ⟨(delivered_emit run .disconnected).trans (List.append_nil _), rfl⟩
  · exact ⟨(delivered_emit run .unregistered).trans (List.append_nil _), rfl⟩
  · exact ⟨rfl, rfl⟩
  · exact SameReception.refl run
  · rename_i owner owners _
    exact ⟨(delivered_emit run (.told owner)).trans (List.append_nil _), rfl⟩

/-- A step of closing does not open the circuit again. -/
theorem isClosed_closeStep {run : CircuitRun} (h : run.circuit.isClosed = true) :
    run.closeStep.circuit.isClosed = true := by
  unfold closeStep
  dsimp only
  split <;> first | exact h | rfl

/-- Any number of steps of closing deliver nothing and leave a closed circuit closed. -/
theorem closeSteps_spec (run : CircuitRun) (count : Nat) :
    SameReception run (run.closeSteps count) ∧
      (run.circuit.isClosed = true → (run.closeSteps count).circuit.isClosed = true) := by
  induction count generalizing run with
  | zero => exact ⟨SameReception.refl run, id⟩
  | succ count ih =>
    obtain ⟨same, closed⟩ := ih run.closeStep
    exact ⟨(sameReception_closeStep run).trans same, fun h => closed (isClosed_closeStep h)⟩

/-- A circuit is closed once somebody started to close it. -/
theorem isClosed_beginClose (circuit : Circuit) (peerGone : Bool) :
    (circuit.beginClose peerGone).isClosed = true := by
  unfold Circuit.beginClose
  split
  · assumption
  · cases peerGone <;> rfl

/-- Closing a circuit delivers nothing and leaves it closed. -/
theorem close_spec (run : CircuitRun) (peerGone : Bool) :
    SameReception run (run.close peerGone) ∧ (run.close peerGone).circuit.isClosed = true := by
  unfold close
  split
  · rename_i closed
    exact ⟨SameReception.refl run, closed⟩
  · rename_i isOpen
    have begun : SameReception run { run with circuit := run.circuit.beginClose peerGone } := by
      refine ⟨rfl, ?_⟩
      show (run.circuit.beginClose peerGone).receiveBuffer = run.circuit.receiveBuffer
      rw [Circuit.beginClose, if_neg isOpen]
    obtain ⟨same, closed⟩ := closeSteps_spec
      { run with circuit := run.circuit.beginClose peerGone }
      (4 + (run.circuit.beginClose peerGone).owners.length)
    exact ⟨begun.trans same, closed (isClosed_beginClose _ _)⟩

/-! ## Sending -/

/-- Sending delivers nothing. It leaves the circuit as open as it was, unless it fails for good. -/
theorem send_spec (run : CircuitRun) (bytes : List UInt8) (finish : SendEnd) :
    SameReception run (run.send bytes finish).2 ∧
      ((∀ error, (run.send bytes finish).1 = some error → error.isFatal = false) →
        (run.send bytes finish).2.circuit.phase = run.circuit.phase) := by
  unfold send
  split
  · exact ⟨SameReception.refl run, fun _ => rfl⟩
  · cases finish with
    | discard => exact ⟨SameReception.refl run, fun _ => rfl⟩
    | commit => exact ⟨⟨rfl, rfl⟩, fun _ => rfl⟩
    | flush =>
      dsimp only
      have added : SameReception run
          { run with circuit :=
            { run.circuit with sendBuffer := run.circuit.sendBuffer ++ bytes } } := ⟨rfl, rfl⟩
      have same := added.trans (sameReception_writeOut _)
      have phase : (writeOut { run with circuit :=
          { run.circuit with sendBuffer := run.circuit.sendBuffer ++ bytes } }).2.circuit.phase =
            run.circuit.phase := rfl
      generalize writeOut { run with circuit :=
        { run.circuit with sendBuffer := run.circuit.sendBuffer ++ bytes } } = report
        at same phase ⊢
      obtain ⟨error, written⟩ := report
      cases error with
      | none => exact ⟨same, fun _ => phase⟩
      | some error =>
        dsimp only at same phase ⊢
        split
        · rename_i fatal
          refine ⟨same.trans (close_spec written true).1, fun passes => ?_⟩
          exact absurd (passes error rfl) (by rw [fatal]; decide)
        · exact ⟨same, fun _ => phase⟩

end CircuitRun

end ChannelAccess
