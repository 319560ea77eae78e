import ChannelAccess.Proofs.Circuit.Effects
import ChannelAccess.Proofs.Circuit.Receiving

/-!
# Frames do not depend on how a stream is read

A circuit is read by calls of `CircuitRun.readAll`. `frames_of_reads` says that the frames delivered
after any number of calls are those that `Frame.split` cuts off the stream as a whole, up to the
first header that declares more than the buffer can hold; there the circuit closes.

The invariant is `Reassembled`: it ties the frames delivered and the bytes in the buffer to the
stream read so far. A read keeps it (`Reassembled.readOnce`): taking bytes in fills the buffer and
may send a flow control signal (`takeIn`), then the buffer is delivered (`handOut`). By induction a
call keeps it, whether it ends because the socket has nothing more or because the circuit gives
others their turn, and so do any number of calls.
-/

namespace ChannelAccess

namespace CircuitRun

/-! ## The two halves of a read -/

/-- The first half of handling bytes that were read: they are added to the buffer, and the peer is
asked to pause or to go on if that is due. Also says what went wrong with that. -/
def takeIn (run : CircuitRun) (now : Moment) (bytes : List UInt8) :
    Option TransportError × CircuitRun :=
  let buffer := run.circuit.receiveBuffer.fill bytes
  let (signal, flow) := run.circuit.flow.afterRead buffer.isFull
  let run :=
    { run with circuit := { run.circuit.markAlive now with receiveBuffer := buffer, flow } }
  match signal with
  | none => (none, run)
  | some signal => run.request (requestOf signal)

/-- The second half: every complete frame in the buffer is delivered. -/
def handOut (run : CircuitRun) : Bool × CircuitRun :=
  let (found, buffer) := run.circuit.receiveBuffer.deliver
  let run := found.frames.foldl (fun run frame => run.emit (.delivered frame)) run
  match found.oversized with
  | some _ => (false, run.close false)
  | none =>
    let run := { run with circuit := { run.circuit with receiveBuffer := buffer } }
    if run.circuit.flow.asserted then (false, run.emit .yielded) else (true, run)

/-- Taking bytes in delivers nothing, fills the buffer, and leaves the circuit as open as it was if
the signal did not fail for good. -/
theorem takeIn_spec (run : CircuitRun) (now : Moment) (bytes : List UInt8) :
    (run.takeIn now bytes).2.delivered = run.delivered ∧
      (run.takeIn now bytes).2.circuit.receiveBuffer = run.circuit.receiveBuffer.fill bytes ∧
      ((∀ error, (run.takeIn now bytes).1 = some error → error.isFatal = false) →
        (run.takeIn now bytes).2.circuit.phase = run.circuit.phase) := by
  unfold takeIn
  dsimp only
  split
  · exact ⟨rfl, rfl, fun _ => rfl⟩
  · rename_i signal _
    obtain ⟨⟨delivered, buffer⟩, phase⟩ := send_spec
      { run with circuit := { run.circuit.markAlive now with
        receiveBuffer := run.circuit.receiveBuffer.fill bytes
        flow := (run.circuit.flow.afterRead (run.circuit.receiveBuffer.fill bytes).isFull).2 } }
      (requestOf signal).toBytes .flush
    exact ⟨delivered, buffer, phase⟩

/-- Handling bytes is taking them in, then handing frames out. -/
theorem received_eq (run : CircuitRun) (now : Moment) (bytes : List UInt8) :
    run.received now bytes = (run.takeIn now bytes).2.handOut := by
  have buffer := (takeIn_spec run now bytes).2.1
  rw [handOut, buffer]
  unfold received takeIn
  dsimp only
  generalize run.circuit.flow.afterRead (run.circuit.receiveBuffer.fill bytes).isFull = result
  obtain ⟨signal, flow⟩ := result
  cases signal <;> rfl

/-- Delivering frames one after the other adds them to those delivered before and changes nothing
of the circuit. -/
theorem foldl_delivered (frames : List Frame) (run : CircuitRun) :
    (frames.foldl (fun run frame => run.emit (.delivered frame)) run).delivered =
        run.delivered ++ frames ∧
      (frames.foldl (fun run frame => run.emit (.delivered frame)) run).circuit = run.circuit := by
  induction frames generalizing run with
  | nil => exact ⟨(List.append_nil _).symm, rfl⟩
  | cons frame frames ih =>
    obtain ⟨delivered, circuit⟩ := ih (run.emit (.delivered frame))
    rw [List.foldl_cons, delivered, circuit, delivered_emit, List.append_assoc]
    exact ⟨rfl, rfl⟩

/-- Handing out what no header has overstepped delivers all frames of the bytes received, keeps what
is left over, and leaves the circuit as open as it was. -/
theorem handOut_of_not_oversteps {run : CircuitRun} {buffer : ReceiveBuffer}
    (hb : run.circuit.receiveBuffer = buffer) (h : buffer.WellFilled)
    (ho : ¬ Frame.Oversteps buffer.capacity buffer.received) :
    run.handOut.2.delivered = run.delivered ++ (Frame.split buffer.received).1 ∧
      run.handOut.2.circuit.receiveBuffer.received = (Frame.split buffer.received).2 ∧
      run.handOut.2.circuit.receiveBuffer.capacity = buffer.capacity ∧
      run.handOut.2.circuit.receiveBuffer.WellFilled ∧
      run.handOut.2.circuit.phase = run.circuit.phase := by
  obtain ⟨none, frames, received, capacity, wellFilled⟩ :=
    ReceiveBuffer.deliver_of_not_oversteps h ho
  obtain ⟨delivered, circuit⟩ := foldl_delivered buffer.deliver.1.frames run
  have phase := congrArg Circuit.phase circuit
  unfold handOut
  rw [hb]
  simp only [none]
  generalize buffer.deliver.1.frames.foldl (fun run frame => run.emit (.delivered frame)) run =
    emitted at delivered phase ⊢
  rw [frames] at delivered
  split
  · refine ⟨?_, received, capacity, wellFilled, phase⟩
    rw [delivered_emit, ← delivered]
    exact List.append_nil _
  · exact ⟨delivered, received, capacity, wellFilled, phase⟩

/-- Handing out what a header has overstepped delivers the frames before it and closes the
circuit. -/
theorem handOut_of_oversteps {run : CircuitRun} {buffer : ReceiveBuffer}
    (hb : run.circuit.receiveBuffer = buffer)
    (ho : Frame.Oversteps buffer.capacity buffer.received) :
    run.handOut.2.delivered =
        run.delivered ++ Frame.accepted buffer.capacity buffer.received ∧
      run.handOut.2.circuit.isClosed = true := by
  obtain ⟨some, frames⟩ := ReceiveBuffer.deliver_of_oversteps ho
  have folded := foldl_delivered buffer.deliver.1.frames run
  unfold handOut
  rw [hb]
  dsimp only
  split
  · obtain ⟨same, closed⟩ := close_spec
      (buffer.deliver.1.frames.foldl (fun run frame => run.emit (.delivered frame)) run) false
    exact ⟨same.1.trans (frames ▸ folded.1), closed⟩
  · rename_i none
    exact absurd none some

/-! ## Reading a stream -/

end CircuitRun

/-- A read of a circuit's socket. -/
structure SocketRead where
  /-- The circuit before the read. -/
  before : CircuitRun
  /-- When it is read. -/
  now : Moment
  /-- What the socket gives. -/
  outcome : ReadOutcome

namespace SocketRead

/-- The bytes that the socket hands over. -/
def bytes (read : SocketRead) : List UInt8 :=
  match read.outcome with
  | .data bytes => bytes
  | _ => []

/-- The socket hands over at least one byte and at most as many as there is room for, and a flow
control signal that follows from it does not fail for good; or it has nothing for now. -/
def Proper (read : SocketRead) : Prop :=
  match read.outcome with
  | .data bytes =>
    bytes ≠ [] ∧ bytes.length ≤ read.before.circuit.receiveBuffer.free ∧
      ∀ error ∈ (read.before.takeIn read.now bytes).1, error.isFatal = false
  | .wouldBlock | .interrupted => True
  | .endOfStream | .failed _ => False

instance : DecidablePred Proper
  | ⟨before, now, .data bytes⟩ =>
    inferInstanceAs (Decidable (bytes ≠ [] ∧ bytes.length ≤ before.circuit.receiveBuffer.free ∧
      ∀ error ∈ (before.takeIn now bytes).1, error.isFatal = false))
  | ⟨_, _, .wouldBlock⟩ => inferInstanceAs (Decidable True)
  | ⟨_, _, .interrupted⟩ => inferInstanceAs (Decidable True)
  | ⟨_, _, .endOfStream⟩ => inferInstanceAs (Decidable False)
  | ⟨_, _, .failed _⟩ => inferInstanceAs (Decidable False)

end SocketRead

namespace CircuitRun

/-- The reads that a call of the reading loop makes, given what the socket would give one after the
other. A closed circuit is not read. -/
def readsOfCall (run : CircuitRun) (now : Moment) : List ReadOutcome → List SocketRead
  | [] => []
  | outcome :: later =>
    if run.circuit.isClosed then []
    else
      let (goesOn, after) := run.readOnce now outcome
      ⟨run, now, outcome⟩ :: if goesOn then after.readsOfCall now later else []

/-- The circuit after some calls of the reading loop, each at its moment and with what the socket
gives during it. -/
def afterCalls (run : CircuitRun) : List (Moment × List ReadOutcome) → CircuitRun
  | [] => run
  | (now, outcomes) :: later => (run.readAll now outcomes).1.afterCalls later

/-- The reads of some calls of the reading loop. -/
def readsOfCalls (run : CircuitRun) : List (Moment × List ReadOutcome) → List SocketRead
  | [] => []
  | (now, outcomes) :: later =>
    run.readsOfCall now outcomes ++ (run.readAll now outcomes).1.readsOfCalls later

/-- The bytes that some reads hand over, in order. -/
def streamOf (reads : List SocketRead) : List UInt8 := reads.flatMap SocketRead.bytes

end CircuitRun

/-- The invariant of reading: an open circuit has delivered all frames of the stream read so far and
holds what is left over, and a closed one has delivered those before a header that declares too
much. `earlier` are the frames delivered before. -/
inductive Reassembled (capacity : Nat) (earlier : List Frame) (stream : List UInt8)
    (run : CircuitRun) : Prop where
  /-- No header has declared too much so far. -/
  | isOpen (phase : run.circuit.isClosed = false) (short : ¬ Frame.Oversteps capacity stream)
      (delivered : run.delivered = earlier ++ (Frame.split stream).1)
      (received : run.circuit.receiveBuffer.received = (Frame.split stream).2)
      (size : run.circuit.receiveBuffer.capacity = capacity)
      (wellFilled : run.circuit.receiveBuffer.WellFilled)
  /-- A header has declared too much. -/
  | closed (phase : run.circuit.isClosed = true) (long : Frame.Oversteps capacity stream)
      (delivered : run.delivered = earlier ++ Frame.accepted capacity stream)

namespace Reassembled

open CircuitRun

variable {capacity : Nat} {earlier : List Frame} {stream : List UInt8} {run : CircuitRun}

/-- Before anything was read, nothing has been delivered and nothing is held. -/
theorem start {start : CircuitRun} (isOpen : start.circuit.isClosed = false)
    (empty : start.circuit.receiveBuffer = .ofCapacity capacity) :
    Reassembled capacity start.delivered [] start := by
  have nothing : Frame.parse? [] = none := rfl
  have short : ¬ Frame.Oversteps capacity [] := by
    refine Frame.not_oversteps_of_none nothing fun header rest parsed => ?_
    contradiction
  have size : start.circuit.receiveBuffer.capacity = capacity := by
    rw [empty]
    exact List.length_replicate
  refine .isOpen isOpen short ?_ ?_ size ?_
  · rw [Frame.split_of_none nothing, List.append_nil]
  · rw [Frame.split_of_none nothing, empty]
    rfl
  · rw [empty]
    exact Nat.zero_le _

/-- Whether a circuit is closed is seen from its phase. -/
theorem isClosed_eq_of_phase {a b : CircuitRun} (h : a.circuit.phase = b.circuit.phase) :
    a.circuit.isClosed = b.circuit.isClosed := by
  rw [Circuit.isClosed, Circuit.isClosed, h]

/-- Handling bytes that fit the buffer keeps the invariant. -/
theorem received {now : Moment} {bytes : List UInt8}
    (phase : run.circuit.isClosed = false) (short : ¬ Frame.Oversteps capacity stream)
    (delivered : run.delivered = earlier ++ (Frame.split stream).1)
    (received : run.circuit.receiveBuffer.received = (Frame.split stream).2)
    (size : run.circuit.receiveBuffer.capacity = capacity)
    (wellFilled : run.circuit.receiveBuffer.WellFilled)
    (room : bytes.length ≤ run.circuit.receiveBuffer.free)
    (passes : ∀ error ∈ (run.takeIn now bytes).1, error.isFatal = false) :
    Reassembled capacity earlier (stream ++ bytes) (run.received now bytes).2 := by
  obtain ⟨sameDelivered, buffer, samePhase⟩ := takeIn_spec run now bytes
  have stillOpen := isClosed_eq_of_phase (samePhase passes)
  have inBuffer := ReceiveBuffer.received_fill wellFilled bytes
  have filled := ReceiveBuffer.wellFilled_fill wellFilled room
  have sameSize := (ReceiveBuffer.capacity_fill wellFilled room).trans size
  -- What is in the buffer now is what was left over, with the bytes read behind it.
  rw [received] at inBuffer
  obtain ⟨overstepsIff, accepted⟩ := Frame.accepted_append_of_not_oversteps short bytes
  rw [received_eq]
  by_cases beyond : Frame.Oversteps capacity (stream ++ bytes)
  · have here := overstepsIff.mp beyond
    rw [← inBuffer, ← sameSize] at here
    obtain ⟨handed, isClosed⟩ := handOut_of_oversteps buffer here
    refine .closed isClosed beyond ?_
    rw [handed, sameDelivered, delivered, inBuffer, sameSize, accepted, List.append_assoc]
  · have here := mt overstepsIff.mpr beyond
    rw [← inBuffer, ← sameSize] at here
    obtain ⟨handed, left, keptSize, keptFilled, keptPhase⟩ :=
      handOut_of_not_oversteps buffer filled here
    have cut := Frame.split_append stream bytes
    refine .isOpen ?_ beyond ?_ ?_ (keptSize.trans sameSize) keptFilled
    · rw [isClosed_eq_of_phase keptPhase, stillOpen, phase]
    · rw [handed, sameDelivered, delivered, inBuffer, cut, List.append_assoc]
    · rw [left, inBuffer, cut]

/-- A proper read of an open circuit keeps the invariant. -/
theorem readOnce {now : Moment} {outcome : ReadOutcome}
    (h : Reassembled capacity earlier stream run) (isOpen : run.circuit.isClosed = false)
    (proper : (SocketRead.mk run now outcome).Proper) :
    Reassembled capacity earlier (stream ++ (SocketRead.mk run now outcome).bytes)
      (run.readOnce now outcome).2 := by
  cases h with
  | closed phase => rw [isOpen] at phase; contradiction
  | isOpen phase short delivered received size wellFilled =>
    unfold CircuitRun.readOnce
    rw [if_neg (by rw [isOpen]; decide)]
    cases outcome with
    | data bytes =>
      obtain ⟨some, room, passes⟩ := proper
      have all : bytes.take run.circuit.receiveBuffer.free = bytes := List.take_of_length_le room
      dsimp only [SocketRead.bytes]
      rw [all, if_neg (by simpa using some)]
      exact Reassembled.received phase short delivered received size wellFilled room passes
    | wouldBlock =>
      dsimp only [SocketRead.bytes]
      rw [List.append_nil]
      exact .isOpen phase short delivered received size wellFilled
    | interrupted =>
      dsimp only [SocketRead.bytes]
      rw [List.append_nil]
      exact .isOpen phase short delivered received size wellFilled
    | endOfStream => exact absurd proper id
    | failed failure => exact absurd proper id

/-- A call of the reading loop keeps the invariant, whatever ends it. -/
theorem readAll {now : Moment} {outcomes : List ReadOutcome}
    (h : Reassembled capacity earlier stream run)
    (proper : ∀ read ∈ run.readsOfCall now outcomes, read.Proper) :
    Reassembled capacity earlier (stream ++ streamOf (run.readsOfCall now outcomes))
      (run.readAll now outcomes).1 := by
  induction outcomes generalizing run stream with
  | nil => simpa [readsOfCall, streamOf, CircuitRun.readAll] using h
  | cons outcome later ih =>
    unfold readsOfCall CircuitRun.readAll
    unfold readsOfCall at proper
    cases phase : run.circuit.isClosed with
    | true =>
      rw [if_pos rfl]
      have stays : run.readOnce now outcome = (false, run) := by
        unfold CircuitRun.readOnce
        rw [if_pos phase]
      rw [stays]
      simpa [streamOf] using h
    | false =>
      rw [phase, if_neg Bool.false_ne_true] at proper
      rw [if_neg Bool.false_ne_true]
      dsimp only at proper ⊢
      have kept := h.readOnce phase (proper _ List.mem_cons_self)
      generalize run.readOnce now outcome = result at proper kept ⊢
      obtain ⟨goesOn, after⟩ := result
      cases goesOn with
      | false => simpa [streamOf] using kept
      | true =>
        have further := ih kept fun read hr => proper read (List.mem_cons_of_mem _ hr)
        rw [List.append_assoc] at further
        exact further

/-- Any number of calls keep the invariant. -/
theorem afterCalls {calls : List (Moment × List ReadOutcome)}
    (h : Reassembled capacity earlier stream run)
    (proper : ∀ read ∈ run.readsOfCalls calls, read.Proper) :
    Reassembled capacity earlier (stream ++ streamOf (run.readsOfCalls calls))
      (run.afterCalls calls) := by
  induction calls generalizing run stream with
  | nil => simpa [readsOfCalls, streamOf, CircuitRun.afterCalls] using h
  | cons call calls ih =>
    obtain ⟨now, outcomes⟩ := call
    have kept := h.readAll fun read hr => proper read (List.mem_append_left _ hr)
    have further := ih kept fun read hr => proper read (List.mem_append_right _ hr)
    rw [List.append_assoc, streamOf, streamOf, ← List.flatMap_append] at further
    exact further

end Reassembled

/-- The frames that a circuit delivers are those of its stream as a whole, however its reads cut the
stream. The circuit closes exactly when a header is reached that declares more than its buffer
holds; then it has delivered the frames before that header and no other, whatever the peer sends
besides. Until then the buffer holds exactly what was not delivered and has room for more, so that a
read that gives nothing means that the peer sends nothing more. -/
theorem frames_of_reads {capacity : Nat} (hc : extendedHeaderLength ≤ capacity)
    {start : CircuitRun} (isOpen : start.circuit.isClosed = false)
    (empty : start.circuit.receiveBuffer = .ofCapacity capacity)
    (calls : List (Moment × List ReadOutcome))
    (proper : ∀ read ∈ start.readsOfCalls calls, read.Proper) :
    let stream := CircuitRun.streamOf (start.readsOfCalls calls)
    let final := start.afterCalls calls
    (final.circuit.isClosed = true ↔ Frame.Oversteps capacity stream) ∧
      (final.circuit.isClosed = true → ∀ unread : List UInt8,
        final.delivered = start.delivered ++ Frame.accepted capacity (stream ++ unread)) ∧
      (final.circuit.isClosed = false →
        final.delivered = start.delivered ++ (Frame.split stream).1 ∧
          final.circuit.receiveBuffer.received = (Frame.split stream).2 ∧
          final.circuit.receiveBuffer.received.length < capacity ∧
          0 < final.circuit.receiveBuffer.free) := by
  intro stream final
  have reassembled : Reassembled capacity start.delivered stream final :=
    (Reassembled.start isOpen empty).afterCalls proper
  cases reassembled with
  | closed phase long delivered =>
    refine ⟨iff_of_true phase long, fun _ unread => ?_, fun contrary => ?_⟩
    · rw [(Frame.accepted_append_of_oversteps long unread).2, delivered]
    · rw [phase] at contrary
      contradiction
  | isOpen phase short delivered received size wellFilled =>
    have left : final.circuit.receiveBuffer.received.length < capacity := by
      rw [received]
      exact Frame.length_split_snd_lt hc short
    have room : 0 < final.circuit.receiveBuffer.free := by
      rw [ReceiveBuffer.length_received wellFilled] at left
      rw [ReceiveBuffer.free, size]
      omega
    refine ⟨iff_of_false (by rw [phase]; decide) short, fun contrary => ?_,
      fun _ => ⟨delivered, received, left, room⟩⟩
    rw [phase] at contrary
    contradiction

/-- A circuit that can just hold an extended header. -/
def narrowCircuit : CircuitRun := { circuit := .connected ⟨.loopback, 5064⟩ 0 24 .zero }

/-- Two calls that cut a heartbeat in the middle of its header. The read that completes it fills the
buffer with the start of a header that declares 32 bytes of payload, and another read completes
that. -/
def cutCalls : List (Moment × List ReadOutcome) :=
  [(.zero, [.data [0, 23, 0, 0, 0, 0, 0, 0, 0, 0], .wouldBlock]),
    (.zero, [.interrupted, .data [0, 0, 0, 0, 0, 0, 0, 1, 0, 32, 0, 0, 0, 0], .data
      [0, 0, 0, 0, 0, 0, 0, 0]])]

/-- The heartbeat is delivered, and the circuit closes once the second header is complete. -/
theorem frames_of_reads_cutCalls :
    (∀ read ∈ narrowCircuit.readsOfCalls cutCalls, read.Proper) ∧
      (narrowCircuit.afterCalls cutCalls).circuit.isClosed = true ∧
      (narrowCircuit.afterCalls cutCalls).delivered = Frame.accepted 24
        (CircuitRun.streamOf (narrowCircuit.readsOfCalls cutCalls) ++ List.replicate 32 7) := by
  have proper : ∀ read ∈ narrowCircuit.readsOfCalls cutCalls, read.Proper := by decide +kernel
  have closed : (narrowCircuit.afterCalls cutCalls).circuit.isClosed = true := by decide +kernel
  obtain ⟨-, delivered, -⟩ := frames_of_reads (by decide) rfl rfl cutCalls proper
  exact ⟨proper, closed, delivered closed (List.replicate 32 7)⟩

end ChannelAccess
