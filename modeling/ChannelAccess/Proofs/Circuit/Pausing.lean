import ChannelAccess.Proofs.Circuit.Reassembly
import ChannelAccess.Proofs.Circuit.Sending
import Mathlib.Data.List.DropRight

/-!
# When a peer is left paused

A peer that keeps the receive buffer full is asked to pause, and the first read that leaves room
lets it go on. Whether that read comes depends on how the stream is cut: a burst whose last bytes
fill the buffer once more ends without it, and nothing else lets the peer go on.

`pauses_of_reads` says what is true of every way to read a stream. Requests to pause and to go on
alternate, and one to pause is the last of them exactly while more than three reads in a row, up to
the last one, have filled the buffer. `leftPaused_fullBurst` is a stream of whole frames that is
read to its end and leaves the peer paused.

The account of a single read is `FlowControl.Paced.afterRead`. A read that leaves the circuit open
carries it over to the circuit (`CircuitRun.Paced.readOnce`), with the bytes of the requests among
those that are sent, and so do all reads of all calls (`CircuitRun.readsOfCalls_induction`).
-/

namespace ChannelAccess

/-! ## Flow control by itself -/

/-- Flow control after reads that filled the buffer or left room, in this order, and after these
requests to the peer. -/
structure FlowControl.Paced (fills : List Bool) (signals : List FlowSignal) (flow : FlowControl) :
    Prop where
  /-- Those of the last reads that filled the buffer were counted. -/
  counted : flow.fullReads = (fills.rtakeWhile id).length
  /-- The peer is paused when there are more of them than it is allowed. -/
  asserted : flow.asserted = true ↔ FlowControl.threshold < flow.fullReads
  /-- Every request to pause was followed by one to go on, but for the last while it is paused. -/
  alternate : ∃ count, signals = (List.replicate count [.pause, .resume]).flatten ++
    if flow.asserted then [.pause] else []

/-- One more pause came to its end. -/
theorem flatten_replicate_pause (count : Nat) :
    (List.replicate count [FlowSignal.pause, .resume]).flatten ++ [.pause] ++ [.resume] =
      (List.replicate (count + 1) [FlowSignal.pause, .resume]).flatten := by
  rw [List.replicate_succ', List.flatten_append, List.append_assoc]
  rfl

/-- Another read keeps the account. -/
theorem FlowControl.Paced.afterRead {fills : List Bool} {signals : List FlowSignal}
    {flow : FlowControl} (paced : Paced fills signals flow) (full : Bool) :
    Paced (fills ++ [full]) (signals ++ (flow.afterRead full).1.toList)
      (flow.afterRead full).2 := by
  obtain ⟨counted, asserted, count, alternate⟩ := paced
  cases full with
  | false =>
    refine ⟨?_, iff_of_false Bool.false_ne_true (Nat.not_lt_zero _), ?_⟩
    · rw [List.rtakeWhile_concat_neg _ _ _ Bool.false_ne_true]
      rfl
    · -- The read leaves room, so that a pause comes to its end.
      rw [alternate]
      cases paused : flow.asserted with
      | false => exact ⟨count, by simp [FlowControl.afterRead, paused]⟩
      | true =>
        refine ⟨count + 1, ?_⟩
        rw [← flatten_replicate_pause]
        simp [FlowControl.afterRead, paused]
  | true =>
    have more : ((fills ++ [true]).rtakeWhile id).length = flow.fullReads + 1 := by
      rw [List.rtakeWhile_concat_pos _ _ _ rfl, List.length_append, counted]
      rfl
    cases paused : flow.asserted with
    | true =>
      -- A peer that is paused is not asked again.
      have beyond := asserted.mp paused
      have stays : flow.afterRead true = (none, { flow with fullReads := flow.fullReads + 1 }) := by
        simp [FlowControl.afterRead, paused]
      rw [stays]
      refine ⟨more.symm, iff_of_true paused (Nat.lt_succ_of_lt beyond), count, ?_⟩
      rw [alternate]
      exact List.append_nil _
    | false =>
      have notOver : ¬ FlowControl.threshold < flow.fullReads := by
        rw [← asserted, paused]
        exact Bool.false_ne_true
      by_cases beyond : FlowControl.threshold < flow.fullReads + 1
      · have pauses : flow.afterRead true =
            (some .pause, { fullReads := flow.fullReads + 1, asserted := true }) := by
          simp [FlowControl.afterRead, paused, beyond]
        rw [pauses]
        refine ⟨more.symm, iff_of_true rfl beyond, count, ?_⟩
        rw [alternate, paused]
        simp
      · have stays : flow.afterRead true =
            (none, { flow with fullReads := flow.fullReads + 1 }) := by
          simp [FlowControl.afterRead, paused, beyond]
        rw [stays]
        refine ⟨more.symm, iff_of_false ?_ beyond, count, ?_⟩
        · rw [paused]
          exact Bool.false_ne_true
        · rw [alternate]
          exact List.append_nil _

/-! ## Which reads fill the buffer -/

namespace CircuitRun

/-- Which of the reads that hand over bytes fill a buffer of some size, given the stream before
them. What is in the buffer before a read is what no frame was cut off from. -/
def fills (capacity : Nat) (stream : List UInt8) : List SocketRead → List Bool
  | [] => []
  | read :: later =>
    (if read.bytes.isEmpty then []
      else [(Frame.split stream).2.length + read.bytes.length == capacity]) ++
      fills capacity (stream ++ read.bytes) later

/-- The last of some reads comes last. -/
theorem fills_concat (capacity : Nat) (stream : List UInt8) (reads : List SocketRead)
    (last : SocketRead) :
    fills capacity stream (reads ++ [last]) = fills capacity stream reads ++
      fills capacity (stream ++ streamOf reads) [last] := by
  induction reads generalizing stream with
  | nil =>
    rw [streamOf, List.flatMap_nil, List.append_nil]
    rfl
  | cons read later ih =>
    have before : stream ++ streamOf (read :: later) = stream ++ read.bytes ++ streamOf later := by
      rw [streamOf, streamOf, List.flatMap_cons, List.append_assoc]
    rw [before, List.cons_append]
    conv_lhs => rw [fills, ih, ← List.append_assoc]
    rfl

/-- The bytes of the requests that these signals are. -/
def signalBytes (signals : List FlowSignal) : List UInt8 :=
  signals.flatMap fun signal => (requestOf signal).toBytes

/-! ## Reads keep the account -/

section Induction

variable {motive : List SocketRead → CircuitRun → Prop}
  (readOnce : ∀ (reads : List SocketRead) (run : CircuitRun) (now : Moment)
    (outcome : ReadOutcome), motive reads run → run.circuit.isClosed = false →
      (SocketRead.mk run now outcome).Proper →
      motive (reads ++ [⟨run, now, outcome⟩]) (run.readOnce now outcome).2)

include readOnce

/-- What every proper read of an open circuit keeps, the reads of one call keep. -/
theorem readsOfCall_induction (now : Moment) {outcomes : List ReadOutcome}
    {reads : List SocketRead} {run : CircuitRun} (before : motive reads run)
    (proper : ∀ read ∈ run.readsOfCall now outcomes, read.Proper) :
    motive (reads ++ run.readsOfCall now outcomes) (run.readAll now outcomes).1 := by
  induction outcomes generalizing reads run with
  | nil =>
    rw [readsOfCall, List.append_nil]
    exact before
  | cons outcome later ih =>
    unfold readsOfCall CircuitRun.readAll
    unfold readsOfCall at proper
    cases phase : run.circuit.isClosed with
    | true =>
      have stays : run.readOnce now outcome = (false, run) := by
        unfold CircuitRun.readOnce
        rw [if_pos phase]
      rw [if_pos rfl, stays, List.append_nil]
      exact before
    | false =>
      rw [phase, if_neg Bool.false_ne_true] at proper
      rw [if_neg Bool.false_ne_true]
      dsimp only at proper ⊢
      have kept := readOnce reads run now outcome before phase (proper _ List.mem_cons_self)
      generalize run.readOnce now outcome = result at proper kept ⊢
      obtain ⟨goesOn, after⟩ := result
      cases goesOn with
      | false => exact kept
      | true =>
        have further := ih kept fun read hr => proper read (List.mem_cons_of_mem _ hr)
        rw [List.append_assoc] at further
        exact further

/-- What every proper read of an open circuit keeps, all reads of some calls keep. -/
theorem readsOfCalls_induction {calls : List (Moment × List ReadOutcome)}
    {reads : List SocketRead} {run : CircuitRun} (before : motive reads run)
    (proper : ∀ read ∈ run.readsOfCalls calls, read.Proper) :
    motive (reads ++ run.readsOfCalls calls) (run.afterCalls calls) := by
  induction calls generalizing reads run with
  | nil =>
    rw [readsOfCalls, List.append_nil]
    exact before
  | cons call calls ih =>
    obtain ⟨now, outcomes⟩ := call
    have kept := readsOfCall_induction readOnce now before fun read hr =>
      proper read (List.mem_append_left _ hr)
    have further := ih kept fun read hr => proper read (List.mem_append_right _ hr)
    rw [List.append_assoc] at further
    exact further

end Induction

/-- The invariant of an open circuit: flow control accounts for the reads made so far, and the
requests that it led to are behind the bytes that were to be sent before. -/
def Paced (capacity : Nat) (before : List UInt8) (reads : List SocketRead) (run : CircuitRun) :
    Prop :=
  ∃ signals, run.circuit.flow.Paced (fills capacity [] reads) signals ∧
    run.Accounted (before ++ signalBytes signals)

/-- A request that does not fail for good leaves flow control as it is. -/
theorem flow_request {run : CircuitRun} {request : Request}
    (passes : ∀ error ∈ (run.request request).1, error.isFatal = false) :
    (run.request request).2.circuit.flow = run.circuit.flow := by
  unfold CircuitRun.request send at passes ⊢
  split
  · rfl
  · rename_i isOpen
    rw [if_neg isOpen] at passes
    dsimp only at passes ⊢
    have flow : (writeOut { run with circuit :=
        { run.circuit with sendBuffer := run.circuit.sendBuffer ++ request.toBytes } }
          ).2.circuit.flow = run.circuit.flow := rfl
    generalize writeOut { run with circuit :=
      { run.circuit with sendBuffer := run.circuit.sendBuffer ++ request.toBytes } } = report
      at passes flow ⊢
    obtain ⟨error, written⟩ := report
    cases error with
    | none => exact flow
    | some error =>
      dsimp only at passes flow ⊢
      rwa [if_neg (by rw [passes error rfl]; exact Bool.false_ne_true)]

/-- Taking bytes in carries flow control on by one read, and sends the request that is due. -/
theorem takeIn_paced {run : CircuitRun} {sent : List UInt8} {now : Moment} {bytes : List UInt8}
    (isOpen : run.circuit.isClosed = false) (accounted : run.Accounted sent)
    (passes : ∀ error ∈ (run.takeIn now bytes).1, error.isFatal = false) :
    let next := run.circuit.flow.afterRead (run.circuit.receiveBuffer.fill bytes).isFull
    (run.takeIn now bytes).2.circuit.flow = next.2 ∧
      (run.takeIn now bytes).2.Accounted (sent ++ signalBytes next.1.toList) := by
  unfold takeIn at passes ⊢
  dsimp only at passes ⊢
  generalize run.circuit.flow.afterRead (run.circuit.receiveBuffer.fill bytes).isFull = result
    at passes ⊢
  obtain ⟨signal, flow⟩ := result
  cases signal with
  | none =>
    refine ⟨rfl, ?_⟩
    show run.Accounted (sent ++ [])
    rwa [List.append_nil]
  | some signal =>
    dsimp only at passes ⊢
    refine ⟨flow_request passes, ?_⟩
    have filled : ({ run with circuit := { run.circuit.markAlive now with
        receiveBuffer := run.circuit.receiveBuffer.fill bytes, flow } } : CircuitRun).Accounted
          sent := accounted
    have due : signalBytes [signal] = (SendUse.send (requestOf signal).toBytes).kept := by
      rw [signalBytes, List.flatMap_singleton]
      exact (List.append_nil _).symm
    rw [Option.toList_some, due, ← use_send]
    exact (use_spec filled _ isOpen).1

/-- Delivering frames sends nothing. -/
theorem written_foldl_delivered (frames : List Frame) (run : CircuitRun) :
    (frames.foldl (fun run frame => run.emit (.delivered frame)) run).written = run.written := by
  induction frames generalizing run with
  | nil => rfl
  | cons frame frames ih => rw [List.foldl_cons, ih, written_emit run rfl]

/-- Handing frames out sends nothing and leaves flow control as it is, if the circuit is still open
then. -/
theorem handOut_of_open {run : CircuitRun} (isOpen : run.handOut.2.circuit.isClosed = false) :
    run.handOut.2.circuit.flow = run.circuit.flow ∧
      run.handOut.2.circuit.sendBuffer = run.circuit.sendBuffer ∧
      run.handOut.2.written = run.written ∧ run.circuit.isClosed = false := by
  have circuit := (foldl_delivered run.circuit.receiveBuffer.deliver.1.frames run).2
  have written := written_foldl_delivered run.circuit.receiveBuffer.deliver.1.frames run
  unfold handOut at isOpen ⊢
  dsimp only at isOpen ⊢
  generalize run.circuit.receiveBuffer.deliver.1.frames.foldl
    (fun run frame => run.emit (.delivered frame)) run = emitted at circuit written isOpen ⊢
  split at isOpen
  · -- A frame that does not fit closes the circuit.
    rw [(close_spec emitted false).2] at isOpen
    contradiction
  · rw [circuit] at isOpen ⊢
    split at isOpen
    · rw [if_pos ‹_›]
      exact ⟨rfl, rfl, (written_emit _ rfl).trans written, isOpen⟩
    · rw [if_neg ‹_›]
      exact ⟨rfl, rfl, written, isOpen⟩

/-- A read that hands over no bytes does not count. -/
theorem fills_concat_of_silent {capacity : Nat} {reads : List SocketRead} {last : SocketRead}
    (silent : last.bytes = []) :
    fills capacity [] (reads ++ [last]) = fills capacity [] reads := by
  rw [fills_concat, fills, silent]
  exact List.append_nil _

/-- A read that hands over bytes fills the buffer when they do with what was left over there. -/
theorem fills_concat_of_bytes {capacity : Nat} {reads : List SocketRead} {last : SocketRead}
    (some : last.bytes ≠ []) :
    fills capacity [] (reads ++ [last]) = fills capacity [] reads ++
      [(Frame.split (streamOf reads)).2.length + last.bytes.length == capacity] := by
  rw [fills_concat, fills, if_neg (mt List.isEmpty_iff.mp some)]
  rfl

/-- A proper read that leaves the circuit open keeps the account. -/
theorem Paced.readOnce {capacity : Nat} {before : List UInt8} {earlier : List Frame}
    {reads : List SocketRead} {run : CircuitRun} {now : Moment} {outcome : ReadOutcome}
    (paced : Paced capacity before reads run)
    (reassembled : Reassembled capacity earlier (streamOf reads) run)
    (isOpen : run.circuit.isClosed = false) (proper : (SocketRead.mk run now outcome).Proper)
    (stillOpen : (run.readOnce now outcome).2.circuit.isClosed = false) :
    Paced capacity before (reads ++ [⟨run, now, outcome⟩]) (run.readOnce now outcome).2 := by
  obtain ⟨signals, flow, accounted⟩ := paced
  unfold CircuitRun.readOnce at stillOpen ⊢
  rw [if_neg (by rw [isOpen]; exact Bool.false_ne_true)] at stillOpen ⊢
  cases outcome with
  | endOfStream | failed => exact absurd proper id
  | wouldBlock | interrupted =>
    refine ⟨signals, ?_, accounted⟩
    rwa [fills_concat_of_silent rfl]
  | data bytes =>
    obtain ⟨some, room, passes⟩ := proper
    cases reassembled with
    | closed phase => rw [isOpen] at phase; contradiction
    | isOpen _ _ _ received size wellFilled =>
      have all : bytes.take run.circuit.receiveBuffer.free = bytes := List.take_of_length_le room
      dsimp only at stillOpen ⊢
      rw [all, if_neg (mt List.isEmpty_iff.mp some), received_eq] at stillOpen ⊢
      -- The buffer is full when what was left over of the stream and the bytes read fill it.
      have full : (run.circuit.receiveBuffer.fill bytes).isFull =
          ((Frame.split (streamOf reads)).2.length + bytes.length == capacity) := by
        rw [ReceiveBuffer.isFull, ReceiveBuffer.capacity_fill wellFilled room, size, ← received,
          ReceiveBuffer.length_received wellFilled]
        rfl
      obtain ⟨newFlow, newAccount⟩ := takeIn_paced isOpen accounted passes
      obtain ⟨sameFlow, sameBuffer, sameWritten, wasOpen⟩ := handOut_of_open stillOpen
      dsimp only at newFlow newAccount
      rw [full] at newFlow newAccount
      have paced := flow.afterRead
        ((Frame.split (streamOf reads)).2.length + bytes.length == capacity)
      have reached : fills capacity [] (reads ++ [⟨run, now, .data bytes⟩]) =
          fills capacity [] reads ++
            [(Frame.split (streamOf reads)).2.length + bytes.length == capacity] :=
        fills_concat_of_bytes some
      rw [← newFlow, ← sameFlow, ← reached] at paced
      refine ⟨_, paced, ?_⟩
      rw [signalBytes, List.flatMap_append, ← List.append_assoc, Accounted, sameWritten, sameBuffer]
      exact ⟨newAccount.1, fun _ => newAccount.2 wasOpen⟩

end CircuitRun

/-- **When a peer is left paused.** However a stream whose frames fit the buffer is read, in every
state between two calls the requests to pause and to go on alternate, every one of them is behind
what was to be sent before and among the bytes that are sent or kept to be sent, and the last one is
to pause exactly if more than three reads in a row, up to the last that handed over bytes, filled
the buffer. Whether a read does is seen from the stream and how it is cut. -/
theorem pauses_of_reads {capacity : Nat} {start : CircuitRun}
    (isOpen : start.circuit.isClosed = false)
    (empty : start.circuit.receiveBuffer = .ofCapacity capacity)
    (fresh : start.circuit.flow = {}) (calls : List (Moment × List ReadOutcome))
    (proper : ∀ read ∈ start.readsOfCalls calls, read.Proper)
    (fit : ¬ Frame.Oversteps capacity (CircuitRun.streamOf (start.readsOfCalls calls))) :
    let final := start.afterCalls calls
    (final.circuit.flow.asserted = true ↔ FlowControl.threshold <
      ((CircuitRun.fills capacity [] (start.readsOfCalls calls)).rtakeWhile id).length) ∧
    ∃ count, final.written ++ final.circuit.sendBuffer =
      start.written ++ start.circuit.sendBuffer ++ CircuitRun.signalBytes
        ((List.replicate count [.pause, .resume]).flatten ++
          if final.circuit.flow.asserted then [.pause] else []) := by
  intro final
  have atStart : Reassembled capacity start.delivered (CircuitRun.streamOf []) start ∧
      (start.circuit.isClosed = false → CircuitRun.Paced capacity
        (start.written ++ start.circuit.sendBuffer) [] start) := by
    refine ⟨.start isOpen empty, fun _ => ⟨[], ?_, ?_⟩⟩
    · rw [fresh]
      exact ⟨rfl, by decide, 0, rfl⟩
    · rw [CircuitRun.signalBytes, List.flatMap_nil, List.append_nil]
      exact ⟨List.prefix_append _ _, fun _ => rfl⟩
  have kept : Reassembled capacity start.delivered
      (CircuitRun.streamOf (start.readsOfCalls calls)) final ∧
      (final.circuit.isClosed = false → CircuitRun.Paced capacity
        (start.written ++ start.circuit.sendBuffer) (start.readsOfCalls calls) final) := by
    refine CircuitRun.readsOfCalls_induction (motive := fun reads run =>
      Reassembled capacity start.delivered (CircuitRun.streamOf reads) run ∧
        (run.circuit.isClosed = false → CircuitRun.Paced capacity
          (start.written ++ start.circuit.sendBuffer) reads run)) ?_ atStart proper
    intro reads run now outcome kept isOpen proper
    refine ⟨?_, (kept.2 isOpen).readOnce kept.1 isOpen proper⟩
    rw [CircuitRun.streamOf, List.flatMap_append, List.flatMap_singleton]
    exact kept.1.readOnce isOpen proper
  obtain ⟨reassembled, paced⟩ := kept
  have stillOpen : final.circuit.isClosed = false := by
    cases reassembled with
    | isOpen phase => exact phase
    | closed _ long => exact absurd long fit
  obtain ⟨signals, ⟨counted, asserted, count, alternate⟩, accounted⟩ := paced stillOpen
  refine ⟨by rw [asserted, counted], count, ?_⟩
  rw [accounted.2 stillOpen, alternate]

instance Frame.decidableOversteps (capacity : Nat) (bytes : List UInt8) :
    Decidable (Frame.Oversteps capacity bytes) :=
  decidable_of_iff (∃ parsed ∈ Header.parse?
    (bytes.drop (Frame.totalLength (Frame.accepted capacity bytes))),
      capacity < parsed.1.frameLength) Prod.exists

/-- A circuit with room for four heartbeats. -/
def smallCircuit : CircuitRun := { circuit := .connected ⟨.loopback, 5064⟩ 0 64 .zero }

/-- A heartbeat as a server sends it. -/
def heartbeat : List UInt8 := Request.echo.toBytes

/-- Sixteen heartbeats that fill the buffer four times, and nothing more when the circuit is called
again after it gave others their turn. -/
def fullBurst : List (Moment × List ReadOutcome) :=
  [(.zero, List.replicate 4 (.data (List.replicate 4 heartbeat).flatten)), (.zero, [.wouldBlock])]

/-- The same heartbeats, and one more. -/
def fullBurstAndMore : List (Moment × List ReadOutcome) :=
  fullBurst ++ [(.zero, [.data heartbeat, .wouldBlock])]

/-- With the heartbeat that leaves room, the peer may go on: it was asked to pause once, and to go
on after that. -/
theorem pauses_of_reads_fullBurstAndMore :
    (∀ read ∈ smallCircuit.readsOfCalls fullBurstAndMore, read.Proper) ∧
      ¬ Frame.Oversteps 64 (CircuitRun.streamOf (smallCircuit.readsOfCalls fullBurstAndMore)) ∧
      (smallCircuit.afterCalls fullBurstAndMore).circuit.flow.asserted = false ∧
      ∃ count, (smallCircuit.afterCalls fullBurstAndMore).written ++
          (smallCircuit.afterCalls fullBurstAndMore).circuit.sendBuffer =
        CircuitRun.signalBytes (List.replicate count [.pause, .resume]).flatten := by
  have proper : ∀ read ∈ smallCircuit.readsOfCalls fullBurstAndMore, read.Proper := by
    decide +kernel
  have fit : ¬ Frame.Oversteps 64
      (CircuitRun.streamOf (smallCircuit.readsOfCalls fullBurstAndMore)) := by decide +kernel
  have leavesRoom : ((CircuitRun.fills 64 []
      (smallCircuit.readsOfCalls fullBurstAndMore)).rtakeWhile id).length = 0 := by decide +kernel
  obtain ⟨paused, count, sent⟩ := pauses_of_reads rfl rfl rfl fullBurstAndMore proper fit
  have goesOn : (smallCircuit.afterCalls fullBurstAndMore).circuit.flow.asserted = false := by
    rw [← Bool.not_eq_true, paused, leavesRoom]
    decide
  refine ⟨proper, fit, goesOn, count, ?_⟩
  rw [sent, goesOn, if_neg Bool.false_ne_true, List.append_nil]
  rfl

/-- Without it the peer is left paused, although its stream is whole frames that fit the buffer, all
of them were read and delivered, and the circuit was called again and found nothing more. All that
it sent is the request to pause. -/
theorem leftPaused_fullBurst :
    (∀ read ∈ smallCircuit.readsOfCalls fullBurst, read.Proper) ∧
      CircuitRun.streamOf (smallCircuit.readsOfCalls fullBurst) =
        (List.replicate 16 heartbeat).flatten ∧
      (Frame.split (List.replicate 16 heartbeat).flatten).2 = [] ∧
      (smallCircuit.afterCalls fullBurst).delivered =
        (Frame.split (List.replicate 16 heartbeat).flatten).1 ∧
      (smallCircuit.afterCalls fullBurst).circuit.isClosed = false ∧
      (smallCircuit.afterCalls fullBurst).circuit.flow.asserted = true ∧
      (smallCircuit.afterCalls fullBurst).written = Request.eventsOff.toBytes ∧
      (smallCircuit.afterCalls fullBurst).circuit.sendBuffer = [] := by
  decide +kernel

end ChannelAccess
