import ChannelAccess.Proofs.Circuit.Pausing
import ChannelAccess.Proofs.Circuit.Silence

/-!
# Which requests flow control sends

`Reading` is any sequence of reads of one circuit, by however many calls, with whatever others do to
the circuit in between (`Aside`). Each read that gives bytes fills the buffer or leaves room
(`SocketRead.filling`), and that alone says which request is due after it (`FlowControl.due`):
one to pause after the read that is one too many in a row, one to go on after the read that leaves
room again. `signals_of_reading` says that every read sends what is due, and nothing else, that
these requests alternate and match the flag of the circuit, and that the frames delivered depend on
nothing of this.

A read takes its bytes in and hands frames out. The first half sends what is due
(`takeIn_sends`), and the second sends nothing new (`handOut_sends`), so that a read keeps the
account of `FlowControl.Paced` (`SocketRead.paced_after`). An induction on the reading does the
rest.
-/

namespace ChannelAccess

/-! ## What is due -/

namespace FlowControl

/-- The peer sends too much: more reads in a row than are allowed filled the buffer, and none has
left room since. -/
def Flooded (fills : List Bool) : Prop :=
  ∃ before count after, threshold < count ∧
    fills = before ++ List.replicate count true ++ after ∧ false ∉ after

/-- How many of the last reads filled the buffer one after the other. -/
def streak (fills : List Bool) : Nat := (fills.rtakeWhile id).length

/-- The request that is due after a read that fills the buffer or leaves room, given which of the
reads before it did. -/
def due (earlier : List Bool) (full : Bool) : List FlowSignal :=
  if full then if streak earlier = threshold then [.pause] else []
  else if threshold < streak earlier then [.resume] else []

/-- The requests that are due after some reads that come after earlier ones. -/
def dueAfter (earlier : List Bool) : List Bool → List FlowSignal
  | [] => []
  | full :: later => due earlier full ++ dueAfter (earlier ++ [full]) later

/-- Requests to pause and to go on take turns, and the first is to pause. -/
def Alternating (signals : List FlowSignal) : Prop :=
  signals.head? ≠ some .resume ∧ signals.IsChain (· ≠ ·)

theorem dueAfter_append (earlier some others : List Bool) :
    dueAfter earlier (some ++ others) =
      dueAfter earlier some ++ dueAfter (earlier ++ some) others := by
  induction some generalizing earlier with
  | nil => rw [List.nil_append, List.append_nil, dueAfter, List.nil_append]
  | cons full later ih =>
    rw [List.cons_append, dueAfter, dueAfter, ih, List.append_assoc, List.append_assoc]
    rfl

theorem dueAfter_singleton (earlier : List Bool) (full : Bool) :
    dueAfter earlier [full] = due earlier full := List.append_nil _

theorem streak_append_replicate (before : List Bool) (count : Nat) :
    streak (before ++ List.replicate count true) = streak before + count := by
  induction count with
  | zero => rw [List.replicate_zero, List.append_nil, Nat.add_zero]
  | succ count ih =>
    rw [List.replicate_succ', ← List.append_assoc, streak, List.rtakeWhile_concat_pos _ _ _ rfl,
      List.length_append, ← streak, ih, Nat.add_assoc, List.length_singleton]

/-- The peer sends too much while more of the last reads than are allowed filled the buffer. -/
theorem flooded_iff {fills : List Bool} : Flooded fills ↔ threshold < streak fills := by
  constructor
  · rintro ⟨before, count, after, beyond, rfl, noRoom⟩
    have filling : after = List.replicate after.length true :=
      List.eq_replicate_of_mem fun full inside =>
        (Bool.eq_false_or_eq_true full).resolve_right fun leavesRoom => noRoom (leavesRoom ▸ inside)
    rw [filling, List.append_assoc, List.replicate_append_replicate, streak_append_replicate]
    omega
  · intro beyond
    obtain ⟨before, whole⟩ := fills.rtakeWhile_suffix id
    refine ⟨before, streak fills, [], beyond, ?_, List.not_mem_nil⟩
    have filling : fills.rtakeWhile id = List.replicate (streak fills) true :=
      List.eq_replicate_of_mem fun full inside => List.mem_rtakeWhile_imp inside
    rw [List.append_nil, ← filling, whole]

variable {fills : List Bool} {signals : List FlowSignal} {flow : FlowControl}

/-- What flow control asks of the peer is what is due. -/
theorem Paced.due_eq (paced : Paced fills signals flow) (full : Bool) :
    (flow.afterRead full).1.toList = due fills full := by
  obtain ⟨counted, asserted, -⟩ := paced
  rw [← streak] at counted
  rw [counted] at asserted
  cases full with
  | false =>
    rw [afterRead_false, due, if_neg Bool.false_ne_true]
    by_cases beyond : threshold < streak fills
    · rw [if_pos (asserted.mpr beyond), if_pos beyond]
      rfl
    · rw [if_neg (mt asserted.mp beyond), if_neg beyond]
      rfl
  | true =>
    rw [FlowControl.afterRead, due, if_pos rfl, if_pos rfl, counted]
    -- The peer is asked when this read is one too many and it was not asked before.
    by_cases last : streak fills = threshold
    · have notPaused : flow.asserted = false :=
        Bool.eq_false_iff.mpr fun paused => (asserted.mp paused).ne' last
      rw [if_pos last, notPaused, last, if_pos (by decide)]
      rfl
    · rw [if_neg last, if_neg]
      · rfl
      · intro pauses
        obtain ⟨beyond, notPaused⟩ := Bool.and_eq_true_iff.mp pauses
        have notBeyond : ¬ threshold < streak fills := by
          rw [← asserted, (Bool.not_eq_true' _).mp notPaused]
          exact Bool.false_ne_true
        have := of_decide_eq_true beyond
        omega

/-- Requests that come in pairs, but for one to pause while the peer is paused, alternate. The last
of them is to pause exactly while it is. -/
theorem alternating_of_pairs (count : Nat) (asserted : Bool) :
    let signals := (List.replicate count [FlowSignal.pause, .resume]).flatten ++
      if asserted then [.pause] else []
    Alternating signals ∧ (asserted = true ↔ signals.getLast? = some .pause) := by
  induction count with
  | zero => cases asserted <;> simp [Alternating]
  | succ count ih =>
    obtain ⟨⟨first, chain⟩, last⟩ := ih
    rw [List.replicate_succ, List.flatten_cons, List.append_assoc]
    generalize (List.replicate count [FlowSignal.pause, .resume]).flatten ++
      (if asserted then [.pause] else []) = others at first chain last
    refine ⟨⟨by simp, ?_⟩, ?_⟩
    · -- After a request to go on, the next one is to pause again.
      cases others with
      | nil => simp
      | cons next rest =>
        cases next with
        | pause => exact .cons_cons (by simp) (.cons_cons (by simp) chain)
        | resume => exact absurd rfl first
    · rw [last]
      show _ ↔ (FlowSignal.pause :: FlowSignal.resume :: others).getLast? = _
      rw [List.getLast?_cons, List.getLast?_cons]
      cases others.getLast? <;> simp

end FlowControl

/-! ## What leaves flow control alone -/

namespace CircuitRun

/-- What others do to a circuit between two of its reads: they deliver nothing, leave the receive
buffer and flow control alone, and do not open a closed circuit. -/
structure Aside (before after : CircuitRun) : Prop where
  /-- Nothing is delivered or taken from the buffer. -/
  reception : SameReception before after
  /-- Flow control stays as it is. -/
  flow : after.circuit.flow = before.circuit.flow
  /-- A closed circuit stays closed. -/
  closed : before.circuit.isClosed = true → after.circuit.isClosed = true

theorem Aside.refl (run : CircuitRun) : Aside run run := ⟨.refl run, rfl, id⟩

theorem Aside.trans {a b c : CircuitRun} (h₁ : Aside a b) (h₂ : Aside b c) : Aside a c :=
  ⟨h₁.reception.trans h₂.reception, h₂.flow.trans h₁.flow, h₂.closed ∘ h₁.closed⟩

/-- Steps of closing a circuit leave flow control alone. -/
theorem flow_closeSteps (run : CircuitRun) (count : Nat) :
    (run.closeSteps count).circuit.flow = run.circuit.flow := by
  induction count generalizing run with
  | zero => rfl
  | succ count ih =>
    have step : run.closeStep.circuit.flow = run.circuit.flow := by
      unfold closeStep
      dsimp only
      split <;> rfl
    exact (ih run.closeStep).trans step

/-- Others may close the circuit. -/
theorem Aside.close (run : CircuitRun) (peerGone : Bool) : Aside run (run.close peerGone) := by
  obtain ⟨reception, closed⟩ := close_spec run peerGone
  refine ⟨reception, ?_, fun _ => closed⟩
  unfold CircuitRun.close
  split
  · rfl
  · rename_i isOpen
    refine (flow_closeSteps _ _).trans ?_
    show (run.circuit.beginClose peerGone).flow = run.circuit.flow
    rw [Circuit.beginClose, if_neg isOpen]

/-- Others may send on the circuit, whatever becomes of it. -/
theorem Aside.send (run : CircuitRun) (bytes : List UInt8) (finish : SendEnd) :
    Aside run (run.send bytes finish).2 := by
  refine ⟨(send_spec run bytes finish).1, ?_, fun closed => ?_⟩
  · unfold CircuitRun.send
    split
    · rfl
    · cases finish with
      | discard | commit => rfl
      | flush =>
        dsimp only
        have flow : (writeOut { run with circuit :=
            { run.circuit with sendBuffer := run.circuit.sendBuffer ++ bytes } }).2.circuit.flow =
              run.circuit.flow := rfl
        generalize writeOut { run with circuit :=
          { run.circuit with sendBuffer := run.circuit.sendBuffer ++ bytes } } = report at flow ⊢
        obtain ⟨error, written⟩ := report
        cases error with
        | none => exact flow
        | some error =>
          dsimp only at flow ⊢
          split
          · rw [(Aside.close written true).flow, flow]
          · exact flow
  · rw [CircuitRun.send, if_pos closed]
    exact closed

/-- Others may check whether the peer still answers. -/
theorem Aside.checkLiveness (run : CircuitRun) (now : Moment) (timeout : Duration) :
    Aside run (run.checkLiveness now timeout).2 := by
  unfold CircuitRun.checkLiveness
  split
  · exact .refl run
  · dsimp only
    have noted (liveness : Liveness) :
        Aside run { run with circuit := { run.circuit with liveness } } := ⟨.refl run, rfl, id⟩
    split
    · exact noted _
    · exact (noted _).trans (.close _ true)
    · exact (noted _).trans (.send _ _ .flush)

/-- Owners may leave the circuit, and the last one closes it. -/
theorem Aside.release (run : CircuitRun) (owner : ClientId) : Aside run (run.release owner) := by
  unfold CircuitRun.release
  dsimp only
  have left : Aside run { run with circuit := (run.circuit.disown owner).2 } :=
    ⟨.refl run, rfl, id⟩
  split
  · exact left.trans (.close _ false)
  · exact left

end CircuitRun

/-! ## A read by itself -/

namespace SocketRead

/-- The bytes that are read, as many as there is room for. -/
def taken (read : SocketRead) : List UInt8 :=
  match read.outcome with
  | .data bytes => bytes.take read.before.circuit.receiveBuffer.free
  | _ => []

/-- Whether the read fills the buffer, if it gives bytes at all. -/
def filling (read : SocketRead) : List Bool :=
  if read.taken = [] then [] else [(read.before.circuit.receiveBuffer.fill read.taken).isFull]

/-- The circuit after the read. -/
def after (read : SocketRead) : CircuitRun := (read.before.readOnce read.now read.outcome).2

/-- A request that is sent because of the read is sent without an error. -/
def Succeeds (read : SocketRead) : Prop :=
  read.taken ≠ [] → (read.before.takeIn read.now read.taken).1 = none

instance : DecidablePred Succeeds := fun read =>
  inferInstanceAs
    (Decidable (read.taken ≠ [] → (read.before.takeIn read.now read.taken).1 = none))

/-- The read sends these requests and nothing else. They go to the socket, behind all that was kept
to be sent before; if there are none, what was kept may stay. -/
structure Sends (read : SocketRead) (signals : List FlowSignal) : Prop where
  /-- Nothing but what was kept and these requests is sent, or kept then. -/
  accounted : read.after.Accounted (read.before.written ++ read.before.circuit.sendBuffer ++
    CircuitRun.signalBytes signals)
  /-- The requests are sent. -/
  sent : signals ≠ [] → read.after.written = read.before.written ++
    read.before.circuit.sendBuffer ++ CircuitRun.signalBytes signals

end SocketRead

namespace CircuitRun

/-- Sequences of reads of a circuit from some state on, and the state that it is in then. Others do
what they want in between. A circuit that is closed is not read. -/
inductive Reading (start : CircuitRun) : List SocketRead → CircuitRun → Prop where
  /-- Nothing was read so far. -/
  | start : Reading start [] start
  /-- Others do something. -/
  | aside {reads : List SocketRead} {run after : CircuitRun} (reading : Reading start reads run)
      (aside : Aside run after) : Reading start reads after
  /-- The circuit is read once more. -/
  | read {reads : List SocketRead} {run : CircuitRun} (reading : Reading start reads run)
      (isOpen : run.circuit.isClosed = false) (now : Moment) (outcome : ReadOutcome) :
      Reading start (reads ++ [⟨run, now, outcome⟩]) (run.readOnce now outcome).2

/-- Which of the reads that gave bytes filled the buffer. -/
def fillings (reads : List SocketRead) : List Bool := reads.flatMap SocketRead.filling

/-- All bytes that were read, in order. -/
def takenOf (reads : List SocketRead) : List UInt8 := reads.flatMap SocketRead.taken

/-- A signal that is sent without an error leaves nothing in the send buffer. -/
theorem takeIn_sends {run : CircuitRun} {now : Moment} {bytes : List UInt8}
    (isOpen : run.circuit.isClosed = false) (succeeds : (run.takeIn now bytes).1 = none) :
    let next := run.circuit.flow.afterRead (run.circuit.receiveBuffer.fill bytes).isFull
    (run.takeIn now bytes).2.circuit.isClosed = false ∧
      (run.takeIn now bytes).2.circuit.flow = next.2 ∧
      (run.takeIn now bytes).2.written ++ (run.takeIn now bytes).2.circuit.sendBuffer =
        run.written ++ run.circuit.sendBuffer ++ signalBytes next.1.toList ∧
      (next.1.toList ≠ [] → (run.takeIn now bytes).2.circuit.sendBuffer = []) := by
  have passes : ∀ error, (run.takeIn now bytes).1 = some error → error.isFatal = false := by
    intro error failed
    rw [succeeds] at failed
    contradiction
  have samePhase := (takeIn_spec run now bytes).2.2 passes
  have stillOpen : (run.takeIn now bytes).2.circuit.isClosed = false := by
    rw [Reassembled.isClosed_eq_of_phase samePhase, isOpen]
  have before : run.Accounted (run.written ++ run.circuit.sendBuffer) :=
    ⟨List.prefix_append _ _, fun _ => rfl⟩
  obtain ⟨flow, accounted⟩ := takeIn_paced isOpen before passes
  refine ⟨stillOpen, flow, accounted.2 stillOpen, fun due => ?_⟩
  unfold takeIn at succeeds ⊢
  dsimp only at succeeds due ⊢
  generalize run.circuit.flow.afterRead (run.circuit.receiveBuffer.fill bytes).isFull = next
    at succeeds due ⊢
  obtain ⟨signal, flow⟩ := next
  cases signal with
  | none => exact absurd rfl due
  | some signal =>
    exact congrArg Circuit.sendBuffer (request_of_sent (by exact isOpen) succeeds).1

/-- Handing frames out sends at most what was kept to be sent, and that only if it closes the
circuit. Flow control stays as it is. -/
theorem handOut_sends (run : CircuitRun) :
    run.handOut.2.circuit.flow = run.circuit.flow ∧
      (run.handOut.2.circuit.isClosed = false →
        run.handOut.2.circuit.sendBuffer = run.circuit.sendBuffer) ∧
      ∃ sent, sent <+: run.circuit.sendBuffer ∧ run.handOut.2.written = run.written ++ sent ∧
        (run.handOut.2.circuit.isClosed = false → sent = []) := by
  have circuit := (foldl_delivered run.circuit.receiveBuffer.deliver.1.frames run).2
  have written := written_foldl_delivered run.circuit.receiveBuffer.deliver.1.frames run
  unfold handOut
  dsimp only
  generalize run.circuit.receiveBuffer.deliver.1.frames.foldl
    (fun run frame => run.emit (.delivered frame)) run = emitted at circuit written ⊢
  have silent : run.written = run.written ++ [] := (List.append_nil _).symm
  split
  · -- A frame that does not fit closes the circuit.
    have closed := (close_spec emitted false).2
    obtain ⟨sent, isPrefix, all⟩ := written_close emitted false
    rw [circuit] at isPrefix
    rw [written] at all
    refine ⟨?_, fun isOpen => ?_, sent, isPrefix, all, fun isOpen => ?_⟩
    · rw [(Aside.close emitted false).flow, circuit]
    · rw [closed] at isOpen
      contradiction
    · rw [closed] at isOpen
      contradiction
  · rw [circuit]
    split
    · exact ⟨rfl, fun _ => rfl, [], List.nil_prefix,
        ((written_emit _ rfl).trans written).trans silent, fun _ => rfl⟩
    · exact ⟨rfl, fun _ => rfl, [], List.nil_prefix, written.trans silent, fun _ => rfl⟩

end CircuitRun

namespace SocketRead

open CircuitRun

variable {read : SocketRead}

/-- A read that gives no bytes leaves the circuit as it is or closes it because the peer is gone. -/
theorem after_of_nothing (isOpen : read.before.circuit.isClosed = false)
    (nothing : read.taken = []) :
    read.after = read.before ∨ read.after = read.before.close true := by
  obtain ⟨before, now, outcome⟩ := read
  unfold SocketRead.after CircuitRun.readOnce
  rw [if_neg (Bool.eq_false_iff.mp isOpen)]
  cases outcome with
  | data bytes => exact .inr (congrArg Prod.snd (if_pos (List.isEmpty_iff.mpr nothing)))
  | endOfStream | failed => exact .inr rfl
  | wouldBlock | interrupted => exact .inl rfl

/-- A read that gives bytes takes them in and hands frames out. -/
theorem after_of_taken (isOpen : read.before.circuit.isClosed = false) (some : read.taken ≠ []) :
    read.after = (read.before.takeIn read.now read.taken).2.handOut.2 := by
  obtain ⟨before, now, outcome⟩ := read
  unfold SocketRead.after CircuitRun.readOnce
  rw [if_neg (Bool.eq_false_iff.mp isOpen)]
  cases outcome with
  | data bytes =>
    rw [← received_eq]
    exact congrArg Prod.snd (if_neg (mt List.isEmpty_iff.mp some))
  | endOfStream | failed | wouldBlock | interrupted => exact absurd rfl some

/-- A read carries flow control on if it gives bytes, and sends what is due then. -/
theorem paced_after {fills : List Bool} {signals : List FlowSignal}
    (paced : read.before.circuit.flow.Paced fills signals)
    (isOpen : read.before.circuit.isClosed = false) (succeeds : read.Succeeds) :
    read.after.circuit.flow.Paced (fills ++ read.filling)
        (signals ++ FlowControl.dueAfter fills read.filling) ∧
      read.Sends (FlowControl.dueAfter fills read.filling) := by
  by_cases nothing : read.taken = []
  · have notCounted : read.filling = [] := if_pos nothing
    rw [notCounted, FlowControl.dueAfter, List.append_nil, List.append_nil]
    have same : read.after.circuit.flow = read.before.circuit.flow ∧
        read.after.Accounted (read.before.written ++ read.before.circuit.sendBuffer ++ []) := by
      rw [List.append_nil]
      rcases after_of_nothing isOpen nothing with stays | closes
      · rw [stays]
        exact ⟨rfl, List.prefix_append _ _, fun _ => rfl⟩
      · rw [closes]
        refine ⟨(Aside.close _ true).flow, ?_, fun stillOpen => ?_⟩
        · rw [written_close_of_peerGone]
          exact List.prefix_append _ _
        · rw [(close_spec _ true).2] at stillOpen
          contradiction
    rw [same.1]
    exact ⟨paced, same.2, fun some => absurd rfl some⟩
  · have counted : read.filling =
        [(read.before.circuit.receiveBuffer.fill read.taken).isFull] := if_neg nothing
    have next := paced.afterRead (read.before.circuit.receiveBuffer.fill read.taken).isFull
    have isDue := paced.due_eq (read.before.circuit.receiveBuffer.fill read.taken).isFull
    obtain ⟨-, flow, taken, emptied⟩ := takeIn_sends isOpen (succeeds nothing)
    obtain ⟨sameFlow, sameBuffer, sent, isPrefix, written, none⟩ :=
      handOut_sends (read.before.takeIn read.now read.taken).2
    rw [← after_of_taken isOpen nothing] at sameFlow sameBuffer written none
    rw [isDue] at next taken emptied
    rw [counted, FlowControl.dueAfter_singleton, sameFlow, flow]
    refine ⟨next, ⟨?_, fun stillOpen => ?_⟩, fun some => ?_⟩
    · rw [← taken, written]
      exact (List.prefix_append_right_inj _).mpr isPrefix
    · rw [← taken, written, none stillOpen, List.append_nil, sameBuffer stillOpen]
    · rw [emptied some] at isPrefix taken
      rw [← taken, written, List.prefix_nil.mp isPrefix]

end SocketRead

/-! ## Sequences of reads -/

namespace CircuitRun

variable {start run : CircuitRun} {reads : List SocketRead}

theorem fillings_concat (reads : List SocketRead) (last : SocketRead) :
    fillings (reads ++ [last]) = fillings reads ++ last.filling := by
  rw [fillings, List.flatMap_append, List.flatMap_singleton]
  rfl

theorem takenOf_concat (reads : List SocketRead) (last : SocketRead) :
    takenOf (reads ++ [last]) = takenOf reads ++ last.taken := by
  rw [takenOf, List.flatMap_append, List.flatMap_singleton]
  rfl

/-- Calls of the reading loop, one after the other, make such a sequence. -/
theorem reading_of_calls (start : CircuitRun) (calls : List (Moment × List ReadOutcome))
    (proper : ∀ read ∈ start.readsOfCalls calls, read.Proper) :
    start.Reading (start.readsOfCalls calls) (start.afterCalls calls) :=
  readsOfCalls_induction (motive := start.Reading)
    (fun _ _ now outcome reading isOpen _ => reading.read isOpen now outcome) .start proper

/-- Whatever is read and whatever others do, flow control accounts for the reads made so far, and
each of them sent what was due. -/
theorem Reading.paced (reading : start.Reading reads run) (fresh : start.circuit.flow = {})
    (succeed : ∀ read ∈ reads, read.Succeeds) :
    run.circuit.flow.Paced (fillings reads) (FlowControl.dueAfter [] (fillings reads)) ∧
      ∀ earlier read later, reads = earlier ++ read :: later →
        read.Sends (FlowControl.dueAfter (fillings earlier) read.filling) := by
  induction reading with
  | start =>
    refine ⟨?_, fun earlier read later split => absurd split (by simp)⟩
    rw [fresh]
    exact ⟨rfl, by decide, 0, rfl⟩
  | aside _ aside ih =>
    rw [aside.flow]
    exact ih succeed
  | read _ isOpen now outcome ih =>
    obtain ⟨paced, sends⟩ := ih fun read member => succeed read (List.mem_append_left _ member)
    obtain ⟨next, sendsNext⟩ := SocketRead.paced_after paced isOpen
      (succeed _ (List.mem_append_right _ (List.mem_singleton.mpr rfl)))
    refine ⟨?_, fun earlier read later split => ?_⟩
    · rw [fillings_concat, FlowControl.dueAfter_append, List.nil_append]
      exact next
    · -- The read is the last one, or one of those before.
      rcases List.eq_nil_or_concat later with rfl | ⟨before, last, rfl⟩
      · obtain ⟨rfl, same⟩ := List.append_inj' split rfl
        obtain rfl := List.head_eq_of_cons_eq same
        exact sendsNext
      · rw [List.concat_eq_append, ← List.cons_append, ← List.append_assoc] at split
        exact sends earlier read before (List.append_inj' split rfl).1

/-- What others do keeps what was received. -/
theorem Aside.reassembled {capacity : Nat} {earlier : List Frame} {stream : List UInt8}
    {before after : CircuitRun} (aside : Aside before after)
    (reassembled : Reassembled capacity earlier stream before)
    (wasOpen : before.circuit.isClosed = false) (isOpen : after.circuit.isClosed = false) :
    Reassembled capacity earlier stream after := by
  cases reassembled with
  | closed phase =>
    rw [wasOpen] at phase
    contradiction
  | isOpen _ short delivered received size wellFilled =>
    obtain ⟨sameDelivered, sameBuffer⟩ := aside.reception
    rw [← sameBuffer] at received size wellFilled
    exact .isOpen isOpen short (sameDelivered.trans delivered) received size wellFilled

/-- There is room for the bytes that are read. -/
theorem length_taken_le (read : SocketRead) :
    read.taken.length ≤ read.before.circuit.receiveBuffer.free := by
  obtain ⟨before, now, outcome⟩ := read
  cases outcome with
  | data bytes => exact List.length_take_le _ _
  | endOfStream | failed | wouldBlock | interrupted => exact Nat.zero_le _

/-- A read of bytes adds them to what was received. -/
theorem reassembled_after {capacity : Nat} {earlier : List Frame} {stream : List UInt8}
    {read : SocketRead} (reassembled : Reassembled capacity earlier stream read.before)
    (isOpen : read.before.circuit.isClosed = false) (succeeds : read.Succeeds)
    (some : read.taken ≠ []) :
    Reassembled capacity earlier (stream ++ read.taken) read.after := by
  cases reassembled with
  | closed phase =>
    rw [isOpen] at phase
    contradiction
  | isOpen phase short delivered received size wellFilled =>
    rw [SocketRead.after_of_taken isOpen some, ← received_eq]
    refine .received phase short delivered received size wellFilled (length_taken_le read) ?_
    intro error failed
    rw [succeeds some] at failed
    contradiction

/-- The frames delivered are those of the stream, also when others closed the circuit. While it is
open, what is left over of the stream is in the buffer. -/
theorem Reading.delivers {capacity : Nat} (reading : start.Reading reads run)
    (isOpen : start.circuit.isClosed = false)
    (empty : start.circuit.receiveBuffer = .ofCapacity capacity)
    (succeed : ∀ read ∈ reads, read.Succeeds) :
    run.delivered = start.delivered ++ Frame.accepted capacity (takenOf reads) ∧
      (run.circuit.isClosed = false →
        Reassembled capacity start.delivered (takenOf reads) run) := by
  have delivered {stream : List UInt8} {run : CircuitRun}
      (reassembled : Reassembled capacity start.delivered stream run) :
      run.delivered = start.delivered ++ Frame.accepted capacity stream := by
    cases reassembled with
    | closed _ _ delivered => exact delivered
    | isOpen _ short delivered => rw [delivered, Frame.accepted_of_not_oversteps short]
  induction reading with
  | start =>
    have atStart : Reassembled capacity start.delivered [] start := .start isOpen empty
    exact ⟨delivered atStart, fun _ => atStart⟩
  | @aside _ before after _ aside ih =>
    obtain ⟨same, kept⟩ := ih succeed
    refine ⟨aside.reception.1.trans same, fun stillOpen => ?_⟩
    have wasOpen : before.circuit.isClosed = false :=
      Bool.eq_false_iff.mpr fun closed => by
        rw [aside.closed closed] at stillOpen
        contradiction
    exact aside.reassembled (kept wasOpen) wasOpen stillOpen
  | @read reads before _ wasOpen now outcome ih =>
    obtain ⟨same, kept⟩ := ih fun read member => succeed read (List.mem_append_left _ member)
    rw [takenOf_concat]
    have succeeds := succeed ⟨before, now, outcome⟩
      (List.mem_append_right _ (List.mem_singleton.mpr rfl))
    show (SocketRead.after ⟨before, now, outcome⟩).delivered = _ ∧ _
    by_cases nothing : (SocketRead.mk before now outcome).taken = []
    · have aside : Aside before (SocketRead.after ⟨before, now, outcome⟩) := by
        rcases SocketRead.after_of_nothing wasOpen nothing with stays | closes
        · rw [stays]
          exact .refl before
        · rw [closes]
          exact .close before true
      rw [nothing, List.append_nil]
      exact ⟨aside.reception.1.trans same, aside.reassembled (kept wasOpen) wasOpen⟩
    · have next := reassembled_after (kept wasOpen) wasOpen succeeds nothing
      exact ⟨delivered next, fun _ => next⟩

end CircuitRun

/-- **Which requests flow control sends.** However a circuit is read, whatever is due is sent: a
request to pause after the read that is the fourth in a row to fill the buffer, one to go on after
the first read that leaves room after that, and nothing after any other. These requests alternate,
beginning with one to pause; the circuit has its peer paused exactly while the last of them is to
pause, which is while more than three reads in a row filled the buffer and none has left room since.
The frames delivered are those of the bytes read, as of any other sequence of reads of the same
bytes by a circuit with the same room, however those are cut and whether or not its peer is
paused. -/
theorem signals_of_reading {capacity : Nat} {start final : CircuitRun} {reads : List SocketRead}
    (isOpen : start.circuit.isClosed = false)
    (empty : start.circuit.receiveBuffer = .ofCapacity capacity)
    (fresh : start.circuit.flow = {}) (reading : start.Reading reads final)
    (succeed : ∀ read ∈ reads, read.Succeeds) :
    let fills := CircuitRun.fillings reads
    let signals := FlowControl.dueAfter [] fills
    (∀ earlier read later, reads = earlier ++ read :: later →
        read.Sends (FlowControl.dueAfter (CircuitRun.fillings earlier) read.filling)) ∧
      FlowControl.Alternating signals ∧
      (final.circuit.flow.asserted = true ↔ signals.getLast? = some .pause) ∧
      (final.circuit.flow.asserted = true ↔ FlowControl.Flooded fills) ∧
      final.delivered =
        start.delivered ++ Frame.accepted capacity (CircuitRun.takenOf reads) ∧
      ∀ {other otherFinal : CircuitRun} {otherReads : List SocketRead},
        other.circuit.isClosed = false → other.circuit.receiveBuffer = .ofCapacity capacity →
        other.Reading otherReads otherFinal → (∀ read ∈ otherReads, read.Succeeds) →
        CircuitRun.takenOf otherReads = CircuitRun.takenOf reads →
        otherFinal.delivered =
          other.delivered ++ Frame.accepted capacity (CircuitRun.takenOf reads) := by
  intro fills signals
  obtain ⟨⟨counted, asserted, count, pairs⟩, sends⟩ := reading.paced fresh succeed
  obtain ⟨alternating, last⟩ :=
    FlowControl.alternating_of_pairs count final.circuit.flow.asserted
  rw [← pairs] at alternating last
  refine ⟨sends, alternating, last, ?_, (reading.delivers isOpen empty succeed).1, ?_⟩
  · rw [asserted, counted, FlowControl.flooded_iff]
    rfl
  · intro other otherFinal otherReads otherOpen otherEmpty otherReading otherSucceed same
    rw [← same]
    exact (otherReading.delivers otherOpen otherEmpty otherSucceed).1

/-- The same circuit with its peer paused. -/
def pausedCircuit : CircuitRun :=
  { smallCircuit with
    circuit := { smallCircuit.circuit with flow := { fullReads := 4, asserted := true } } }

/-- Seventeen heartbeats, each read by itself. -/
def singleHeartbeats : List (Moment × List ReadOutcome) :=
  [(.zero, List.replicate 17 (.data heartbeat))]

/-- A circuit that is sent sixteen heartbeats in four full reads and one more after them pauses its
peer once. One whose peer is paused and that reads each of them by itself delivers the same. -/
theorem signals_of_reading_fullBurstAndMore :
    let reads := smallCircuit.readsOfCalls fullBurstAndMore
    (∀ read ∈ reads, read.Succeeds) ∧
      FlowControl.dueAfter [] (CircuitRun.fillings reads) = [.pause, .resume] ∧
      (smallCircuit.afterCalls fullBurstAndMore).circuit.flow.asserted = false ∧
      (pausedCircuit.afterCalls singleHeartbeats).delivered =
        (smallCircuit.afterCalls fullBurstAndMore).delivered := by
  intro reads
  have succeed : ∀ read ∈ reads, read.Succeeds := by decide +kernel
  have due : FlowControl.dueAfter [] (CircuitRun.fillings reads) = [.pause, .resume] := by
    decide +kernel
  have reading := CircuitRun.reading_of_calls smallCircuit fullBurstAndMore (by decide +kernel)
  have otherReading :=
    CircuitRun.reading_of_calls pausedCircuit singleHeartbeats (by decide +kernel)
  obtain ⟨-, -, paused, -, delivered, sameFrames⟩ :=
    signals_of_reading (by rfl) (by rfl) rfl reading succeed
  refine ⟨succeed, due, ?_, ?_⟩
  · rw [due] at paused
    exact Bool.eq_false_iff.mpr fun isPaused => absurd (paused.mp isPaused) (by decide)
  · rw [delivered]
    have same := sameFrames (by rfl) (by rfl) otherReading (by decide +kernel) (by decide +kernel)
    exact same

end ChannelAccess
