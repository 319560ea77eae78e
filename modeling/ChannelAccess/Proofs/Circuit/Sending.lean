import ChannelAccess.Proofs.Circuit.Effects

/-!
# Every byte to send is accounted for

The send buffer of a circuit has one user at a time, who adds messages to it and then sends them,
keeps them for later, or takes them back (`SendGuard`). Whatever users do one after the other, and
whatever the socket does meanwhile, the bytes that went to the socket and those that are still in
the buffer are together the messages that were not taken back, in order
(`CircuitRun.sent_bytes_accounted`).

What one user does is `CircuitRun.send` (`CircuitRun.use_eq_send`), so that the proof has to follow
the buffer through one write of it (`SendBuffer.writeFrom_spec`) and then through the users by
induction.
-/

namespace ChannelAccess

/-! ## Using the send buffer -/

/-- How the use of a send buffer ends. -/
inductive GuardEnd where
  /-- The buffer is written to the socket. -/
  | flush
  /-- What was added is kept for later. -/
  | commit
  /-- What was added is taken back. -/
  | discard
  /-- The user goes away without a word. -/
  | drop
  deriving DecidableEq, Repr

/-- Exclusive use of a send buffer. -/
structure SendGuard where
  /-- The buffer, with what was added. -/
  buffer : List UInt8
  /-- How long the buffer was when its use began. -/
  mark : Nat
  /-- The user said what is to become of what was added. -/
  finished : Bool := false

namespace SendGuard

/-- Begins to use the send buffer of a circuit, if it is open. -/
def acquire? (circuit : Circuit) : Option SendGuard :=
  if circuit.isClosed then none
  else some { buffer := circuit.sendBuffer, mark := circuit.sendBuffer.length }

/-- Adds a message. -/
def push (guard : SendGuard) (message : List UInt8) : SendGuard :=
  { guard with buffer := guard.buffer ++ message }

/-- Keeps what was added. -/
def commit (guard : SendGuard) : SendGuard := { guard with finished := true }

/-- Takes back what was added. -/
def discard (guard : SendGuard) : SendGuard :=
  { guard with buffer := guard.buffer.take guard.mark, finished := true }

/-- The send buffer that a user leaves. What was added is taken back, unless the user said what is
to become of it. -/
def release (guard : SendGuard) : List UInt8 :=
  if guard.finished then guard.buffer else guard.buffer.take guard.mark

end SendGuard

/-- What one user does with a send buffer. -/
structure SendUse where
  /-- The messages that are added. -/
  messages : List (List UInt8)
  /-- How the use ends. -/
  finish : GuardEnd
  deriving DecidableEq, Repr

namespace SendUse

/-- A single message is sent at once. -/
def send (message : List UInt8) : SendUse := { messages := [message], finish := .flush }

/-- All that was kept is sent. -/
def flush : SendUse := { messages := [], finish := .flush }

/-- The messages are not taken back. -/
def keeps (use : SendUse) : Bool :=
  match use.finish with
  | .flush | .commit => true
  | .discard | .drop => false

/-- What is to be sent of the messages. -/
def kept (use : SendUse) : List UInt8 := if use.keeps then use.messages.flatten else []

end SendUse

/-- Going away without a word takes back what was added. -/
def GuardEnd.toSendEnd : GuardEnd → SendEnd
  | .flush => .flush
  | .commit => .commit
  | .discard | .drop => .discard

/-- The bytes that the peer is sent, if this is what others see. -/
def CircuitEffect.bytes : CircuitEffect → List UInt8
  | .sent bytes => bytes
  | _ => []

namespace CircuitRun

/-- The bytes that went to the socket so far. -/
def written (run : CircuitRun) : List UInt8 := run.effects.flatMap CircuitEffect.bytes

/-- Leaves the circuit with a send buffer. -/
def leave (run : CircuitRun) (buffer : List UInt8) : CircuitRun :=
  { run with circuit := { run.circuit with sendBuffer := buffer } }

/-- Ends the use of the send buffer. An error that is fatal closes the circuit, once the buffer may
be used by others. -/
def finish (run : CircuitRun) (guard : SendGuard) : GuardEnd → Option TransportError × CircuitRun
  | .commit => (none, run.leave guard.commit.release)
  | .discard => (none, run.leave guard.discard.release)
  | .drop => (none, run.leave guard.release)
  | .flush =>
    match (run.leave guard.commit.release).writeOut with
    | (none, run) => (none, run)
    | (some error, run) => (some error, if error.isFatal then run.close true else run)

/-- Lets one user have the send buffer. A closed circuit refuses. -/
def use (run : CircuitRun) (use : SendUse) : Option TransportError × CircuitRun :=
  match SendGuard.acquire? run.circuit with
  | none => (some .closed, run)
  | some guard => run.finish (use.messages.foldl SendGuard.push guard) use.finish

/-- Lets users have the send buffer one after the other. Says what errors they got. -/
def useAll (run : CircuitRun) : List SendUse → List (Option TransportError) × CircuitRun
  | [] => ([], run)
  | use :: later =>
    let (error, run) := run.use use
    let (errors, run) := run.useAll later
    (error :: errors, run)

/-- What is to be sent of the messages of those users that find the circuit open, in order. -/
def kept (run : CircuitRun) : List SendUse → List UInt8
  | [] => []
  | use :: later =>
    (if run.circuit.isClosed then [] else use.kept) ++ (run.use use).2.kept later

end CircuitRun

/-! ## What one user does -/

theorem SendGuard.foldl_push (guard : SendGuard) (messages : List (List UInt8)) :
    messages.foldl SendGuard.push guard =
      { guard with buffer := guard.buffer ++ messages.flatten } := by
  induction messages generalizing guard with
  | nil => rw [List.flatten_nil, List.append_nil]; rfl
  | cons message later ih =>
    rw [List.foldl_cons, ih, push, List.flatten_cons, ← List.append_assoc]

namespace CircuitRun

/-- Using the send buffer adds all messages at once to what was kept before, and taking them back
leaves that as it was. -/
theorem use_eq_send (run : CircuitRun) (use : SendUse) :
    run.use use = run.send use.messages.flatten use.finish.toSendEnd := by
  obtain ⟨messages, finish⟩ := use
  unfold CircuitRun.use send SendGuard.acquire?
  by_cases closed : run.circuit.isClosed = true
  · rw [if_pos closed, if_pos closed]
  · rw [if_neg closed, if_neg closed]
    dsimp only
    rw [SendGuard.foldl_push]
    have before : (run.circuit.sendBuffer ++ messages.flatten).take run.circuit.sendBuffer.length =
        run.circuit.sendBuffer := List.take_left
    cases finish with
    | flush => rfl
    | commit => rfl
    | discard =>
      show (none, run.leave ((run.circuit.sendBuffer ++ messages.flatten).take _)) = _
      rw [before]
      rfl
    | drop =>
      show (none, run.leave ((run.circuit.sendBuffer ++ messages.flatten).take _)) = _
      rw [before]
      rfl

/-- Sending a request is such a use. -/
theorem use_send (run : CircuitRun) (request : Request) :
    run.use (.send request.toBytes) = run.request request := by
  rw [use_eq_send, SendUse.send, List.flatten_singleton]
  rfl

end CircuitRun

/-! ## Writing the buffer out -/

namespace SendBuffer

/-- What becomes of a buffer that is written out: the socket takes its first bytes, and those that
it does not take are still there unless it failed for good. -/
structure Accounts (buffer : List UInt8) (report : WriteReport) : Prop where
  /-- The socket takes the first bytes. -/
  sent : report.sent <+: buffer
  /-- The others stay. -/
  left : (∀ error, report.error = some error → error.isFatal = false) →
    report.sent ++ report.buffer = buffer
  /-- A socket that takes no more is reported with the number of bytes left. -/
  pending : ∀ pending, report.error = some (.sendBufferFull pending) →
    pending = report.buffer.length

/-- A socket that fails for good. -/
theorem Accounts.of_fatal {buffer : List UInt8} {report : WriteReport} {error : TransportError}
    (sent : report.sent <+: buffer) (failed : report.error = some error)
    (fatal : error.isFatal = true) : Accounts buffer report where
  sent := sent
  left := fun passes => absurd (passes error failed) (by rw [fatal]; decide)
  pending := fun pending full => by
    obtain rfl := Option.some.inj (failed.symm.trans full)
    contradiction

/-- Whatever the socket does from some point of the buffer on, every byte is accounted for. -/
theorem writeFrom_spec (buffer : List UInt8) (written retries : Nat)
    (outcomes : List WriteOutcome) :
    Accounts buffer (writeFrom buffer written retries outcomes) := by
  have all : ∀ later, Accounts buffer { sent := buffer, buffer := [], later } := fun later =>
    { sent := List.prefix_refl buffer
      left := fun _ => List.append_nil buffer
      pending := fun _ full => nomatch full }
  fun_induction writeFrom buffer written retries outcomes with
  | case1 => exact all []
  | case2 written retries outcome later _ => exact all (outcome :: later)
  | case3 => exact .of_fatal (List.take_prefix _ _) rfl rfl
  | case4 written retries later unfinished sent count taken ih => exact ih
  | case5 written retries later unfinished sent tooOften rest =>
    exact
      { sent := List.take_prefix _ _
        left := fun _ => List.take_append_drop written buffer
        pending := fun pending full => by
          obtain rfl := TransportError.sendBufferFull.inj (Option.some.inj full)
          rfl }
  | case6 written retries later unfinished again ih => exact ih
  | case7 written retries later unfinished ih => exact ih
  | case8 => exact .of_fatal (List.take_prefix _ _) rfl rfl

end SendBuffer

namespace CircuitRun

/-- The bytes that the socket takes of the buffer come after those that it took before. -/
theorem written_writeOut (run : CircuitRun) :
    run.writeOut.2.written =
      run.written ++ (SendBuffer.writeOut run.circuit.sendBuffer run.writes).sent := by
  unfold writeOut written
  dsimp only
  split
  · rename_i empty
    rw [List.isEmpty_iff.mp empty, List.append_nil]
  · rw [List.flatMap_append, List.flatMap_singleton]
    rfl

/-- Writing the send buffer out moves bytes from the buffer to the socket. -/
theorem writeOut_spec {run : CircuitRun} {bytes : List UInt8}
    (whole : run.written ++ run.circuit.sendBuffer = bytes) :
    run.writeOut.2.written <+: bytes ∧
      ((∀ error, run.writeOut.1 = some error → error.isFatal = false) →
        run.writeOut.2.written ++ run.writeOut.2.circuit.sendBuffer = bytes) ∧
      ∀ pending, run.writeOut.1 = some (.sendBufferFull pending) →
        pending = run.writeOut.2.circuit.sendBuffer.length := by
  have accounts : SendBuffer.Accounts run.circuit.sendBuffer
      (SendBuffer.writeOut run.circuit.sendBuffer run.writes) :=
    SendBuffer.writeFrom_spec run.circuit.sendBuffer 0 0 run.writes
  have sent := written_writeOut run
  refine ⟨?_, fun passes => ?_, accounts.pending⟩
  · rw [sent, ← whole]
    exact (List.prefix_append_right_inj run.written).mpr accounts.sent
  · calc run.writeOut.2.written ++ run.writeOut.2.circuit.sendBuffer
        = run.written ++ ((SendBuffer.writeOut run.circuit.sendBuffer run.writes).sent ++
            run.writeOut.2.circuit.sendBuffer) := by rw [sent, List.append_assoc]
      _ = run.written ++ run.circuit.sendBuffer :=
          congrArg (run.written ++ ·) (accounts.left passes)
      _ = bytes := whole

/-- What others see besides, if it is not bytes sent, leaves those that were as they are. -/
theorem written_emit (run : CircuitRun) {effect : CircuitEffect} (nothing : effect.bytes = []) :
    (run.emit effect).written = run.written := by
  rw [emit, written, List.flatMap_append, List.flatMap_singleton, nothing, List.append_nil]
  rfl

/-- Past the first step of closing, no step writes the buffer out. -/
theorem written_closeSteps {run : CircuitRun} (flushed : run.circuit.phase ≠ .flushing)
    (count : Nat) : (run.closeSteps count).written = run.written := by
  induction count generalizing run with
  | zero => rfl
  | succ count ih =>
    have step : run.closeStep.written = run.written ∧
        run.closeStep.circuit.phase ≠ .flushing := by
      unfold closeStep
      dsimp only
      split
      · exact ⟨rfl, flushed⟩
      · contradiction
      · exact ⟨written_emit run rfl, ClosePhase.noConfusion⟩
      · exact ⟨written_emit run rfl, ClosePhase.noConfusion⟩
      · exact ⟨rfl, ClosePhase.noConfusion⟩
      · exact ⟨rfl, flushed⟩
      · exact ⟨written_emit run rfl, ClosePhase.noConfusion⟩
    exact (ih step.2).trans step.1

/-- Closing a circuit whose peer is gone sends nothing. -/
theorem written_close_of_peerGone (run : CircuitRun) : (run.close true).written = run.written := by
  unfold close
  split
  · rfl
  · rename_i isOpen
    refine written_closeSteps ?_ _
    show (run.circuit.beginClose true).phase ≠ .flushing
    rw [Circuit.beginClose, if_neg isOpen]
    exact ClosePhase.noConfusion

/-- Closing a circuit sends nothing but what was kept to be sent, as far as the socket takes it. -/
theorem written_close (run : CircuitRun) (peerGone : Bool) :
    ∃ sent, sent <+: run.circuit.sendBuffer ∧
      (run.close peerGone).written = run.written ++ sent := by
  cases peerGone with
  | true =>
    exact ⟨[], List.nil_prefix, (written_close_of_peerGone run).trans (List.append_nil _).symm⟩
  | false =>
    unfold close
    split
    · exact ⟨[], List.nil_prefix, (List.append_nil _).symm⟩
    · rename_i isOpen
      have accounts : SendBuffer.Accounts run.circuit.sendBuffer
          (SendBuffer.writeOut run.circuit.sendBuffer run.writes) :=
        SendBuffer.writeFrom_spec run.circuit.sendBuffer 0 0 run.writes
      refine ⟨_, accounts.sent, ?_⟩
      rw [← written_writeOut, Circuit.beginClose, if_neg isOpen]
      dsimp only
      rw [Nat.add_comm, closeSteps]
      exact written_closeSteps ClosePhase.noConfusion _

/-! ## One user -/

/-- The bytes that went to the socket are the first of those to be sent, and while the circuit is
open the others are in its send buffer. -/
def Accounted (run : CircuitRun) (bytes : List UInt8) : Prop :=
  run.written <+: bytes ∧
    (run.circuit.isClosed = false → run.written ++ run.circuit.sendBuffer = bytes)

/-- A closed circuit refuses to be used. -/
theorem use_of_closed {run : CircuitRun} (use : SendUse) (closed : run.circuit.isClosed = true) :
    run.use use = (some .closed, run) := by
  rw [CircuitRun.use, SendGuard.acquire?, if_pos closed]

/-- Messages that are taken back leave no trace. -/
theorem use_of_not_keeps (run : CircuitRun) {use : SendUse} (takenBack : use.keeps = false) :
    (run.use use).2 = run := by
  have discards : use.finish.toSendEnd = .discard := by
    unfold SendUse.keeps at takenBack
    cases finish : use.finish with
    | flush | commit => rw [finish] at takenBack; contradiction
    | discard | drop => rfl
  rw [use_eq_send, discards, send]
  split <;> rfl

/-- What a flush of an open circuit does, with `added` being the circuit to whose send buffer the
messages were added: the buffer is written out, and an error that is fatal closes the circuit. -/
theorem use_of_flush {run : CircuitRun} (messages : List (List UInt8))
    (isOpen : run.circuit.isClosed = false) :
    let added := run.leave (run.circuit.sendBuffer ++ messages.flatten)
    run.use { messages, finish := .flush } =
      (added.writeOut.1,
        match added.writeOut.1 with
        | none => added.writeOut.2
        | some error =>
          if error.isFatal then added.writeOut.2.close true else added.writeOut.2) := by
  intro added
  rw [use_eq_send, send, if_neg (Bool.eq_false_iff.mp isOpen)]
  show (match added.writeOut with
    | (none, run) => (none, run)
    | (some error, run) => (some error, if error.isFatal then run.close true else run)) = _
  generalize added.writeOut = report
  obtain ⟨error, after⟩ := report
  cases error <;> rfl

/-- The messages of a user of an open circuit are among the bytes to be sent from then on, unless
they were taken back. A full socket is reported with the number of bytes left. -/
theorem use_spec {run : CircuitRun} {bytes : List UInt8} (h : run.Accounted bytes) (use : SendUse)
    (isOpen : run.circuit.isClosed = false) :
    (run.use use).2.Accounted (bytes ++ use.kept) ∧
      ∀ pending, (run.use use).1 = some (.sendBufferFull pending) →
        pending = (run.use use).2.circuit.sendBuffer.length := by
  have before := h.2 isOpen
  obtain ⟨messages, finish⟩ := use
  cases finish with
  | flush =>
    have whole : (run.leave (run.circuit.sendBuffer ++ messages.flatten)).written ++
        (run.circuit.sendBuffer ++ messages.flatten) = bytes ++ messages.flatten := by
      rw [← before]
      exact (List.append_assoc _ _ _).symm
    have written := writeOut_spec whole
    rw [use_of_flush messages isOpen]
    show Accounted _ (bytes ++ messages.flatten) ∧ _
    generalize (run.leave (run.circuit.sendBuffer ++ messages.flatten)).writeOut = report
      at written ⊢
    obtain ⟨error, after⟩ := report
    obtain ⟨isPrefix, left, pending⟩ := written
    cases error with
    | none => exact ⟨⟨isPrefix, fun _ => left fun _ failed => nomatch failed⟩, pending⟩
    | some error =>
      dsimp only at isPrefix left pending ⊢
      cases fatal : error.isFatal with
      | true =>
        -- The socket failed: what it took stays a prefix, and the circuit is closed.
        have closed := (close_spec after true).2
        refine ⟨⟨?_, fun isOpen => ?_⟩, fun count full => ?_⟩
        · rw [if_pos rfl, written_close_of_peerGone]
          exact isPrefix
        · rw [if_pos rfl, closed] at isOpen
          contradiction
        · obtain rfl := Option.some.inj full
          contradiction
      | false =>
        have passes : ∀ e, some error = some e → e.isFatal = false := by
          intro e same
          obtain rfl := Option.some.inj same
          exact fatal
        exact ⟨⟨isPrefix, fun _ => left passes⟩, pending⟩
  | commit =>
    rw [use_eq_send, send, if_neg (Bool.eq_false_iff.mp isOpen)]
    refine ⟨⟨h.1.trans (List.prefix_append _ _), fun _ => ?_⟩, fun _ full => nomatch full⟩
    show run.written ++ (run.circuit.sendBuffer ++ messages.flatten) = bytes ++ messages.flatten
    rw [← List.append_assoc, before]
  | discard | drop =>
    rw [use_eq_send, send, if_neg (Bool.eq_false_iff.mp isOpen)]
    refine ⟨?_, fun _ full => nomatch full⟩
    show run.Accounted (bytes ++ [])
    rw [List.append_nil]
    exact h

/-- A circuit is closed after a use if it was closed before or the use failed for good. -/
theorem isClosed_use (run : CircuitRun) (use : SendUse) :
    (run.use use).2.circuit.isClosed = true ↔
      ∃ error, (run.use use).1 = some error ∧ error.isFatal = true := by
  by_cases closed : run.circuit.isClosed = true
  · rw [use_of_closed use closed]
    exact iff_of_true closed ⟨.closed, rfl, rfl⟩
  · have isOpen := Bool.eq_false_iff.mpr closed
    constructor
    · -- Without a fatal error the circuit is in the phase that it was in.
      intro closedAfter
      refine Classical.byContradiction fun noneFatal => ?_
      have passes : ∀ error, (run.use use).1 = some error → error.isFatal = false := by
        intro error failed
        exact Bool.eq_false_iff.mpr fun fatal => noneFatal ⟨error, failed, fatal⟩
      rw [use_eq_send] at passes closedAfter
      have phase := (send_spec run use.messages.flatten use.finish.toSendEnd).2 passes
      rw [Circuit.isClosed, phase] at closedAfter
      exact closed closedAfter
    · rintro ⟨error, failed, fatal⟩
      obtain ⟨messages, finish⟩ := use
      cases finish with
      | flush =>
        rw [use_of_flush messages isOpen] at failed ⊢
        dsimp only at failed ⊢
        rw [failed]
        dsimp only
        rw [if_pos fatal]
        exact (close_spec _ true).2
      | commit | discard | drop =>
        rw [use_eq_send, send, if_neg closed] at failed
        contradiction

/-! ## All users -/

/-- After its users, as many as there may be, every byte of the circuit is accounted for. -/
theorem Accounted.useAll {run : CircuitRun} {bytes : List UInt8} (h : run.Accounted bytes)
    (uses : List SendUse) : (run.useAll uses).2.Accounted (bytes ++ run.kept uses) := by
  induction uses generalizing run bytes with
  | nil =>
    show run.Accounted (bytes ++ [])
    rw [List.append_nil]
    exact h
  | cons use later ih =>
    show ((run.use use).2.useAll later).2.Accounted (bytes ++ (_ ++ (run.use use).2.kept later))
    rw [← List.append_assoc]
    refine ih ?_
    cases isOpen : run.circuit.isClosed with
    | true =>
      rw [use_of_closed use isOpen, if_pos rfl, List.append_nil]
      exact h
    | false =>
      rw [if_neg Bool.false_ne_true]
      exact (use_spec h use isOpen).1

/-- A closed circuit refuses all users. -/
theorem useAll_of_closed {run : CircuitRun} (closed : run.circuit.isClosed = true)
    (uses : List SendUse) :
    run.useAll uses = (uses.map fun _ => some .closed, run) := by
  induction uses with
  | nil => rfl
  | cons use later ih =>
    rw [CircuitRun.useAll, use_of_closed use closed]
    dsimp only
    rw [ih, List.map_cons]

/-- A circuit that is open is closed by its users exactly when one of them failed for good. -/
theorem isClosed_useAll {run : CircuitRun} (isOpen : run.circuit.isClosed = false)
    (uses : List SendUse) :
    (run.useAll uses).2.circuit.isClosed = true ↔
      ∃ error, some error ∈ (run.useAll uses).1 ∧ error.isFatal = true := by
  induction uses generalizing run with
  | nil =>
    refine iff_of_false (by rw [useAll, isOpen]; exact Bool.false_ne_true) ?_
    rintro ⟨error, member, -⟩
    exact List.not_mem_nil member
  | cons use later ih =>
    show ((run.use use).2.useAll later).2.circuit.isClosed = true ↔
      ∃ error, some error ∈ (run.use use).1 :: ((run.use use).2.useAll later).1 ∧ _
    cases closed : (run.use use).2.circuit.isClosed with
    | true =>
      -- This user's error was fatal, and all later ones are refused.
      obtain ⟨error, failed, fatal⟩ := (isClosed_use run use).mp closed
      rw [useAll_of_closed closed later]
      exact iff_of_true closed ⟨error, failed ▸ List.mem_cons_self, fatal⟩
    | false =>
      rw [ih closed]
      refine exists_congr fun error => and_congr_left fun fatal => ?_
      rw [List.mem_cons, or_iff_right]
      intro failed
      have closedAfter := (isClosed_use run use).mpr ⟨error, failed.symm, fatal⟩
      rw [closed] at closedAfter
      contradiction

/-- While the circuit is open, none of its users was refused. -/
theorem kept_of_open {run : CircuitRun} {uses : List SendUse}
    (isOpen : (run.useAll uses).2.circuit.isClosed = false) :
    run.kept uses = uses.flatMap SendUse.kept := by
  induction uses generalizing run with
  | nil => rfl
  | cons use later ih =>
    have wasOpen : run.circuit.isClosed = false := by
      refine Bool.eq_false_iff.mpr fun closed => ?_
      rw [useAll_of_closed closed, closed] at isOpen
      contradiction
    have laterKept : (run.use use).2.kept later = later.flatMap SendUse.kept := ih isOpen
    rw [kept, wasOpen, if_neg Bool.false_ne_true, List.flatMap_cons, laterKept]

/-- Users who take back what they added might as well not have come. -/
theorem useAll_filter_keeps (run : CircuitRun) (uses : List SendUse) :
    (run.useAll (uses.filter SendUse.keeps)).2 = (run.useAll uses).2 := by
  induction uses generalizing run with
  | nil => rfl
  | cons use later ih =>
    show _ = ((run.use use).2.useAll later).2
    cases keeps : use.keeps with
    | true =>
      rw [List.filter_cons_of_pos keeps]
      exact ih (run.use use).2
    | false =>
      rw [List.filter_cons_of_neg (Bool.eq_false_iff.mp keeps), ih run,
        use_of_not_keeps run keeps]

/-- Whatever the users of an open circuit do one after the other, and whatever its socket does: as
long as no error was fatal the circuit is open, and what went to the socket and what is in the send
buffer are together the messages that were not taken back, in order. A fatal error closes the
circuit for good, and what went to the socket are the first of these bytes. Messages that were taken
back might as well not have been there. A full socket is reported with the number of bytes left, and
leaves the circuit open. -/
theorem sent_bytes_accounted {start : CircuitRun} (isOpen : start.circuit.isClosed = false)
    (unused : start.written ++ start.circuit.sendBuffer = []) (uses : List SendUse) :
    let errors := (start.useAll uses).1
    let run := (start.useAll uses).2
    ((∀ error, some error ∈ errors → error.isFatal = false) →
        run.circuit.isClosed = false ∧
          run.written ++ run.circuit.sendBuffer = uses.flatMap SendUse.kept) ∧
      ((∃ error, some error ∈ errors ∧ error.isFatal = true) →
        run.circuit.isClosed = true ∧ run.written <+: start.kept uses ∧
          ∀ later, (run.useAll later).2 = run) ∧
      (start.useAll (uses.filter SendUse.keeps)).2 = run ∧
      ∀ use pending, (run.use use).1 = some (.sendBufferFull pending) →
        pending = (run.use use).2.circuit.sendBuffer.length ∧
          (run.use use).2.circuit.isClosed = false := by
  intro errors run
  have nothingSent : start.written = [] := (List.append_eq_nil_iff.mp unused).1
  have begins : start.Accounted [] := ⟨List.prefix_nil.mpr nothingSent, fun _ => unused⟩
  have accounted := begins.useAll uses
  have fails := isClosed_useAll isOpen uses
  have without := useAll_filter_keeps start uses
  have keptAll := @kept_of_open start uses
  rw [List.nil_append] at accounted
  refine ⟨fun passes => ?_, fun failed => ?_, without, fun use pending full => ?_⟩
  · have isOpenYet : run.circuit.isClosed = false := by
      refine Bool.eq_false_iff.mpr fun closed => ?_
      obtain ⟨error, member, fatal⟩ := fails.mp closed
      rw [passes error member] at fatal
      contradiction
    rw [← keptAll isOpenYet]
    exact ⟨isOpenYet, accounted.2 isOpenYet⟩
  · have closed := fails.mpr failed
    refine ⟨closed, accounted.1, fun later => ?_⟩
    rw [useAll_of_closed closed later]
  · have isOpenYet : run.circuit.isClosed = false := by
      refine Bool.eq_false_iff.mpr fun closed => ?_
      rw [use_of_closed use closed] at full
      exact TransportError.noConfusion (Option.some.inj full)
    refine ⟨(use_spec accounted use isOpenYet).2 pending full, ?_⟩
    refine Bool.eq_false_iff.mpr fun closed => ?_
    obtain ⟨error, failed, fatal⟩ := (isClosed_use run use).mp closed
    obtain rfl := Option.some.inj (full.symm.trans failed)
    contradiction

/-- A circuit whose socket takes three bytes, is full for a while, takes two more, and fails. -/
def failingLine : CircuitRun where
  circuit := .connected ⟨.loopback, 5064⟩ 0 24 .zero
  writes := [.wrote 3] ++ List.replicate 9 .wouldBlock ++ [.wrote 2, .failed .connectionReset]

/-- Users who keep, forget, send, take back and send some messages. -/
def someUses : List SendUse :=
  [⟨[[1, 2], [3, 4]], .commit⟩, ⟨[[90]], .drop⟩, .send [5, 6], ⟨[[91, 92]], .discard⟩, .send [7],
    .flush]

/-- The third user finds the socket full. The fifth writes two of the four bytes that are left and
loses the circuit; nothing comes of the last. -/
theorem sent_bytes_accounted_failingLine :
    (failingLine.useAll someUses).1 =
        [none, none, some (.sendBufferFull 3), none, some (.socket .connectionReset),
          some .closed] ∧
      (failingLine.useAll someUses).2.written = [1, 2, 3, 4, 5] ∧
      (failingLine.useAll someUses).2.written <+: [1, 2, 3, 4, 5, 6, 7] ∧
      (failingLine.useAll someUses).2.circuit.isClosed = true := by
  have errors : (failingLine.useAll someUses).1 =
      [none, none, some (.sendBufferFull 3), none, some (.socket .connectionReset),
        some .closed] := by decide +kernel
  have written : (failingLine.useAll someUses).2.written = [1, 2, 3, 4, 5] := by decide +kernel
  have kept : failingLine.kept someUses = [1, 2, 3, 4, 5, 6, 7] := by decide +kernel
  have failed : ∃ error, some error ∈ (failingLine.useAll someUses).1 ∧ error.isFatal = true := by
    rw [errors]
    exact ⟨.closed, by decide, rfl⟩
  obtain ⟨-, onFailure, -⟩ := @sent_bytes_accounted failingLine rfl rfl someUses
  obtain ⟨closed, isPrefix, -⟩ := onFailure failed
  rw [kept] at isPrefix
  exact ⟨errors, written, isPrefix, closed⟩

end CircuitRun

end ChannelAccess
