import ChannelAccess.Proofs.Circuit.Sending
import ChannelAccess.Proofs.History
import Mathlib.Data.List.Induction

/-!
# A circuit is closed only after silence

A check of a circuit goes by two moments that are stored with it: when something was received last,
and when an echo was sent. `closed_after_silence` says what a check does in terms of what happened
to the circuit before: it closes the circuit exactly when an echo was sent a whole timeout ago and
nothing was received since, and it sends an echo exactly when no echo is unanswered and nothing was
received for half of the timeout. So a circuit is closed only after both of these times.

`Liveness.Account` ties the two moments to the history, and `CircuitRun.account_happenAll` carries
it through whatever happens. What a check does to the circuit, besides to the two moments, is
`CircuitRun.checkLiveness_spec`: the echo is seen as bytes at the socket.
-/

namespace ChannelAccess

/-! ## What happens to a circuit -/

/-- What shows whether the server of a circuit still answers. -/
inductive LivenessEvent where
  /-- Something is received from the server, on the circuit or as a beacon. -/
  | received (time : Moment)
  /-- The circuit is checked. -/
  | checked (time : Moment)
  deriving DecidableEq, Repr

/-- When it happens. -/
def LivenessEvent.time : LivenessEvent → Moment
  | .received time | .checked time => time

/-- Something that happens to a circuit, and the circuit as it is then. -/
structure LivenessStep where
  /-- The circuit. -/
  before : CircuitRun
  /-- What happens. -/
  event : LivenessEvent
  deriving DecidableEq, Repr

namespace CircuitRun

/-- What becomes of a circuit that is checked with some timeout. -/
def happen (timeout : Duration) (run : CircuitRun) : LivenessEvent → CircuitRun
  | .received time => { run with circuit := run.circuit.markAlive time }
  | .checked time => (run.checkLiveness time timeout).2

/-- What becomes of it when several things happen. -/
def happenAll (timeout : Duration) (run : CircuitRun) (events : List LivenessEvent) : CircuitRun :=
  events.foldl (happen timeout) run

/-- All that happens, each with the circuit as it is then. -/
def steps (timeout : Duration) (run : CircuitRun) : List LivenessEvent → List LivenessStep
  | [] => []
  | event :: later => ⟨run, event⟩ :: (run.happen timeout event).steps timeout later

/-- A check sends the server an echo, after all that was kept to be sent. -/
def Echoes (timeout : Duration) (run : CircuitRun) (now : Moment) : Prop :=
  (run.checkLiveness now timeout).2.written =
    run.written ++ run.circuit.sendBuffer ++ Request.echo.toBytes

end CircuitRun

namespace LivenessStep

/-- An echo is sent at this time. -/
def Echoed (timeout : Duration) (time : Moment) (step : LivenessStep) : Prop :=
  step.event = .checked time ∧ step.before.Echoes timeout time

/-- Something is received. -/
def IsReception (step : LivenessStep) : Prop := ∃ time, step.event = .received time

/-- Sending an echo does not fail, if the circuit is open and this is a check. -/
def Sends (step : LivenessStep) : Prop :=
  match step.event with
  | .received _ => True
  | .checked _ => step.before.circuit.isClosed = false → (step.before.request .echo).1 = none

instance : (step : LivenessStep) → Decidable step.Sends
  | ⟨_, .received _⟩ => inferInstanceAs (Decidable True)
  | ⟨before, .checked _⟩ => inferInstanceAs
    (Decidable (before.circuit.isClosed = false → (before.request .echo).1 = none))

end LivenessStep

/-- An echo was sent at some time, and nothing was received since. -/
def CircuitRun.Unanswered (timeout : Duration) (start : CircuitRun) (events : List LivenessEvent)
    (sent : Moment) : Prop :=
  Since (LivenessStep.Echoed timeout sent) LivenessStep.IsReception (start.steps timeout events)

/-- A circuit has been silent for some time: it was connected so long ago, and so was everything
received. -/
def SilentFor (connected : Moment) (events : List LivenessEvent) (now : Moment)
    (length : Duration) : Prop :=
  connected + length ≤ now ∧ ∀ time, .received time ∈ events → time + length ≤ now

/-- Half of a duration, in whole nanoseconds. -/
def Duration.half (d : Duration) : Duration := ⟨d.nanos / 2⟩

/-! ## The two moments -/

/-- What a check finds. -/
theorem Liveness.check_spec (liveness : Liveness) (now : Moment) (timeout : Duration) :
    ((liveness.check now timeout).1 = .dead ↔
        ∃ sent, liveness.echoSent = some sent ∧ timeout ≤ now - sent) ∧
      ((liveness.check now timeout).1 = .probe ↔
        liveness.echoSent = none ∧ timeout.half ≤ now - liveness.lastReceived) ∧
      (liveness.check now timeout).2 =
        if (liveness.check now timeout).1 = .probe then { liveness with echoSent := some now }
        else liveness := by
  obtain ⟨lastReceived, echoSent⟩ := liveness
  cases echoSent with
  | none =>
    have finds : check ⟨lastReceived, none⟩ now timeout =
        if timeout.half ≤ now - lastReceived then (.probe, ⟨lastReceived, some now⟩)
        else (.quiet, ⟨lastReceived, none⟩) := rfl
    by_cases due : timeout.half ≤ now - lastReceived <;> simp [finds, due]
  | some sent =>
    have finds : check ⟨lastReceived, some sent⟩ now timeout =
        (if timeout ≤ now - sent then .dead else .quiet, ⟨lastReceived, some sent⟩) := rfl
    by_cases late : timeout ≤ now - sent <;> simp [finds, late]

/-- The two moments stored with an open circuit that was connected at some time, after these
things happened to it. -/
structure Liveness.Account (timeout : Duration) (connected : Moment) (start : CircuitRun)
    (events : List LivenessEvent) (liveness : Liveness) : Prop where
  /-- Something was received then, or the circuit was connected. -/
  heard : liveness.lastReceived = connected ∨ .received liveness.lastReceived ∈ events
  /-- Nothing was received later. -/
  latest : connected ≤ liveness.lastReceived ∧
    ∀ time, .received time ∈ events → time ≤ liveness.lastReceived
  /-- An echo is stored exactly while it is unanswered. -/
  unanswered : ∀ sent, liveness.echoSent = some sent ↔ start.Unanswered timeout events sent
  /-- It was sent by a check, after half of the timeout without a reception. -/
  waited : ∀ sent, liveness.echoSent = some sent →
    .checked sent ∈ events ∧ liveness.lastReceived + timeout.half ≤ sent

/-- A circuit has been silent exactly since the moment stored. -/
theorem Liveness.Account.silentFor_iff {timeout : Duration} {connected : Moment}
    {start : CircuitRun} {events : List LivenessEvent} {liveness : Liveness}
    (account : Account timeout connected start events liveness) (now : Moment)
    (length : Duration) :
    SilentFor connected events now length ↔ liveness.lastReceived + length ≤ now := by
  constructor
  · rintro ⟨sinceConnected, sinceReceived⟩
    rcases account.heard with isConnected | isReceived
    · rwa [isConnected]
    · exact sinceReceived _ isReceived
  · intro silent
    have later : ∀ time, time ≤ liveness.lastReceived → time + length ≤ now := by
      intro time earlier
      simp only [Duration.le_def, Duration.nanos_add] at earlier silent ⊢
      omega
    exact ⟨later _ account.latest.1, fun time member => later _ (account.latest.2 time member)⟩

/-! ## A check of a circuit -/

/-- A buffer that is written without an error is at the socket as a whole. -/
theorem SendBuffer.writeFrom_of_done {buffer : List UInt8} {written retries : Nat}
    {outcomes : List WriteOutcome}
    (done : (writeFrom buffer written retries outcomes).error = none) :
    (writeFrom buffer written retries outcomes).sent = buffer ∧
      (writeFrom buffer written retries outcomes).buffer = [] := by
  fun_induction writeFrom buffer written retries outcomes with
  | case1 | case2 => exact ⟨rfl, rfl⟩
  | case3 | case5 | case8 => contradiction
  | case4 _ _ _ _ _ _ _ ih | case6 _ _ _ _ _ ih | case7 _ _ _ _ ih => exact ih done

namespace CircuitRun

/-- A request that was sent is at the socket, after all that was kept to be sent, and of the circuit
only the send buffer has changed. -/
theorem request_of_sent {run : CircuitRun} {request : Request}
    (isOpen : run.circuit.isClosed = false) (sent : (run.request request).1 = none) :
    (run.request request).2.circuit = { run.circuit with sendBuffer := [] } ∧
      (run.request request).2.written =
        run.written ++ run.circuit.sendBuffer ++ request.toBytes := by
  rw [← use_send, SendUse.send, use_of_flush _ isOpen, List.flatten_singleton] at sent ⊢
  dsimp only at sent ⊢
  rw [sent]
  generalize added : run.leave (run.circuit.sendBuffer ++ request.toBytes) = filled at sent ⊢
  have whole : filled.circuit.sendBuffer = run.circuit.sendBuffer ++ request.toBytes := by
    rw [← added]
    rfl
  obtain ⟨all, empty⟩ := SendBuffer.writeFrom_of_done sent
  constructor
  · show ({ filled.circuit with sendBuffer :=
      (SendBuffer.writeOut filled.circuit.sendBuffer filled.writes).buffer } : Circuit) = _
    rw [SendBuffer.writeOut, empty, ← added]
    rfl
  · show filled.writeOut.2.written = _
    rw [written_writeOut, SendBuffer.writeOut, all, whole, ← added, List.append_assoc]
    rfl

/-- Whether a request can be sent is a matter of the send buffer and the socket. -/
theorem error_request {run : CircuitRun} (request : Request)
    (isOpen : run.circuit.isClosed = false) :
    (run.request request).1 =
      (SendBuffer.writeOut (run.circuit.sendBuffer ++ request.toBytes) run.writes).error := by
  rw [← use_send, SendUse.send, use_of_flush _ isOpen, List.flatten_singleton]
  rfl

/-- What a check does to an open circuit that can send an echo: it answers whether the circuit is
still open, and goes by what it found. -/
theorem checkLiveness_spec {run : CircuitRun} (timeout : Duration) (now : Moment)
    (isOpen : run.circuit.isClosed = false) (sends : (run.request .echo).1 = none) :
    let found := run.circuit.liveness.check now timeout
    let checked := run.checkLiveness now timeout
    checked.1 = !checked.2.circuit.isClosed ∧
      (checked.2.circuit.isClosed = true ↔ found.1 = .dead) ∧
      (run.Echoes timeout now ↔ found.1 = .probe) ∧
      (checked.2.circuit.isClosed = false → checked.2.circuit.liveness = found.2) := by
  have notClosed : ¬ run.circuit.isClosed = true := Bool.eq_false_iff.mp isOpen
  have someBytes : Request.echo.toBytes ≠ [] := by decide
  dsimp only
  rw [Echoes]
  generalize isFound : run.circuit.liveness.check now timeout = found
  obtain ⟨verdict, stored⟩ := found
  -- What was found is noted first. Each verdict goes on from there.
  generalize isNoted : ({ run with circuit := { run.circuit with liveness := stored } } :
    CircuitRun) = noted
  have stillOpen : noted.circuit.isClosed = false := by rw [← isNoted]; exact isOpen
  have liveness : noted.circuit.liveness = stored := by rw [← isNoted]
  have written : noted.written = run.written := by rw [← isNoted]; rfl
  cases verdict with
  | quiet =>
    have does : run.checkLiveness now timeout = (true, noted) := by
      rw [checkLiveness, if_neg notClosed, isFound]
      subst isNoted
      rfl
    rw [does]
    simp [stillOpen, liveness, written, someBytes]
  | dead =>
    have does : run.checkLiveness now timeout = (false, noted.close true) := by
      rw [checkLiveness, if_neg notClosed, isFound]
      subst isNoted
      rfl
    have closed := (close_spec noted true).2
    rw [does]
    simp [closed, written_close_of_peerGone, written, someBytes]
  | probe =>
    have does : run.checkLiveness now timeout =
        (!(noted.request .echo).2.circuit.isClosed, (noted.request .echo).2) := by
      rw [checkLiveness, if_neg notClosed, isFound]
      subst isNoted
      rfl
    have sendsNoted : (noted.request .echo).1 = none := by
      rw [error_request _ stillOpen, ← isNoted]
      rwa [error_request _ isOpen] at sends
    obtain ⟨circuit, echoed⟩ := request_of_sent stillOpen sendsNoted
    have buffer : noted.circuit.sendBuffer = run.circuit.sendBuffer := by rw [← isNoted]
    have goesOn : (noted.request .echo).2.circuit.isClosed = false ∧
        (noted.request .echo).2.circuit.liveness = stored := by
      rw [circuit]
      exact ⟨stillOpen, liveness⟩
    rw [does]
    simp [goesOn, echoed, written, buffer]

/-! ## Whatever happens -/

theorem happenAll_concat (timeout : Duration) (start : CircuitRun) (events : List LivenessEvent)
    (last : LivenessEvent) :
    start.happenAll timeout (events ++ [last]) =
      (start.happenAll timeout events).happen timeout last :=
  List.foldl_append

theorem steps_concat (timeout : Duration) (start : CircuitRun) (events : List LivenessEvent)
    (last : LivenessEvent) :
    start.steps timeout (events ++ [last]) =
      start.steps timeout events ++ [⟨start.happenAll timeout events, last⟩] := by
  induction events generalizing start with
  | nil => rfl
  | cons event later ih =>
    rw [List.cons_append, steps, ih]
    rfl

/-- A reception answers every echo. -/
theorem not_unanswered_received {timeout : Duration} {start : CircuitRun}
    {events : List LivenessEvent} {time sent : Moment} :
    ¬ start.Unanswered timeout (events ++ [.received time]) sent := by
  rw [Unanswered, steps_concat, since_concat]
  rintro (⟨isCheck, -⟩ | ⟨-, answers⟩)
  · contradiction
  · exact answers ⟨time, rfl⟩

/-- A check answers none, and may send one. -/
theorem unanswered_checked_iff {timeout : Duration} {start : CircuitRun}
    {events : List LivenessEvent} {time sent : Moment} :
    start.Unanswered timeout (events ++ [.checked time]) sent ↔
      (time = sent ∧ (start.happenAll timeout events).Echoes timeout time) ∨
        start.Unanswered timeout events sent := by
  have noReception : ∀ run, ¬ LivenessStep.IsReception ⟨run, .checked time⟩ := by
    rintro run ⟨other, same⟩
    contradiction
  rw [Unanswered, steps_concat, since_concat, and_iff_left (noReception _), LivenessStep.Echoed,
    LivenessEvent.checked.injEq]
  refine or_congr_left (and_congr_right ?_)
  rintro rfl
  rfl

/-- Nothing that happens opens a closed circuit. -/
theorem isOpen_of_happen {timeout : Duration} {run : CircuitRun} {event : LivenessEvent}
    (isOpen : (run.happen timeout event).circuit.isClosed = false) :
    run.circuit.isClosed = false := by
  cases event with
  | received => exact isOpen
  | checked time =>
    cases closed : run.circuit.isClosed with
    | false => rfl
    | true =>
      rw [happen, checkLiveness, if_pos closed] at isOpen
      exact closed.symm.trans isOpen

end CircuitRun

namespace Liveness

variable {timeout : Duration} {connected : Moment} {start : CircuitRun}
  {events : List LivenessEvent}

/-- A circuit that was just connected counts as heard of. -/
theorem Account.fresh : Account timeout connected start [] (.received connected) where
  heard := .inl rfl
  latest := ⟨Nat.le_refl _, fun _ member => absurd member List.not_mem_nil⟩
  unanswered := fun _ => iff_of_false (fun stored => nomatch stored) not_since_nil
  waited := fun _ stored => nomatch stored

/-- A reception that comes after all else is the latest. -/
theorem Account.received {time : Moment} (sinceConnected : connected ≤ time)
    (inOrder : ∀ event ∈ events, event.time ≤ time) :
    Account timeout connected start (events ++ [.received time]) (.received time) where
  heard := .inr (List.mem_append_right _ List.mem_cons_self)
  latest := by
    refine ⟨sinceConnected, fun other member => ?_⟩
    rcases List.mem_append.mp member with before | isLast
    · exact inOrder _ before
    · obtain rfl := LivenessEvent.received.inj (List.mem_singleton.mp isLast)
      exact Nat.le_refl _
  unanswered := fun _ =>
    iff_of_false (fun stored => nomatch stored) CircuitRun.not_unanswered_received
  waited := fun _ stored => nomatch stored

/-- A check that sends an echo exactly when it finds that one is due keeps the account. -/
theorem Account.checked {liveness : Liveness} {time : Moment}
    (account : Account timeout connected start events liveness)
    (sinceConnected : connected ≤ time) (inOrder : ∀ event ∈ events, event.time ≤ time)
    (echoes : (start.happenAll timeout events).Echoes timeout time ↔
      (liveness.check time timeout).1 = .probe) :
    Account timeout connected start (events ++ [.checked time])
      (liveness.check time timeout).2 := by
  obtain ⟨-, isProbe, after⟩ := check_spec liveness time timeout
  -- Nothing is received by a check.
  have receptions : ∀ other,
      .received other ∈ events ++ [.checked time] ↔ .received other ∈ events := by
    intro other
    simp
  have heard : liveness.lastReceived = connected ∨
      .received liveness.lastReceived ∈ events ++ [.checked time] := by
    rw [receptions]
    exact account.heard
  have latest : connected ≤ liveness.lastReceived ∧ ∀ other,
      .received other ∈ events ++ [.checked time] → other ≤ liveness.lastReceived := by
    simp only [receptions]
    exact account.latest
  rw [after]
  split
  · rename_i probes
    obtain ⟨noEcho, silent⟩ := isProbe.mp probes
    have received : liveness.lastReceived ≤ time := by
      rcases account.heard with isConnected | isReceived
      · rwa [isConnected]
      · exact inOrder _ isReceived
    refine ⟨heard, latest, fun sent => ?_, fun sent stored => ?_⟩
    · have noneBefore : ¬ start.Unanswered timeout events sent := by
        rw [← account.unanswered, noEcho]
        exact fun stored => nomatch stored
      rw [CircuitRun.unanswered_checked_iff, echoes, or_iff_left noneBefore, and_iff_left probes,
        Option.some.injEq]
    · obtain rfl := Option.some.inj stored
      refine ⟨List.mem_append_right _ List.mem_cons_self, ?_⟩
      simp only [Duration.le_def, Duration.nanos_add, Duration.nanos_sub] at received silent ⊢
      omega
  · rename_i passes
    refine ⟨heard, latest, fun sent => ?_, fun sent stored => ?_⟩
    · rw [CircuitRun.unanswered_checked_iff, echoes, account.unanswered]
      exact (or_iff_right fun probes => passes probes.2).symm
    · obtain ⟨member, waited⟩ := account.waited sent stored
      exact ⟨List.mem_append_left _ member, waited⟩

/-- Whatever happens in order to a circuit that was just connected and can send echoes, the account
is kept as long as the circuit is open. -/
theorem account_happenAll (fresh : start.circuit.liveness = .received connected)
    (sends : ∀ step ∈ start.steps timeout events, step.Sends)
    (inOrder : (connected :: events.map LivenessEvent.time).Pairwise (· ≤ ·))
    (isOpen : (start.happenAll timeout events).circuit.isClosed = false) :
    Account timeout connected start events
      (start.happenAll timeout events).circuit.liveness := by
  induction events using List.reverseRecOn with
  | nil =>
    show Account timeout connected start [] start.circuit.liveness
    rw [fresh]
    exact .fresh
  | append_singleton earlier last ih =>
    rw [CircuitRun.steps_concat] at sends
    rw [List.map_append, ← List.cons_append, List.pairwise_append] at inOrder
    obtain ⟨before, -, isLast⟩ := inOrder
    have sinceConnected : connected ≤ last.time :=
      isLast _ List.mem_cons_self _ List.mem_cons_self
    have afterAll : ∀ event ∈ earlier, event.time ≤ last.time := fun event member =>
      isLast _ (List.mem_cons_of_mem _ (List.mem_map_of_mem member)) _ List.mem_cons_self
    rw [CircuitRun.happenAll_concat] at isOpen ⊢
    have wasOpen := CircuitRun.isOpen_of_happen isOpen
    have account := ih (fun step member => sends step (List.mem_append_left _ member)) before
      wasOpen
    cases last with
    | received time => exact .received sinceConnected afterAll
    | checked time =>
      have canSend := sends _ (List.mem_append_right _ List.mem_cons_self) wasOpen
      obtain ⟨-, -, echoes, stored⟩ :=
        CircuitRun.checkLiveness_spec timeout time wasOpen canSend
      rw [CircuitRun.happen, stored isOpen]
      exact account.checked sinceConnected afterAll echoes

end Liveness

/-- **A circuit is closed only after silence.** Things happen in order to a circuit that was just
connected: something is received, or the circuit is checked with some timeout, and sending an echo
does not fail. Then the circuit is checked once more. The check answers no exactly if the circuit
is closed afterwards. It sends an echo exactly if the circuit is open, no echo is unanswered, and
the circuit has been silent for half of the timeout. It closes an open circuit exactly if an echo
was sent a whole timeout ago, and nothing was received since; then the circuit has been silent for
one and a half times the timeout. -/
theorem closed_after_silence {start : CircuitRun} {connected : Moment}
    (fresh : start.circuit.liveness = .received connected) (timeout : Duration)
    (events : List LivenessEvent) (now : Moment)
    (sends : ∀ step ∈ start.steps timeout (events ++ [.checked now]), step.Sends)
    (inOrder : (connected :: (events ++ [LivenessEvent.checked now]).map
      LivenessEvent.time).Pairwise (· ≤ ·)) :
    let before := start.happenAll timeout events
    let checked := before.checkLiveness now timeout
    (checked.1 = false ↔ checked.2.circuit.isClosed = true) ∧
      (before.Echoes timeout now ↔ before.circuit.isClosed = false ∧
        (∀ sent, ¬ start.Unanswered timeout events sent) ∧
          SilentFor connected events now timeout.half) ∧
      (before.circuit.isClosed = false →
        (checked.2.circuit.isClosed = true ↔
          ∃ sent, start.Unanswered timeout events sent ∧ sent + timeout ≤ now) ∧
        (checked.2.circuit.isClosed = true →
          SilentFor connected events now (timeout + timeout.half))) := by
  intro before checked
  rw [CircuitRun.steps_concat] at sends
  rw [List.map_append, ← List.cons_append, List.pairwise_append] at inOrder
  obtain ⟨inOrder, -, isLast⟩ := inOrder
  have sinceConnected : connected ≤ now := isLast _ List.mem_cons_self _ List.mem_cons_self
  have afterAll : ∀ event ∈ events, event.time ≤ now := fun event member =>
    isLast _ (List.mem_cons_of_mem _ (List.mem_map_of_mem member)) _ List.mem_cons_self
  cases phase : before.circuit.isClosed with
  | true =>
    have refuses : checked = (false, before) := by
      show before.checkLiveness now timeout = _
      rw [CircuitRun.checkLiveness, if_pos phase]
    have silent : ¬ before.Echoes timeout now := by
      show ¬ checked.2.written = _
      have someBytes : Request.echo.toBytes ≠ [] := by decide
      simp [refuses, someBytes]
    rw [refuses]
    exact ⟨iff_of_true rfl phase, iff_of_false silent (fun h => nomatch h.1),
      fun isOpen => nomatch isOpen⟩
  | false =>
    have account : Liveness.Account timeout connected start events before.circuit.liveness :=
      Liveness.account_happenAll fresh
        (fun step member => sends step (List.mem_append_left _ member)) inOrder phase
    obtain ⟨answers, closes, echoes, -⟩ := CircuitRun.checkLiveness_spec timeout now phase
      (sends _ (List.mem_append_right _ List.mem_cons_self) phase)
    obtain ⟨isDead, isProbe, -⟩ := Liveness.check_spec before.circuit.liveness now timeout
    have heardBefore : before.circuit.liveness.lastReceived ≤ now := by
      rcases account.heard with isConnected | isReceived
      · rwa [isConnected]
      · exact afterAll _ isReceived
    refine ⟨?_, ?_, fun _ => ⟨?_, fun closed => ?_⟩⟩
    · show checked.1 = false ↔ _
      rw [answers, Bool.not_eq_false']
    · rw [echoes, isProbe, account.silentFor_iff, and_iff_right rfl]
      refine and_congr ?_ ?_
      · simp only [← account.unanswered]
        exact Option.eq_none_iff_forall_ne_some
      · simp only [Duration.le_def, Duration.nanos_add, Duration.nanos_sub] at heardBefore ⊢
        omega
    · rw [closes, isDead]
      refine exists_congr fun sent => ?_
      rw [← account.unanswered]
      refine and_congr_right fun stored => ?_
      have sentBefore : sent ≤ now := afterAll _ (account.waited sent stored).1
      simp only [Duration.le_def, Duration.nanos_add, Duration.nanos_sub] at sentBefore ⊢
      omega
    · obtain ⟨sent, stored, late⟩ := isDead.mp (closes.mp closed)
      obtain ⟨member, waited⟩ := account.waited sent stored
      have sentBefore : sent.nanos ≤ now.nanos := afterAll _ member
      rw [account.silentFor_iff]
      simp only [Duration.le_def, Duration.nanos_add, Duration.nanos_sub] at late waited ⊢
      omega

/-- A circuit whose socket takes an echo in two parts. -/
def haltingCircuit : CircuitRun where
  circuit := .connected ⟨.loopback, 5064⟩ 0 64 .zero
  writes := [.wouldBlock, .wrote 5, .interrupted]

/-- A beacon, three checks, and nothing from the server any more. -/
def lastBeacon : List LivenessEvent :=
  [.received (.ofSeconds 2), .checked (.ofSeconds 6), .checked (.ofSeconds 7),
    .checked (.ofSeconds 16)]

/-- With a timeout of ten seconds the second check sends an echo, the third one waits, and the next
one closes the circuit: its server has been silent for fifteen seconds. -/
theorem closed_after_silence_lastBeacon :
    (∀ step ∈ haltingCircuit.steps (.ofSeconds 10) (lastBeacon ++ [.checked (.ofSeconds 17)]),
        step.Sends) ∧
      ((haltingCircuit.happenAll (.ofSeconds 10) lastBeacon).checkLiveness (.ofSeconds 17)
        (.ofSeconds 10)).2.circuit.isClosed = true ∧
      (∃ sent, haltingCircuit.Unanswered (.ofSeconds 10) lastBeacon sent ∧
        sent + .ofSeconds 10 ≤ Duration.ofSeconds 17) ∧
      SilentFor .zero lastBeacon (.ofSeconds 17) (.ofSeconds 15) := by
  have sends : ∀ step ∈ haltingCircuit.steps (.ofSeconds 10)
      (lastBeacon ++ [.checked (.ofSeconds 17)]), step.Sends := by decide +kernel
  have isOpen : (haltingCircuit.happenAll (.ofSeconds 10) lastBeacon).circuit.isClosed =
      false := by decide +kernel
  have closed : ((haltingCircuit.happenAll (.ofSeconds 10) lastBeacon).checkLiveness
      (.ofSeconds 17) (.ofSeconds 10)).2.circuit.isClosed = true := by decide +kernel
  have fresh : haltingCircuit.circuit.liveness = .received .zero := rfl
  obtain ⟨-, -, closes⟩ :=
    closed_after_silence fresh (.ofSeconds 10) lastBeacon (.ofSeconds 17) sends (by decide)
  obtain ⟨exactly, silent⟩ := closes isOpen
  exact ⟨sends, closed, exactly.mp closed, silent closed⟩

end ChannelAccess
