import ChannelAccess.Proofs.Circuit.Effects
import ChannelAccess.Proofs.History
import Mathlib.Data.List.Nodup
import Mathlib.Logic.Basic

/-!
# Owners of a circuit are told once that it is closed

Clients become owners of a circuit, release it and close it while somebody else may be closing it
already. `OwnedCircuit.step` is one step of one of them, and what became of every acquire and
release is remembered in a history. `owners_told_once` says of every order of steps that the owners
who are told are those whom the history shows when the owners were taken from the circuit, each of
them once, and that the one who closes the circuit comes to an end with it.

A circuit is marked as closed before its owners are taken from it, and nobody becomes an owner of a
marked circuit. So the two halves of the invariant (`OwnerAccount.Sound`) meet where the owners are
taken: before, the owners are those whom the history shows, and afterwards those who were told with
those who are still to be told. What one step can do is said once (`OwnerAccount.Move`), and the
invariants, the account of what is done once and the steps that are left go through its cases.
-/

namespace ChannelAccess

/-! ## Clients and the one who closes -/

/-- How a call that tells an owner ends. -/
inductive CallbackEnd where
  /-- It returns. -/
  | returned
  /-- It panics, which is caught and noted. -/
  | panicked
  deriving DecidableEq, Repr

/-- What can happen to a circuit and its owners. -/
inductive OwnerStep where
  /-- A client asks to be an owner. -/
  | acquire (client : ClientId)
  /-- First half of a release: the client is taken out. -/
  | leave (client : ClientId)
  /-- Second half of a release, if the client was the last owner: it closes the circuit. -/
  | closeUnowned (client : ClientId)
  /-- Somebody closes the circuit, for whatever reason. -/
  | close (peerGone : Bool)
  /-- The one who closes the circuit goes on, and a call that tells an owner ends like this. -/
  | proceed (ending : CallbackEnd)
  deriving DecidableEq, Repr

/-- What is remembered of the owners of a circuit. -/
inductive OwnerRecord where
  /-- A client asked to be an owner, and was told whether it is. -/
  | asked (client : ClientId) (accepted : Bool)
  /-- A client was taken out, if it was an owner. -/
  | left (client : ClientId)
  /-- The owners were taken from the circuit, to be told. -/
  | taken
  deriving DecidableEq, Repr

/-- By a history, a client is an owner: it was accepted and has not left since. -/
def OwnerRecord.Holds (history : List OwnerRecord) (client : ClientId) : Prop :=
  Since (· = .asked client true) (· = .left client) history

/-- The owner that is told, if this is what others see. -/
def CircuitEffect.owner? : CircuitEffect → Option ClientId
  | .told owner => some owner
  | _ => none

/-- A circuit, with those who are about to close it and what happened to its owners. -/
structure OwnedCircuit where
  /-- The circuit. -/
  run : CircuitRun
  /-- Clients that left as the last owner, and have not closed the circuit yet. -/
  leaving : List ClientId := []
  /-- What happened to the owners so far. -/
  history : List OwnerRecord := []
  /-- Owners in whose calls a panic was caught. -/
  failures : List ClientId := []

namespace OwnedCircuit

/-- A circuit to a server, just connected, whose socket does this when it is written to. -/
def connected (server : SocketAddress) (priority : UInt16) (capacity : Nat) (now : Moment)
    (writes : List WriteOutcome) : OwnedCircuit where
  run := { circuit := .connected server priority capacity now, writes }

/-- How far the closing has come. -/
def phase (owned : OwnedCircuit) : ClosePhase := owned.run.circuit.phase

/-- The owners. -/
def owners (owned : OwnedCircuit) : List ClientId := owned.run.circuit.owners

/-- The owners that were told so far, in order. -/
def told (owned : OwnedCircuit) : List ClientId :=
  owned.run.effects.filterMap CircuitEffect.owner?

/-- The circuit in another state. -/
def withCircuit (owned : OwnedCircuit) (circuit : Circuit) : OwnedCircuit :=
  { owned with run := { owned.run with circuit } }

/-- Something more is remembered. -/
def record (owned : OwnedCircuit) (record : OwnerRecord) : OwnedCircuit :=
  { owned with history := owned.history ++ [record] }

/-- A client asks to be an owner. -/
def acquire (owned : OwnedCircuit) (client : ClientId) : OwnedCircuit :=
  let (accepted, circuit) := owned.run.circuit.acquire client
  (owned.withCircuit circuit).record (.asked client accepted)

/-- A client is taken out, and is to close the circuit if it was the last owner. -/
def leave (owned : OwnedCircuit) (client : ClientId) : OwnedCircuit :=
  let (last, circuit) := owned.run.circuit.disown client
  let owned := (owned.withCircuit circuit).record (.left client)
  if last then { owned with leaving := owned.leaving ++ [client] } else owned

/-- Somebody closes the circuit, which is marked as closed unless it is already. -/
def close (owned : OwnedCircuit) (peerGone : Bool) : OwnedCircuit :=
  owned.withCircuit (owned.run.circuit.beginClose peerGone)

/-- The one who closes the circuit takes the next step. -/
def proceed (owned : OwnedCircuit) (ending : CallbackEnd) : OwnedCircuit :=
  let after := { owned with run := owned.run.closeStep }
  match owned.phase, ending with
  | .disowning, _ => after.record .taken
  | .telling (owner :: _), .panicked => { after with failures := after.failures ++ [owner] }
  | _, _ => after

/-- What a step does. Nobody closes the circuit on account of a release that was not the last. -/
def step (owned : OwnedCircuit) : OwnerStep → OwnedCircuit
  | .acquire client => owned.acquire client
  | .leave client => owned.leave client
  | .closeUnowned client =>
    if client ∈ owned.leaving then
      { owned.close false with leaving := owned.leaving.erase client }
    else owned
  | .close peerGone => owned.close peerGone
  | .proceed ending => owned.proceed ending

/-- What some steps do, one after the other. -/
def performAll (owned : OwnedCircuit) (steps : List OwnerStep) : OwnedCircuit :=
  steps.foldl step owned

end OwnedCircuit

/-- The step is one of the one who closes the circuit. -/
def OwnerStep.isProceed : OwnerStep → Bool
  | .proceed _ => true
  | _ => false

/-- What happened until the owners were taken from the circuit. -/
def OwnerRecord.beforeTaken (history : List OwnerRecord) : List OwnerRecord :=
  history.takeWhile (· != .taken)

/-! ## What a history shows -/

namespace OwnerRecord

/-- What happened until the owners were taken ends at the first time they were. -/
theorem beforeTaken_append {earlier later : List OwnerRecord} (untaken : .taken ∉ earlier) :
    beforeTaken (earlier ++ .taken :: later) = earlier := by
  have all : ∀ record ∈ earlier, (record != .taken) = true := by
    intro record member
    refine bne_iff_ne.mpr ?_
    rintro rfl
    exact untaken member
  rw [beforeTaken, List.takeWhile_append_of_pos all]
  exact List.append_nil earlier

end OwnerRecord

/-! ## What a step does to the account -/

/-- What counts of a circuit and its owners. -/
structure OwnerAccount where
  /-- How far the closing has come. -/
  phase : ClosePhase
  /-- The owners. -/
  owners : List ClientId
  /-- What others saw so far. -/
  effects : List CircuitEffect
  /-- What happened to the owners so far. -/
  history : List OwnerRecord

/-- What counts of a circuit. -/
def OwnedCircuit.account (owned : OwnedCircuit) : OwnerAccount where
  phase := owned.run.circuit.phase
  owners := owned.run.circuit.owners
  effects := owned.run.effects
  history := owned.history

namespace OwnerAccount

/-- The owners that were told so far, in order. -/
def told (account : OwnerAccount) : List ClientId :=
  account.effects.filterMap CircuitEffect.owner?

/-- Everything that the one who closes the circuit can do next. -/
inductive Closing (account : OwnerAccount) : OwnerAccount → Prop
  /-- There is nothing to do: the circuit is open, or everything is done. -/
  | rests (resting : account.phase = .isOpen ∨ account.phase = .telling []) :
      Closing account account
  /-- What was left to send is written. -/
  | writes (phase : account.phase = .flushing) (sent : List (List UInt8)) :
      Closing account { account with
        phase := .disconnecting, effects := account.effects ++ sent.map .sent }
  /-- The socket is shut down. -/
  | disconnects (phase : account.phase = .disconnecting) :
      Closing account { account with
        phase := .unregistering, effects := account.effects ++ [.disconnected] }
  /-- The circuit is taken out of the registry. -/
  | unregisters (phase : account.phase = .unregistering) :
      Closing account { account with
        phase := .disowning, effects := account.effects ++ [.unregistered] }
  /-- The owners are taken from the circuit. -/
  | takes (phase : account.phase = .disowning) :
      Closing account { account with
        phase := .telling account.owners, owners := [], history := account.history ++ [.taken] }
  /-- An owner is told, and what becomes of the call makes no difference. -/
  | tells (owner : ClientId) (left : List ClientId)
      (phase : account.phase = .telling (owner :: left)) :
      Closing account { account with
        phase := .telling left, effects := account.effects ++ [.told owner] }

/-- Everything that a step can do. -/
inductive Move (account : OwnerAccount) : OwnerAccount → Prop
  /-- It is of no account. -/
  | idles : Move account account
  /-- A client becomes an owner of an open circuit. -/
  | joins (client : ClientId) (isOpen : account.phase = .isOpen) (fresh : client ∉ account.owners) :
      Move account { account with
        owners := account.owners ++ [client]
        history := account.history ++ [.asked client true] }
  /-- An owner of an open circuit asks again. -/
  | rejoins (client : ClientId) (isOpen : account.phase = .isOpen) (old : client ∈ account.owners) :
      Move account { account with history := account.history ++ [.asked client true] }
  /-- A closed circuit refuses a client. -/
  | refuses (client : ClientId) (closed : account.phase ≠ .isOpen) :
      Move account { account with history := account.history ++ [.asked client false] }
  /-- A client is taken out. -/
  | leaves (client : ClientId) :
      Move account { account with
        owners := account.owners.filter (· != client)
        history := account.history ++ [.left client] }
  /-- An open circuit is marked as closed. -/
  | marks (isOpen : account.phase = .isOpen) (peerGone : Bool) :
      Move account { account with phase := if peerGone then .disconnecting else .flushing }
  /-- The one who closes the circuit goes on. -/
  | closes {after : OwnerAccount} (closing : Closing account after) : Move account after

end OwnerAccount

namespace OwnedCircuit

open OwnerAccount

/-- A client asks an open circuit, and becomes an owner, or one that is closed, which refuses. -/
theorem move_acquire (owned : OwnedCircuit) (client : ClientId) :
    Move owned.account (owned.acquire client).account := by
  unfold acquire Circuit.acquire
  by_cases closed : owned.run.circuit.isClosed = true
  · rw [if_pos closed]
    exact .refuses client (bne_iff_ne.mp closed)
  have isOpen : owned.run.circuit.phase = .isOpen :=
    Classical.byContradiction fun other => closed (bne_iff_ne.mpr other)
  rw [if_neg closed]
  by_cases old : client ∈ owned.run.circuit.owners
  · rw [if_pos (List.contains_iff_mem.mpr old)]
    exact .rejoins client isOpen old
  · rw [if_neg (mt List.contains_iff_mem.mp old)]
    exact .joins client isOpen old

/-- Whoever leaves is taken out, whether or not the circuit is to be closed then. -/
theorem move_leave (owned : OwnedCircuit) (client : ClientId) :
    Move owned.account (owned.leave client).account := by
  have account : (owned.leave client).account = { owned.account with
      owners := owned.account.owners.filter (· != client)
      history := owned.account.history ++ [.left client] } := by
    unfold leave Circuit.disown
    dsimp only
    split <;> rfl
  rw [account]
  exact .leaves client

/-- Only the first of those who close a circuit marks it. -/
theorem move_close (owned : OwnedCircuit) (peerGone : Bool) :
    Move owned.account (owned.close peerGone).account := by
  unfold close Circuit.beginClose
  by_cases closed : owned.run.circuit.isClosed = true
  · rw [if_pos closed]
    exact .idles
  · rw [if_neg closed]
    refine .marks ?_ peerGone
    exact Classical.byContradiction fun other => closed (bne_iff_ne.mpr other)

/-- What others see of the send buffer being written is bytes that are sent. -/
theorem effects_writeOut (run : CircuitRun) :
    ∃ sent : List (List UInt8), run.writeOut.2.effects = run.effects ++ sent.map .sent := by
  unfold CircuitRun.writeOut
  dsimp only
  split
  · exact ⟨[], (List.append_nil _).symm⟩
  · exact ⟨[_], rfl⟩

/-- The one who closes the circuit goes on to the next phase. -/
theorem closing_proceed (owned : OwnedCircuit) (ending : CallbackEnd) :
    Closing owned.account (owned.proceed ending).account := by
  unfold proceed OwnedCircuit.phase CircuitRun.closeStep
  dsimp only
  cases phase : owned.run.circuit.phase with
  | isOpen => exact .rests (.inl phase)
  | flushing =>
    obtain ⟨sent, effects⟩ := effects_writeOut owned.run
    have account : Closing owned.account _ := .writes phase sent
    rw [show owned.account.effects = owned.run.effects from rfl, ← effects] at account
    exact account
  | disconnecting => exact .disconnects phase
  | unregistering => exact .unregisters phase
  | disowning => exact .takes phase
  | telling left =>
    cases left with
    | nil => exact .rests (.inr phase)
    | cons owner left =>
      -- A panic is noted beside the account.
      cases ending <;> exact .tells owner left phase

/-- Nothing else happens to the account of a circuit. -/
theorem move_step (owned : OwnedCircuit) (step : OwnerStep) :
    Move owned.account (owned.step step).account := by
  cases step with
  | acquire client => exact move_acquire owned client
  | leave client => exact move_leave owned client
  | closeUnowned client =>
    unfold OwnedCircuit.step
    dsimp only
    split
    · exact move_close owned false
    · exact .idles
  | close peerGone => exact move_close owned peerGone
  | proceed ending => exact .closes (closing_proceed owned ending)

end OwnedCircuit

/-! ## Steps keep the invariant -/

namespace OwnerAccount

/-- The owners are accounted for. Until they are taken from the circuit they are those whom the
history shows. Afterwards those who were told, with those who are still to be told, are the ones
whom the history showed then, and nobody has become an owner since. -/
inductive Sound (account : OwnerAccount) : Prop where
  /-- The owners were not taken yet. -/
  | before (phase : ∀ left, account.phase ≠ .telling left) (distinct : account.owners.Nodup)
      (held : ∀ client, client ∈ account.owners ↔ OwnerRecord.Holds account.history client)
      (untaken : .taken ∉ account.history) (nobody : account.told = [])
  /-- The owners were taken, and these are still to be told. -/
  | after (left : List ClientId) (earlier later : List OwnerRecord)
      (phase : account.phase = .telling left)
      (history : account.history = earlier ++ .taken :: later) (untaken : .taken ∉ earlier)
      (refused : ∀ client, .asked client true ∉ later) (distinct : (account.told ++ left).Nodup)
      (held : ∀ client, client ∈ account.told ++ left ↔ OwnerRecord.Holds earlier client)

/-- Before anything happened nobody is an owner. -/
theorem Sound.connected (server : SocketAddress) (priority : UInt16) (capacity : Nat)
    (now : Moment) (writes : List WriteOutcome) :
    (OwnedCircuit.connected server priority capacity now writes).account.Sound := by
  refine .before (fun left => ClosePhase.noConfusion) List.nodup_nil (fun client => ?_)
    List.not_mem_nil rfl
  exact iff_of_false List.not_mem_nil not_since_nil

/-- After the owners were taken, anything may happen that is no new owner. -/
theorem Sound.record_after {account : OwnerAccount} {left : List ClientId}
    (sound : account.Sound) (phase : account.phase = .telling left) (owners : List ClientId)
    {record : OwnerRecord} (refused : ∀ client, record ≠ .asked client true) :
    Sound { account with owners, history := account.history ++ [record] } := by
  cases sound with
  | before notYet => exact absurd phase (notYet left)
  | after left earlier later phase history untaken refusedEarlier distinct held =>
    refine .after left earlier (later ++ [record]) phase ?_ untaken ?_ distinct held
    · show account.history ++ [record] = _
      rw [history, List.append_assoc, List.cons_append]
    · intro client
      rw [List.mem_append, List.mem_singleton, not_or]
      exact ⟨refusedEarlier client, (refused client).symm⟩

/-- What others see besides only adds to those who were told. -/
theorem told_append (account : OwnerAccount) (phase : ClosePhase) (owners : List ClientId)
    (effects : List CircuitEffect) (history : List OwnerRecord) :
    told ⟨phase, owners, account.effects ++ effects, history⟩ =
      account.told ++ effects.filterMap CircuitEffect.owner? :=
  List.filterMap_append

/-- Before the owners are taken, the closing may come further as long as nobody is told. -/
theorem Sound.act {account : OwnerAccount} (sound : account.Sound)
    (before : ∀ left, account.phase ≠ .telling left) {phase : ClosePhase}
    (still : ∀ left, phase ≠ .telling left) {effects : List CircuitEffect}
    (silent : effects.filterMap CircuitEffect.owner? = []) :
    Sound { account with phase, effects := account.effects ++ effects } := by
  cases sound with
  | before _ distinct held untaken nobody =>
    refine .before still distinct held untaken ?_
    rw [told_append, nobody, silent, List.append_nil]
  | after left _ _ phase => exact absurd phase (before left)

/-- Until the owners are taken, the next record about them decides who holds the circuit. -/
theorem Sound.record_before {account : OwnerAccount} (sound : account.Sound)
    (before : ∀ left, account.phase ≠ .telling left) {owners : List ClientId}
    (distinct : account.owners.Nodup → owners.Nodup) {record : OwnerRecord}
    (once : record ≠ .taken)
    (held : ∀ client, client ∈ owners ↔
      record = .asked client true ∨ client ∈ account.owners ∧ record ≠ .left client) :
    Sound { account with owners, history := account.history ++ [record] } := by
  cases sound with
  | before _ wasDistinct wasHeld untaken nobody =>
    refine .before before (distinct wasDistinct) (fun client => ?_) ?_ nobody
    · rw [OwnerRecord.Holds, since_concat, ← OwnerRecord.Holds, ← wasHeld client]
      exact held client
    · rw [List.mem_append, List.mem_singleton, not_or]
      exact ⟨untaken, once.symm⟩
  | after left _ _ phase => exact absurd phase (before left)

/-- The one who closes the circuit keeps the account. -/
theorem Sound.closing {account after : OwnerAccount} (sound : account.Sound)
    (closing : Closing account after) : after.Sound := by
  cases closing with
  | rests => exact sound
  | writes phase sent =>
    refine sound.act (by rw [phase]; exact fun _ => ClosePhase.noConfusion)
      (fun _ => ClosePhase.noConfusion) ?_
    rw [List.filterMap_map]
    exact List.filterMap_eq_nil_iff.mpr fun _ _ => rfl
  | disconnects phase =>
    exact sound.act (by rw [phase]; exact fun _ => ClosePhase.noConfusion)
      (fun _ => ClosePhase.noConfusion) rfl
  | unregisters phase =>
    exact sound.act (by rw [phase]; exact fun _ => ClosePhase.noConfusion)
      (fun _ => ClosePhase.noConfusion) rfl
  | takes phase =>
    cases sound with
    | before _ distinct held untaken nobody =>
      have none : told { account with
          phase := .telling account.owners, owners := [],
          history := account.history ++ [.taken] } = [] := nobody
      refine .after account.owners account.history [] rfl rfl untaken
        (fun _ => List.not_mem_nil) ?_ fun client => ?_
      · rwa [none, List.nil_append]
      · rw [none, List.nil_append]
        exact held client
    | after left _ _ telling => exact absurd (phase.symm.trans telling) ClosePhase.noConfusion
  | tells owner left phase =>
    cases sound with
    | before notYet => exact absurd phase (notYet _)
    | after toTell earlier later telling history untaken refused distinct held =>
      obtain rfl : owner :: left = toTell := ClosePhase.telling.inj (phase.symm.trans telling)
      -- Whoever is told moves from those to be told to those who were.
      have moved : told { account with
          phase := .telling left, effects := account.effects ++ [.told owner] } ++ left =
          account.told ++ owner :: left := by
        rw [told_append, List.append_assoc]
        rfl
      refine .after left earlier later rfl history untaken refused ?_ fun client => ?_
      · rwa [moved]
      · rw [moved]
        exact held client

/-- Every step keeps the account. -/
theorem Sound.move {account after : OwnerAccount} (sound : account.Sound)
    (move : Move account after) : after.Sound := by
  have notTelling : account.phase = .isOpen → ∀ left, account.phase ≠ .telling left := by
    intro isOpen left telling
    exact ClosePhase.noConfusion (isOpen.symm.trans telling)
  cases move with
  | idles => exact sound
  | joins client isOpen fresh =>
    refine sound.record_before (notTelling isOpen) (fun distinct => ?_) OwnerRecord.noConfusion
      fun other => ?_
    · rw [← List.concat_eq_append]
      exact distinct.concat fresh
    · simp only [List.mem_append, List.mem_singleton, OwnerRecord.asked.injEq, and_true, ne_eq,
        reduceCtorEq, not_false_eq_true]
      rw [or_comm, eq_comm]
  | rejoins client isOpen old =>
    refine sound.record_before (notTelling isOpen) id OwnerRecord.noConfusion fun other => ?_
    simp only [OwnerRecord.asked.injEq, and_true, ne_eq, reduceCtorEq, not_false_eq_true]
    refine (or_iff_right_of_imp ?_).symm
    rintro rfl
    exact old
  | refuses client closed =>
    by_cases telling : ∃ left, account.phase = .telling left
    · obtain ⟨left, phase⟩ := telling
      exact sound.record_after phase account.owners (by simp)
    · refine sound.record_before (not_exists.mp telling) id OwnerRecord.noConfusion fun other => ?_
      simp
  | leaves client =>
    by_cases telling : ∃ left, account.phase = .telling left
    · obtain ⟨left, phase⟩ := telling
      exact sound.record_after phase _ fun _ => OwnerRecord.noConfusion
    · refine sound.record_before (not_exists.mp telling) (fun distinct => distinct.filter _)
        OwnerRecord.noConfusion fun other => ?_
      simp only [List.mem_filter, bne_iff_ne, ne_eq, reduceCtorEq, false_or,
        OwnerRecord.left.injEq]
      rw [@eq_comm _ other client]
  | marks isOpen peerGone =>
    have still : ∀ left, (if peerGone then ClosePhase.disconnecting else .flushing) ≠
        .telling left := by
      cases peerGone <;> exact fun _ => ClosePhase.noConfusion
    have silent : ([] : List CircuitEffect).filterMap CircuitEffect.owner? = [] := rfl
    have marked := sound.act (notTelling isOpen) still silent
    rwa [List.append_nil] at marked
  | closes closing => exact sound.closing closing

/-- Nobody is told twice. -/
theorem Sound.told_nodup {account : OwnerAccount} (sound : account.Sound) : account.told.Nodup := by
  cases sound with
  | before _ _ _ _ nobody =>
    rw [nobody]
    exact List.nodup_nil
  | after _ _ _ _ _ _ _ distinct => exact (List.nodup_append.mp distinct).1

/-- Whoever is told was an owner when the owners were taken. -/
theorem Sound.holds_of_told {account : OwnerAccount} (sound : account.Sound) {client : ClientId}
    (told : client ∈ account.told) :
    .taken ∈ account.history ∧
      OwnerRecord.Holds (OwnerRecord.beforeTaken account.history) client := by
  cases sound with
  | before _ _ _ _ nobody =>
    rw [nobody] at told
    exact absurd told List.not_mem_nil
  | after left earlier later _ history untaken _ _ held =>
    rw [history, OwnerRecord.beforeTaken_append untaken]
    exact ⟨List.mem_append_right _ List.mem_cons_self,
      (held client).mp (List.mem_append_left _ told)⟩

/-- When the closing is done, whoever was an owner when the owners were taken was told. -/
theorem Sound.told_of_holds {account : OwnerAccount} (sound : account.Sound)
    (done : account.phase = .telling []) {client : ClientId}
    (holds : OwnerRecord.Holds (OwnerRecord.beforeTaken account.history) client) :
    client ∈ account.told := by
  cases sound with
  | before notYet => exact absurd done (notYet [])
  | after left earlier later phase history untaken _ _ held =>
    obtain rfl : left = [] := ClosePhase.telling.inj (phase.symm.trans done)
    rw [history, OwnerRecord.beforeTaken_append untaken] at holds
    have member := (held client).mpr holds
    rwa [List.append_nil] at member

/-- No client becomes an owner after the owners were taken. -/
theorem Sound.refused {account : OwnerAccount} (sound : account.Sound)
    {earlier later : List OwnerRecord} (history : account.history = earlier ++ .taken :: later)
    (client : ClientId) : .asked client true ∉ later := by
  cases sound with
  | before _ _ _ untaken =>
    rw [history] at untaken
    exact absurd (List.mem_append_right _ List.mem_cons_self) untaken
  | after _ first rest _ firstTaken untaken refused =>
    -- What follows any time the owners are taken follows the first time, too.
    have suffix : ∀ record ∈ later, record ∈ rest := by
      intro record member
      rcases List.append_eq_append_iff.mp (history.symm.trans firstTaken) with
        ⟨gap, isFirst, isLater⟩ | ⟨gap, -, isRest⟩
      · cases gap with
        | nil => exact List.cons.inj isLater |>.2 ▸ member
        | cons _ gap =>
          obtain ⟨rfl, -⟩ := List.cons.inj isLater
          rw [isFirst] at untaken
          exact absurd (List.mem_append_right _ List.mem_cons_self) untaken
      · cases gap with
        | nil => exact List.cons.inj isRest |>.2 ▸ member
        | cons _ gap =>
          rw [(List.cons.inj isRest).2]
          exact List.mem_append_right _ (List.mem_cons_of_mem _ member)
    exact fun member => refused client (suffix _ member)

/-! ## The socket and the registry -/

/-- The invariant for what is done on the way: the socket is shut down when the closing comes past
`disconnecting`, and the circuit is taken out of the registry when it comes past `unregistering`. -/
structure ActedOnce (account : OwnerAccount) : Prop where
  /-- How often the socket was shut down. -/
  disconnected : account.effects.count .disconnected =
    match account.phase with
    | .isOpen | .flushing | .disconnecting => 0
    | _ => 1
  /-- How often the circuit was taken out of the registry. -/
  unregistered : account.effects.count .unregistered =
    match account.phase with
    | .isOpen | .flushing | .disconnecting | .unregistering => 0
    | _ => 1

/-- Every step keeps that. -/
theorem ActedOnce.move {account after : OwnerAccount} (acted : account.ActedOnce)
    (move : Move account after) : after.ActedOnce := by
  obtain ⟨disconnected, unregistered⟩ := acted
  cases move with
  | idles | joins | rejoins | refuses | leaves => exact ⟨disconnected, unregistered⟩
  | marks isOpen peerGone =>
    rw [isOpen] at disconnected unregistered
    cases peerGone <;> exact ⟨disconnected, unregistered⟩
  | closes closing =>
    cases closing with
    | rests => exact ⟨disconnected, unregistered⟩
    | writes phase sent =>
      rw [phase] at disconnected unregistered
      have other : ∀ {effect}, (∀ bytes, effect ≠ .sent bytes) →
          (sent.map CircuitEffect.sent).count effect = 0 := by
        intro effect other
        refine List.count_eq_zero.mpr fun member => ?_
        obtain ⟨bytes, -, same⟩ := List.mem_map.mp member
        exact other bytes same.symm
      constructor
      · rw [List.count_append, disconnected, other fun _ => CircuitEffect.noConfusion]
      · rw [List.count_append, unregistered, other fun _ => CircuitEffect.noConfusion]
    | disconnects phase | unregisters phase | tells _ _ phase =>
      rw [phase] at disconnected unregistered
      constructor
      · rw [List.count_append, disconnected]
        rfl
      · rw [List.count_append, unregistered]
        rfl
    | takes phase =>
      rw [phase] at disconnected unregistered
      exact ⟨disconnected, unregistered⟩

/-! ## The closing comes to an end -/

/-- How many steps the one who closes the circuit has to take yet. -/
def stepsLeft (account : OwnerAccount) : Nat :=
  match account.phase with
  | .isOpen => 0
  | .flushing => 4 + account.owners.length
  | .disconnecting => 3 + account.owners.length
  | .unregistering => 2 + account.owners.length
  | .disowning => 1 + account.owners.length
  | .telling left => left.length

/-- The one who closes the circuit comes closer to the end with every step. -/
theorem stepsLeft_closing {account after : OwnerAccount} (closing : Closing account after) :
    after.stepsLeft ≤ account.stepsLeft - 1 := by
  unfold stepsLeft
  cases closing with
  | rests resting => rcases resting with phase | phase <;> rw [phase] <;> exact Nat.le_refl 0
  | writes phase | disconnects phase | unregisters phase | takes phase | tells _ _ phase =>
    rw [phase]
    dsimp only [List.length_cons]
    omega

/-- A circuit that is closed stays so, and nobody who uses it makes the closing take longer. -/
theorem stepsLeft_move {account after : OwnerAccount} (closed : account.phase ≠ .isOpen)
    (move : Move account after) :
    after.phase ≠ .isOpen ∧ after.stepsLeft ≤ account.stepsLeft := by
  cases move with
  | idles | refuses => exact ⟨closed, Nat.le_refl _⟩
  | joins _ isOpen | rejoins _ isOpen | marks isOpen => exact absurd isOpen closed
  | leaves client =>
    have fewer : (account.owners.filter (· != client)).length ≤ account.owners.length :=
      List.length_filter_le _ _
    refine ⟨closed, ?_⟩
    unfold stepsLeft
    cases account.phase <;> dsimp only <;> omega
  | closes closing =>
    refine ⟨?_, Nat.le_trans (stepsLeft_closing closing) (Nat.sub_le _ _)⟩
    cases closing with
    | rests => exact closed
    | _ => exact ClosePhase.noConfusion

/-- Nothing is left to do when every owner was told. -/
theorem finished_of_stepsLeft {account : OwnerAccount} (closed : account.phase ≠ .isOpen)
    (done : account.stepsLeft = 0) : account.phase = .telling [] := by
  unfold stepsLeft at done
  cases phase : account.phase with
  | isOpen => exact absurd phase closed
  | flushing | disconnecting | unregistering | disowning =>
    rw [phase] at done
    dsimp only at done
    omega
  | telling left =>
    rw [phase] at done
    rw [List.length_eq_zero_iff.mp done]

end OwnerAccount

/-! ## Whole runs -/

namespace OwnedCircuit

/-- What every step keeps, every run keeps. -/
theorem performAll_induction {motive : OwnedCircuit → Prop}
    (steps : ∀ owned step, motive owned → motive (owned.step step)) {owned : OwnedCircuit}
    (start : motive owned) (later : List OwnerStep) : motive (owned.performAll later) := by
  induction later generalizing owned with
  | nil => exact start
  | cons step later ih => exact ih (steps owned step start)

/-- A circuit that is closed by one who is not interrupted is closed by the same steps. -/
theorem run_performAll_close {owned : OwnedCircuit} (isOpen : owned.phase = .isOpen)
    (peerGone : Bool) :
    (owned.performAll (.close peerGone ::
      List.replicate (4 + owned.owners.length) (.proceed .returned))).run =
      owned.run.close peerGone := by
  have proceeds : ∀ (count : Nat) (owned : OwnedCircuit),
      (owned.performAll (List.replicate count (.proceed .returned))).run =
        owned.run.closeSteps count := by
    intro count
    induction count with
    | zero => exact fun _ => rfl
    | succ count ih =>
      intro owned
      have next : (owned.proceed .returned).run = owned.run.closeStep := by
        unfold proceed
        split <;> rfl
      rw [List.replicate_succ, CircuitRun.closeSteps, ← next]
      exact ih _
  have notClosed : ¬ owned.run.circuit.isClosed = true :=
    fun closed => bne_iff_ne.mp closed isOpen
  have marked : (owned.run.circuit.beginClose peerGone).owners = owned.owners := by
    rw [Circuit.beginClose, if_neg notClosed]
    rfl
  rw [CircuitRun.close, if_neg notClosed]
  dsimp only
  rw [marked]
  exact proceeds _ _

/-- A closed circuit comes to its end when the one who closes it takes the steps that are left,
whatever the clients do meanwhile. -/
theorem finished_of_proceeds {owned : OwnedCircuit} (closed : owned.phase ≠ .isOpen)
    (later : List OwnerStep) (enough : owned.account.stepsLeft ≤ later.countP OwnerStep.isProceed) :
    (owned.performAll later).phase = .telling [] := by
  induction later generalizing owned with
  | nil => exact OwnerAccount.finished_of_stepsLeft closed (Nat.le_zero.mp enough)
  | cons step later ih =>
    obtain ⟨stillClosed, noMore⟩ := OwnerAccount.stepsLeft_move closed (move_step owned step)
    refine ih stillClosed ?_
    cases step with
    | proceed ending =>
      have fewer := OwnerAccount.stepsLeft_closing (closing_proceed owned ending)
      rw [List.countP_cons_of_pos rfl] at enough
      exact Nat.le_trans fewer (Nat.sub_le_of_le_add enough)
    | acquire | leave | closeUnowned | close =>
      rw [List.countP_cons_of_neg Bool.false_ne_true] at enough
      exact Nat.le_trans noMore enough

/-- Whoever closes a circuit leaves it marked as closed. -/
theorem not_isOpen_close (owned : OwnedCircuit) (peerGone : Bool) :
    (owned.close peerGone).phase ≠ .isOpen :=
  bne_iff_ne.mp (CircuitRun.isClosed_beginClose owned.run.circuit peerGone)

theorem not_isOpen_closeUnowned {owned : OwnedCircuit} {client : ClientId}
    (leaves : client ∈ owned.leaving) : (owned.step (.closeUnowned client)).phase ≠ .isOpen := by
  rw [step, if_pos leaves]
  exact owned.not_isOpen_close false

/-- **Owners are told exactly once.** Whatever clients do to a circuit that was just connected, in
whatever order with the steps of those who close it, and however the calls end:
* nobody is told twice, and whoever is told was an owner when the owners were taken,
* when the closing is done, whoever was an owner then was told once,
* no client becomes an owner after that,
* the socket is shut down and the circuit is taken out of the registry once at most, and once when
  the closing is done,
* a circuit is closed once somebody closes it, the last owner to leave included, and comes to this
  end with the steps that are left to the one who closes it. -/
theorem owners_told_once (server : SocketAddress) (priority : UInt16) (capacity : Nat)
    (now : Moment) (writes : List WriteOutcome) (steps : List OwnerStep) :
    let owned := (connected server priority capacity now writes).performAll steps
    (∀ client, owned.told.count client ≤ 1) ∧
    (∀ client ∈ owned.told, .taken ∈ owned.history ∧
      OwnerRecord.Holds (OwnerRecord.beforeTaken owned.history) client) ∧
    (owned.phase = .telling [] → ∀ client,
      OwnerRecord.Holds (OwnerRecord.beforeTaken owned.history) client →
        owned.told.count client = 1) ∧
    (∀ earlier later, owned.history = earlier ++ .taken :: later →
      ∀ client, .asked client true ∉ later) ∧
    owned.run.effects.count .disconnected ≤ 1 ∧ owned.run.effects.count .unregistered ≤ 1 ∧
    (owned.phase = .telling [] →
      owned.run.effects.count .disconnected = 1 ∧ owned.run.effects.count .unregistered = 1) ∧
    (∀ peerGone, (owned.step (.close peerGone)).phase ≠ .isOpen) ∧
    (∀ client ∈ owned.leaving, (owned.step (.closeUnowned client)).phase ≠ .isOpen) ∧
    (owned.phase ≠ .isOpen → ∀ later : List OwnerStep,
      owned.account.stepsLeft ≤ later.countP OwnerStep.isProceed →
        (owned.performAll later).phase = .telling []) := by
  intro owned
  have sound : owned.account.Sound := by
    refine performAll_induction (motive := fun owned => owned.account.Sound) ?_
      (OwnerAccount.Sound.connected server priority capacity now writes) steps
    exact fun owned step sound => sound.move (move_step owned step)
  have acted : owned.account.ActedOnce := by
    refine performAll_induction (motive := fun owned => owned.account.ActedOnce) ?_
      ⟨rfl, rfl⟩ steps
    exact fun owned step acted => acted.move (move_step owned step)
  have disconnected : owned.run.effects.count .disconnected = _ := acted.disconnected
  have unregistered : owned.run.effects.count .unregistered = _ := acted.unregistered
  refine ⟨?_, fun client told => sound.holds_of_told told, ?_, ?_, ?_, ?_, ?_,
    fun peerGone => owned.not_isOpen_close peerGone, fun client => not_isOpen_closeUnowned,
    finished_of_proceeds⟩
  · exact fun client => List.nodup_iff_count_le_one.mp sound.told_nodup client
  · intro done client holds
    exact List.count_eq_one_of_mem sound.told_nodup (sound.told_of_holds done holds)
  · exact fun earlier later history client => sound.refused history client
  · rw [disconnected]
    split <;> decide
  · rw [unregistered]
    split <;> decide
  · intro done
    rw [disconnected, unregistered, show owned.account.phase = .telling [] from done]
    exact ⟨rfl, rfl⟩

end OwnedCircuit

end ChannelAccess
