import ChannelAccess.Proofs.Circuit.Ownership
import Mathlib.Data.List.Induction

/-!
# What happens within a release

A client that releases a circuit is taken out first, and closes the circuit afterwards if it was the
only owner. Between the two the circuit is open and has no owner, so another client can become one.
`closedUnder_iff_overtakes` says that this is the one way in which a release closes a circuit under
an owner: whoever owns the circuit when the second half of a release closes it has become an owner
within that release. `closedUnder_acquireWithinRelease` is a run in which this happens.

The proof goes from the end of the run back to its steps. A circuit that is open at the end was open
all the time. So everybody who asked became an owner (`mem_owners_iff`), and no release was carried
to its end, whose second half would have closed the circuit (`mem_leaving_iff`).
-/

namespace ChannelAccess

namespace OwnerAccount

variable {account after : OwnerAccount} {owner : ClientId}

/-- A client that holds a circuit which is closed held it before the last step. -/
theorem holds_of_move (closed : account.phase ≠ .isOpen) (move : Move account after)
    (holds : OwnerRecord.Holds after.history owner) :
    OwnerRecord.Holds account.history owner := by
  have earlier : ∀ {record}, record ≠ .asked owner true →
      OwnerRecord.Holds (account.history ++ [record]) owner →
        OwnerRecord.Holds account.history owner :=
    fun notAccepted holds => ((since_concat.mp holds).resolve_left notAccepted).1
  cases move with
  | idles | marks => exact holds
  | joins _ isOpen | rejoins _ isOpen => exact absurd isOpen closed
  | refuses client => exact earlier (by simp) holds
  | leaves client => exact earlier OwnerRecord.noConfusion holds
  | closes closing =>
    cases closing with
    | takes => exact earlier OwnerRecord.noConfusion holds
    | _ => exact holds

/-- The owners of an open circuit are those whom the history shows. -/
theorem Sound.held (sound : account.Sound) (isOpen : account.phase = .isOpen) :
    owner ∈ account.owners ↔ OwnerRecord.Holds account.history owner := by
  cases sound with
  | before _ _ held => exact held owner
  | after _ _ _ telling => exact absurd (isOpen.symm.trans telling) ClosePhase.noConfusion

end OwnerAccount

namespace OwnedCircuit

/-- A client is the one owner of the circuit. -/
def OwnedBy (owned : OwnedCircuit) (client : ClientId) : Prop :=
  ∀ other, other ∈ owned.owners ↔ other = client

/-- The second half of some release closes the circuit while this client owns it. -/
def ClosedUnder (start : OwnedCircuit) (steps : List OwnerStep) (owner : ClientId) : Prop :=
  ∃ earlier client later, steps = earlier ++ .closeUnowned client :: later ∧
    (start.performAll earlier).phase = .isOpen ∧
    ((start.performAll earlier).step (.closeUnowned client)).phase ≠ .isOpen ∧
    owner ∈ (start.performAll earlier).owners

/-- This client becomes an owner within the release of the one owner, between the two halves, and is
still one when the second half comes. Nobody else has closed the circuit by then. -/
def Overtakes (start : OwnedCircuit) (steps : List OwnerStep) (owner : ClientId) : Prop :=
  ∃ earlier client between later,
    steps = (earlier ++ .leave client :: between) ++ .closeUnowned client :: later ∧
    (start.performAll earlier).OwnedBy client ∧
    (start.performAll (earlier ++ .leave client :: between)).phase = .isOpen ∧
    Since (· = .acquire owner) (· = .leave owner) between

/-! ## One step -/

theorem performAll_append (start : OwnedCircuit) (earlier later : List OwnerStep) :
    start.performAll (earlier ++ later) = (start.performAll earlier).performAll later :=
  List.foldl_append

theorem performAll_concat (start : OwnedCircuit) (earlier : List OwnerStep) (last : OwnerStep) :
    start.performAll (earlier ++ [last]) = (start.performAll earlier).step last :=
  performAll_append start earlier [last]

/-- A circuit that is open was open before. -/
theorem isOpen_of_step {owned : OwnedCircuit} {step : OwnerStep}
    (isOpen : (owned.step step).phase = .isOpen) : owned.phase = .isOpen := by
  by_contra closed
  exact (OwnerAccount.stepsLeft_move closed (move_step owned step)).1 isOpen

theorem not_isClosed {owned : OwnedCircuit} (isOpen : owned.phase = .isOpen) :
    ¬ owned.run.circuit.isClosed = true :=
  fun closed => bne_iff_ne.mp closed isOpen

/-- Whoever asks an open circuit is an owner then, besides those who are already. -/
theorem mem_owners_acquire {owned : OwnedCircuit} (isOpen : owned.phase = .isOpen)
    (client owner : ClientId) :
    owner ∈ (owned.acquire client).owners ↔ client = owner ∨ owner ∈ owned.owners := by
  unfold acquire Circuit.acquire
  rw [if_neg (not_isClosed isOpen)]
  by_cases old : client ∈ owned.run.circuit.owners
  · rw [if_pos (List.contains_iff_mem.mpr old)]
    refine (or_iff_right_of_imp ?_).symm
    rintro rfl
    exact old
  · rw [if_neg (mt List.contains_iff_mem.mp old)]
    show owner ∈ owned.run.circuit.owners ++ [client] ↔ _
    rw [List.mem_append, List.mem_singleton, or_comm, eq_comm]
    rfl

/-- Whoever leaves is no owner then, and is to close the circuit if nobody else is. -/
theorem leave_spec (owned : OwnedCircuit) (client : ClientId) :
    (owned.leave client).owners = owned.owners.filter (· != client) ∧
      ∀ other, other ∈ (owned.leave client).leaving ↔
        client = other ∧ owned.OwnedBy client ∨ other ∈ owned.leaving := by
  have last : (owned.run.circuit.disown client).1 = true ↔ owned.OwnedBy client := by
    simp only [Circuit.disown, Bool.and_eq_true, List.contains_iff_mem, List.isEmpty_iff,
      List.filter_eq_nil_iff, bne_iff_ne, ne_eq, not_not]
    constructor
    · rintro ⟨isOwner, only⟩ other
      refine ⟨only other, ?_⟩
      rintro rfl
      exact isOwner
    · exact fun owns => ⟨(owns client).mpr rfl, fun other => (owns other).mp⟩
  unfold leave
  dsimp only
  split
  · rename_i isLast
    refine ⟨rfl, fun other => ?_⟩
    show other ∈ owned.leaving ++ [client] ↔ _
    rw [List.mem_append, List.mem_singleton, or_comm, eq_comm, and_iff_left (last.mp isLast)]
  · rename_i notLast
    refine ⟨rfl, fun other => (or_iff_right ?_).symm⟩
    exact fun isLast => notLast (last.mpr isLast.2)

/-- Whoever asks or leaves does not close the circuit yet. -/
theorem phase_acquire_leave (owned : OwnedCircuit) (client : ClientId) :
    (owned.acquire client).phase = owned.phase ∧ (owned.leave client).phase = owned.phase := by
  unfold acquire leave Circuit.acquire Circuit.disown
  dsimp only
  constructor
  · split
    · rfl
    · split <;> rfl
  · split <;> rfl

/-- An open circuit is closed by anybody who closes it. -/
theorem phase_close {owned : OwnedCircuit} (isOpen : owned.phase = .isOpen) (peerGone : Bool) :
    (owned.close peerGone).phase ≠ .isOpen := by
  rw [close, Circuit.beginClose, if_neg (not_isClosed isOpen)]
  cases peerGone <;> exact ClosePhase.noConfusion

/-- The second half of a release closes an open circuit, and without the first half it does
nothing. -/
theorem closeUnowned_spec {owned : OwnedCircuit} (isOpen : owned.phase = .isOpen)
    (client : ClientId) :
    ((owned.step (.closeUnowned client)).phase ≠ .isOpen ↔ client ∈ owned.leaving) ∧
      (client ∉ owned.leaving → owned.step (.closeUnowned client) = owned) := by
  unfold step
  dsimp only
  by_cases leaves : client ∈ owned.leaving
  · rw [if_pos leaves]
    exact ⟨iff_of_true (phase_close isOpen false) leaves, absurd leaves⟩
  · rw [if_neg leaves]
    exact ⟨iff_of_false (not_not_intro isOpen) leaves, fun _ => rfl⟩

/-- There is nothing to go on with as long as nobody closes the circuit. -/
theorem proceed_of_isOpen {owned : OwnedCircuit} (isOpen : owned.phase = .isOpen)
    (ending : CallbackEnd) : owned.proceed ending = owned := by
  have rests : owned.run.closeStep = owned.run := by
    unfold CircuitRun.closeStep
    dsimp only
    rw [show owned.run.circuit.phase = .isOpen from isOpen]
  unfold proceed
  rw [isOpen, rests]

/-- What a step makes of the owners of a circuit, and of the clients that are to close it, when it
leaves the circuit open. -/
theorem open_step {owned : OwnedCircuit} {step : OwnerStep}
    (isOpen : (owned.step step).phase = .isOpen) :
    (∀ owner, owner ∈ (owned.step step).owners ↔
      step = .acquire owner ∨ owner ∈ owned.owners ∧ step ≠ .leave owner) ∧
    ∀ client, client ∈ (owned.step step).leaving ↔
      step = .leave client ∧ owned.OwnedBy client ∨ client ∈ owned.leaving := by
  have wasOpen := isOpen_of_step isOpen
  cases step with
  | acquire client =>
    refine ⟨fun owner => ?_, fun other => by simp [step, acquire, record, withCircuit]⟩
    simpa [step] using mem_owners_acquire wasOpen client owner
  | leave client =>
    obtain ⟨owners, leaving⟩ := leave_spec owned client
    refine ⟨fun owner => ?_, fun other => ?_⟩
    · rw [step, owners, List.mem_filter, bne_iff_ne, ne_eq, ne_eq, OwnerStep.leave.injEq,
        @eq_comm _ owner client]
      exact (or_iff_right OwnerStep.noConfusion).symm
    · rw [step, leaving, OwnerStep.leave.injEq]
      refine or_congr_left (and_congr_right ?_)
      rintro rfl
      exact Iff.rfl
  | closeUnowned client =>
    -- It would have closed the circuit if the first half had come before.
    have idle : client ∉ owned.leaving := fun leaves =>
      (closeUnowned_spec wasOpen client).1.mpr leaves isOpen
    rw [(closeUnowned_spec wasOpen client).2 idle]
    simp
  | close peerGone => exact absurd isOpen (phase_close wasOpen peerGone)
  | proceed ending =>
    rw [step, proceed_of_isOpen wasOpen]
    simp

/-! ## Whole runs -/

section
variable {start : OwnedCircuit} {steps : List OwnerStep}

/-- When there was no owner to begin with, those who own an open circuit became owners in the run
and have not left since. -/
theorem mem_owners_iff (none : start.owners = [])
    (isOpen : (start.performAll steps).phase = .isOpen) (owner : ClientId) :
    owner ∈ (start.performAll steps).owners ↔
      Since (· = .acquire owner) (· = .leave owner) steps := by
  induction steps using List.reverseRecOn with
  | nil =>
    rw [performAll, List.foldl_nil, none]
    exact iff_of_false List.not_mem_nil not_since_nil
  | append_singleton earlier last ih =>
    rw [performAll_concat] at isOpen ⊢
    rw [(open_step isOpen).1, ih (isOpen_of_step isOpen), since_concat]

/-- When no release was under way to begin with, those that are to close an open circuit were its
one owner when they left. -/
theorem mem_leaving_iff (none : start.leaving = [])
    (isOpen : (start.performAll steps).phase = .isOpen) (client : ClientId) :
    client ∈ (start.performAll steps).leaving ↔
      ∃ earlier between, steps = earlier ++ .leave client :: between ∧
        (start.performAll earlier).OwnedBy client := by
  induction steps using List.reverseRecOn with
  | nil =>
    rw [performAll, List.foldl_nil, none]
    refine iff_of_false List.not_mem_nil ?_
    rintro ⟨earlier, between, empty, -⟩
    exact List.append_ne_nil_of_right_ne_nil earlier (List.cons_ne_nil _ between) empty.symm
  | append_singleton earlier last ih =>
    rw [performAll_concat] at isOpen ⊢
    rw [(open_step isOpen).2, ih (isOpen_of_step isOpen)]
    constructor
    · rintro (⟨rfl, owns⟩ | ⟨first, between, rfl, owns⟩)
      · exact ⟨earlier, [], rfl, owns⟩
      · exact ⟨first, between ++ [last], by rw [List.append_assoc, List.cons_append], owns⟩
    · rintro ⟨first, between, split, owns⟩
      -- Either the client leaves with the last step, or the last step comes after that.
      rcases List.eq_nil_or_concat between with rfl | ⟨rest, latest, rfl⟩
      · obtain ⟨rfl, isLast⟩ := List.append_inj' split rfl
        exact .inl ⟨(List.singleton_inj.mp isLast), owns⟩
      · rw [List.concat_eq_append, ← List.cons_append, ← List.append_assoc] at split
        exact .inr ⟨first, rest, (List.append_inj' split rfl).1, owns⟩

/-- When the one owner has left, those who own the open circuit became owners since. -/
theorem OwnedBy.mem_owners_iff {client : ClientId} (owns : start.OwnedBy client)
    {between : List OwnerStep}
    (isOpen : (start.performAll (.leave client :: between)).phase = .isOpen) (owner : ClientId) :
    owner ∈ (start.performAll (.leave client :: between)).owners ↔
      Since (· = .acquire owner) (· = .leave owner) between := by
  have none : (start.leave client).owners = [] := by
    rw [(leave_spec start client).1, List.filter_eq_nil_iff]
    intro other isOwner
    rw [(owns other).mp isOwner, bne_self_eq_false]
    exact Bool.false_ne_true
  exact OwnedCircuit.mem_owners_iff none isOpen owner

/-- A release closes the circuit under exactly those owners that overtake it. -/
theorem closedUnder_iff (noLeaving : start.leaving = []) (owner : ClientId) :
    start.ClosedUnder steps owner ↔ start.Overtakes steps owner := by
  constructor
  · rintro ⟨earlier, client, later, rfl, isOpen, closes, isOwner⟩
    have leaves := (closeUnowned_spec isOpen client).1.mp closes
    -- The first half may have come more than once. After any of them the circuit had no owner.
    obtain ⟨first, between, rfl, owns⟩ := (mem_leaving_iff noLeaving isOpen client).mp leaves
    refine ⟨first, client, between, later, rfl, owns, isOpen, ?_⟩
    rw [performAll_append] at isOpen isOwner
    exact (owns.mem_owners_iff isOpen owner).mp isOwner
  · rintro ⟨first, client, between, later, rfl, owns, isOpen, since⟩
    have leaves := (mem_leaving_iff noLeaving isOpen client).mpr ⟨first, between, rfl, owns⟩
    refine ⟨_, client, later, rfl, isOpen, (closeUnowned_spec isOpen client).1.mpr leaves, ?_⟩
    rw [performAll_append] at isOpen ⊢
    exact (owns.mem_owners_iff isOpen owner).mpr since

/-- Nobody comes to hold a circuit that is closed. -/
theorem holds_of_closed (closed : start.phase ≠ .isOpen) {owner : ClientId}
    (holds : OwnerRecord.Holds (start.performAll steps).history owner) :
    OwnerRecord.Holds start.history owner := by
  induction steps generalizing start with
  | nil => exact holds
  | cons step later ih =>
    have move := move_step start step
    exact OwnerAccount.holds_of_move closed move
      (ih (OwnerAccount.stepsLeft_move closed move).1 holds)

/-- A circuit that is no longer open was closed by one of the steps. -/
theorem exists_closing (isOpen : start.phase = .isOpen)
    (closed : (start.performAll steps).phase ≠ .isOpen) :
    ∃ earlier step later, steps = earlier ++ step :: later ∧
      (start.performAll earlier).phase = .isOpen ∧
      ((start.performAll earlier).step step).phase ≠ .isOpen := by
  induction steps generalizing start with
  | nil => exact absurd isOpen closed
  | cons step later ih =>
    by_cases stillOpen : (start.step step).phase = .isOpen
    · obtain ⟨earlier, closing, rest, rfl, wasOpen, closes⟩ := ih stillOpen closed
      exact ⟨step :: earlier, closing, rest, rfl, wasOpen, closes⟩
    · exact ⟨[], step, later, rfl, isOpen, stillOpen⟩

/-- An open circuit is closed by somebody who closes it, or by the second half of a release. -/
theorem closing_cases {step : OwnerStep} (isOpen : start.phase = .isOpen)
    (closes : (start.step step).phase ≠ .isOpen) :
    (∃ peerGone, step = .close peerGone) ∨ ∃ client, step = .closeUnowned client := by
  cases step with
  | close peerGone => exact .inl ⟨peerGone, rfl⟩
  | closeUnowned client => exact .inr ⟨client, rfl⟩
  | acquire client =>
    refine absurd ?_ closes
    rw [step, (phase_acquire_leave start client).1]
    exact isOpen
  | leave client =>
    refine absurd ?_ closes
    rw [step, (phase_acquire_leave start client).2]
    exact isOpen
  | proceed ending =>
    rw [step, proceed_of_isOpen isOpen] at closes
    exact absurd isOpen closes

/-- A client that holds a circuit which nothing but releases has closed overtook one of them. -/
theorem Overtakes.of_holds {owner : ClientId} (noLeaving : start.leaving = [])
    (sound : start.account.Sound) (isOpen : start.phase = .isOpen)
    (onlyReleases : ∀ peerGone, .close peerGone ∉ steps)
    (closed : (start.performAll steps).phase ≠ .isOpen)
    (holds : OwnerRecord.Holds (start.performAll steps).history owner) :
    start.Overtakes steps owner := by
  obtain ⟨earlier, step, later, rfl, stillOpen, closes⟩ := exists_closing isOpen closed
  rcases closing_cases stillOpen closes with ⟨peerGone, rfl⟩ | ⟨client, rfl⟩
  · exact absurd (List.mem_append_right _ List.mem_cons_self) (onlyReleases peerGone)
  · -- Whoever holds the circuit in the end held it when it was closed.
    rw [performAll_append] at holds
    have held := holds_of_closed closes holds
    have unrecorded : ((start.performAll earlier).step (.closeUnowned client)).history =
        (start.performAll earlier).history := by
      unfold OwnedCircuit.step
      dsimp only
      split <;> rfl
    rw [unrecorded] at held
    have soundThen : (start.performAll earlier).account.Sound := by
      refine performAll_induction (motive := fun owned => owned.account.Sound) ?_ sound earlier
      exact fun owned step sound => sound.move (move_step owned step)
    exact (closedUnder_iff noLeaving owner).mp
      ⟨earlier, client, later, rfl, stillOpen, closes, (soundThen.held stillOpen).mpr held⟩

end

/-- **Whom a release closes a circuit under.** Clients use a circuit that was just connected, in any
order of their steps, and with those of whoever closes it. Then the second half of a release closes
the circuit while a client owns it exactly if that client became an owner within the release, after
the one owner was taken out. If nothing but releases closes the circuit, then only such a client can
see it closed, when its acquire returned true and it has not left since. -/
theorem closedUnder_iff_overtakes (server : SocketAddress) (priority : UInt16) (capacity : Nat)
    (now : Moment) (writes : List WriteOutcome) (steps : List OwnerStep) (owner : ClientId) :
    let start := connected server priority capacity now writes
    let owned := start.performAll steps
    (start.ClosedUnder steps owner ↔ start.Overtakes steps owner) ∧
      ((∀ peerGone, .close peerGone ∉ steps) → owned.phase ≠ .isOpen →
        OwnerRecord.Holds owned.history owner → start.Overtakes steps owner) := by
  intro start owned
  exact ⟨closedUnder_iff rfl owner, Overtakes.of_holds rfl
    (OwnerAccount.Sound.connected server priority capacity now writes) rfl⟩

/-- A client is accepted after the one owner was taken out, and the release goes on to close the
circuit. -/
theorem closedUnder_acquireWithinRelease :
    let start := connected ⟨.loopback, 5064⟩ 0 64 .zero []
    let steps : List OwnerStep := [.acquire 1, .leave 1, .acquire 2, .closeUnowned 1]
    (∀ peerGone, .close peerGone ∉ steps) ∧ start.ClosedUnder steps 2 ∧
      (start.performAll steps).phase ≠ .isOpen ∧
      OwnerRecord.Holds (start.performAll steps).history 2 := by
  intro start steps
  refine ⟨by decide, ⟨[.acquire 1, .leave 1, .acquire 2], 1, [], rfl, ?_⟩, by decide, ?_⟩
  · decide
  · exact ⟨[.asked 1 true, .left 1], .asked 2 true, [], rfl, rfl, nofun⟩

end OwnedCircuit

end ChannelAccess
