import ChannelAccess.Proofs.Table
import ChannelAccess.Reactor.Basic

/-!
# Which keys are disabled

Two operations of a reactor change whether a key is disabled: `disable` and `enable`. A new key is
not. Whatever else is done to a reactor only ever takes keys out (`Reactor.Narrows`). The lemmas say
so of `Reactor.disabled?`, which gives for every registered key whether it is disabled.
-/

namespace ChannelAccess.Reactor

variable {C : Type}

/-- Whether a key is disabled, if it is registered. -/
def disabled? (reactor : Reactor C) (key : SelectionKey) : Option Bool :=
  (reactor.entry? key).map KeyEntry.disabled

/-- Between two states of a reactor keys were taken out at most, and it was not opened again. -/
structure Narrows (before after : Reactor C) : Prop where
  /-- Keys that are still registered are as they were. -/
  disabled? : ∀ key, after.disabled? key = before.disabled? key ∨ after.disabled? key = none
  /-- No key was given out. -/
  nextKey : after.nextKey = before.nextKey
  /-- A reactor that is open was so before. -/
  closed : after.closed = false → before.closed = false

theorem Narrows.refl (reactor : Reactor C) : Narrows reactor reactor := ⟨fun _ => .inl rfl, rfl, id⟩

theorem Narrows.trans {a b c : Reactor C} (h₁ : Narrows a b) (h₂ : Narrows b c) :
    Narrows a c where
  disabled? := by
    intro key
    rcases h₂.disabled? key with same | gone
    · rw [same]
      exact h₁.disabled? key
    · exact .inr gone
  nextKey := h₂.nextKey.trans h₁.nextKey
  closed := h₁.closed ∘ h₂.closed

/-- What leaves the registered keys alone takes none out. -/
theorem Narrows.of_keys {before after : Reactor C} (keys : after.keys = before.keys)
    (nextKey : after.nextKey = before.nextKey) (closed : after.closed = before.closed) :
    Narrows before after where
  disabled? := by
    intro key
    rw [Reactor.disabled?, entry?, keys]
    exact .inl rfl
  nextKey := nextKey
  closed := fun isOpen => closed ▸ isOpen

/-! ## Keys by themselves -/

/-- What is known of a key that is registered is changed, and nothing of the others. -/
theorem entry?_setEntry (reactor : Reactor C) (key : SelectionKey) (entry : KeyEntry)
    (other : SelectionKey) :
    entry? (reactor.setEntry key entry) other =
      if other = key then (reactor.entry? other).map fun _ => entry else reactor.entry? other := by
  -- The entry is changed in its place, so that the same place is found for every key.
  have sameKey : (fun known : SelectionKey × KeyEntry =>
      (if known.1 == key then (key, entry) else known).1 == other) = (·.1 == other) := by
    funext known
    split
    · rename_i same
      rw [beq_iff_eq.mp same]
    · rfl
  rw [setEntry, entry?, List.find?_map, Option.map_map]
  show Option.map _ (List.find? (fun known => _ == other) _) = _
  rw [sameKey, entry?]
  cases found : reactor.keys.find? (·.1 == other) with
  | none => exact (ite_self none).symm
  | some known =>
    have holds := List.find?_some found
    have isOther : known.1 = other := beq_iff_eq.mp holds
    show some (if known.1 == key then (key, entry) else known).2 = _
    rw [isOther]
    by_cases same : other = key
    · rw [if_pos (beq_iff_eq.mpr same), if_pos same]
      rfl
    · rw [if_neg (mt beq_iff_eq.mp same), if_neg same]
      rfl

/-- Whether a key is disabled after what is known of some key was changed. -/
theorem disabled?_setEntry (reactor : Reactor C) (key : SelectionKey) (entry : KeyEntry)
    (other : SelectionKey) :
    (reactor.setEntry key entry).disabled? other =
      if other = key then (reactor.disabled? other).map fun _ => entry.disabled
      else reactor.disabled? other := by
  rw [disabled?, entry?_setEntry, disabled?]
  split
  · rw [Option.map_map, Option.map_map]
    rfl
  · rfl

/-- Queuing a request leaves the keys alone. -/
theorem submit_spec (reactor : Reactor C) (request : PollRequest C) :
    (reactor.submit request).keys = reactor.keys ∧
      (reactor.submit request).nextKey = reactor.nextKey ∧
      (reactor.submit request).closed = reactor.closed := by
  unfold submit
  split <;> exact ⟨rfl, rfl, rfl⟩

theorem disabled?_submit (reactor : Reactor C) (request : PollRequest C) (key : SelectionKey) :
    (reactor.submit request).disabled? key = reactor.disabled? key := by
  rw [disabled?, entry?, (submit_spec reactor request).1]
  rfl

theorem entry?_submit (reactor : Reactor C) (request : PollRequest C) (key : SelectionKey) :
    Reactor.entry? (reactor.submit request) key = reactor.entry? key := by
  rw [Reactor.entry?, (submit_spec reactor request).1]
  rfl

/-- A new key has the next number, and what is known of it is new. -/
theorem entry?_register {reactor after : Reactor C} {interest : Interest} {key : SelectionKey}
    (fresh : reactor.entry? reactor.nextKey = none)
    (h : reactor.register interest = .ok (key, after)) :
    key = reactor.nextKey ∧ after.nextKey = reactor.nextKey + 1 ∧
      after.closed = reactor.closed ∧
      ∀ other, after.entry? other =
        if other = reactor.nextKey then some { interest := interest }
        else reactor.entry? other := by
  unfold register at h
  split at h
  · contradiction
  · obtain ⟨rfl, rfl⟩ := Prod.mk.inj (Except.ok.inj h)
    obtain ⟨-, nextKey, closed⟩ := submit_spec
      { reactor with
        keys := reactor.keys ++ [(reactor.nextKey, { interest := interest })]
        nextKey := reactor.nextKey + 1 } (.register reactor.nextKey)
    refine ⟨rfl, nextKey, closed, fun other => ?_⟩
    rw [entry?_submit, entry?, Table.find?_concat]
    split
    · rename_i new
      have unknown : reactor.keys.find? (·.1 == other) = none :=
        new ▸ Option.map_eq_none_iff.mp fresh
      rw [unknown]
      rfl
    · rw [Option.or_none]
      rfl

/-- A key that was taken out is known no more. -/
theorem entry?_unregister (reactor : Reactor C) (key : SelectionKey) (closer : C)
    (other : SelectionKey) :
    Reactor.entry? (reactor.unregister key closer).2 other =
      if other = key then none else reactor.entry? other := by
  have removed : (reactor.keys.filter (·.1 != key)).find? (·.1 == other) =
      if other = key then none else reactor.keys.find? (·.1 == other) :=
    Table.find?_filter reactor.keys key other
  unfold unregister
  cases found : reactor.entry? key with
  | none =>
    dsimp only
    split
    · rename_i same
      exact same ▸ found
    · rfl
  | some entry =>
    dsimp only
    split
    · rw [Reactor.entry?, removed]
      split <;> rfl
    · rw [entry?_submit, entry?, removed]
      split <;> rfl

/-! ## Disabling and enabling -/

/-- A key can be disabled if it is registered and not disabled, and no other key changes. -/
theorem disable_eq_true {reactor after : Reactor C} {key : SelectionKey}
    (h : reactor.disable key = (true, after)) :
    reactor.disabled? key = some false ∧ after.nextKey = reactor.nextKey ∧
      after.closed = reactor.closed ∧
      ∀ other, after.disabled? other =
        if other = key then some true else reactor.disabled? other := by
  unfold disable at h
  cases found : reactor.entry? key with
  | none =>
    rw [found] at h
    exact absurd (congrArg Prod.fst h) Bool.false_ne_true
  | some entry =>
    rw [found] at h
    dsimp only at h
    have before : reactor.disabled? key = some entry.disabled := by
      rw [disabled?, found]
      rfl
    cases disabled : entry.disabled with
    | true =>
      rw [disabled, if_pos rfl] at h
      exact absurd (congrArg Prod.fst h) Bool.false_ne_true
    | false =>
      rw [disabled, if_neg Bool.false_ne_true] at h
      obtain rfl := congrArg Prod.snd h
      refine ⟨before.trans (congrArg some disabled), rfl, rfl, fun other => ?_⟩
      rw [disabled?_setEntry]
      split
      · rename_i same
        rw [same, before]
        rfl
      · rfl

/-- A key that was enabled is not disabled, if it is registered, and no other key changes. -/
theorem enable_spec (reactor : Reactor C) (key : SelectionKey) :
    (reactor.enable key).nextKey = reactor.nextKey ∧
      (reactor.enable key).closed = reactor.closed ∧
      ∀ other, (reactor.enable key).disabled? other =
        if other = key then (reactor.disabled? other).map fun _ => false
        else reactor.disabled? other := by
  unfold enable
  cases found : reactor.entry? key with
  | none =>
    dsimp only
    refine ⟨rfl, rfl, fun other => ?_⟩
    split
    · rename_i same
      rw [same, disabled?, found]
      rfl
    · rfl
  | some entry =>
    obtain ⟨-, nextKey, closed⟩ := submit_spec
      (reactor.setEntry key { entry with disabled := false }) (.rearm key)
    refine ⟨nextKey, closed, fun other => ?_⟩
    rw [disabled?_submit, disabled?_setEntry]

/-- A new key has the next number and is not disabled, and no other key changes. -/
theorem register_spec {reactor after : Reactor C} {interest : Interest} {key : SelectionKey}
    (fresh : reactor.disabled? reactor.nextKey = none)
    (h : reactor.register interest = .ok (key, after)) :
    after.nextKey = reactor.nextKey + 1 ∧ after.closed = reactor.closed ∧
      ∀ other, after.disabled? other =
        if other = reactor.nextKey then some false else reactor.disabled? other := by
  obtain ⟨-, nextKey, closed, entry⟩ := entry?_register (Option.map_eq_none_iff.mp fresh) h
  refine ⟨nextKey, closed, fun other => ?_⟩
  rw [disabled?, entry]
  split <;> rfl

/-! ## Whatever else is done -/

/-- Changing what a key is watched for takes none out. -/
theorem narrows_setInterest (reactor : Reactor C) (key : SelectionKey) (interest : Interest) :
    Narrows reactor (reactor.setInterest key interest) := by
  unfold setInterest
  cases found : reactor.entry? key with
  | none => exact .refl reactor
  | some entry =>
    dsimp only
    split
    · exact .refl reactor
    · obtain ⟨-, nextKey, closed⟩ := submit_spec
        (reactor.setEntry key { entry with interest }) (.rearm key)
      refine ⟨fun other => .inl ?_, nextKey, fun isOpen => closed ▸ isOpen⟩
      rw [disabled?_submit, disabled?_setEntry]
      split
      · rename_i same
        rw [same, disabled?, found]
        rfl
      · rfl

/-- Taking a key out gives no number out, and the reactor stays open or closed. -/
theorem unregister_spec (reactor : Reactor C) (key : SelectionKey) (closer : C) :
    (reactor.unregister key closer).2.nextKey = reactor.nextKey ∧
      (reactor.unregister key closer).2.closed = reactor.closed := by
  unfold unregister
  cases reactor.entry? key with
  | none => exact ⟨rfl, rfl⟩
  | some entry =>
    dsimp only
    split
    · exact ⟨rfl, rfl⟩
    · exact (submit_spec _ _).2

/-- Taking a key out leaves the others as they are. -/
theorem narrows_unregister (reactor : Reactor C) (key : SelectionKey) (closer : C) :
    Narrows reactor (reactor.unregister key closer).2 := by
  obtain ⟨nextKey, closed⟩ := reactor.unregister_spec key closer
  refine ⟨fun other => ?_, nextKey, fun isOpen => closed ▸ isOpen⟩
  rw [disabled?, entry?_unregister]
  split
  · exact .inr rfl
  · exact .inl rfl

/-- Carrying out a request leaves the registered keys alone. -/
theorem carryOut_spec (reactor : Reactor C) (stopping : Bool) (request : PollRequest C) :
    (reactor.carryOut stopping request).1.keys = reactor.keys ∧
      (reactor.carryOut stopping request).1.nextKey = reactor.nextKey ∧
      (reactor.carryOut stopping request).1.closed = reactor.closed := by
  have arm : ∀ key, (reactor.arm key).keys = reactor.keys ∧
      (reactor.arm key).nextKey = reactor.nextKey ∧
      (reactor.arm key).closed = reactor.closed := by
    intro key
    unfold Reactor.arm
    repeat' split
    all_goals exact ⟨rfl, rfl, rfl⟩
  cases request with
  | register key | rearm key =>
    unfold carryOut
    dsimp only
    split
    · exact ⟨rfl, rfl, rfl⟩
    · exact arm key
  | deregister key closer =>
    unfold carryOut
    dsimp only
    split <;> exact ⟨rfl, rfl, rfl⟩

/-- So does carrying out all requests. -/
theorem drainRequests_spec (reactor : Reactor C) (stopping : Bool) :
    (reactor.drainRequests stopping).1.keys = reactor.keys ∧
      (reactor.drainRequests stopping).1.nextKey = reactor.nextKey ∧
      (reactor.drainRequests stopping).1.closed = reactor.closed := by
  unfold drainRequests
  refine List.foldlRecOn (motive := fun state : Reactor C × List SelectionKey × List C =>
    state.1.keys = reactor.keys ∧ state.1.nextKey = reactor.nextKey ∧
      state.1.closed = reactor.closed) reactor.requests _ ⟨rfl, rfl, rfl⟩ ?_
  rintro ⟨before, armed, closers⟩ ⟨keys, nextKey, closed⟩ request -
  obtain ⟨sameKeys, sameNext, sameClosed⟩ := carryOut_spec before stopping request
  exact ⟨sameKeys.trans keys, sameNext.trans nextKey, sameClosed.trans closed⟩

/-- Taking a report up leaves the registered keys alone. -/
theorem narrows_report (reactor : Reactor C) (key : SelectionKey) (readiness : Readiness) :
    Narrows reactor (reactor.report key readiness) := by
  unfold report
  split <;> exact .of_keys rfl rfl rfl

/-- Handing a report out leaves the registered keys alone. -/
theorem narrows_nextEvent (reactor : Reactor C) : Narrows reactor reactor.nextEvent.2 := by
  unfold nextEvent
  split
  · exact .refl reactor
  · dsimp only
    split <;> exact .of_keys rfl rfl rfl

/-- Shutting the reactor down takes all keys out. -/
theorem narrows_shutdown (reactor : Reactor C) : Narrows reactor reactor.shutdown.2 := by
  unfold shutdown
  split
  · exact .refl reactor
  · obtain ⟨-, nextKey, closed⟩ := drainRequests_spec { reactor with closed := true } true
    dsimp only
    generalize (drainRequests { reactor with closed := true } true).1 = drained at nextKey closed ⊢
    -- That the keys left over are watched no longer concerns the poll only.
    have disarmed : (drained.keys.foldl (fun reactor known =>
          if reactor.armed.contains known.1 then reactor.disarm known.1 else reactor)
            drained).nextKey = drained.nextKey ∧
        (drained.keys.foldl (fun reactor known =>
          if reactor.armed.contains known.1 then reactor.disarm known.1 else reactor)
            drained).closed = drained.closed := by
      refine List.foldlRecOn (motive := fun left : Reactor C =>
        left.nextKey = drained.nextKey ∧ left.closed = drained.closed) drained.keys _ ⟨rfl, rfl⟩ ?_
      intro left same known _
      split <;> exact same
    refine ⟨fun key => .inr rfl, disarmed.1.trans nextKey, fun isOpen => ?_⟩
    exact absurd (isOpen.symm.trans (disarmed.2.trans closed)) Bool.false_ne_true

end ChannelAccess.Reactor
