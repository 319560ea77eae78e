import ChannelAccess.Proofs.Reactor.Entries
import Mathlib.Data.List.Perm.Basic

/-!
# What the poll watches

`poll_follows_keys` says that no change of what a key is watched for gets lost, in every order of
the steps of those who use a reactor.

A request to the one who waits on the poll names a key and nothing else; what the key is to be
watched for is read when the request is carried out. So the order of requests does not matter, as
long as each key for which the poll is not as the keys say is named by a request that was not
carried out. For a key that was taken out this has to be the request to take it out of the poll as
well, for any other a request to watch it (`Reactor.SeenTo`). An operation keeps this because it
asks for every key that it changes (`Reactor.Alters`), and carrying a request out because the poll
is as the keys say for the key of the request then (`Reactor.SeenTo.carryOut`).

Between the change of a key and the request for it other operations may happen, and while requests
are carried out new ones are queued. `SharedReactor` has these as separate steps, and its invariant
(`SharedReactor.Sound`) is `Reactor.SeenTo` of all requests, wherever they are.
-/

namespace ChannelAccess

variable {C : Type}

/-- The key that a request names. -/
def PollRequest.key : PollRequest C → SelectionKey
  | register key | rearm key | deregister key _ => key

/-- The request takes its key out of the poll. -/
def PollRequest.takesOut : PollRequest C → Bool
  | register _ | rearm _ => false
  | deregister _ _ => true

/-- The closer that comes with a request. -/
def PollRequest.closer? : PollRequest C → Option C
  | register _ | rearm _ => none
  | deregister _ closer => some closer

namespace Reactor

/-- What the poll watches a key for. -/
def watched? (reactor : Reactor C) (key : SelectionKey) : Option Interest :=
  (reactor.poll.find? (·.1 == key)).map (·.2)

/-- What a key is to be watched for: what it is registered for, unless that is nothing. -/
def wanted? (reactor : Reactor C) (key : SelectionKey) : Option Interest :=
  (reactor.interest? key).filter fun interest => !interest.isEmpty

theorem wanted?_of_entry {reactor : Reactor C} {key : SelectionKey} {entry : KeyEntry}
    (known : reactor.entry? key = some entry) :
    reactor.wanted? key = if entry.interest.isEmpty then none else some entry.interest := by
  rw [wanted?, interest?, known]
  cases empty : entry.interest.isEmpty <;> simp [empty]

theorem wanted?_of_unknown {reactor : Reactor C} {key : SelectionKey}
    (unknown : reactor.entry? key = none) : reactor.wanted? key = none := by
  rw [wanted?, interest?, unknown]
  rfl

/-- The poll watches each key once, and exactly the keys that the reactor takes to be watched. -/
structure Tidy (reactor : Reactor C) : Prop where
  /-- No key is watched twice. -/
  poll : (reactor.poll.map (·.1)).Nodup
  /-- No key is taken to be watched twice. -/
  nodup : reactor.armed.Nodup
  /-- A key is taken to be watched exactly if it is. -/
  armed : ∀ key, key ∈ reactor.armed ↔ reactor.watched? key ≠ none

theorem Tidy.contains_iff {reactor : Reactor C} (tidy : reactor.Tidy) (key : SelectionKey) :
    reactor.armed.contains key = true ↔ reactor.watched? key ≠ none := by
  rw [List.contains_iff_mem]
  exact tidy.armed key

/-! ## Carrying out a request -/

theorem watched?_disarm (reactor : Reactor C) (key other : SelectionKey) :
    (reactor.disarm key).watched? other = if other = key then none else reactor.watched? other := by
  show Option.map _ (List.find? _ (List.filter _ _)) = _
  rw [Table.find?_filter]
  split <;> rfl

theorem Tidy.disarm {reactor : Reactor C} (tidy : reactor.Tidy) (key : SelectionKey) :
    (reactor.disarm key).Tidy where
  poll := Table.nodup_filter tidy.poll key
  nodup := tidy.nodup.filter _
  armed := by
    intro other
    rw [watched?_disarm]
    show other ∈ reactor.armed.filter (· != key) ↔ _
    rw [List.mem_filter, bne_iff_ne, tidy.armed]
    split
    · rename_i same
      exact iff_of_false (fun stays => stays.2 same) fun watched => watched rfl
    · rename_i differs
      exact and_iff_left differs

/-- A key that is taken out of the poll, if it is there at all, is not watched. -/
theorem Tidy.watched?_disarmed {reactor : Reactor C} (tidy : reactor.Tidy)
    (key other : SelectionKey) :
    (if reactor.armed.contains key then reactor.disarm key else reactor).watched? other =
      if other = key then none else reactor.watched? other := by
  by_cases armed : reactor.armed.contains key = true
  · rw [if_pos armed]
    exact watched?_disarm reactor key other
  · rw [if_neg armed]
    split
    · rename_i same
      rw [same]
      exact not_not.mp (mt (tidy.contains_iff key).mpr armed)
    · rfl

theorem Tidy.disarmed {reactor : Reactor C} (tidy : reactor.Tidy) (key : SelectionKey) :
    (if reactor.armed.contains key then reactor.disarm key else reactor).Tidy := by
  split
  · exact tidy.disarm key
  · exact tidy

theorem arm_of_unknown {reactor : Reactor C} {key : SelectionKey}
    (unknown : reactor.entry? key = none) : reactor.arm key = reactor := by
  rw [arm, unknown]

/-- A registered key is watched for what it is to be watched for once it was armed. -/
theorem Tidy.watched?_arm {reactor : Reactor C} (tidy : reactor.Tidy) {key : SelectionKey}
    {entry : KeyEntry} (known : reactor.entry? key = some entry) (other : SelectionKey) :
    (reactor.arm key).watched? other =
      if other = key then reactor.wanted? key else reactor.watched? other := by
  rw [arm, known, wanted?_of_entry known]
  dsimp only
  cases empty : entry.interest.isEmpty with
  | true => exact tidy.watched?_disarmed key other
  | false =>
    rw [if_neg Bool.false_ne_true, if_neg Bool.false_ne_true]
    show Option.map _ (List.find? _ (_ ++ [_])) = _
    rw [Table.find?_replace]
    split <;> rfl

theorem Tidy.arm {reactor : Reactor C} (tidy : reactor.Tidy) (key : SelectionKey) :
    (reactor.arm key).Tidy := by
  cases known : reactor.entry? key with
  | none =>
    rw [arm_of_unknown known]
    exact tidy
  | some entry =>
    have watched := tidy.watched?_arm known
    rw [wanted?_of_entry known] at watched
    revert watched
    rw [Reactor.arm, known]
    dsimp only
    cases empty : entry.interest.isEmpty with
    | true => exact fun _ => tidy.disarmed key
    | false =>
      rw [if_neg Bool.false_ne_true, if_neg Bool.false_ne_true]
      intro watched
      refine ⟨Table.nodup_replace tidy.poll key entry.interest, Table.nodup_add tidy.nodup key,
        fun other => ?_⟩
      rw [watched, Table.mem_add, tidy.armed]
      split
      · rename_i same
        exact iff_of_true (.inr same) (Option.some_ne_none _)
      · rename_i differs
        exact or_iff_left differs

/-! ## Requests that see to all keys -/

/-- Some requests see to every key for which the poll is not as the keys say. -/
structure SeenTo (reactor : Reactor C) (requests : List (PollRequest C)) : Prop where
  /-- The poll watches the keys that are taken to be watched. -/
  tidy : reactor.Tidy
  /-- Registered keys were given out. -/
  given : ∀ key, reactor.nextKey ≤ key → reactor.entry? key = none
  /-- So were the keys of requests. -/
  known : ∀ request ∈ requests, request.key < reactor.nextKey
  /-- A key that is to be taken out of the poll is registered no more. -/
  gone : ∀ request ∈ requests, request.takesOut = true → reactor.entry? request.key = none
  /-- A registered key is watched as it is to be or is to be watched anew, and any other is not
  watched or is to be taken out of the poll. -/
  seen : ∀ key, reactor.watched? key ≠ reactor.wanted? key →
    ∃ request ∈ requests, request.key = key ∧
      request.takesOut = (reactor.entry? key).isNone

theorem SeenTo.new : SeenTo ({} : Reactor C) [] where
  tidy := ⟨List.nodup_nil, List.nodup_nil, fun _ => iff_of_false List.not_mem_nil (· rfl)⟩
  given := fun _ _ => rfl
  known := fun _ member => absurd member List.not_mem_nil
  gone := fun _ member => absurd member List.not_mem_nil
  seen := fun _ differs => absurd rfl differs

/-- In which order the requests are does not matter. -/
theorem SeenTo.of_mem_iff {reactor : Reactor C} {requests others : List (PollRequest C)}
    (h : SeenTo reactor requests) (same : ∀ request, request ∈ others ↔ request ∈ requests) :
    SeenTo reactor others where
  tidy := h.tidy
  given := h.given
  known := fun request member => h.known request ((same request).mp member)
  gone := fun request member => h.gone request ((same request).mp member)
  seen := by
    intro key differs
    obtain ⟨request, member, isKey⟩ := h.seen key differs
    exact ⟨request, (same request).mpr member, isKey⟩

/-- The queues of the reactor do not matter. -/
theorem SeenTo.of_eq {reactor after : Reactor C} {requests : List (PollRequest C)}
    (h : SeenTo reactor requests)
    (same : after = { reactor with requests := after.requests, ready := after.ready }) :
    SeenTo after requests := by
  rw [same]
  exact ⟨⟨h.tidy.poll, h.tidy.nodup, h.tidy.armed⟩, h.given, h.known, h.gone, h.seen⟩

/-- When all requests are carried out, the poll is as the keys say. -/
theorem SeenTo.watched?_eq {reactor : Reactor C} (h : SeenTo reactor []) (key : SelectionKey) :
    reactor.watched? key = reactor.wanted? key := by
  by_contra differs
  obtain ⟨request, member, -⟩ := h.seen key differs
  exact List.not_mem_nil member

/-! ## What operations ask for -/

/-- An operation has changed keys at most, and asked for each key that it has changed. -/
structure Alters (before after : Reactor C) (asked : List (PollRequest C)) : Prop where
  /-- The requests are queued behind those that were there. -/
  requests : after.requests = before.requests ++ asked
  /-- The poll is left alone. -/
  poll : after.poll = before.poll
  /-- So is what is taken to be watched. -/
  armed : after.armed = before.armed
  /-- The reactor stays open or closed. -/
  closed : after.closed = before.closed
  /-- Numbers that were given out are not given back. -/
  nextKey : before.nextKey ≤ after.nextKey
  /-- Registered keys were given out. -/
  given : ∀ key, after.nextKey ≤ key → after.entry? key = none
  /-- A key that was taken out is not registered again. -/
  gone : ∀ key, key < before.nextKey → before.entry? key = none → after.entry? key = none
  /-- A key that is not asked for is as it was. -/
  same : ∀ key, (∀ request ∈ asked, request.key ≠ key) →
    after.wanted? key = before.wanted? key ∧
      (after.entry? key).isNone = (before.entry? key).isNone
  /-- A registered key is to be watched anew, and any other is to be taken out of the poll. -/
  right : ∀ request ∈ asked, request.key < after.nextKey ∧
    request.takesOut = (after.entry? request.key).isNone

/-- What an operation asks for sees to what it has changed. -/
theorem SeenTo.alters {before after : Reactor C} {requests asked : List (PollRequest C)}
    (h : SeenTo before requests) (alters : Alters before after asked) :
    SeenTo after (requests ++ asked) := by
  have watched : ∀ key, after.watched? key = before.watched? key := by
    intro key
    rw [Reactor.watched?, alters.poll]
    rfl
  refine
    { tidy := ⟨?poll, ?nodup, fun key => ?armed⟩
      given := alters.given
      known := fun request member => ?known
      gone := fun request member takesOut => ?gone
      seen := fun key differs => ?seen }
  case poll =>
    rw [alters.poll]
    exact h.tidy.poll
  case nodup =>
    rw [alters.armed]
    exact h.tidy.nodup
  case armed =>
    rw [alters.armed, watched]
    exact h.tidy.armed key
  case known =>
    rcases List.mem_append.mp member with old | new
    · exact Nat.lt_of_lt_of_le (h.known request old) alters.nextKey
    · exact (alters.right request new).1
  case gone =>
    rcases List.mem_append.mp member with old | new
    · exact alters.gone _ (h.known request old) (h.gone request old takesOut)
    · exact Option.isNone_iff_eq_none.mp ((alters.right request new).2.symm.trans takesOut)
  case seen =>
    by_cases changed : ∃ request ∈ asked, request.key = key
    · obtain ⟨request, new, rfl⟩ := changed
      exact ⟨request, List.mem_append_right _ new, rfl, (alters.right request new).2⟩
    · obtain ⟨wanted, isNone⟩ := alters.same key fun request new isKey =>
        changed ⟨request, new, isKey⟩
      rw [watched, wanted] at differs
      obtain ⟨request, old, isKey, takesOut⟩ := h.seen key differs
      exact ⟨request, List.mem_append_left _ old, isKey, takesOut.trans isNone.symm⟩

theorem Alters.refl {reactor : Reactor C}
    (given : ∀ key, reactor.nextKey ≤ key → reactor.entry? key = none) :
    Alters reactor reactor [] where
  requests := (List.append_nil _).symm
  poll := rfl
  armed := rfl
  closed := rfl
  nextKey := Nat.le_refl _
  given := given
  gone := fun _ _ unknown => unknown
  same := fun _ _ => ⟨rfl, rfl⟩
  right := fun _ member => absurd member List.not_mem_nil

/-- A key is watched for what is known of it. -/
theorem interest?_setEntry (reactor : Reactor C) (key : SelectionKey) (entry : KeyEntry)
    (other : SelectionKey) :
    (reactor.setEntry key entry).interest? other =
      if other = key then (reactor.interest? other).map fun _ => entry.interest
      else reactor.interest? other := by
  rw [interest?, entry?_setEntry, interest?]
  split
  · rw [Option.map_map, Option.map_map]
    rfl
  · rfl

theorem interest?_submit (reactor : Reactor C) (request : PollRequest C) (key : SelectionKey) :
    (reactor.submit request).interest? key = reactor.interest? key := by
  rw [interest?, entry?_submit]
  rfl

/-- A registered key is watched for what it was last said to be watched for. -/
theorem interest?_setInterest (reactor : Reactor C) (key : SelectionKey) (interest : Interest)
    (other : SelectionKey) :
    (reactor.setInterest key interest).interest? other =
      if other = key then (reactor.interest? other).map fun _ => interest
      else reactor.interest? other := by
  unfold setInterest
  cases known : reactor.entry? key with
  | none =>
    dsimp only
    split
    · rename_i same
      rw [interest?, same, known]
      rfl
    · rfl
  | some entry =>
    dsimp only
    split
    · rename_i same
      split
      · rename_i isKey
        rw [interest?, isKey, known, ← same]
        rfl
      · rfl
    · rw [interest?_submit, interest?_setEntry]

/-- A disabled key is watched for the same. -/
theorem interest?_setEntry_disabled {reactor : Reactor C} {key : SelectionKey} {entry : KeyEntry}
    (known : reactor.entry? key = some entry) (disabled : Bool) (other : SelectionKey) :
    (reactor.setEntry key { entry with disabled }).interest? other = reactor.interest? other := by
  rw [interest?_setEntry]
  split
  · rename_i same
    rw [interest?, same, known]
    rfl
  · rfl

theorem interest?_disable (reactor : Reactor C) (key other : SelectionKey) :
    (reactor.disable key).2.interest? other = reactor.interest? other := by
  unfold disable
  cases known : reactor.entry? key with
  | none => rfl
  | some entry =>
    dsimp only
    split
    · rfl
    · exact interest?_setEntry_disabled known true other

theorem interest?_enable (reactor : Reactor C) (key other : SelectionKey) :
    (reactor.enable key).interest? other = reactor.interest? other := by
  unfold enable
  cases known : reactor.entry? key with
  | none => rfl
  | some entry =>
    dsimp only
    rw [interest?_submit, interest?_setEntry_disabled known]

/-- Changing what is known of a key neither adds one nor takes one out. -/
theorem isNone_entry?_setEntry (reactor : Reactor C) (key : SelectionKey) (entry : KeyEntry)
    (other : SelectionKey) :
    (Reactor.entry? (reactor.setEntry key entry) other).isNone = (reactor.entry? other).isNone := by
  rw [entry?_setEntry]
  split
  · exact Option.isNone_map
  · rfl

theorem entry?_setEntry_eq_none {reactor : Reactor C} {other : SelectionKey}
    (unknown : reactor.entry? other = none) (key : SelectionKey) (entry : KeyEntry) :
    Reactor.entry? (reactor.setEntry key entry) other = none := by
  rw [← Option.isNone_iff_eq_none, isNone_entry?_setEntry, unknown]
  rfl

/-- Disabling a key asks for nothing, since a disabled key is watched as before. -/
theorem alters_disable {reactor : Reactor C}
    (given : ∀ key, reactor.nextKey ≤ key → reactor.entry? key = none) (key : SelectionKey) :
    Alters reactor (reactor.disable key).2 [] := by
  unfold disable
  cases known : reactor.entry? key with
  | none => exact .refl given
  | some entry =>
    dsimp only
    split
    · exact .refl given
    · refine ⟨(List.append_nil _).symm, rfl, rfl, rfl, Nat.le_refl _,
        fun other later => entry?_setEntry_eq_none (given other later) _ _,
        fun other _ unknown => entry?_setEntry_eq_none unknown _ _,
        fun other _ => ⟨?_, isNone_entry?_setEntry _ _ _ other⟩,
        fun _ member => absurd member List.not_mem_nil⟩
      exact congrArg (Option.filter _) (interest?_setEntry_disabled known true other)

theorem lt_nextKey {reactor : Reactor C} {key : SelectionKey} {entry : KeyEntry}
    (given : ∀ key, reactor.nextKey ≤ key → reactor.entry? key = none)
    (known : reactor.entry? key = some entry) : key < reactor.nextKey := by
  refine Nat.lt_of_not_le fun later => ?_
  rw [given key later] at known
  contradiction

section
variable {reactor : Reactor C} {key : SelectionKey}
  (given : ∀ key, reactor.nextKey ≤ key → reactor.entry? key = none)
  (isOpen : reactor.closed = false)

include isOpen

theorem submit_of_open (request : PollRequest C) :
    reactor.submit request = { reactor with requests := reactor.requests ++ [request] } := by
  rw [submit, if_neg (Bool.eq_false_iff.mp isOpen)]

/-- An open reactor gives the next key out. -/
theorem register_of_open (interest : Interest) :
    reactor.register interest = .ok (reactor.nextKey,
      { reactor with
        keys := reactor.keys ++ [(reactor.nextKey, { interest := interest })]
        nextKey := reactor.nextKey + 1
        requests := reactor.requests ++ [.register reactor.nextKey] }) := by
  rw [register, if_neg (Bool.eq_false_iff.mp isOpen)]
  dsimp only
  rw [submit, if_neg (Bool.eq_false_iff.mp isOpen)]

/-- An open reactor keeps the closer of a registered key until the key has left the poll. -/
theorem unregister_of_open {entry : KeyEntry} (known : reactor.entry? key = some entry)
    (closer : C) :
    reactor.unregister key closer = ([],
      { reactor with
        keys := reactor.keys.filter (·.1 != key)
        ready := reactor.ready.filter (·.1 != key)
        requests := reactor.requests ++ [.deregister key closer] }) := by
  rw [unregister, known]
  dsimp only
  rw [if_neg (Bool.eq_false_iff.mp isOpen), submit, if_neg (Bool.eq_false_iff.mp isOpen)]

include given

/-- Registering a socket asks for its key to be watched. -/
theorem alters_register {after : Reactor C} {interest : Interest}
    (h : reactor.register interest = .ok (key, after)) :
    key = reactor.nextKey ∧ after.nextKey = reactor.nextKey + 1 ∧
      Alters reactor after [.register key] := by
  obtain ⟨rfl, nextKey, closed, entry⟩ := entry?_register (given _ (Nat.le_refl _)) h
  have known : ∀ key, key ≠ reactor.nextKey → after.entry? key = reactor.entry? key :=
    fun key differs => (entry key).trans (if_neg differs)
  obtain ⟨requests, poll, armed⟩ :
      after.requests = reactor.requests ++ [.register reactor.nextKey] ∧
        after.poll = reactor.poll ∧ after.armed = reactor.armed := by
    rw [register_of_open isOpen] at h
    obtain ⟨-, rfl⟩ := Prod.mk.inj (Except.ok.inj h)
    exact ⟨rfl, rfl, rfl⟩
  refine ⟨rfl, nextKey, requests, poll, armed, closed, ?_, ?_, ?_, ?_, ?_⟩
  · rw [nextKey]
    exact Nat.le_succ _
  · intro key later
    rw [nextKey] at later
    rw [known key (Nat.ne_of_gt later)]
    exact given key (Nat.le_of_succ_le later)
  · intro key earlier unknown
    rw [known key (Nat.ne_of_lt earlier)]
    exact unknown
  · intro key notAsked
    have differs : key ≠ reactor.nextKey :=
      fun isKey => notAsked _ (List.mem_singleton_self _) isKey.symm
    rw [wanted?, interest?, known key differs]
    exact ⟨rfl, rfl⟩
  · intro request member
    rw [List.mem_singleton.mp member]
    refine ⟨nextKey ▸ Nat.lt_succ_self _, ?_⟩
    rw [PollRequest.key, entry, if_pos rfl]
    rfl

/-- An operation that changes what is known of a registered key asks for it to be watched anew. -/
theorem alters_rearm {known : KeyEntry} (isKnown : reactor.entry? key = some known)
    (entry : KeyEntry) : Alters reactor ((reactor.setEntry key entry).submit (.rearm key))
      [.rearm key] := by
  have stillOpen : (reactor.setEntry key entry).closed = false := isOpen
  obtain ⟨requests, poll, armed⟩ :
      ((reactor.setEntry key entry).submit (.rearm key)).requests =
          reactor.requests ++ [.rearm key] ∧
        ((reactor.setEntry key entry).submit (.rearm key)).poll = reactor.poll ∧
        ((reactor.setEntry key entry).submit (.rearm key)).armed = reactor.armed := by
    rw [submit_of_open stillOpen]
    exact ⟨rfl, rfl, rfl⟩
  have nextKey : ((reactor.setEntry key entry).submit (.rearm key)).nextKey = reactor.nextKey :=
    (submit_spec _ _).2.1
  refine ⟨requests, poll, armed, (submit_spec _ _).2.2, Nat.le_of_eq nextKey.symm, ?_, ?_, ?_, ?_⟩
  · intro other later
    rw [entry?_submit]
    exact entry?_setEntry_eq_none (given other (nextKey ▸ later)) key entry
  · intro other _ unknown
    rw [entry?_submit]
    exact entry?_setEntry_eq_none unknown key entry
  · intro other notAsked
    have differs : other ≠ key := fun isOther => notAsked _ (List.mem_singleton_self _) isOther.symm
    rw [wanted?, interest?, entry?_submit, entry?_setEntry, if_neg differs]
    exact ⟨rfl, rfl⟩
  · intro request member
    rw [List.mem_singleton.mp member]
    refine ⟨nextKey.symm ▸ lt_nextKey given isKnown, ?_⟩
    rw [PollRequest.key, entry?_submit, isNone_entry?_setEntry, isKnown]
    rfl

/-- Changing what a key is watched for asks for it to be watched anew, if that is new. -/
theorem exists_alters_setInterest (key : SelectionKey) (interest : Interest) :
    ∃ asked, Alters reactor (reactor.setInterest key interest) asked ∧
      asked.filterMap PollRequest.closer? = [] := by
  unfold setInterest
  cases known : reactor.entry? key with
  | none => exact ⟨[], .refl given, rfl⟩
  | some entry =>
    dsimp only
    split
    · exact ⟨[], .refl given, rfl⟩
    · exact ⟨_, alters_rearm given isOpen known _, rfl⟩

/-- Enabling a registered key asks for it to be watched anew. -/
theorem exists_alters_enable (key : SelectionKey) :
    ∃ asked, Alters reactor (reactor.enable key) asked ∧
      asked.filterMap PollRequest.closer? = [] := by
  unfold enable
  cases known : reactor.entry? key with
  | none => exact ⟨[], .refl given, rfl⟩
  | some entry => exact ⟨_, alters_rearm given isOpen known _, rfl⟩

/-- Taking a registered key out asks for it to be taken out of the poll. The closer comes with the
request, and runs at once if there is none. -/
theorem exists_alters_unregister (key : SelectionKey) (closer : C) :
    ∃ asked, Alters reactor (reactor.unregister key closer).2 asked ∧
      (reactor.unregister key closer).1 ++ asked.filterMap PollRequest.closer? = [closer] := by
  cases known : reactor.entry? key with
  | none =>
    refine ⟨[], ?_⟩
    rw [unregister, known]
    exact ⟨.refl given, rfl⟩
  | some entry =>
    obtain ⟨nextKey, closed⟩ := reactor.unregister_spec key closer
    have isKey := reactor.entry?_unregister key closer
    have unknown : ∀ other, reactor.entry? other = none →
        Reactor.entry? (reactor.unregister key closer).2 other = none := by
      intro other none
      rw [isKey, none]
      exact ite_self _
    have unregistered := unregister_of_open isOpen known closer
    refine ⟨[.deregister key closer], ⟨by rw [unregistered], by rw [unregistered],
      by rw [unregistered], closed, Nat.le_of_eq nextKey.symm,
      fun other later => unknown other (given other (nextKey ▸ later)),
      fun other _ none => unknown other none, fun other notAsked => ?_, fun request member => ?_⟩,
      by rw [unregistered]; rfl⟩
    · have differs : other ≠ key :=
        fun isOther => notAsked _ (List.mem_singleton_self _) isOther.symm
      rw [wanted?, interest?, isKey, if_neg differs]
      exact ⟨rfl, rfl⟩
    · rw [List.mem_singleton.mp member]
      refine ⟨nextKey.symm ▸ lt_nextKey given known, ?_⟩
      rw [PollRequest.key, isKey, if_pos rfl]
      rfl

end

/-! ## Carrying the requests out -/

theorem entry?_carryOut (reactor : Reactor C) (stopping : Bool) (request : PollRequest C)
    (key : SelectionKey) :
    Reactor.entry? (reactor.carryOut stopping request).1 key = reactor.entry? key := by
  rw [Reactor.entry?, (carryOut_spec reactor stopping request).1]
  rfl

theorem wanted?_carryOut (reactor : Reactor C) (stopping : Bool) (request : PollRequest C)
    (key : SelectionKey) :
    (reactor.carryOut stopping request).1.wanted? key = reactor.wanted? key := by
  rw [wanted?, interest?, entry?_carryOut]
  rfl

theorem requests_carryOut (reactor : Reactor C) (stopping : Bool) (request : PollRequest C) :
    (reactor.carryOut stopping request).1.requests = reactor.requests := by
  cases request with
  | register key | rearm key =>
    unfold carryOut Reactor.arm
    repeat' split
    all_goals rfl
  | deregister key closer =>
    unfold carryOut
    dsimp only
    split <;> rfl

theorem Tidy.carryOut {reactor : Reactor C} (tidy : reactor.Tidy) (stopping : Bool)
    (request : PollRequest C) : (reactor.carryOut stopping request).1.Tidy := by
  cases request with
  | register key | rearm key =>
    unfold Reactor.carryOut
    dsimp only
    split
    · exact tidy
    · exact tidy.arm key
  | deregister key closer => exact tidy.disarmed key

/-- A request that is right for its key makes the poll what the key says. -/
theorem Tidy.watched?_carryOut {reactor : Reactor C} (tidy : reactor.Tidy)
    {request : PollRequest C}
    (right : request.takesOut = (reactor.entry? request.key).isNone) (key : SelectionKey) :
    (reactor.carryOut false request).1.watched? key =
      if key = request.key then reactor.wanted? request.key else reactor.watched? key := by
  cases request with
  | register asked | rearm asked =>
    obtain ⟨entry, known⟩ := Option.isSome_iff_exists.mp (Option.isNone_eq_false_iff.mp right.symm)
    exact tidy.watched?_arm known key
  | deregister asked closer =>
    rw [wanted?_of_unknown (Option.isNone_iff_eq_none.mp right.symm)]
    exact tidy.watched?_disarmed asked key

/-- A request to watch a key that was taken out since is passed over. -/
theorem carryOut_of_stale {reactor : Reactor C} {request : PollRequest C}
    (watches : request.takesOut = false) (unknown : reactor.entry? request.key = none) :
    (reactor.carryOut false request).1 = reactor := by
  cases request with
  | register key | rearm key => exact arm_of_unknown unknown
  | deregister key closer => exact absurd watches.symm Bool.false_ne_true

/-- What a request was to see to is seen to when it was carried out. -/
theorem SeenTo.carryOut {reactor : Reactor C} {request : PollRequest C}
    {later : List (PollRequest C)} (h : SeenTo reactor (request :: later)) :
    SeenTo (reactor.carryOut false request).1 later := by
  obtain ⟨-, nextKey, -⟩ := carryOut_spec reactor false request
  refine
    { tidy := h.tidy.carryOut false request
      given := fun key later => ?given
      known := fun other member => ?known
      gone := fun other member takesOut => ?gone
      seen := fun key differs => ?seen }
  case given =>
    rw [entry?_carryOut]
    exact h.given key (nextKey ▸ later)
  case known =>
    rw [nextKey]
    exact h.known other (List.mem_cons_of_mem _ member)
  case gone =>
    rw [entry?_carryOut]
    exact h.gone other (List.mem_cons_of_mem _ member) takesOut
  case seen =>
    rw [wanted?_carryOut] at differs
    rw [entry?_carryOut]
    by_cases right : request.takesOut = (reactor.entry? request.key).isNone
    · rw [h.tidy.watched?_carryOut right] at differs
      split at differs
      · rename_i same
        exact absurd (same ▸ rfl) differs
      · rename_i other
        obtain ⟨witness, member, isKey, sees⟩ := h.seen key differs
        refine ⟨witness, (List.mem_cons.mp member).resolve_left ?_, isKey, sees⟩
        rintro rfl
        exact other isKey.symm
    · -- A key that is watched although it was taken out is still to be taken out of the poll.
      have watches : request.takesOut = false := by
        refine Bool.eq_false_iff.mpr fun takesOut => right ?_
        rw [takesOut, h.gone request List.mem_cons_self takesOut]
        rfl
      have unknown : reactor.entry? request.key = none := by
        rw [watches] at right
        exact Option.isNone_iff_eq_none.mp (Bool.of_not_eq_false (Ne.symm right))
      rw [carryOut_of_stale watches unknown] at differs
      obtain ⟨witness, member, isKey, sees⟩ := h.seen key differs
      refine ⟨witness, (List.mem_cons.mp member).resolve_left ?_, isKey, sees⟩
      rintro rfl
      exact right (isKey ▸ sees)

/-- Carries requests out one after the other. -/
def carryAll (reactor : Reactor C) (stopping : Bool) (requests : List (PollRequest C)) :
    Reactor C :=
  requests.foldl (fun reactor request => (reactor.carryOut stopping request).1) reactor

theorem requests_carryAll (reactor : Reactor C) (stopping : Bool)
    (requests : List (PollRequest C)) :
    (reactor.carryAll stopping requests).requests = reactor.requests := by
  induction requests generalizing reactor with
  | nil => rfl
  | cons request requests ih => exact (ih _).trans (requests_carryOut reactor stopping request)

/-- When the first requests were carried out, the others see to the keys. -/
theorem SeenTo.carryAll {reactor : Reactor C} {requests later : List (PollRequest C)}
    (h : SeenTo reactor (requests ++ later)) : SeenTo (reactor.carryAll false requests) later := by
  induction requests generalizing reactor with
  | nil => exact h
  | cons request requests ih => exact ih h.carryOut

/-- The requests are carried out one after the other, and the closers that come with them run. -/
theorem drainRequests_eq (reactor : Reactor C) (stopping : Bool) :
    (reactor.drainRequests stopping).1 =
        { reactor with requests := [] }.carryAll stopping reactor.requests ∧
      (reactor.drainRequests stopping).2.2 = reactor.requests.filterMap PollRequest.closer? := by
  have fold : ∀ (requests : List (PollRequest C)) (before : Reactor C) (armed : List SelectionKey)
      (closers : List C),
      let drained := requests.foldl (fun drained request =>
        let carried := drained.1.carryOut stopping request
        (carried.1, drained.2.1 ++ carried.2.1, drained.2.2 ++ carried.2.2))
          (before, armed, closers)
      drained.1 = before.carryAll stopping requests ∧
        drained.2.2 = closers ++ requests.filterMap PollRequest.closer? := by
    intro requests
    induction requests with
    | nil => exact fun _ _ closers => ⟨rfl, (List.append_nil closers).symm⟩
    | cons request requests ih =>
      intro before armed closers
      obtain ⟨carried, ran⟩ := ih (before.carryOut stopping request).1
        (armed ++ (before.carryOut stopping request).2.1)
        (closers ++ (before.carryOut stopping request).2.2)
      refine ⟨carried, ran.trans ?_⟩
      have runs : (before.carryOut stopping request).2.2 = request.closer?.toList := by
        cases request with
        | register key | rearm key =>
          unfold carryOut
          dsimp only
          split <;> rfl
        | deregister key closer => rfl
      rw [runs, List.append_assoc]
      cases request <;> rfl
  exact fold reactor.requests { reactor with requests := [] } [] []

end Reactor

/-! ## Operations that go on at once -/

/-- A reactor that several threads use. An operation first changes the keys and then queues what it
asks for; requests are taken from the queue all at once and carried out one by one. -/
structure SharedReactor (C : Type) where
  /-- The reactor itself. -/
  reactor : Reactor C := {}
  /-- What operations ask for that have changed the keys and have not queued it yet. -/
  submitting : List (PollRequest C) := []
  /-- What was taken from the queue and is to be carried out, the next one first. -/
  carrying : List (PollRequest C) := []
  /-- The keys that were given out, in order. -/
  issued : List SelectionKey := []

/-- One step of an operation. -/
inductive SharedReactorStep (C : Type) where
  /-- A socket is registered. -/
  | register (interest : Interest)
  /-- What a key is watched for is changed. -/
  | setInterest (key : SelectionKey) (interest : Interest)
  /-- What is reported of a key is dropped from now on. -/
  | disable (key : SelectionKey)
  /-- What is reported of a key is handed out again. -/
  | enable (key : SelectionKey)
  /-- A key is taken out. -/
  | unregister (key : SelectionKey) (closer : C)
  /-- One of the operations that have not done so queues what it asks for. -/
  | submit (index : Nat)
  /-- All requests are taken from the queue, unless some that were taken are still to be carried
  out. -/
  | collect
  /-- The next request is carried out. What the key is watched for is looked up and given to the
  poll in one step, since nobody else looks at the poll in between. -/
  | carryOut

/-- What a key is to be watched for after a step, by the number of the next key and by what it was
to be watched for. -/
def SharedReactorStep.interest? (nextKey key : SelectionKey) (before : Option Interest) :
    SharedReactorStep C → Option Interest
  | .register interest => if key = nextKey then some interest else before
  | .setInterest changed interest =>
    if key = changed then before.map fun _ => interest else before
  | .unregister gone _ => if key = gone then none else before
  | .disable _ | .enable _ | .submit _ | .collect | .carryOut => before

namespace SharedReactor

/-- Requests that were not carried out. -/
def outstanding (shared : SharedReactor C) : List (PollRequest C) :=
  shared.carrying ++ shared.reactor.requests ++ shared.submitting

/-- An operation has changed the keys. What it queues when nobody interferes is to be queued yet. -/
def defer (shared : SharedReactor C) (after : Reactor C) : SharedReactor C :=
  { shared with
    reactor := { after with requests := shared.reactor.requests }
    submitting := shared.submitting ++ after.requests.drop shared.reactor.requests.length }

/-- What a step does. A step that cannot be taken does nothing. -/
def step (shared : SharedReactor C) : SharedReactorStep C → SharedReactor C
  | .register interest =>
    match shared.reactor.register interest with
    | .error _ => shared
    | .ok (key, after) => { shared.defer after with issued := shared.issued ++ [key] }
  | .setInterest key interest => shared.defer (shared.reactor.setInterest key interest)
  | .disable key => shared.defer (shared.reactor.disable key).2
  | .enable key => shared.defer (shared.reactor.enable key)
  | .unregister key closer => shared.defer (shared.reactor.unregister key closer).2
  | .submit index =>
    match shared.submitting[index]? with
    | none => shared
    | some request =>
      { shared with
        reactor := shared.reactor.submit request
        submitting := shared.submitting.eraseIdx index }
  | .collect =>
    if shared.carrying.isEmpty then
      { shared with
        reactor := { shared.reactor with requests := [] }
        carrying := shared.reactor.requests }
    else shared
  | .carryOut =>
    match shared.carrying with
    | [] => shared
    | request :: later =>
      { shared with reactor := (shared.reactor.carryOut false request).1, carrying := later }

/-- Takes steps one after the other. -/
def run (shared : SharedReactor C) (steps : List (SharedReactorStep C)) : SharedReactor C :=
  steps.foldl step shared

/-- The steps of one who carries out all requests that are queued. -/
def drain (shared : SharedReactor C) : List (SharedReactorStep C) :=
  .collect :: List.replicate shared.reactor.requests.length .carryOut

/-- With nobody in between these steps are what `Reactor.drainRequests` does. -/
theorem run_drain {shared : SharedReactor C} (idle : shared.carrying = []) :
    shared.run shared.drain =
      { shared with reactor := (shared.reactor.drainRequests false).1 } := by
  have carries : ∀ (requests : List (PollRequest C)) (before : Reactor C),
      SharedReactor.run { shared with reactor := before, carrying := requests }
          (List.replicate requests.length .carryOut) =
        { shared with reactor := before.carryAll false requests, carrying := [] } := by
    intro requests
    induction requests with
    | nil => exact fun _ => rfl
    | cons request requests ih => exact fun before => ih (before.carryOut false request).1
  rw [(shared.reactor.drainRequests_eq false).1, run, drain, List.foldl_cons, step, idle,
    List.isEmpty_nil, if_pos rfl]
  exact (carries _ _).trans (idle ▸ rfl)

/-- The invariant of a reactor that is used while it is open. -/
structure Sound (shared : SharedReactor C) : Prop where
  /-- It was not shut down. -/
  isOpen : shared.reactor.closed = false
  /-- What was not carried out sees to all keys. -/
  seen : shared.reactor.SeenTo shared.outstanding
  /-- No key was given out twice. -/
  nodup : shared.issued.Nodup
  /-- Later keys have greater numbers. -/
  earlier : ∀ key ∈ shared.issued, key < shared.reactor.nextKey

theorem Sound.new : Sound ({} : SharedReactor C) where
  isOpen := rfl
  seen := .new
  nodup := List.nodup_nil
  earlier := fun _ member => absurd member List.not_mem_nil

/-- An operation that asks for each key that it changes keeps the invariant. -/
theorem Sound.defer {shared : SharedReactor C} (h : shared.Sound) {after : Reactor C}
    {asked : List (PollRequest C)} (alters : shared.reactor.Alters after asked) :
    (shared.defer after).Sound := by
  have submitting : (shared.defer after).submitting = shared.submitting ++ asked := by
    show shared.submitting ++ after.requests.drop _ = _
    rw [alters.requests, List.drop_left]
  have outstanding : (shared.defer after).outstanding = shared.outstanding ++ asked := by
    rw [SharedReactor.outstanding, submitting]
    exact (List.append_assoc _ _ _).symm
  refine
    { isOpen := alters.closed.trans h.isOpen
      seen := ?_
      nodup := h.nodup
      earlier := fun key issued => Nat.lt_of_lt_of_le (h.earlier key issued) alters.nextKey }
  rw [outstanding]
  exact (h.seen.alters alters).of_eq rfl

/-- Which requests were not carried out is the same while the queue is filled and taken. -/
theorem Sound.moves {shared after : SharedReactor C} (h : shared.Sound)
    (reactor : after.reactor = { shared.reactor with requests := after.reactor.requests })
    (issued : after.issued = shared.issued)
    (same : after.outstanding.Perm shared.outstanding) : after.Sound where
  isOpen := by
    rw [reactor]
    exact h.isOpen
  seen := by
    refine (h.seen.of_mem_iff fun _ => same.mem_iff).of_eq ?_
    rw [reactor]
  nodup := issued ▸ h.nodup
  earlier := by
    rw [reactor, issued]
    exact h.earlier

theorem Sound.step {shared : SharedReactor C} (h : shared.Sound) (step : SharedReactorStep C) :
    (shared.step step).Sound := by
  cases step with
  | register interest =>
    rw [SharedReactor.step]
    cases registers : shared.reactor.register interest with
    | error refused => exact h
    | ok result =>
      obtain ⟨key, after⟩ := result
      obtain ⟨isNext, nextKey, alters⟩ := Reactor.alters_register h.seen.given h.isOpen registers
      have deferred := h.defer alters
      -- A key that was given out before has a smaller number than the new one.
      refine ⟨deferred.isOpen, deferred.seen, ?_, fun issued member => ?_⟩
      · refine List.nodup_append.mpr ⟨h.nodup, List.nodup_singleton key, ?_⟩
        rintro issued member _ isKey rfl
        exact Nat.ne_of_lt (h.earlier issued member) ((List.mem_singleton.mp isKey).trans isNext)
      · show issued < after.nextKey
        rw [nextKey]
        rcases List.mem_append.mp member with before | isKey
        · exact Nat.lt_succ_of_lt (h.earlier issued before)
        · rw [List.mem_singleton.mp isKey, isNext]
          exact Nat.lt_succ_self _
  | setInterest key interest =>
    obtain ⟨asked, alters, -⟩ :=
      Reactor.exists_alters_setInterest h.seen.given h.isOpen key interest
    exact h.defer alters
  | disable key => exact h.defer (Reactor.alters_disable h.seen.given key)
  | enable key =>
    obtain ⟨asked, alters, -⟩ := Reactor.exists_alters_enable h.seen.given h.isOpen key
    exact h.defer alters
  | unregister key closer =>
    obtain ⟨asked, alters, -⟩ :=
      Reactor.exists_alters_unregister h.seen.given h.isOpen key closer
    exact h.defer alters
  | submit index =>
    rw [SharedReactor.step]
    cases found : shared.submitting[index]? with
    | none => exact h
    | some request =>
      obtain ⟨inRange, isRequest⟩ := List.getElem?_eq_some_iff.mp found
      have taken := List.getElem_cons_eraseIdx_perm inRange
      rw [isRequest] at taken
      dsimp only
      rw [Reactor.submit_of_open h.isOpen request]
      refine h.moves rfl rfl ?_
      rw [outstanding, outstanding, ← List.append_assoc, List.append_assoc _ [request]]
      exact taken.append_left _
  | collect =>
    rw [SharedReactor.step]
    split
    · rename_i idle
      refine h.moves rfl rfl (List.Perm.of_eq ?_)
      rw [outstanding, outstanding, List.isEmpty_iff.mp idle, List.append_nil, List.nil_append]
    · exact h
  | carryOut =>
    rw [SharedReactor.step]
    cases carries : shared.carrying with
    | nil => exact h
    | cons request later =>
      obtain ⟨-, nextKey, closed⟩ := Reactor.carryOut_spec shared.reactor false request
      have seen := h.seen
      rw [outstanding, carries] at seen
      refine ⟨closed.trans h.isOpen, ?_, h.nodup, fun key issued => ?_⟩
      · show Reactor.SeenTo _ (later ++ (shared.reactor.carryOut false request).1.requests ++ _)
        rw [Reactor.requests_carryOut]
        exact seen.carryOut
      · show key < (shared.reactor.carryOut false request).1.nextKey
        rw [nextKey]
        exact h.earlier key issued

theorem Sound.run {shared : SharedReactor C} (h : shared.Sound)
    (steps : List (SharedReactorStep C)) : (shared.run steps).Sound := by
  induction steps generalizing shared with
  | nil => exact h
  | cons step later ih => exact ih (h.step step)

/-- Only those who register a key, take it out or say what it is to be watched for have a say in
that. -/
theorem Sound.interest?_step {shared : SharedReactor C} (h : shared.Sound)
    (step : SharedReactorStep C) (key : SelectionKey) :
    (shared.step step).reactor.interest? key =
      step.interest? shared.reactor.nextKey key (shared.reactor.interest? key) := by
  cases step with
  | register interest =>
    have registers := Reactor.register_of_open h.isOpen interest
    obtain ⟨-, -, -, entry⟩ :=
      Reactor.entry?_register (h.seen.given _ (Nat.le_refl _)) registers
    rw [SharedReactor.step, registers]
    show Option.map _ (Reactor.entry? _ key) = _
    refine (congrArg _ (entry key)).trans ?_
    rw [SharedReactorStep.interest?]
    split <;> rfl
  | setInterest changed interest => exact shared.reactor.interest?_setInterest changed interest key
  | disable disabled => exact shared.reactor.interest?_disable disabled key
  | enable enabled => exact shared.reactor.interest?_enable enabled key
  | unregister gone closer =>
    show Option.map _ (Reactor.entry? (shared.reactor.unregister gone closer).2 key) = _
    rw [Reactor.entry?_unregister, SharedReactorStep.interest?]
    split <;> rfl
  | submit index =>
    rw [SharedReactor.step]
    split
    · rfl
    · exact shared.reactor.interest?_submit _ key
  | collect =>
    rw [SharedReactor.step]
    split <;> rfl
  | carryOut =>
    rw [SharedReactor.step]
    split
    · rfl
    · show Option.map _ (Reactor.entry? _ key) = _
      rw [Reactor.entry?_carryOut]
      rfl

end SharedReactor

/-- Whatever several threads do with a reactor that is open, in any order of their steps: each key
for which the poll is not as it is to be is named by a request that is queued, is about to be queued
or was taken from the queue and not carried out. Once there is no such request, for which it is
enough that the queue is drained after all operations have ended, the poll watches exactly the
registered keys that wait for something, each for what it waits for now, and the reactor takes
exactly these to be watched. What a key waits for is what it was registered for, or what was said
last, until it is taken out. No key is given out twice. -/
theorem poll_follows_keys (steps : List (SharedReactorStep C)) :
    let shared : SharedReactor C := ({} : SharedReactor C).run steps
    (∀ key, shared.reactor.watched? key ≠ shared.reactor.wanted? key →
      ∃ request ∈ shared.outstanding, request.key = key) ∧
      (shared.outstanding = [] → ∀ key,
        shared.reactor.watched? key = shared.reactor.wanted? key ∧
          (key ∈ shared.reactor.armed ↔ shared.reactor.wanted? key ≠ none)) ∧
      (shared.carrying = [] → shared.submitting = [] →
        let drained := (shared.reactor.drainRequests false).1
        shared.run shared.drain = { shared with reactor := drained } ∧
          drained.requests = [] ∧ drained.keys = shared.reactor.keys ∧ ∀ key,
            drained.watched? key = drained.wanted? key ∧
              (key ∈ drained.armed ↔ drained.wanted? key ≠ none)) ∧
      (∀ step key, (shared.step step).reactor.interest? key =
        step.interest? shared.reactor.nextKey key (shared.reactor.interest? key)) ∧
      shared.reactor.Tidy ∧ shared.issued.Nodup := by
  intro shared
  have watches : ∀ {other : SharedReactor C}, other.Sound → other.outstanding = [] → ∀ key,
      other.reactor.watched? key = other.reactor.wanted? key ∧
        (key ∈ other.reactor.armed ↔ other.reactor.wanted? key ≠ none) := by
    intro other sound none key
    have seen := sound.seen
    rw [none] at seen
    refine ⟨seen.watched?_eq key, ?_⟩
    rw [← seen.watched?_eq key]
    exact seen.tidy.armed key
  have sound : shared.Sound := SharedReactor.Sound.new.run steps
  refine ⟨fun key differs => ?_, watches sound, fun idle submitted => ?_, sound.interest?_step,
    sound.seen.tidy, sound.nodup⟩
  · obtain ⟨request, member, isKey, -⟩ := sound.seen.seen key differs
    exact ⟨request, member, isKey⟩
  · have drains := SharedReactor.run_drain idle
    have none : (shared.reactor.drainRequests false).1.requests = [] := by
      rw [(shared.reactor.drainRequests_eq false).1, Reactor.requests_carryAll]
    have afterwards := sound.run shared.drain
    rw [drains] at afterwards
    refine ⟨drains, none, (Reactor.drainRequests_spec _ _).1, watches afterwards ?_⟩
    rw [SharedReactor.outstanding, idle, none, submitted]
    rfl

/-- A key that waits for nothing for a while, and whose requests are queued in another order, is
watched for what it waits for in the end. -/
example :
    let shared := ({} : SharedReactor Unit).run
      [.register { read := true }, .setInterest 0 {}, .submit 1, .submit 0, .collect, .carryOut,
        .setInterest 0 { write := true }, .carryOut]
    shared.reactor.watched? 0 = some { write := true } ∧ shared.outstanding = [.rearm 0] := by
  decide

end ChannelAccess
