import ChannelAccess.Monitor.Latest
import Mathlib.Data.List.Induction
import Mathlib.Logic.Basic

/-!
# The slot of the latest update

A notifier with one slot loses an update only to a newer one. All that happens to its slot is that
an update is put into it or picked up from it; written down in order (`SlotRecord`), every pick-up
stands directly behind the acceptance of the update that it takes, and the slot is full exactly if
the last thing written down is an acceptance (`LatestHistory.Sound`). From there an update comes to
the consumer once: it was picked up by the consumer's thread, or by the closer when that thread is
over.

`newest_update_delivered` has all of it. It holds for every order in which publishers, the
consumer's thread, the consumer and a closer take their steps, whether the thread was started or
not. The closer's last steps, to ask for the thread, to wait for it and to look into the slot, are
one step: nothing is accepted by then, so that with the thread over nobody else can change the slot,
as long as nobody starts a thread between them.
-/

namespace ChannelAccess

variable {α : Type}

/-- The update that the consumer's thread delivers. -/
def ConsumerThread.delivering? : ConsumerThread α → Option (Update α)
  | delivering update => some update
  | unstarted | looking | asking | stopped => none

theorem ConsumerThread.delivering?_of_ended {thread : ConsumerThread α}
    (ended : thread = .unstarted ∨ thread = .stopped) : thread.delivering? = none := by
  rcases ended with rfl | rfl <;> rfl

/-- The closer has looked into the slot. -/
def Closer.hasLooked : Closer α → Bool
  | absent | waiting => false
  | delivering _ | returned => true

/-- The update that the closer delivers. -/
def Closer.delivering? : Closer α → Option (Update α)
  | delivering update => some update
  | absent | waiting | returned => none

/-- A closer delivers only when it has looked. -/
theorem Closer.delivering?_eq_none {closer : Closer α} (notYet : closer.hasLooked = false) :
    closer.delivering? = none := by
  cases closer with
  | absent | waiting | returned => rfl
  | delivering update => contradiction

/-- Everything that a step can do. -/
inductive LatestMove (notifier : LatestNotifier α) : LatestStep α → LatestNotifier α → Prop where
  /-- A closed notifier accepts no update. -/
  | refuse (update : Update α) (closed : notifier.closed = true) :
    LatestMove notifier (.publish update) notifier
  /-- An update is put into the empty slot. -/
  | fill (update : Update α) (isOpen : notifier.closed = false) (empty : notifier.pending = none) :
    LatestMove notifier (.publish update) { notifier with pending := some update }
  /-- An update takes the place of an older one. -/
  | replace (update lost : Update α) (isOpen : notifier.closed = false)
    (full : notifier.pending = some lost) :
    LatestMove notifier (.publish update) { notifier.recycle lost with pending := some update }
  /-- The consumer's thread is started. -/
  | start (unstarted : notifier.thread = .unstarted) :
    LatestMove notifier .start { notifier with thread := .looking }
  /-- The consumer's thread was started before. -/
  | started (started : notifier.thread ≠ .unstarted) : LatestMove notifier .start notifier
  /-- The thread picks an update up. -/
  | pick (update : Update α) (looks : notifier.thread = .looking)
    (full : notifier.pending = some update) :
    LatestMove notifier .look { notifier with pending := none, thread := .delivering update }
  /-- The thread finds the slot empty. -/
  | miss (looks : notifier.thread = .looking) (empty : notifier.pending = none) :
    LatestMove notifier .look { notifier with thread := .asking }
  /-- The consumer is done with an update of its thread. -/
  | finish (update : Update α) (delivers : notifier.thread = .delivering update) :
    LatestMove notifier .finish { notifier.recycle update with thread := .looking }
  /-- The consumer is done with an update of the closer. -/
  | finishLast (update : Update α) (idle : notifier.thread.delivering? = none)
    (delivers : notifier.closer = .delivering update) :
    LatestMove notifier .finish { notifier.recycle update with closer := .returned }
  /-- The thread goes on while the notifier is open, and stops otherwise. -/
  | ask (asks : notifier.thread = .asking) :
    LatestMove notifier .ask
      { notifier with thread := if notifier.closed then .stopped else .looking }
  /-- The notifier is closed from outside. -/
  | close (isOpen : notifier.closed = false) :
    LatestMove notifier .close { notifier with closed := true, closer := .waiting }
  /-- The notifier was closed before. -/
  | closeAgain (closed : notifier.closed = true) : LatestMove notifier .close notifier
  /-- The consumer closes the notifier. -/
  | closeFromConsumer (update : Update α) (delivers : notifier.thread = .delivering update) :
    LatestMove notifier .closeFromConsumer { notifier with closed := true }
  /-- The closer picks up what the thread has left. -/
  | sweep (update : Update α) (waits : notifier.closer = .waiting)
    (ended : notifier.thread = .unstarted ∨ notifier.thread = .stopped)
    (full : notifier.pending = some update) :
    LatestMove notifier .join { notifier with pending := none, closer := .delivering update }
  /-- The thread has left nothing, and the closer returns. -/
  | leave (waits : notifier.closer = .waiting)
    (ended : notifier.thread = .unstarted ∨ notifier.thread = .stopped)
    (empty : notifier.pending = none) :
    LatestMove notifier .join { notifier with closer := .returned }

namespace LatestNotifier

section
variable {notifier : LatestNotifier α}

theorem publish_of_closed (closed : notifier.closed = true) (update : Update α) :
    notifier.publish update = (false, notifier) := by
  rw [publish, if_pos closed]

/-- Publishing to an open notifier whose slot is empty loses nothing. -/
theorem publish_of_empty (isOpen : notifier.closed = false) (empty : notifier.pending = none)
    (update : Update α) :
    notifier.publish update = (true, { notifier with pending := some update }) := by
  rw [publish, if_neg (Bool.eq_false_iff.mp isOpen)]
  simp only [empty]

/-- Publishing to an open notifier whose slot is full loses the update in it. -/
theorem publish_of_full {lost : Update α} (isOpen : notifier.closed = false)
    (full : notifier.pending = some lost) (update : Update α) :
    notifier.publish update =
      (false, { notifier.recycle lost with pending := some update }) := by
  rw [publish, if_neg (Bool.eq_false_iff.mp isOpen)]
  simp only [full]

end

/-- A publisher is told so if its update was accepted and no other lost. -/
theorem publish_eq_true_iff (notifier : LatestNotifier α) (update : Update α) :
    (notifier.publish update).1 = true ↔ notifier.closed = false ∧ notifier.pending = none := by
  cases closed : notifier.closed with
  | true => simp [publish_of_closed closed]
  | false =>
    cases pending : notifier.pending with
    | none => simp [publish_of_empty closed pending]
    | some lost => simp [publish_of_full closed pending]

/-- What a publisher does. -/
theorem move_publish (notifier : LatestNotifier α) (update : Update α) :
    LatestMove notifier (.publish update) (notifier.publish update).2 := by
  cases closed : notifier.closed with
  | true =>
    rw [publish_of_closed closed]
    exact .refuse update closed
  | false =>
    cases pending : notifier.pending with
    | none =>
      rw [publish_of_empty closed pending]
      exact .fill update closed pending
    | some lost =>
      rw [publish_of_full closed pending]
      exact .replace update lost closed pending

/-- Every step that can happen is one of those written out. -/
theorem move_of_step {notifier after : LatestNotifier α} {step : LatestStep α}
    (h : notifier.step step = some after) : LatestMove notifier step after := by
  cases step with
  | publish update =>
    obtain rfl := Option.some.inj h
    exact notifier.move_publish update
  | start =>
    dsimp only [LatestNotifier.step] at h
    split at h
    · rename_i unstarted
      obtain rfl := Option.some.inj h
      exact .start unstarted
    · rename_i started
      obtain rfl := Option.some.inj h
      exact .started started
  | look =>
    dsimp only [LatestNotifier.step] at h
    split at h
    · rename_i update looks full
      obtain rfl := Option.some.inj h
      exact .pick update looks full
    · rename_i looks empty
      obtain rfl := Option.some.inj h
      exact .miss looks empty
    · contradiction
  | finish =>
    dsimp only [LatestNotifier.step] at h
    split at h
    · rename_i update delivers
      obtain rfl := Option.some.inj h
      exact .finish update delivers
    · rename_i update delivers idle
      obtain rfl := Option.some.inj h
      have idle : notifier.thread.delivering? = none := by
        cases thread : notifier.thread with
        | delivering other => exact absurd thread (idle other)
        | unstarted | looking | asking | stopped => rfl
      exact .finishLast update idle delivers
    · contradiction
  | ask =>
    dsimp only [LatestNotifier.step] at h
    split at h
    · rename_i asks
      obtain rfl := Option.some.inj h
      exact .ask asks
    · contradiction
  | close =>
    dsimp only [LatestNotifier.step] at h
    split at h
    · rename_i closed
      obtain rfl := Option.some.inj h
      exact .closeAgain closed
    · rename_i isOpen
      obtain rfl := Option.some.inj h
      exact .close (Bool.eq_false_iff.mpr isOpen)
  | closeFromConsumer =>
    dsimp only [LatestNotifier.step] at h
    split at h
    · rename_i update delivers
      obtain rfl := Option.some.inj h
      exact .closeFromConsumer update delivers
    · contradiction
  | join =>
    dsimp only [LatestNotifier.step] at h
    split at h
    · rename_i update waits ended full
      obtain rfl := Option.some.inj h
      exact .sweep update waits (.inl ended) full
    · rename_i update waits ended full
      obtain rfl := Option.some.inj h
      exact .sweep update waits (.inr ended) full
    · rename_i waits ended empty
      obtain rfl := Option.some.inj h
      exact .leave waits (.inl ended) empty
    · rename_i waits ended empty
      obtain rfl := Option.some.inj h
      exact .leave waits (.inr ended) empty
    · contradiction

/-- The thread delivers, or else the closer may. -/
theorem delivering?_eq (notifier : LatestNotifier α) :
    notifier.delivering? = notifier.thread.delivering?.or notifier.closer.delivering? := by
  unfold delivering?
  cases notifier.thread <;> cases notifier.closer <;> rfl

end LatestNotifier

/-! ## The history of a notifier -/

/-- What happens to the slot. -/
inductive SlotRecord (α : Type) where
  /-- An update is put into it. -/
  | accepted (update : Update α)
  /-- An update is taken out of it, to be delivered. -/
  | picked (update : Update α)
  deriving DecidableEq, Repr

/-- The update that is put into the slot. -/
def SlotRecord.accepted? : SlotRecord α → Option (Update α)
  | accepted update => some update
  | picked _ => none

/-- The update that is taken out of the slot. -/
def SlotRecord.picked? : SlotRecord α → Option (Update α)
  | accepted _ => none
  | picked update => some update

/-- A notifier with one slot, and what happened to it. -/
structure LatestHistory (α : Type) where
  /-- The notifier. -/
  notifier : LatestNotifier α := {}
  /-- What happened to the slot, in order. -/
  records : List (SlotRecord α) := []
  /-- The updates with which the consumer is done, in order. -/
  delivered : List (Update α) := []
  /-- How many publishers were told that their update was accepted and no other lost. -/
  granted : Nat := 0
  deriving DecidableEq, Repr

namespace LatestHistory

/-- The updates that were accepted, in order. -/
def accepted (history : LatestHistory α) : List (Update α) :=
  history.records.filterMap SlotRecord.accepted?

/-- The updates that were picked up, in order. -/
def picked (history : LatestHistory α) : List (Update α) :=
  history.records.filterMap SlotRecord.picked?

/-- What happens to the slot with a step. -/
def recordOf? (notifier : LatestNotifier α) : LatestStep α → Option (SlotRecord α)
  | .publish update => if notifier.closed then none else some (.accepted update)
  | .look | .join => notifier.pending.map .picked
  | .start | .finish | .ask | .close | .closeFromConsumer => none

/-- The update with which the consumer is done after a step. -/
def deliveredBy? (notifier : LatestNotifier α) : LatestStep α → Option (Update α)
  | .finish => notifier.delivering?
  | .publish _ | .start | .look | .ask | .close | .closeFromConsumer | .join => none

/-- A publisher is told with the step that its update was accepted and no other lost. -/
def grants (notifier : LatestNotifier α) : LatestStep α → Bool
  | .publish update => (notifier.publish update).1
  | .start | .look | .finish | .ask | .close | .closeFromConsumer | .join => false

/-- The history after a step that leaves the notifier in some state. -/
def next (history : LatestHistory α) (step : LatestStep α) (notifier : LatestNotifier α) :
    LatestHistory α where
  notifier
  records := history.records ++ (recordOf? history.notifier step).toList
  delivered := history.delivered ++ (deliveredBy? history.notifier step).toList
  granted := history.granted + (grants history.notifier step).toNat

/-- What a step does. One that cannot happen does nothing. -/
def step (history : LatestHistory α) (step : LatestStep α) : LatestHistory α :=
  match history.notifier.step step with
  | none => history
  | some notifier => history.next step notifier

/-- What some steps do, one after the other. -/
def run (history : LatestHistory α) (steps : List (LatestStep α)) : LatestHistory α :=
  steps.foldl step history

/-! ## The records of a slot -/

theorem filterMap_accepted?_concat (records : List (SlotRecord α)) (last : SlotRecord α) :
    (records ++ [last]).filterMap SlotRecord.accepted? =
      records.filterMap SlotRecord.accepted? ++ last.accepted?.toList := by
  rw [List.filterMap_append]
  cases last <;> rfl

theorem filterMap_picked?_concat (records : List (SlotRecord α)) (last : SlotRecord α) :
    (records ++ [last]).filterMap SlotRecord.picked? =
      records.filterMap SlotRecord.picked? ++ last.picked?.toList := by
  rw [List.filterMap_append]
  cases last <;> rfl

/-- The update that the records leave in the slot: what was accepted last, unless it was picked up
since. -/
def waiting? (records : List (SlotRecord α)) : Option (Update α) :=
  records.getLast?.bind SlotRecord.accepted?

theorem waiting?_concat (records : List (SlotRecord α)) (last : SlotRecord α) :
    waiting? (records ++ [last]) = last.accepted? := by
  rw [waiting?, List.getLast?_concat]
  rfl

theorem waiting?_eq_some_iff {records : List (SlotRecord α)} {update : Update α} :
    waiting? records = some update ↔ records.getLast? = some (.accepted update) := by
  rw [waiting?, Option.bind_eq_some_iff]
  constructor
  · rintro ⟨last, isLast, accepted⟩
    cases last with
    | accepted other =>
      obtain rfl := Option.some.inj accepted
      exact isLast
    | picked other => contradiction
  · exact fun isLast => ⟨_, isLast, rfl⟩

/-- An update is picked up only directly after it was accepted. -/
def PicksNewest (records : List (SlotRecord α)) : Prop :=
  ∀ earlier update later, records = earlier ++ .picked update :: later →
    earlier.getLast? = some (.accepted update)

theorem picksNewest_nil : PicksNewest ([] : List (SlotRecord α)) := by
  intro earlier update later same
  exact absurd same.symm (List.append_ne_nil_of_right_ne_nil _ (List.cons_ne_nil _ _))

theorem picksNewest_concat {records : List (SlotRecord α)} {last : SlotRecord α} :
    PicksNewest (records ++ [last]) ↔
      PicksNewest records ∧
        ∀ update, last = .picked update → records.getLast? = some (.accepted update) := by
  constructor
  · intro newest
    refine ⟨fun earlier update later same => ?_, fun update isPick => ?_⟩
    · exact newest earlier update (later ++ [last])
        (by rw [same, List.append_assoc, List.cons_append])
    · exact newest records update [] (by rw [isPick])
  · rintro ⟨before, atLast⟩ earlier update later same
    rcases List.eq_nil_or_concat later with rfl | ⟨between, latest, rfl⟩
    · obtain ⟨rfl, isLast⟩ := List.append_inj' same rfl
      exact atLast update (List.singleton_inj.mp isLast)
    · rw [List.concat_eq_append, ← List.cons_append, ← List.append_assoc] at same
      exact before earlier update between (List.append_inj' same rfl).1

/-- Where the newest update is picked up, updates are picked up in the order in which they were
accepted, and the last one is not lost. -/
theorem PicksNewest.inOrder {records : List (SlotRecord α)} (newest : PicksNewest records) :
    let accepted := records.filterMap SlotRecord.accepted?
    let kept := records.filterMap SlotRecord.picked? ++ (waiting? records).toList
    kept.Sublist accepted ∧ kept.getLast? = accepted.getLast? := by
  induction records using List.reverseRecOn with
  | nil => exact ⟨List.Sublist.refl [], rfl⟩
  | append_singleton earlier last ih =>
    obtain ⟨before, atLast⟩ := picksNewest_concat.mp newest
    obtain ⟨inOrder, sameLast⟩ := ih before
    dsimp only at inOrder sameLast ⊢
    rw [filterMap_accepted?_concat, filterMap_picked?_concat, waiting?_concat]
    cases last with
    | accepted update =>
      -- What waited before was lost.
      have kept := (List.sublist_append_left _ _).trans inOrder
      dsimp only [SlotRecord.accepted?, SlotRecord.picked?, Option.toList_some, Option.toList_none]
      rw [List.append_nil]
      exact ⟨kept.append (List.Sublist.refl [update]),
        by rw [List.getLast?_concat, List.getLast?_concat]⟩
    | picked update =>
      -- What waited before is what was picked up.
      have waited : waiting? earlier = some update := waiting?_eq_some_iff.mpr (atLast update rfl)
      rw [waited] at inOrder sameLast
      dsimp only [SlotRecord.accepted?, SlotRecord.picked?, Option.toList_some, Option.toList_none]
        at inOrder sameLast ⊢
      rw [List.append_nil, List.append_nil]
      exact ⟨inOrder, sameLast⟩

/-! ## What every step keeps -/

/-- The slot is as its records say, and every update that was picked up was delivered or is being
delivered. -/
structure Sound (history : LatestHistory α) : Prop where
  /-- The slot holds what was accepted last, unless it was picked up since. -/
  slot : history.notifier.pending = waiting? history.records
  /-- The newest update is picked up. -/
  newest : PicksNewest history.records
  /-- Updates are delivered one at a time, in the order in which they were picked up. -/
  taken : history.delivered ++ history.notifier.delivering?.toList = history.picked
  /-- The publishers that were told so are as many as the updates that were picked up or wait. -/
  counted : history.picked.length + history.notifier.pending.toList.length = history.granted
  /-- A closer from outside has closed the notifier. -/
  closing : history.notifier.closer ≠ .absent → history.notifier.closed = true
  /-- When the closer has looked into the slot, the consumer's thread has nothing to deliver. -/
  swept : history.notifier.closer.hasLooked = true →
    history.notifier.pending = none ∧ history.notifier.thread.delivering? = none

theorem Sound.start : Sound ({} : LatestHistory α) where
  slot := rfl
  newest := picksNewest_nil
  taken := rfl
  counted := rfl
  closing := fun present => absurd rfl present
  swept := fun looked => nomatch looked

section
variable {history : LatestHistory α} (after : LatestNotifier α) {update : Update α}

/-- Nobody has begun to close an open notifier. -/
theorem Sound.closer_eq_absent (h : history.Sound) (isOpen : history.notifier.closed = false) :
    history.notifier.closer = .absent := by
  by_contra present
  exact Bool.false_ne_true (isOpen.symm.trans (h.closing present))

/-- Nothing is taken from the slot or put into it, and the same is being delivered. -/
theorem Sound.stays (h : history.Sound) (pending : after.pending = history.notifier.pending)
    (delivering : after.delivering? = history.notifier.delivering?)
    (closing : after.closer ≠ .absent → after.closed = true)
    (swept : after.closer.hasLooked = true →
      after.pending = none ∧ after.thread.delivering? = none) :
    Sound { history with notifier := after } where
  slot := pending.trans h.slot
  newest := h.newest
  taken := by
    rw [delivering]
    exact h.taken
  counted := by
    rw [pending]
    exact h.counted
  closing := closing
  swept := swept

/-- An update is put into the slot of an open notifier. Its publisher is told so if the slot was
empty, which shows in how many were told. -/
theorem Sound.accept (h : history.Sound) (isOpen : history.notifier.closed = false)
    (pending : after.pending = some update) (thread : after.thread = history.notifier.thread)
    (closer : after.closer = history.notifier.closer) {granted : Nat}
    (counted : history.picked.length + 1 = granted) :
    Sound { history with
      notifier := after
      records := history.records ++ [.accepted update]
      granted } := by
  have absent := h.closer_eq_absent isOpen
  have picked : (history.records ++ [SlotRecord.accepted update]).filterMap SlotRecord.picked? =
      history.picked := by
    rw [filterMap_picked?_concat]
    exact List.append_nil _
  have delivering : after.delivering? = history.notifier.delivering? := by
    rw [LatestNotifier.delivering?, thread, closer]
    rfl
  exact
    { slot := by
        rw [waiting?_concat]
        exact pending
      newest := picksNewest_concat.mpr ⟨h.newest, fun _ isPick => nomatch isPick⟩
      taken := by
        rw [LatestHistory.picked, picked, delivering]
        exact h.taken
      counted := by
        rw [LatestHistory.picked, picked, pending]
        exact counted
      closing := fun present => absurd (closer.trans absent) present
      swept := fun looked => by
        rw [closer, absent] at looked
        contradiction }

/-- The update in the slot is picked up and being delivered from then on. -/
theorem Sound.pickUp (h : history.Sound) (full : history.notifier.pending = some update)
    (idle : history.notifier.delivering? = none) (empty : after.pending = none)
    (delivers : after.delivering? = some update)
    (closing : after.closer ≠ .absent → after.closed = true)
    (swept : after.closer.hasLooked = true → after.thread.delivering? = none) :
    Sound { history with notifier := after, records := history.records ++ [.picked update] } where
  slot := by
    rw [waiting?_concat]
    exact empty
  newest := by
    refine picksNewest_concat.mpr ⟨h.newest, fun other isPick => ?_⟩
    obtain rfl := SlotRecord.picked.inj isPick
    exact waiting?_eq_some_iff.mp (h.slot.symm.trans full)
  taken := by
    have taken := h.taken
    rw [idle, Option.toList_none, List.append_nil] at taken
    rw [LatestHistory.picked, filterMap_picked?_concat, delivers, taken]
    rfl
  counted := by
    have counted := h.counted
    rw [full] at counted
    rw [LatestHistory.picked, filterMap_picked?_concat, empty, List.length_append]
    exact counted
  closing := closing
  swept := fun looked => ⟨empty, swept looked⟩

/-- The consumer is done with the update that is being delivered. -/
theorem Sound.finish (h : history.Sound) (delivers : history.notifier.delivering? = some update)
    (idle : after.delivering? = none) (pending : after.pending = history.notifier.pending)
    (closing : after.closer ≠ .absent → after.closed = true)
    (swept : after.closer.hasLooked = true →
      after.pending = none ∧ after.thread.delivering? = none) :
    Sound { history with notifier := after, delivered := history.delivered ++ [update] } where
  slot := pending.trans h.slot
  newest := h.newest
  taken := by
    have taken := h.taken
    rw [delivers] at taken
    rw [idle, Option.toList_none, List.append_nil]
    exact taken
  counted := by
    rw [pending]
    exact h.counted
  closing := closing
  swept := swept

end

/-- The closer has not looked into the slot while there is an update in it or one is delivered by
the consumer's thread. -/
theorem Sound.not_hasLooked {history : LatestHistory α} (h : history.Sound) {update : Update α}
    (busy : history.notifier.pending = some update ∨
      history.notifier.thread = .delivering update) :
    history.notifier.closer.hasLooked = false := by
  by_contra looked
  obtain ⟨empty, idle⟩ := h.swept (Bool.of_not_eq_false looked)
  rcases busy with full | delivers
  · rw [full] at empty
    contradiction
  · rw [delivers] at idle
    contradiction

/-- Every step keeps the slot and the deliveries as the records say. -/
theorem Sound.move {history : LatestHistory α} (h : history.Sound) {step : LatestStep α}
    {after : LatestNotifier α} (move : LatestMove history.notifier step after) :
    (history.next step after).Sound := by
  have delivering := history.notifier.delivering?_eq
  cases move with
  | refuse update closed =>
    simpa [next, recordOf?, deliveredBy?, grants, closed,
      LatestNotifier.publish_of_closed closed] using h
  | fill update isOpen empty =>
    have counted := h.counted
    rw [empty] at counted
    have accepts := h.accept { history.notifier with pending := some update }
      isOpen rfl rfl rfl (congrArg (· + 1) counted)
    simpa [next, recordOf?, deliveredBy?, grants, isOpen,
      LatestNotifier.publish_of_empty isOpen empty] using accepts
  | replace update lost isOpen full =>
    -- The new update takes the place of the lost one in the slot, and in the count.
    have counted := h.counted
    rw [full] at counted
    have accepts := h.accept
      { history.notifier.recycle lost with pending := some update }
      isOpen rfl rfl rfl counted
    simpa [next, recordOf?, deliveredBy?, grants, isOpen,
      LatestNotifier.publish_of_full isOpen full] using accepts
  | start unstarted =>
    rw [unstarted] at delivering
    have stays := h.stays { history.notifier with thread := .looking }
      rfl ((LatestNotifier.delivering?_eq _).trans delivering.symm) h.closing
      fun looked => ⟨(h.swept looked).1, rfl⟩
    simpa [next, recordOf?, deliveredBy?, grants] using stays
  | started started => simpa [next, recordOf?, deliveredBy?, grants] using h
  | pick update looks full =>
    -- There is an update left, so that the closer has not looked and delivers nothing meanwhile.
    have notYet := h.not_hasLooked (.inl full)
    rw [looks] at delivering
    have picks := h.pickUp
      { history.notifier with pending := none, thread := .delivering update }
      full (delivering.trans (Closer.delivering?_eq_none notYet)) rfl rfl h.closing
      fun looked => absurd (notYet.symm.trans looked) Bool.false_ne_true
    simpa [next, recordOf?, deliveredBy?, grants, full] using picks
  | miss looks empty =>
    rw [looks] at delivering
    have stays := h.stays { history.notifier with thread := .asking }
      rfl ((LatestNotifier.delivering?_eq _).trans delivering.symm) h.closing
      fun looked => ⟨(h.swept looked).1, rfl⟩
    simpa [next, recordOf?, deliveredBy?, grants, empty] using stays
  | finish update delivers =>
    have notYet := h.not_hasLooked (.inr delivers)
    rw [delivers] at delivering
    have byThread : history.notifier.delivering? = some update := delivering
    have ends := h.finish
      { history.notifier.recycle update with thread := .looking } byThread
      ((LatestNotifier.delivering?_eq _).trans (Closer.delivering?_eq_none notYet)) rfl h.closing
      fun looked => absurd (notYet.symm.trans looked) Bool.false_ne_true
    simpa [next, recordOf?, deliveredBy?, grants, byThread] using ends
  | finishLast update idle delivers =>
    rw [idle, delivers] at delivering
    have byCloser : history.notifier.delivering? = some update := delivering
    have present : history.notifier.closer ≠ .absent := by
      rw [delivers]
      nofun
    have looked : history.notifier.closer.hasLooked = true := by
      rw [delivers]
      rfl
    have ends := h.finish
      { history.notifier.recycle update with closer := .returned } byCloser
      ((LatestNotifier.delivering?_eq _).trans (congrArg (Option.or · none) idle)) rfl
      (fun _ => h.closing present) fun _ => h.swept looked
    simpa [next, recordOf?, deliveredBy?, grants, byCloser] using ends
  | ask asks =>
    rw [asks] at delivering
    have idle : (if history.notifier.closed then ConsumerThread.stopped
        else (.looking : ConsumerThread α)).delivering? = none := by
      split <;> rfl
    have stays := h.stays
      { history.notifier with
        thread := if history.notifier.closed then .stopped else .looking }
      rfl (by rw [LatestNotifier.delivering?_eq, idle, delivering]; rfl) h.closing
      fun looked => ⟨(h.swept looked).1, idle⟩
    simpa [next, recordOf?, deliveredBy?, grants] using stays
  | close isOpen =>
    rw [h.closer_eq_absent isOpen] at delivering
    have stays := h.stays
      { history.notifier with closed := true, closer := .waiting }
      rfl ((LatestNotifier.delivering?_eq _).trans delivering.symm) (fun _ => rfl) nofun
    simpa [next, recordOf?, deliveredBy?, grants] using stays
  | closeAgain closed => simpa [next, recordOf?, deliveredBy?, grants] using h
  | closeFromConsumer update delivers =>
    have stays := h.stays { history.notifier with closed := true }
      rfl rfl (fun _ => rfl) h.swept
    simpa [next, recordOf?, deliveredBy?, grants] using stays
  | sweep update waits ended full =>
    have present : history.notifier.closer ≠ .absent := by
      rw [waits]
      nofun
    have idle := ConsumerThread.delivering?_of_ended ended
    rw [idle, waits] at delivering
    have picks := h.pickUp
      { history.notifier with pending := none, closer := .delivering update }
      full delivering rfl (by rw [LatestNotifier.delivering?_eq, idle]; rfl)
      (fun _ => h.closing present) fun _ => idle
    simpa [next, recordOf?, deliveredBy?, grants, full] using picks
  | leave waits ended empty =>
    have present : history.notifier.closer ≠ .absent := by
      rw [waits]
      nofun
    have idle := ConsumerThread.delivering?_of_ended ended
    rw [idle, waits] at delivering
    have stays := h.stays { history.notifier with closer := .returned }
      rfl (by rw [LatestNotifier.delivering?_eq, idle, delivering]; rfl)
      (fun _ => h.closing present) fun _ => ⟨empty, idle⟩
    simpa [next, recordOf?, deliveredBy?, grants, empty] using stays

theorem Sound.step {history : LatestHistory α} (h : history.Sound) (step : LatestStep α) :
    (history.step step).Sound := by
  unfold LatestHistory.step
  split
  · exact h
  · rename_i after happens
    exact h.move (LatestNotifier.move_of_step happens)

theorem Sound.run {history : LatestHistory α} (h : history.Sound) (steps : List (LatestStep α)) :
    (history.run steps).Sound := by
  induction steps generalizing history with
  | nil => exact h
  | cons step later ih => exact ih (h.step step)

/-! ## What follows for users -/

/-- An open notifier accepts what is published, and a closed one does not. -/
theorem accepted_publish (history : LatestHistory α) (update : Update α) :
    (history.step (.publish update)).accepted =
      history.accepted ++ if history.notifier.closed then [] else [update] := by
  show (history.records ++ (recordOf? history.notifier (.publish update)).toList).filterMap
    SlotRecord.accepted? = _
  rw [recordOf?]
  cases history.notifier.closed with
  | true => exact (congrArg (List.filterMap _) (List.append_nil _)).trans (List.append_nil _).symm
  | false => exact filterMap_accepted?_concat history.records (.accepted update)

/-- A publisher is told so exactly if its update was accepted and displaced no other. -/
theorem publish_eq_true_iff (history : LatestHistory α) (update : Update α) :
    (history.notifier.publish update).1 = true ↔
      (history.step (.publish update)).accepted = history.accepted ++ [update] ∧
        history.notifier.pending = none := by
  rw [LatestNotifier.publish_eq_true_iff, accepted_publish, List.append_right_inj]
  cases history.notifier.closed <;> simp

/-- A closed notifier stays closed, accepts nothing, and loses nothing that was delivered. -/
theorem step_of_closed {history : LatestHistory α} (closed : history.notifier.closed = true)
    (step : LatestStep α) :
    (history.step step).notifier.closed = true ∧
      (history.step step).accepted = history.accepted ∧
      (history.step step).granted = history.granted ∧
      history.delivered <+: (history.step step).delivered := by
  unfold LatestHistory.step
  split
  · exact ⟨closed, rfl, rfl, List.prefix_refl _⟩
  · rename_i after happens
    refine ⟨?_, ?_, ?_, List.prefix_append _ _⟩
    · show after.closed = true
      cases LatestNotifier.move_of_step happens with
      | close | closeFromConsumer => rfl
      | fill update isOpen | replace update lost isOpen =>
        exact absurd (isOpen.symm.trans closed) Bool.false_ne_true
      | refuse | start | started | pick | miss | finish | finishLast | ask | closeAgain | sweep
      | leave => exact closed
    · show (history.records ++ (recordOf? history.notifier step).toList).filterMap
        SlotRecord.accepted? = history.accepted
      -- What is written down of a closed slot is a pick-up.
      have noneAccepted : (recordOf? history.notifier step).bind SlotRecord.accepted? = none := by
        cases step with
        | publish update =>
          rw [recordOf?, if_pos closed]
          rfl
        | look | join =>
          rw [recordOf?]
          cases history.notifier.pending <;> rfl
        | start | finish | ask | close | closeFromConsumer => rfl
      cases record : recordOf? history.notifier step with
      | none => exact congrArg (List.filterMap _) (List.append_nil _)
      | some last =>
        rw [record] at noneAccepted
        rw [Option.toList_some, filterMap_accepted?_concat]
        rw [show last.accepted? = none from noneAccepted]
        exact List.append_nil _
    · show history.granted + (grants history.notifier step).toNat = history.granted
      cases step with
      | publish update =>
        rw [grants, LatestNotifier.publish_of_closed closed]
        rfl
      | start | look | finish | ask | close | closeFromConsumer | join => rfl

theorem run_of_closed {history : LatestHistory α} (closed : history.notifier.closed = true)
    (steps : List (LatestStep α)) :
    (history.run steps).accepted = history.accepted ∧
      (history.run steps).granted = history.granted ∧
      history.delivered <+: (history.run steps).delivered := by
  induction steps generalizing history with
  | nil => exact ⟨rfl, rfl, List.prefix_refl _⟩
  | cons step later ih =>
    obtain ⟨stays, accepted, granted, delivered⟩ := step_of_closed closed step
    obtain ⟨acceptedLater, grantedLater, deliveredLater⟩ := ih stays
    exact ⟨acceptedLater.trans accepted, grantedLater.trans granted,
      delivered.trans deliveredLater⟩

/-- Once the closer has returned, the slot is empty and nothing is being delivered, the last update
that was accepted has been delivered, and there were as many deliveries as publishers that were told
that no update was lost. Nothing more is accepted or delivered. -/
theorem Sound.closeReturned {history : LatestHistory α} (h : history.Sound)
    (returned : history.notifier.closer = .returned) :
    history.notifier.pending = none ∧ history.notifier.delivering? = none ∧
      history.delivered.getLast? = history.accepted.getLast? ∧
      history.delivered.length = history.granted ∧
      ∀ later, (history.run later).accepted = history.accepted ∧
        (history.run later).delivered = history.delivered := by
  have present : history.notifier.closer ≠ .absent := by
    rw [returned]
    nofun
  have looked : history.notifier.closer.hasLooked = true := by
    rw [returned]
    rfl
  obtain ⟨empty, idleThread⟩ := h.swept looked
  have idle : history.notifier.delivering? = none := by
    rw [LatestNotifier.delivering?_eq, idleThread, returned]
    rfl
  have taken := h.taken
  rw [idle, Option.toList_none, List.append_nil] at taken
  have counted := h.counted
  rw [empty, Option.toList_none, List.length_nil, Nat.add_zero, ← taken] at counted
  have last := h.newest.inOrder.2
  rw [← h.slot, empty, Option.toList_none, List.append_nil] at last
  refine ⟨empty, idle, ?_, counted, fun later => ?_⟩
  · rw [taken]
    exact last
  · obtain ⟨accepted, granted, delivered⟩ := run_of_closed (h.closing present) later
    refine ⟨accepted, (delivered.eq_of_length_le ?_).symm⟩
    -- There are no more deliveries than publishers that were told so, and those are no more than
    -- before.
    have later := h.run later
    have countedLater := later.counted
    have takenLater := congrArg List.length later.taken
    rw [List.length_append] at takenLater
    rw [granted] at countedLater
    omega

/-- What the consumer's thread, the consumer and the closer do until a close has returned: they are
done with what is being delivered and what waits, the thread stops, and the closer sees to the
rest. -/
def closing : List (LatestStep α) :=
  [.finish, .look, .finish, .look, .ask, .join, .finish]

/-- A closer that waits returns by these steps, wherever the consumer's thread stands. -/
theorem returned_of_waiting {history : LatestHistory α}
    (closed : history.notifier.closed = true) (waits : history.notifier.closer = .waiting) :
    (history.run closing).notifier.closer = .returned := by
  obtain ⟨⟨pending, thread, closer, spare, isClosed⟩, records, delivered, granted⟩ := history
  obtain rfl : isClosed = true := closed
  obtain rfl : closer = .waiting := waits
  cases thread <;> cases pending <;> rfl

end LatestHistory

/-- Whatever publishers, the consumer's thread, the consumer and one who closes the notifier from
outside do, in any order, whether the thread is started or not and whether the consumer panics or
not: the slot has the update that was accepted last, unless it was picked up since; every pick-up
takes the update that was accepted last; updates are delivered one at a time, in the order in which
they were accepted; and a publisher is told so exactly if its update was accepted and displaced no
other. A closer can always return. When it has, the last update that was accepted was delivered, and
there were as many deliveries as publishers that were told that nothing was displaced; nothing is
accepted or delivered afterwards.

The thread may be started between any two steps, also while a closer waits, but not within the last
step of a closer (`LatestStep.join`), who asks for the thread and then looks into the slot. -/
theorem newest_update_delivered (steps : List (LatestStep α)) :
    let history : LatestHistory α := ({} : LatestHistory α).run steps
    let notifier := history.notifier
    (∀ update, notifier.pending = some update ↔
      history.records.getLast? = some (.accepted update)) ∧
      (∀ earlier update later, history.records = earlier ++ .picked update :: later →
        earlier.getLast? = some (.accepted update)) ∧
      history.delivered ++ notifier.delivering?.toList = history.picked ∧
      (history.picked ++ notifier.pending.toList).Sublist history.accepted ∧
      (∀ update,
        ((notifier.publish update).1 = true ↔
          (history.step (.publish update)).accepted = history.accepted ++ [update] ∧
            notifier.pending = none)) ∧
      (notifier.closer = .waiting →
        (history.run LatestHistory.closing).notifier.closer = .returned) ∧
      (notifier.closer = .returned →
        notifier.pending = none ∧ notifier.delivering? = none ∧
          history.delivered.getLast? = history.accepted.getLast? ∧
          history.delivered.length = history.granted ∧
          ∀ later, (history.run later).accepted = history.accepted ∧
            (history.run later).delivered = history.delivered) := by
  intro history notifier
  have sound : history.Sound := LatestHistory.Sound.start.run steps
  refine ⟨fun update => ?_, sound.newest, sound.taken, ?_, history.publish_eq_true_iff,
    fun waits => ?_, sound.closeReturned⟩
  · rw [sound.slot]
    exact LatestHistory.waiting?_eq_some_iff
  · rw [sound.slot]
    exact sound.newest.inOrder.1
  · refine LatestHistory.returned_of_waiting (sound.closing ?_) waits
    rw [waits]
    nofun

/-- A notifier that is never started delivers by the one who closes it. -/
example :
    let history := ({} : LatestHistory Char).run
      [.publish (.value 'a'), .publish .noValue, .close, .publish (.value 'b'), .join, .finish]
    history.accepted = [.value 'a', .noValue] ∧ history.delivered = [.noValue] ∧
      history.granted = 1 ∧ history.notifier.closer = .returned := by
  decide

end ChannelAccess
