import ChannelAccess.Proofs.Beacon.Filtering
import Mathlib.Data.List.Chain

/-!
# Late copies of beacons

Where there are several routes to a server, a beacon that arrived may arrive once more, late, with
later beacons before it. A detector ignores a beacon for its sequence number, but stores the number
all the same, so that the next beacon is judged by how far it is ahead of the copy.

`copies_harmless_iff` says when that does no harm: copies change nothing, whatever the times at
which the beacons arrive, exactly if each beacon that arrives is judged rightly against the one
just before it, a copy as stale and a new one as not (`BeaconArrival.Orderly`).
`not_harmless_copyOfLastButOne` is a run in which a new beacon is taken for stale.

That the condition suffices is seen by running the detector beside one that is told the new beacons
only: the two keep the same timing. That it is necessary is seen from beacons that all arrive at
once. Then every beacon from the third on is an anomaly, unless it is ignored.
-/

namespace ChannelAccess

/-- A beacon as it arrives. -/
structure BeaconArrival where
  /-- Which one of the server's beacons it is, counted from zero. -/
  number : Nat
  /-- It arrived before, on another route. -/
  isCopy : Bool
  deriving DecidableEq, Repr

/-- A beacon as it arrives, with what is seen of it besides its sequence number. -/
structure ReceivedBeacon extends BeaconArrival where
  /-- Minor revision of the protocol that the server speaks. -/
  minorRevision : UInt16
  /-- When it arrives. -/
  time : Moment
  deriving DecidableEq, Repr

namespace BeaconArrival

/-- The server's beacons arrive in order from some number on. Among them are copies of beacons that
arrived before, which are 250 behind the newest one at most. -/
def InOrder : (next : Nat) → List BeaconArrival → Prop
  | _, [] => True
  | next, arrival :: later =>
    if arrival.isCopy then arrival.number < next ∧ next ≤ arrival.number + 251 ∧ InOrder next later
    else arrival.number = next ∧ InOrder (next + 1) later

/-- After the one beacon the other is out of sequence: it is the same one or an earlier one, or two
or three further on. -/
def Stale (before after : BeaconArrival) : Prop :=
  after.number ≤ before.number ∨ after.number = before.number + 2 ∨
    after.number = before.number + 3

/-- Judged against the beacon just before it, every copy is out of sequence, and no new one is. -/
def Orderly (arrivals : List BeaconArrival) : Prop :=
  arrivals.IsChain fun before after => Stale before after ↔ after.isCopy = true

/-- Decides whether beacons arrive in order. -/
def decideInOrder : (next : Nat) → (arrivals : List BeaconArrival) →
    Decidable (InOrder next arrivals)
  | _, [] => .isTrue trivial
  | next, arrival :: later =>
    have := decideInOrder next later
    have := decideInOrder (next + 1) later
    inferInstanceAs (Decidable (if arrival.isCopy then
      arrival.number < next ∧ next ≤ arrival.number + 251 ∧ InOrder next later
      else arrival.number = next ∧ InOrder (next + 1) later))

instance (next : Nat) (arrivals : List BeaconArrival) : Decidable (InOrder next arrivals) :=
  decideInOrder next arrivals

instance (before after : BeaconArrival) : Decidable (Stale before after) :=
  inferInstanceAs (Decidable (_ ∨ _))

instance (arrivals : List BeaconArrival) : Decidable (Orderly arrivals) :=
  inferInstanceAs (Decidable (arrivals.IsChain _))

/-- The beacon has a sequence number and arrives at the beginning of time. -/
def atOnce (arrival : BeaconArrival) : ReceivedBeacon where
  toBeaconArrival := arrival
  minorRevision := BeaconDetector.sequenceRevision
  time := .zero

theorem map_atOnce (arrivals : List BeaconArrival) :
    (arrivals.map atOnce).map (·.toBeaconArrival) = arrivals := by
  simp [Function.comp_def, atOnce]

end BeaconArrival

/-- The beacon of a server whose first one has some sequence number. -/
def ReceivedBeacon.beacon (first : UInt32) (received : ReceivedBeacon) : Beacon :=
  ⟨received.minorRevision, first + UInt32.ofNat received.number, received.time⟩

/-- What a beacon amounts to: whether it is an anomaly, and the average that it leaves. -/
def BeaconReport.outcome (report : BeaconReport) : Bool × Option Duration :=
  (report.anomaly, report.average)

namespace BeaconDetector

/-- Copies change nothing for a detector: every copy is ignored and no anomaly, and every new beacon
amounts to what it does for a detector that is told the new ones only. -/
def HarmlessFor (detector alone : BeaconDetector) (first : UInt32)
    (received : List ReceivedBeacon) : Prop :=
  let told := received.zip (detector.reports (received.map (·.beacon first)))
  let new := received.filter fun other => !other.isCopy
  (∀ entry ∈ told, entry.1.isCopy = true → entry.2.ignored = true ∧ entry.2.anomaly = false) ∧
    (told.filter fun entry => !entry.1.isCopy).map (fun entry => entry.2.outcome) =
      (alone.reports (new.map (·.beacon first))).map BeaconReport.outcome

instance (detector alone : BeaconDetector) (first : UInt32) (received : List ReceivedBeacon) :
    Decidable (detector.HarmlessFor alone first received) :=
  inferInstanceAs (Decidable (_ ∧ _))

section
variable {detector alone : BeaconDetector} {first : UInt32} {received : ReceivedBeacon}
  {later : List ReceivedBeacon}

theorem harmlessFor_copy (isCopy : received.isCopy = true) :
    detector.HarmlessFor alone first (received :: later) ↔
      (detector.ignores (received.beacon first) = true ∧
          (detector.notify (received.beacon first)).1 = false) ∧
        (detector.after (received.beacon first)).HarmlessFor alone first later := by
  simp [HarmlessFor, reports, report, isCopy, and_assoc]

theorem harmlessFor_new (isNew : received.isCopy = false) :
    detector.HarmlessFor alone first (received :: later) ↔
      ((detector.notify (received.beacon first)).1 = (alone.notify (received.beacon first)).1 ∧
          (detector.after (received.beacon first)).averagePeriod =
            (alone.after (received.beacon first)).averagePeriod) ∧
        (detector.after (received.beacon first)).HarmlessFor
          (alone.after (received.beacon first)) first later := by
  simp [HarmlessFor, reports, report, BeaconReport.outcome, isNew]
  tauto

end

/-! ## Sequence numbers -/

/-- How a sequence number is judged against another of the same server, when neither is far behind
the other. -/
theorem isOutOfSequence_iff (first : UInt32) {before after : BeaconArrival}
    (notFarBehind : before.number ≤ after.number + 250)
    (notFarAhead : after.number ≤ before.number + 251) :
    isOutOfSequence (first + UInt32.ofNat before.number) (first + UInt32.ofNat after.number) =
      true ↔ before.Stale after := by
  -- Numbers wrap around, but what one is ahead of the other by does not depend on the first.
  have number (n : Nat) : (first + UInt32.ofNat n).toNat = (first.toNat + n) % 2 ^ 32 := by
    simp
  have advance : (first + UInt32.ofNat after.number - (first + UInt32.ofNat before.number)).toNat =
      if before.number ≤ after.number then after.number - before.number
      else 2 ^ 32 - (before.number - after.number) := by
    rw [UInt32.toNat_sub, number, number]
    split <;> omega
  have backward : (0xFFFFFFFF - 256 : UInt32).toNat = 2 ^ 32 - 257 := rfl
  unfold isOutOfSequence BeaconArrival.Stale
  simp only [Bool.or_eq_true, beq_iff_eq, decide_eq_true_eq, gt_iff_lt, ← UInt32.toNat_inj,
    UInt32.lt_iff_toNat_lt, advance, backward, UInt32.toNat_ofNat]
  split <;> omega

/-- A beacon was seen, and this is the last one. -/
structure HasSeen (detector : BeaconDetector) (first : UInt32) (last : BeaconArrival) : Prop where
  /-- One was seen. -/
  seen : detector.lastTime.isSome = true
  /-- Its sequence number is stored. -/
  sequence : detector.lastSequence = first + UInt32.ofNat last.number

section
variable {detector alone : BeaconDetector} {first : UInt32} {next : Nat} {before : BeaconArrival}
  {received : ReceivedBeacon}

/-- The last beacon is the one that came last, ignored or not. -/
theorem hasSeen_after (detector : BeaconDetector) (first : UInt32)
    (numbered : sequenceRevision ≤ received.minorRevision) :
    (detector.after (received.beacon first)).HasSeen first received.toBeaconArrival := by
  obtain ⟨seen, sequence⟩ := after_spec detector (received.beacon first)
  rw [if_pos (.inr numbered)] at sequence
  exact ⟨seen, sequence⟩

theorem HasSeen.ignores_iff (h : detector.HasSeen first before)
    (numbered : sequenceRevision ≤ received.minorRevision)
    (notFarBehind : before.number ≤ received.number + 250)
    (notFarAhead : received.number ≤ before.number + 251) :
    detector.ignores (received.beacon first) = true ↔ before.Stale received.toBeaconArrival := by
  rw [← isOutOfSequence_iff first notFarBehind notFarAhead]
  simp [ignores, h.seen, h.sequence, ReceivedBeacon.beacon, numbered]

/-! ## Copies beside no copies -/

/-- A detector that is told copies as well, beside one that is told new beacons only, of which the
next one has this number. -/
structure Beside (detector alone : BeaconDetector) (first : UInt32) (next : Nat)
    (before : BeaconArrival) : Prop where
  /-- The last beacon that arrived. -/
  last : detector.HasSeen first before
  /-- The last one that was new. -/
  newest : alone.HasSeen first ⟨next - 1, false⟩
  /-- No copy changed the timing. -/
  timing : detector.timing = alone.timing
  /-- What arrived was new once. -/
  arrived : before.number < next
  /-- It is not far behind the newest. -/
  recent : next ≤ before.number + 251

/-- The first beacon is new, and no detector ignores it. -/
theorem Beside.start (first : UInt32) (isFirst : received.number = 0)
    (numbered : sequenceRevision ≤ received.minorRevision) :
    Beside (after {} (received.beacon first)) (after {} (received.beacon first)) first 1
      received.toBeaconArrival := by
  have seen := hasSeen_after {} first numbered
  refine ⟨seen, ⟨seen.seen, seen.sequence.trans ?_⟩, rfl, ?_, ?_⟩
  · rw [isFirst]
  · omega
  · omega

/-- A copy is ignored exactly if it is out of sequence. -/
theorem Beside.ignores_copy (h : Beside detector alone first next before)
    (numbered : sequenceRevision ≤ received.minorRevision) (old : received.number < next)
    (recent : next ≤ received.number + 251) :
    detector.ignores (received.beacon first) = true ↔ before.Stale received.toBeaconArrival := by
  have arrived := h.arrived
  have notLong := h.recent
  exact h.last.ignores_iff numbered (by omega) (by omega)

/-- A copy that is ignored leaves the two detectors beside each other. -/
theorem Beside.copy (h : Beside detector alone first next before)
    (numbered : sequenceRevision ≤ received.minorRevision) (old : received.number < next)
    (recent : next ≤ received.number + 251)
    (ignored : detector.ignores (received.beacon first) = true) :
    Beside (detector.after (received.beacon first)) alone first next received.toBeaconArrival where
  last := hasSeen_after detector first numbered
  newest := h.newest
  timing := (timing_after_of_ignores ignored).trans h.timing
  arrived := old
  recent := recent

/-- A new beacon is ignored by the one detector exactly if it is out of sequence, and never by the
other. -/
theorem Beside.ignores_new (h : Beside detector alone first next before)
    (numbered : sequenceRevision ≤ received.minorRevision) (isNext : received.number = next) :
    (detector.ignores (received.beacon first) = true ↔ before.Stale received.toBeaconArrival) ∧
      alone.ignores (received.beacon first) = false := by
  have arrived := h.arrived
  have notLong := h.recent
  refine ⟨h.last.ignores_iff numbered (by omega) (by omega), ?_⟩
  have stale := h.newest.ignores_iff numbered (by dsimp only; omega) (by dsimp only; omega)
  rw [← Bool.not_eq_true, stale]
  unfold BeaconArrival.Stale
  dsimp only
  omega

/-- A new beacon that is not ignored gets the same verdict from both, and leaves them beside each
other. -/
theorem Beside.new (h : Beside detector alone first next before)
    (numbered : sequenceRevision ≤ received.minorRevision) (isNext : received.number = next)
    (counts : detector.ignores (received.beacon first) = false) :
    (detector.notify (received.beacon first)).1 = (alone.notify (received.beacon first)).1 ∧
      Beside (detector.after (received.beacon first)) (alone.after (received.beacon first)) first
        (next + 1) received.toBeaconArrival := by
  obtain ⟨verdict, timing⟩ := notify_of_counts counts
  obtain ⟨aloneVerdict, aloneTiming⟩ := notify_of_counts (h.ignores_new numbered isNext).2
  rw [h.timing] at verdict timing
  have newest := hasSeen_after alone first numbered
  refine ⟨verdict.trans aloneVerdict.symm, hasSeen_after detector first numbered,
    ⟨newest.seen, newest.sequence.trans ?_⟩, timing.trans aloneTiming.symm, ?_, ?_⟩
  · rw [isNext, Nat.add_sub_cancel]
  · omega
  · omega

end

/-- As long as beacons are judged rightly, copies change nothing. -/
theorem Beside.harmlessFor {detector alone : BeaconDetector} {first : UInt32} {next : Nat}
    {before : BeaconArrival} (h : Beside detector alone first next before)
    {received : List ReceivedBeacon}
    (numbered : ∀ other ∈ received, sequenceRevision ≤ other.minorRevision)
    (inOrder : BeaconArrival.InOrder next (received.map (·.toBeaconArrival)))
    (orderly : BeaconArrival.Orderly (before :: received.map (·.toBeaconArrival))) :
    detector.HarmlessFor alone first received := by
  induction received generalizing detector alone next before with
  | nil => simp [HarmlessFor, reports]
  | cons received later ih =>
    obtain ⟨now, numberedLater⟩ := List.forall_mem_cons.mp numbered
    obtain ⟨judged, orderlyLater⟩ := List.isChain_cons_cons.mp orderly
    rw [List.map_cons, BeaconArrival.InOrder] at inOrder
    cases isCopy : received.isCopy with
    | true =>
      rw [isCopy, if_pos rfl] at inOrder
      obtain ⟨old, recent, inOrderLater⟩ := inOrder
      -- The other detector is not told of the copy.
      have ignored := (h.ignores_copy now old recent).mpr (judged.mpr isCopy)
      rw [harmlessFor_copy isCopy]
      exact ⟨⟨ignored, by rw [notify_of_ignores ignored]⟩,
        ih (h.copy now old recent ignored) numberedLater inOrderLater orderlyLater⟩
    | false =>
      rw [isCopy, if_neg Bool.false_ne_true] at inOrder
      obtain ⟨isNext, inOrderLater⟩ := inOrder
      have counts : detector.ignores (received.beacon first) = false := by
        rw [← Bool.not_eq_true, (h.ignores_new now isNext).1, judged, isCopy]
        exact Bool.false_ne_true
      obtain ⟨verdict, beside⟩ := h.new now isNext counts
      obtain ⟨average, -⟩ := BeaconDetector.mk.inj beside.timing
      rw [harmlessFor_new isCopy]
      exact ⟨⟨verdict, average⟩, ih beside numberedLater inOrderLater orderlyLater⟩

/-! ## Beacons that all arrive at once -/

/-- A detector whose beacons so far, of which there were this many, all arrived at the beginning of
time. -/
structure Standstill (detector : BeaconDetector) (count : Nat) : Prop where
  /-- No time has passed. -/
  time : detector.lastTime = some .zero
  /-- The average is that of no time, as soon as there are two beacons. -/
  average : detector.averagePeriod = if count = 1 then none else some .zero

/-- The next beacon that counts is an anomaly, unless it is the second one. -/
theorem Standstill.notify {detector : BeaconDetector} {count : Nat} (h : detector.Standstill count)
    (pos : 1 ≤ count) {beacon : Beacon} (counts : detector.ignores beacon = false)
    (atOnce : beacon.time = .zero) :
    (detector.notify beacon).1 = decide (2 ≤ count) ∧
      (detector.after beacon).Standstill (count + 1) := by
  -- No time at all is shorter than the average, even than one of no time.
  have tooShort : Pace.ofPeriods (.zero - .zero) .zero = .early := by decide
  rw [BeaconDetector.after, notify_of_passes h.time counts, atOnce]
  unfold observe
  rw [h.average]
  by_cases second : count = 1
  · rw [if_pos second, second]
    exact ⟨rfl, rfl, rfl⟩
  · rw [if_neg second]
    simp only [tooShort]
    have notNext : ¬ count + 1 = 1 := by omega
    refine ⟨(decide_eq_true (by omega)).symm, rfl, ?_⟩
    rw [if_neg notNext]
    rfl

/-- If copies change nothing among beacons that all arrive at once, then the beacons are judged
rightly. -/
theorem Beside.orderly {detector alone : BeaconDetector} {first : UInt32} {next : Nat}
    {before : BeaconArrival} (h : Beside detector alone first next before)
    (standstill : alone.Standstill next) {arrivals : List BeaconArrival}
    (inOrder : BeaconArrival.InOrder next arrivals)
    (harmless : detector.HarmlessFor alone first (arrivals.map (·.atOnce))) :
    BeaconArrival.Orderly (before :: arrivals) := by
  induction arrivals generalizing detector alone next before with
  | nil => exact List.isChain_singleton before
  | cons arrival later ih =>
    have arrived := h.arrived
    have numbered : sequenceRevision ≤ arrival.atOnce.minorRevision := UInt16.le_refl _
    rw [BeaconArrival.InOrder] at inOrder
    refine List.isChain_cons_cons.mpr ?_
    cases isCopy : arrival.isCopy with
    | true =>
      rw [isCopy, if_pos rfl] at inOrder
      obtain ⟨old, recent, inOrderLater⟩ := inOrder
      have isCopyAtOnce : arrival.atOnce.isCopy = true := isCopy
      obtain ⟨⟨ignored, -⟩, harmlessLater⟩ := (harmlessFor_copy isCopyAtOnce).mp harmless
      have stale := (h.ignores_copy numbered old recent).mp ignored
      exact ⟨iff_of_true stale rfl,
        ih (h.copy numbered old recent ignored) standstill inOrderLater harmlessLater⟩
    | false =>
      rw [isCopy, if_neg Bool.false_ne_true] at inOrder
      obtain ⟨isNext, inOrderLater⟩ := inOrder
      have isNewAtOnce : arrival.atOnce.isCopy = false := isCopy
      have number : arrival.atOnce.number = next := isNext
      obtain ⟨⟨verdict, -⟩, harmlessLater⟩ := (harmlessFor_new isNewAtOnce).mp harmless
      obtain ⟨ignores, aloneCounts⟩ := h.ignores_new numbered number
      obtain ⟨aloneVerdict, standstillLater⟩ := standstill.notify (by omega) aloneCounts rfl
      -- An ignored beacon is no anomaly. The second one is not, but it is not ignored either.
      have counts : detector.ignores (arrival.atOnce.beacon first) = false := by
        rw [← Bool.not_eq_true]
        intro ignored
        rw [notify_of_ignores ignored, aloneVerdict] at verdict
        have second : ¬ 2 ≤ next := of_decide_eq_false verdict.symm
        have stale := ignores.mp ignored
        unfold BeaconArrival.Stale at stale
        omega
      obtain ⟨-, beside⟩ := h.new numbered number counts
      have notStale : ¬ before.Stale arrival := fun stale =>
        Bool.false_ne_true (counts.symm.trans (ignores.mpr stale))
      exact ⟨iff_of_false notStale Bool.false_ne_true,
        ih beside standstillLater inOrderLater harmlessLater⟩

/-- Copies change nothing. -/
def Harmless (first : UInt32) (received : List ReceivedBeacon) : Prop :=
  HarmlessFor {} {} first received

instance (first : UInt32) (received : List ReceivedBeacon) : Decidable (Harmless first received) :=
  inferInstanceAs (Decidable (HarmlessFor {} {} first received))

/-- **When late copies do no harm.** Beacons with sequence numbers arrive in order, and among them
any number of copies of those that arrived before, at most 250 behind the newest one. Whatever
revisions and times the beacons have, every copy is ignored and no anomaly, and every new beacon
gets the verdict and leaves the average that it does without copies, exactly if each beacon is
judged rightly against the one that arrives just before it: the number of a copy is not above that
of the beacon before it, or is two or three above, and a new beacon does not follow a copy that is
one or two behind the newest beacon. -/
theorem copies_harmless_iff (first : UInt32) (arrivals : List BeaconArrival)
    (inOrder : BeaconArrival.InOrder 0 arrivals) :
    (∀ received : List ReceivedBeacon, received.map (·.toBeaconArrival) = arrivals →
      (∀ other ∈ received, sequenceRevision ≤ other.minorRevision) →
        Harmless first received) ↔ BeaconArrival.Orderly arrivals := by
  cases arrivals with
  | nil =>
    refine iff_of_true (fun received none _ => ?_) List.isChain_nil
    obtain rfl := List.map_eq_nil_iff.mp none
    simp [Harmless, HarmlessFor, reports]
  | cons arrival later =>
    -- The first beacon is new, and the two detectors are told it alike.
    have isNew : arrival.isCopy = false := by
      rw [BeaconArrival.InOrder] at inOrder
      cases isCopy : arrival.isCopy with
      | true =>
        rw [isCopy, if_pos rfl] at inOrder
        exact absurd inOrder.1 (Nat.not_lt_zero _)
      | false => rfl
    rw [BeaconArrival.InOrder, isNew, if_neg Bool.false_ne_true] at inOrder
    obtain ⟨isFirst, inOrderLater⟩ := inOrder
    constructor
    · intro always
      have harmless := always ((arrival :: later).map (·.atOnce))
        (BeaconArrival.map_atOnce (arrival :: later)) (by simp [BeaconArrival.atOnce])
      have isNewAtOnce : arrival.atOnce.isCopy = false := isNew
      obtain ⟨-, harmlessLater⟩ := (harmlessFor_new isNewAtOnce).mp harmless
      exact (Beside.start first isFirst (UInt16.le_refl _)).orderly ⟨rfl, rfl⟩ inOrderLater
        harmlessLater
    · intro orderly received shape numbered
      obtain ⟨head, rest, rfl, rfl, rfl⟩ := List.map_eq_cons_iff.mp shape
      obtain ⟨now, numberedLater⟩ := List.forall_mem_cons.mp numbered
      refine (harmlessFor_new isNew).mpr ⟨⟨rfl, rfl⟩, ?_⟩
      exact (Beside.start first isFirst now).harmlessFor numberedLater inOrderLater orderly

/-- Two copies of the last beacon but two do no harm between two of the last one, and neither does
the wrap-around of sequence numbers. -/
theorem harmless_copiesOfLastButTwo :
    let arrivals : List BeaconArrival :=
      [⟨0, false⟩, ⟨1, false⟩, ⟨2, false⟩, ⟨2, true⟩, ⟨0, true⟩, ⟨0, true⟩, ⟨2, true⟩, ⟨3, false⟩]
    BeaconArrival.InOrder 0 arrivals ∧
      ∀ received : List ReceivedBeacon, received.map (·.toBeaconArrival) = arrivals →
        (∀ other ∈ received, sequenceRevision ≤ other.minorRevision) →
          Harmless 0xFFFFFFFE received := by
  intro arrivals
  have inOrder : BeaconArrival.InOrder 0 arrivals := by decide
  exact ⟨inOrder, (copies_harmless_iff 0xFFFFFFFE arrivals inOrder).mpr (by decide)⟩

/-- A copy of the last beacon but one is ignored, and then the next beacon is ignored as well, for
being two ahead of it. That hides an anomaly. -/
theorem not_harmless_copyOfLastButOne :
    let received : List ReceivedBeacon :=
      [⟨⟨0, false⟩, 13, .ofSeconds 0⟩, ⟨⟨1, false⟩, 13, .ofSeconds 10⟩,
        ⟨⟨0, true⟩, 13, .ofSeconds 11⟩, ⟨⟨2, false⟩, 13, .ofSeconds 50⟩]
    BeaconArrival.InOrder 0 (received.map (·.toBeaconArrival)) ∧
      (∀ other ∈ received, sequenceRevision ≤ other.minorRevision) ∧
        ¬ Harmless 1 received := by
  decide +kernel

end BeaconDetector

end ChannelAccess
