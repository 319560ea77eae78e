import ChannelAccess.Beacon

/-!
# Beacons are filtered by number and timed by arrival

A detector does two things with a beacon of its server: it looks at the sequence number to see
whether the beacon is to be ignored, and it compares the time since the last beacon with a running
average. `filtered_apart_from_timing` says that neither of them has a part in the other: which
beacons are ignored is seen from revisions and sequence numbers alone, and what a detector makes of
the beacons that count is what it makes of their times alone.

The second half is proved through the detector without its sequence number
(`BeaconDetector.timing`), which is told times only (`BeaconDetector.arrive`). A beacon that is
ignored leaves it as it is (`notify_of_ignores`), and any other is an arrival at its time
(`notify_of_counts`). So the reports on the beacons that count are a function of their times
(`reports_counted`), whatever run they are taken from.
-/

namespace ChannelAccess

/-- What a detector filters a beacon by. -/
def Beacon.mark (beacon : Beacon) : UInt16 × UInt32 := (beacon.minorRevision, beacon.sequence)

/-- What a detector makes of a beacon. -/
structure BeaconReport where
  /-- The beacon is ignored for its sequence number. -/
  ignored : Bool
  /-- It is an anomaly. -/
  anomaly : Bool
  /-- The running average afterwards. -/
  average : Option Duration
  deriving DecidableEq, Repr

/-- The beacon was not ignored. -/
def BeaconReport.counts (report : BeaconReport) : Bool := !report.ignored

namespace BeaconDetector

/-! ## Reports -/

/-- A beacon is ignored: it is not the first one, carries a sequence number, and is out of
sequence. -/
def ignores (detector : BeaconDetector) (beacon : Beacon) : Bool :=
  detector.lastTime.isSome && decide (sequenceRevision ≤ beacon.minorRevision) &&
    isOutOfSequence detector.lastSequence beacon.sequence

/-- The detector after a beacon. -/
def after (detector : BeaconDetector) (beacon : Beacon) : BeaconDetector :=
  (detector.notify beacon).2

/-- The detector after some beacons, one after the other. -/
def afterAll (detector : BeaconDetector) (beacons : List Beacon) : BeaconDetector :=
  beacons.foldl after detector

/-- What a detector makes of the next beacon. -/
def report (detector : BeaconDetector) (beacon : Beacon) : BeaconReport where
  ignored := detector.ignores beacon
  anomaly := (detector.notify beacon).1
  average := (detector.after beacon).averagePeriod

/-- What a detector makes of some beacons, one after the other. -/
def reports : BeaconDetector → List Beacon → List BeaconReport
  | _, [] => []
  | detector, beacon :: later => detector.report beacon :: reports (detector.after beacon) later

/-- The beacons that are not ignored. -/
def counted : BeaconDetector → List Beacon → List Beacon
  | _, [] => []
  | detector, beacon :: later =>
    if detector.ignores beacon then counted (detector.after beacon) later
    else beacon :: counted (detector.after beacon) later

/-! ## Times alone -/

/-- The detector without its sequence number. -/
def timing (detector : BeaconDetector) : BeaconDetector := { detector with lastSequence := 0 }

/-- A beacon that is not looked at for its sequence number: whether it is an anomaly. -/
def arrive (detector : BeaconDetector) (time : Moment) : Bool × BeaconDetector :=
  match detector.lastTime with
  | none => (true, { detector with lastTime := some time })
  | some lastTime => detector.observe lastTime time

/-- What a detector makes of some arrivals, one after the other. -/
def arrivalReports : BeaconDetector → List Moment → List BeaconReport
  | _, [] => []
  | detector, time :: later =>
    ⟨false, (detector.arrive time).1, (detector.arrive time).2.averagePeriod⟩ ::
      arrivalReports (detector.arrive time).2 later

/-- The detector after some arrivals, one after the other. -/
def afterArrivals (detector : BeaconDetector) (times : List Moment) : BeaconDetector :=
  times.foldl (fun detector time => (detector.arrive time).2) detector

section
variable {detector : BeaconDetector} {beacon : Beacon}

/-- Timing neither reads nor changes the sequence number, and stores the time. -/
theorem observe_spec (detector : BeaconDetector) (sequence : UInt32) (lastTime now : Moment) :
    ({ detector with lastSequence := sequence } : BeaconDetector).observe lastTime now =
        ((detector.observe lastTime now).1,
          { (detector.observe lastTime now).2 with lastSequence := sequence }) ∧
      (detector.observe lastTime now).2.lastTime = some now ∧
      (detector.observe lastTime now).2.lastSequence = detector.lastSequence := by
  unfold observe
  cases detector.averagePeriod with
  | none => exact ⟨rfl, rfl, rfl⟩
  | some average =>
    dsimp only
    cases Pace.ofPeriods (now - lastTime) average with
    | late | early | steady => exact ⟨rfl, rfl, rfl⟩
    | slowing => cases detector.stabilized <;> exact ⟨rfl, rfl, rfl⟩

/-- A beacon that is ignored is no anomaly and leaves everything but the sequence number. -/
theorem notify_of_ignores (ignored : detector.ignores beacon = true) :
    detector.notify beacon = (false, { detector with lastSequence := beacon.sequence }) := by
  unfold ignores at ignored
  rw [Bool.and_eq_true, Bool.and_eq_true, decide_eq_true_eq] at ignored
  obtain ⟨⟨notFirst, numbered⟩, out⟩ := ignored
  obtain ⟨lastTime, isLast⟩ := Option.isSome_iff_exists.mp notFirst
  simp [notify, isLast, numbered, out]

/-- A beacon that is neither the first nor ignored is timed, and its sequence number is stored if it
was looked at. -/
theorem notify_of_passes {lastTime : Moment} (seen : detector.lastTime = some lastTime)
    (counts : detector.ignores beacon = false) :
    detector.notify beacon =
      ((detector.observe lastTime beacon.time).1,
        { (detector.observe lastTime beacon.time).2 with
          lastSequence :=
            if sequenceRevision ≤ beacon.minorRevision then beacon.sequence
            else detector.lastSequence }) := by
  obtain ⟨stored, -, unchanged⟩ := observe_spec detector beacon.sequence lastTime beacon.time
  unfold notify
  split
  · rename_i first
    exact absurd (first.symm.trans seen) (Option.some_ne_none lastTime).symm
  · rename_i last isLast
    obtain rfl := Option.some.inj (isLast.symm.trans seen)
    by_cases numbered : sequenceRevision ≤ beacon.minorRevision
    · -- The number is stored before the time is looked at, which makes no difference to that.
      have inSequence : ¬ isOutOfSequence detector.lastSequence beacon.sequence = true := by
        simpa [ignores, seen, numbered] using counts
      rw [if_pos numbered, if_pos numbered, if_neg inSequence]
      exact stored
    · rw [if_neg numbered, if_neg numbered, ← unchanged]

/-- A beacon that counts is an arrival at its time. -/
theorem notify_of_counts (counts : detector.ignores beacon = false) :
    (detector.notify beacon).1 = (detector.timing.arrive beacon.time).1 ∧
      (detector.after beacon).timing = (detector.timing.arrive beacon.time).2 := by
  unfold after
  cases seen : detector.lastTime with
  | none => simp [notify, arrive, timing, seen]
  | some lastTime =>
    have arrives : detector.timing.arrive beacon.time =
        ((detector.observe lastTime beacon.time).1,
          (detector.observe lastTime beacon.time).2.timing) := by
      unfold arrive
      rw [show detector.timing.lastTime = some lastTime from seen]
      exact (observe_spec detector 0 lastTime beacon.time).1
    rw [arrives, notify_of_passes seen counts]
    exact ⟨rfl, rfl⟩

/-- After a beacon one has been seen, and its sequence number is the last one unless it was not
looked at. -/
theorem after_spec (detector : BeaconDetector) (beacon : Beacon) :
    (detector.after beacon).lastTime.isSome = true ∧
      (detector.after beacon).lastSequence =
        if detector.lastTime.isSome = false ∨ sequenceRevision ≤ beacon.minorRevision then
          beacon.sequence
        else detector.lastSequence := by
  unfold after
  cases seen : detector.lastTime with
  | none => simp [notify, seen]
  | some lastTime =>
    cases ignored : detector.ignores beacon with
    | true =>
      have numbered : sequenceRevision ≤ beacon.minorRevision := by
        simp only [ignores, Bool.and_eq_true, decide_eq_true_eq] at ignored
        exact ignored.1.2
      rw [notify_of_ignores ignored]
      simp [seen, numbered]
    | false =>
      obtain ⟨-, time, -⟩ := observe_spec detector 0 lastTime beacon.time
      rw [notify_of_passes seen ignored]
      simp [time]

/-- No beacon of a server without sequence numbers is ignored. -/
theorem ignores_of_old (detector : BeaconDetector) (old : beacon.minorRevision < sequenceRevision) :
    detector.ignores beacon = false := by
  have unnumbered : ¬ sequenceRevision ≤ beacon.minorRevision := UInt16.not_le.mpr old
  simp [ignores, unnumbered]

theorem timing_after_of_ignores (ignored : detector.ignores beacon = true) :
    (detector.after beacon).timing = detector.timing := by
  rw [after, notify_of_ignores ignored]
  rfl

/-- The report on a beacon that counts is that on an arrival. -/
theorem report_of_counts (counts : detector.ignores beacon = false) :
    detector.report beacon = ⟨false, (detector.timing.arrive beacon.time).1,
      (detector.timing.arrive beacon.time).2.averagePeriod⟩ := by
  obtain ⟨anomaly, after⟩ := notify_of_counts counts
  rw [report, counts, anomaly, ← after]
  rfl

end

/-! ## Whole runs -/

/-- What is reported on the beacons that count is seen from their times. -/
theorem reports_counted (detector : BeaconDetector) (beacons : List Beacon) :
    (detector.reports beacons).filter BeaconReport.counts =
      detector.timing.arrivalReports ((detector.counted beacons).map Beacon.time) ∧
    (detector.afterAll beacons).timing =
      detector.timing.afterArrivals ((detector.counted beacons).map Beacon.time) := by
  induction beacons generalizing detector with
  | nil => exact ⟨rfl, rfl⟩
  | cons beacon later ih =>
    obtain ⟨reports, afterwards⟩ := ih (detector.after beacon)
    cases ignored : detector.ignores beacon with
    | true =>
      rw [timing_after_of_ignores ignored] at reports afterwards
      have head : (detector.report beacon).counts = false := by
        simp [BeaconReport.counts, report, ignored]
      rw [BeaconDetector.reports, counted, if_pos ignored, List.filter_cons_of_neg (by simp [head])]
      exact ⟨reports, afterwards⟩
    | false =>
      rw [(notify_of_counts ignored).2] at reports afterwards
      have head : (detector.report beacon).counts = true := by
        simp [BeaconReport.counts, report, ignored]
      rw [BeaconDetector.reports, counted, ignored, if_neg Bool.false_ne_true, List.map_cons,
        List.filter_cons_of_pos head, report_of_counts ignored, reports]
      exact ⟨rfl, afterwards⟩

/-- Beacons none of which is ignored all count. -/
theorem counted_of_old (detector : BeaconDetector) {beacons : List Beacon}
    (old : ∀ beacon ∈ beacons, beacon.minorRevision < sequenceRevision) :
    detector.counted beacons = beacons ∧
      (detector.reports beacons).filter BeaconReport.counts = detector.reports beacons := by
  induction beacons generalizing detector with
  | nil => exact ⟨rfl, rfl⟩
  | cons beacon later ih =>
    have counts : detector.ignores beacon = false :=
      ignores_of_old detector (old beacon List.mem_cons_self)
    obtain ⟨all, reports⟩ := ih (detector.after beacon) fun other isLater =>
      old other (List.mem_cons_of_mem beacon isLater)
    have head : (detector.report beacon).counts = true := by
      simp [BeaconReport.counts, report, counts]
    rw [counted, counts, if_neg Bool.false_ne_true, all, BeaconDetector.reports,
      List.filter_cons_of_pos head, reports]
    exact ⟨rfl, rfl⟩

/-- Two detectors that filter beacons alike: neither has seen one, or both have and the last
sequence number is the same. -/
def FiltersAs (detector other : BeaconDetector) : Prop :=
  detector.lastTime.isSome = other.lastTime.isSome ∧ detector.lastSequence = other.lastSequence

/-- Detectors that filter alike ignore the same beacons and go on to filter alike, whenever the
beacons arrive. -/
theorem FiltersAs.after {detector other : BeaconDetector} (h : detector.FiltersAs other)
    {beacon same : Beacon} (marks : beacon.mark = same.mark) :
    detector.ignores beacon = other.ignores same ∧
      (detector.after beacon).FiltersAs (other.after same) := by
  obtain ⟨seen, number⟩ := h
  obtain ⟨revision, sequence⟩ := Prod.mk.inj marks
  have ignored : detector.ignores beacon = other.ignores same := by
    rw [ignores, ignores, seen, number, revision, sequence]
  obtain ⟨seenAfter, numberAfter⟩ := after_spec detector beacon
  obtain ⟨otherSeen, otherNumber⟩ := after_spec other same
  refine ⟨ignored, seenAfter.trans otherSeen.symm, ?_⟩
  rw [numberAfter, otherNumber, seen, number, revision, sequence]

/-- Which beacons are ignored is seen from their revisions and sequence numbers. -/
theorem FiltersAs.ignored_eq {detector other : BeaconDetector} (h : detector.FiltersAs other)
    {beacons others : List Beacon} (marks : others.map Beacon.mark = beacons.map Beacon.mark) :
    (other.reports others).map BeaconReport.ignored =
      (detector.reports beacons).map BeaconReport.ignored := by
  induction beacons generalizing detector other others with
  | nil =>
    obtain rfl := List.map_eq_nil_iff.mp marks
    rfl
  | cons beacon later ih =>
    obtain ⟨same, rest, rfl, mark, marksLater⟩ := List.map_eq_cons_iff.mp marks
    obtain ⟨ignored, alike⟩ := h.after mark.symm
    rw [reports, reports, List.map_cons, List.map_cons, ih alike marksLater]
    exact congrArg (· :: _) ignored.symm

/-- **Filtering and timing are apart.** A new detector watches some beacons, with and without
sequence numbers, in any order and at any times.
* Which of them it ignores is seen from their revisions and sequence numbers alone, so it is the
  same for beacons that arrive at other times.
* A beacon that is ignored is no anomaly and leaves the running average, whether the server has
  settled and the time of the last beacon as they were.
* What it makes of the others, and what it knows in the end, is the same as if it had watched only
  beacons without sequence numbers that arrive at the same times as those. -/
theorem filtered_apart_from_timing (beacons : List Beacon) :
    let start : BeaconDetector := {}
    (∀ others : List Beacon, others.map Beacon.mark = beacons.map Beacon.mark →
      (start.reports others).map BeaconReport.ignored =
        (start.reports beacons).map BeaconReport.ignored) ∧
    (∀ earlier beacon later, beacons = earlier ++ beacon :: later →
      let before := start.afterAll earlier
      before.ignores beacon = true →
        (before.notify beacon).1 = false ∧
          (before.after beacon).averagePeriod = before.averagePeriod ∧
          (before.after beacon).stabilized = before.stabilized ∧
          (before.after beacon).lastTime = before.lastTime) ∧
    ∀ plain : List Beacon, (∀ beacon ∈ plain, beacon.minorRevision < sequenceRevision) →
      plain.map Beacon.time = (start.counted beacons).map Beacon.time →
        (start.reports beacons).filter BeaconReport.counts = start.reports plain ∧
          (start.afterAll beacons).averagePeriod = (start.afterAll plain).averagePeriod ∧
          (start.afterAll beacons).stabilized = (start.afterAll plain).stabilized ∧
          (start.afterAll beacons).lastTime = (start.afterAll plain).lastTime := by
  intro start
  refine ⟨fun others marks => FiltersAs.ignored_eq ⟨rfl, rfl⟩ marks, ?_, ?_⟩
  · intro earlier beacon later _ before ignored
    have notified := notify_of_ignores ignored
    rw [after, notified]
    exact ⟨rfl, rfl, rfl, rfl⟩
  · intro plain old times
    obtain ⟨reports, timingAfter⟩ := reports_counted start beacons
    obtain ⟨plainReports, plainTiming⟩ := reports_counted start plain
    obtain ⟨all, allReports⟩ := counted_of_old start old
    rw [all, times] at plainReports plainTiming
    have same : (start.afterAll beacons).timing = (start.afterAll plain).timing :=
      timingAfter.trans plainTiming.symm
    obtain ⟨average, settled, -, time⟩ := BeaconDetector.mk.inj same
    refine ⟨?_, average, settled, time⟩
    rw [reports, ← plainReports, allReports]

/-- A beacon without a sequence number does not hide the one before it, one that is ignored does. -/
example :
    let detector : BeaconDetector := {}
    (detector.reports [⟨13, 5, .ofSeconds 0⟩, ⟨9, 7, .ofSeconds 10⟩, ⟨13, 5, .ofSeconds 11⟩,
      ⟨13, 8, .ofSeconds 12⟩, ⟨13, 9, .ofSeconds 20⟩]).map BeaconReport.ignored =
        [false, false, true, true, false] := by
  decide

end BeaconDetector

end ChannelAccess
