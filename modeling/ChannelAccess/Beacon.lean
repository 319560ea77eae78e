import ChannelAccess.Number.Double

/-!
# Beacon anomalies

Servers announce themselves by periodic beacons. A server that has just started sends them quickly
at first and then slows down to its steady period; a long gap shows that the network was down. Both
are anomalies, after which unanswered searches are worth repeating at once.

A detector watches the beacons of one server. Beacons with a sequence number are filtered by it
first; the time between those that remain is compared with a running average.
-/

namespace ChannelAccess

/-- A beacon of a known server. -/
structure Beacon where
  /-- Minor revision of the protocol that the server speaks. -/
  minorRevision : UInt16
  /-- Sequence number, if the revision has one. -/
  sequence : UInt32
  /-- When the beacon arrived. -/
  time : Moment
  deriving DecidableEq, Repr

/-- What is known from the beacons of one server so far. -/
structure BeaconDetector where
  /-- The running average of the time between beacons. -/
  averagePeriod : Option Duration := none
  /-- The server has settled on its steady period. -/
  stabilized : Bool := false
  /-- The sequence number of the last beacon. -/
  lastSequence : UInt32 := 0
  /-- When the last beacon arrived that was not filtered out. -/
  lastTime : Option Moment := none
  deriving DecidableEq, Repr, Inhabited

/-- How the time since the last beacon compares with the average. -/
inductive Pace where
  /-- Much longer. -/
  | late
  /-- Longer, as while a server slows down. -/
  | slowing
  /-- Shorter. -/
  | early
  /-- About the same. -/
  | steady
  deriving DecidableEq, Repr

namespace Pace

/-- A period this many times the average is much longer. -/
def longFactor : Float := 3.25

/-- A period this many times the average is longer. -/
def warmupFactor : Float := 1.25

/-- A period of this part of the average is shorter. -/
def shortFactor : Float := 0.8

/-- The least average that periods are compared with, in seconds: the spacing of double precision
numbers at one. -/
def leastAverage : Float := 2.220446049250313e-16

/-- How a period compares with the average. -/
def ofPeriods (current average : Duration) : Pace :=
  let divisor := Double.ofDuration average
  let ratio := Double.ofDuration current / if divisor < leastAverage then leastAverage else divisor
  if longFactor ≤ ratio then .late
  else if warmupFactor ≤ ratio then .slowing
  else if ratio ≤ shortFactor then .early
  else .steady

end Pace

namespace BeaconDetector

/-- Minor revision from which on beacons carry a sequence number. -/
def sequenceRevision : UInt16 := 10

/-- The weight of a new period in the running average. -/
def averageWeight : Float := 0.125

/-- A beacon is to be ignored for its sequence number. The number of the last one is a duplicate,
the next but one and the one after that come of duplicates on another route that overtook each
other, and a huge advance is a step back. -/
def isOutOfSequence (last sequence : UInt32) : Bool :=
  let advance := sequence - last
  advance == 0 || advance == 2 || advance == 3 || advance > 0xFFFFFFFF - 256

/-- The running average after a period that is about the same. -/
def smoothed (current average : Duration) : Duration :=
  Double.scale (1.0 - averageWeight) average + Double.scale averageWeight current

/-- A further beacon that was not filtered out, after one at the given time: whether it is an
anomaly. -/
def observe (detector : BeaconDetector) (lastTime now : Moment) : Bool × BeaconDetector :=
  let current := now - lastTime
  let detector := { detector with lastTime := some now }
  match detector.averagePeriod with
  | none => (false, { detector with averagePeriod := some current })
  | some average =>
    let restarted := { detector with averagePeriod := some current, stabilized := false }
    let settled :=
      { detector with averagePeriod := some (smoothed current average), stabilized := true }
    match Pace.ofPeriods current average with
    | .late => (true, restarted)
    | .early => (true, restarted)
    | .slowing =>
      if detector.stabilized then (false, settled)
      else (false, { detector with averagePeriod := some current })
    | .steady => (false, settled)

/-- A beacon of the server: whether it is an anomaly. The first one is. -/
def notify (detector : BeaconDetector) (beacon : Beacon) : Bool × BeaconDetector :=
  match detector.lastTime with
  | none => (true, { detector with lastSequence := beacon.sequence, lastTime := some beacon.time })
  | some lastTime =>
    if sequenceRevision ≤ beacon.minorRevision then
      -- The number counts as the last one even when the beacon is ignored for it.
      let next := { detector with lastSequence := beacon.sequence }
      if isOutOfSequence detector.lastSequence beacon.sequence then (false, next)
      else next.observe lastTime beacon.time
    else detector.observe lastTime beacon.time

end BeaconDetector

end ChannelAccess
