import AsyncStage.Table
import AsyncStage.Time.Duration

/-!
# Metrics

A stage records amounts under named counters, how long the attempts took whose completions
it applied, and that snapshots were timed. A `Summary` adds up what was recorded; a counter
appears in it once something was recorded, be it zero.
-/

namespace AsyncStage

/-- The instruments that add up. -/
inductive Counter where
  /-- Entries now in the queue. -/
  | inFlight
  /-- Attempts started, retries included. -/
  | invocations
  /-- Retries scheduled. -/
  | retries
  /-- Entries whose time was up. -/
  | timeouts
  /-- Failed entries replaced by fallback output. -/
  | fallbacks
  /-- Records emitted. -/
  | itemsOut
deriving DecidableEq, Repr

/-- One recording. -/
inductive Measurement where
  | added (counter : Counter) (amount : Int)
  | attemptTook (time : Duration)
  | snapshotTimed
deriving DecidableEq, Repr

namespace Counter

def name : Counter → String
  | .inFlight => "async_in_flight"
  | .invocations => "async_invocations"
  | .retries => "async_retries"
  | .timeouts => "async_timeouts"
  | .fallbacks => "async_fallbacks"
  | .itemsOut => "item_out_count"

def all : List Counter := [.inFlight, .invocations, .retries, .timeouts, .fallbacks, .itemsOut]

/-- What a recording adds to this counter, if it belongs to it. -/
def share? (c : Counter) : Measurement → Option Int
  | .added c' amount => if c = c' then some amount else none
  | .attemptTook _ => none
  | .snapshotTimed => none

/-- The sum of the recordings of this counter. -/
def total (c : Counter) (ms : List Measurement) : Int := (ms.filterMap c.share?).foldr (· + ·) 0

end Counter

namespace Measurement

/-- The time of an applied attempt. -/
def attemptTime? : Measurement → Option Duration
  | .attemptTook time => some time
  | .added _ _ => none
  | .snapshotTimed => none

def isSnapshot : Measurement → Bool
  | .snapshotTimed => true
  | .added _ _ => false
  | .attemptTook _ => false

/-- The microseconds nearest to a recorded time. -/
def micros (time : Duration) : Nat := (time.toSeconds * 1e6).round.toUInt64.toNat

end Measurement

/-- What the recordings of one step come to. -/
structure Summary where
  /-- The sums of the counters that were recorded. -/
  counters : List (Counter × Int)
  /-- The times of the applied attempts in microseconds, in the order of recording. -/
  attemptMicros : List Nat
  snapshots : Nat
deriving Repr

/-- Adds up the recordings of one step. -/
def Summary.ofMeasurements (ms : List Measurement) : Summary where
  counters := Counter.all.filterMap fun c =>
    if (ms.filterMap c.share?).isEmpty then none else some (c, c.total ms)
  attemptMicros := (ms.filterMap Measurement.attemptTime?).map Measurement.micros
  snapshots := ms.countP Measurement.isSnapshot

/-- The recordings of several steps, by the names of the steps. -/
abbrev Metrics := Table String (Array Measurement)

namespace Metrics

/-- Adds recordings of a step. -/
def record (m : Metrics) (stepId : String) (ms : List Measurement) : Metrics :=
  if ms.isEmpty then m
  else Table.insert m stepId ((Table.get? m stepId).getD #[] ++ ms.toArray)

/-- What was recorded for each step. -/
def summaries (m : Metrics) : List (String × Summary) :=
  (Table.toList m).map fun (stepId, ms) => (stepId, .ofMeasurements ms.toList)

end Metrics

end AsyncStage
