import AsyncStage.Element
import AsyncStage.Error
import AsyncStage.Time.Instant

/-!
# Entries in flight

A stage keeps one entry for every element that it has admitted and not yet emitted. The
entry of a record tells how far its attempts have come: an attempt is outstanding, a retry
is awaited, or the slot holds the final result.
-/

namespace AsyncStage

/-- Entries are numbered in the order of admission, from zero. -/
abbrev EntryId := Nat

abbrev TimerId := Nat

/-- Where the final result of a record ends up. -/
inductive Slot where
  | pending
  | completed (values : List String)
  | failed (error : EntryError)
deriving DecidableEq, Repr

/-- What an entry remembers of its attempts. -/
structure RetryContext where
  /-- Attempts started so far. -/
  attempts : Nat := 0
  firstAttempt : Option Instant := none
  attemptStarted : Option Instant := none
  nextRetryAt : Option Instant := none
  retryTimer : Option TimerId := none
  /-- The outcome that the awaited retry is to replace. -/
  lastOutcome : Option Outcome := none
deriving DecidableEq

/-- A record waiting for its result. -/
structure RecordEntry where
  id : EntryId
  record : Record
  enqueuedAt : Instant
  slot : Slot := .pending
  retry : RetryContext := {}
  deadlineTimer : Option TimerId := none
  /-- The outstanding attempt whose cancel signal this entry holds. -/
  signal : Option Nat := none
deriving DecidableEq

/-- An element in flight. -/
inductive Entry where
  | record (entry : RecordEntry)
  | watermark (id : EntryId) (time : Timestamp)
deriving DecidableEq

/-- How far a record has come. -/
inductive EntryState where
  /-- An attempt is outstanding. -/
  | pending
  /-- A retry is awaited. -/
  | retrying
  | completed
  | failed
deriving DecidableEq, Repr

namespace Slot

/-- Whether this is a final result. -/
def isFinal : Slot → Bool
  | .pending => false
  | .completed _ => true
  | .failed _ => true

end Slot

namespace RetryContext

/-- Whether a retry is awaited. -/
def isWaiting (r : RetryContext) : Bool := r.retryTimer.isSome

/-- The context once the awaited retry is forgotten. -/
def withoutWaiting (r : RetryContext) : RetryContext :=
  { r with nextRetryAt := none, retryTimer := none, lastOutcome := none }

end RetryContext

namespace RecordEntry

/-- Whether the slot holds a final result. -/
def isDone (e : RecordEntry) : Bool := e.slot.isFinal

/-- Whether a completion of this attempt still matters. -/
def accepts (e : RecordEntry) (attempt : Nat) : Bool :=
  !e.isDone && !e.retry.isWaiting && e.retry.attempts == attempt

def state (e : RecordEntry) : EntryState :=
  match e.slot with
  | .completed _ => .completed
  | .failed _ => .failed
  | .pending => if e.retry.isWaiting then .retrying else .pending

end RecordEntry

namespace Entry

def id : Entry → EntryId
  | .record e => e.id
  | .watermark id _ => id

/-- Whether the entry may be emitted as far as it is concerned itself. -/
def isDone : Entry → Bool
  | .record e => e.isDone
  | .watermark _ _ => true

/-- The element that was admitted. -/
def element : Entry → Element
  | .record e => .record e.record
  | .watermark _ time => .watermark time

def record? : Entry → Option RecordEntry
  | .record e => some e
  | .watermark _ _ => none

/-- Applies `f` to the entry of a record. -/
def mapRecord (f : RecordEntry → RecordEntry) : Entry → Entry
  | .record e => .record (f e)
  | .watermark id time => .watermark id time

/-- The elements that the entry becomes when it is emitted: a watermark itself, a record one
record with its own event time for each final value. -/
def rendering : Entry → List Element
  | .watermark _ time => [.watermark time]
  | .record e =>
    match e.slot with
    | .completed values => values.map fun v => .record (e.record.replace v)
    | .pending => []
    | .failed _ => []

end Entry

end AsyncStage
