import AsyncStage.Entry
import AsyncStage.Table

/-!
# Timers

A timer fires once at its instant, timers of one instant in the order in which they were
set, unless it is cancelled before. The pending timers are kept by fire time, which is the
order in which they fire, and by number, which is how they are cancelled.
-/

namespace AsyncStage

/-- What a timer is set for. -/
inductive TimerTarget where
  /-- The time of an entry is up. -/
  | deadline (id : EntryId)
  /-- The backoff of an entry is over. -/
  | retry (id : EntryId)
deriving DecidableEq, Repr

/-- When a timer fires, and its number. -/
structure TimerKey where
  fireAt : Instant
  id : TimerId
deriving DecidableEq

namespace TimerKey

/-- The order in which timers fire. -/
def order : TimerKey → TimerKey → Ordering :=
  compareLex (compareOn fun k => k.fireAt.nanos) (compareOn fun k => k.id)

instance : Ord TimerKey := ⟨order⟩

instance : Std.TransOrd TimerKey :=
  inferInstanceAs (Std.TransCmp
    (compareLex (compareOn fun k : TimerKey => k.fireAt.nanos) (compareOn fun k => k.id)))

end TimerKey

/-- The pending timers. -/
structure TimerQueue where
  nextId : TimerId := 0
  byTime : Table TimerKey TimerTarget := .empty
  fireAt : Table TimerId Instant := .empty
deriving DecidableEq

namespace TimerQueue

/-- The pending timers in the order in which they fire. -/
def toList (q : TimerQueue) : List (TimerKey × TimerTarget) := q.byTime.toList

def size (q : TimerQueue) : Nat := q.byTime.size

/-- Sets a timer under a new number. -/
def schedule (q : TimerQueue) (fireAt : Instant) (target : TimerTarget) : TimerId × TimerQueue :=
  (q.nextId,
    { nextId := q.nextId + 1
      byTime := q.byTime.insert ⟨fireAt, q.nextId⟩ target
      fireAt := q.fireAt.insert q.nextId fireAt })

/-- Takes a timer back; the answer tells whether it was pending. -/
def cancel (q : TimerQueue) (id : TimerId) : Bool × TimerQueue :=
  match q.fireAt.get? id with
  | some fireAt =>
    (q.byTime.contains ⟨fireAt, id⟩,
      { q with byTime := q.byTime.erase ⟨fireAt, id⟩, fireAt := q.fireAt.erase id })
  | none => (false, q)

/-- The first timer, if it fires at or before `now`, and the queue without it. -/
def popDue (q : TimerQueue) (now : Instant) : Option (TimerTarget × TimerQueue) :=
  match q.byTime.first? with
  | some (key, target) =>
    if now < key.fireAt then none
    else
      some (target, { q with byTime := q.byTime.erase key, fireAt := q.fireAt.erase key.id })
  | none => none

/-- When the first timer fires. -/
def nextFire? (q : TimerQueue) : Option Instant := q.byTime.first?.map (·.1.fireAt)

/-- Forgets every pending timer. -/
def clear (q : TimerQueue) : TimerQueue := { q with byTime := .empty, fireAt := .empty }

end TimerQueue

end AsyncStage
