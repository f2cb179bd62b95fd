import AsyncStage.Time.Duration

/-!
# Instants of processing time

An `Instant` is a number of nanoseconds since the start of 1970, between the first and the
last instant of the calendar years -262143 to 262142. Adding to an instant saturates at
`Instant.latest`; the difference of two instants is an integer and may be negative.
-/

namespace AsyncStage

/-- A reading of a clock, in nanoseconds since the start of 1970. The system clock reads nothing else. A clock
made by hand can also read the inside of a leap second; such readings are left out. -/
structure Instant where
  nanos : Int
  earliest_le : -8334601228800000000000 ≤ nanos := by omega
  le_latest : nanos ≤ 8210266876799999999999 := by omega
deriving DecidableEq

namespace Instant

theorem ext {a b : Instant} (h : a.nanos = b.nanos) : a = b := by
  cases a; cases b; simp_all

/-- The first instant of the year -262143. -/
def earliest : Instant where nanos := -8334601228800000000000

/-- The last nanosecond of the year 262142. -/
def latest : Instant where nanos := 8210266876799999999999

/-- The start of 1970. -/
def epoch : Instant where nanos := 0

/-- The instant at so many nanoseconds since the start of 1970, if it is in range. -/
def ofNanos? (nanos : Int) : Option Instant :=
  if h : earliest.nanos ≤ nanos ∧ nanos ≤ latest.nanos then
    some ⟨nanos, h.1, h.2⟩
  else
    none

/-- The instant of a Unix time in seconds and nanoseconds. -/
def ofUnix? (secs : Int) (nanos : Nat) : Option Instant := ofNanos? (secs * 1000000000 + nanos)

/-- Whole seconds since the start of 1970, rounded down. -/
def secs (t : Instant) : Int := t.nanos / 1000000000

/-- Nanoseconds beyond the whole seconds. -/
def subsecNanos (t : Instant) : Nat := (t.nanos % 1000000000).toNat

instance : LE Instant := ⟨fun a b => a.nanos ≤ b.nanos⟩

instance : LT Instant := ⟨fun a b => a.nanos < b.nanos⟩

instance (a b : Instant) : Decidable (a ≤ b) := inferInstanceAs (Decidable (a.nanos ≤ b.nanos))

instance (a b : Instant) : Decidable (a < b) := inferInstanceAs (Decidable (a.nanos < b.nanos))

theorem le_iff {a b : Instant} : a ≤ b ↔ a.nanos ≤ b.nanos := Iff.rfl

theorem lt_iff {a b : Instant} : a < b ↔ a.nanos < b.nanos := Iff.rfl

/-- The instant `span` nanoseconds later, and `latest` where there is none. -/
def after (t : Instant) (span : Nat) : Instant :=
  if h : t.nanos + span ≤ latest.nanos then
    ⟨t.nanos + span, by have := t.earliest_le; omega, h⟩
  else
    latest

/-- The nanoseconds from `start` to `t`, negative if `t` is earlier. -/
def since (t start : Instant) : Int := t.nanos - start.nanos

/-- The time that has passed at `t` since `start`, and none if `t` is earlier. -/
def elapsed (t start : Instant) : Duration := ⟨(t.since start).toNat⟩

/-- The instant moved by so many nanoseconds in either direction, if it is in range. -/
def shift? (t : Instant) (span : Int) : Option Instant := ofNanos? (t.nanos + span)

end Instant

end AsyncStage
