/-!
# Event times

A `Timestamp` says when the event of a stream element happened. Unlike the instants that a
clock reads, event times take no part in arithmetic, and one may fall into a leap second:
such a second shares the number of the second before it, and its nanoseconds run on from
10^9.
-/

namespace AsyncStage

/-- A Unix second and the nanoseconds within it. -/
structure Timestamp where
  secs : Int
  nanos : Nat
  earliest_le : -8334601228800 ≤ secs := by omega
  le_latest : secs ≤ 8210266876799 := by omega
  nanos_lt : nanos < 1000000000 ∨ (nanos < 2000000000 ∧ secs % 60 = 59) := by omega
deriving DecidableEq

namespace Timestamp

theorem ext {a b : Timestamp} (hs : a.secs = b.secs) (hn : a.nanos = b.nanos) : a = b := by
  cases a; cases b; simp_all

/-- The event time of a Unix second and its nanoseconds, if there is one. -/
def ofUnix? (secs : Int) (nanos : Nat) : Option Timestamp :=
  if h : (-8334601228800 ≤ secs ∧ secs ≤ 8210266876799) ∧
      (nanos < 1000000000 ∨ (nanos < 2000000000 ∧ secs % 60 = 59)) then
    some ⟨secs, nanos, h.1.1, h.1.2, h.2⟩
  else
    none

/-- Whether `a` is not later than `b`: by second, then by nanosecond. -/
def notLater (a b : Timestamp) : Bool :=
  a.secs < b.secs || (a.secs == b.secs && a.nanos ≤ b.nanos)

/-- The later of two event times. -/
def later (a b : Timestamp) : Timestamp := if a.notLater b then b else a

end Timestamp

end AsyncStage
