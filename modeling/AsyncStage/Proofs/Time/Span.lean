import AsyncStage.Proofs.Time.Instant

/-!
# Spans of limited length

A `Span` is a length of time in either direction, and a limited one. Durations are cut to the longest span, the
sum of two spans may be out of range, and an instant that would be too late becomes the last one. The
difference of two instants always is a span.
-/

namespace AsyncStage

/-- A length of time in either direction, in nanoseconds. -/
structure Span where
  nanos : Int
  bounded : nanos.natAbs ≤ Duration.maxSpan

namespace Span

/-- The span of so many nanoseconds, if there is one. -/
def ofNanos? (nanos : Int) : Option Span :=
  if h : nanos.natAbs ≤ Duration.maxSpan then some ⟨nanos, h⟩ else none

def longest : Span where
  nanos := Duration.maxSpan
  bounded := Nat.le_refl _

/-- The sum of two spans, if it is one. -/
def plus? (a b : Span) : Option Span := ofNanos? (a.nanos + b.nanos)

end Span

/-- The duration as a span, and the longest one if it is longer. -/
def Duration.toSpan (d : Duration) : Span := (Span.ofNanos? d.nanos).getD .longest

namespace Instant

/-- What lies between two instants, if it is a span. -/
def minus? (t start : Instant) : Option Span := Span.ofNanos? (t.nanos - start.nanos)

/-- The instant that lies a span behind another one, and the last one if there is none. -/
def plus (t : Instant) (span : Span) : Instant := (t.shift? span.nanos).getD latest

end Instant

namespace Duration

theorem nanos_toSpan (d : Duration) : d.toSpan.nanos = d.span := by
  unfold toSpan Span.ofNanos? span
  split
  next fits =>
    rw [Int.natAbs_natCast] at fits
    rw [Option.getD_some, Nat.min_eq_left fits]
  next long =>
    rw [Int.natAbs_natCast] at long
    rw [Option.getD_none, Nat.min_eq_right (Nat.le_of_not_le long)]
    rfl

theorem span_of_fits {d : Duration} (fits : d.nanos ≤ maxSpan) : d.span = d.nanos := Nat.min_eq_left fits

end Duration

namespace Instant

/-- The difference of two instants is always a span. -/
theorem minus?_eq_some (t start : Instant) : ∃ span, t.minus? start = some span ∧ span.nanos = t.since start := by
  have fits : (t.since start).natAbs ≤ Duration.maxSpan := by
    have := t.earliest_le
    have := t.le_latest
    have := start.earliest_le
    have := start.le_latest
    rw [since, Duration.maxSpan_eq]
    omega
  exact ⟨⟨t.since start, fits⟩, dif_pos fits, rfl⟩

/-- Going a duration ahead, span by span. -/
theorem plus_toSpan (t : Instant) (d : Duration) : t.plus d.toSpan = t.after d.span := by
  have early := t.earliest_le
  unfold plus shift? ofNanos? after
  rw [d.nanos_toSpan]
  by_cases fits : t.nanos + d.span ≤ latest.nanos
  · have late : earliest.nanos ≤ t.nanos + d.span :=
      Int.le_trans early (Int.le_add_of_nonneg_right (Int.natCast_nonneg _))
    rw [dif_pos fits, dif_pos ⟨late, fits⟩, Option.getD_some]
  · rw [dif_neg fits, dif_neg fun range => fits range.2, Option.getD_none]

/-- What ends earlier saturates no earlier: it is earlier still, or both ends are the last instant. -/
theorem after_lt_or_latest {t first : Instant} {n m : Nat} (less : t.nanos + n < first.nanos + m) :
    t.after n < first.after m ∨ t.after n = latest ∧ first.after m = latest := by
  by_cases early : t.after n < latest
  · exact .inl (lt_after_of_lt (Int.lt_of_le_of_lt (t.nanos_after_le n) less) early)
  · have last : t.after n = latest := ext (Int.le_antisymm (t.after n).le_latest (Int.not_lt.1 early))
    have out : latest.nanos ≤ t.nanos + n := congrArg nanos last ▸ t.nanos_after_le n
    refine .inr ⟨last, ?_⟩
    rw [after, dif_neg (Int.not_le.2 (Int.lt_of_le_of_lt out less))]

end Instant

end AsyncStage
