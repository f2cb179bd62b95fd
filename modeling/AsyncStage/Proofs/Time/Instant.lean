import AsyncStage.Time.Instant

/-!
# Instants and spans

Adding to an instant saturates, so the instant that lies a span behind another one is exact only
as long as it is in range, and earlier than it should be otherwise.
-/

namespace AsyncStage

namespace Duration

theorem maxSpan_eq : maxSpan = 9223372036854775807000000 := rfl

theorem span_le_nanos (d : Duration) : d.span ≤ d.nanos := Nat.min_le_left _ _

theorem span_le_maxSpan (d : Duration) : d.span ≤ maxSpan := Nat.min_le_right _ _

end Duration

namespace Instant

variable {t first : Instant} {span : Nat} {d : Duration}

theorem latest_eq : latest.nanos = 8210266876799999999999 := rfl

theorem nanos_after_le (t : Instant) (span : Nat) : (t.after span).nanos ≤ t.nanos + span := by
  unfold after
  split
  · exact Int.le_refl _
  next out => exact Int.le_of_lt (Int.not_le.1 out)

/-- What lies a span behind is not earlier. -/
theorem le_after (t : Instant) (span : Nat) : t ≤ t.after span := by
  rw [le_iff]
  unfold after
  split
  · exact Int.le_add_of_nonneg_right (Int.natCast_nonneg span)
  · exact t.le_latest

/-- What comes before the last instant has not been saturated. -/
theorem nanos_after_of_lt (early : t.after span < latest) : (t.after span).nanos = t.nanos + span := by
  unfold after at early ⊢
  split
  · rfl
  next out =>
    rw [dif_neg out] at early
    exact absurd early (Int.lt_irrefl _)

/-- A duration that ends in range is exact. -/
theorem nanos_after_span (fits : t.nanos + d.nanos ≤ latest.nanos) : (t.after d.span).nanos = t.nanos + d.nanos := by
  have exact' : d.span = d.nanos := by
    have := t.earliest_le
    rw [latest_eq] at fits
    rw [Duration.span, Duration.maxSpan_eq]
    omega
  rw [exact', after, dif_pos fits]

/-- The instant at which a duration ends is exact, or the last one. -/
theorem nanos_after_eq_min (t : Instant) (d : Duration) :
    (t.after d.span).nanos = min (t.nanos + d.nanos) latest.nanos := by
  by_cases fits : t.nanos + d.nanos ≤ latest.nanos
  · rw [nanos_after_span fits, Int.min_eq_left fits]
  · -- A duration that is cut to `maxSpan` ends after the last instant all the same.
    have out : ¬ t.nanos + (d.span : Int) ≤ latest.nanos := by
      have := t.earliest_le
      rw [latest_eq] at fits ⊢
      rw [Duration.span, Duration.maxSpan_eq]
      omega
    rw [after, dif_neg out, Int.min_eq_right (Int.le_of_lt (Int.not_le.1 fits))]

/-- The instant that lies a span behind is the last one or exact. -/
theorem lt_after_of_lt (before : t.nanos < first.nanos + span) (early : t < latest) : t < first.after span := by
  unfold after
  split
  · exact before
  · exact early

theorem nanos_elapsed (order : first ≤ t) : ((t.elapsed first).nanos : Int) = t.since first := by
  have order : first.nanos ≤ t.nanos := order
  simp only [elapsed, since]
  omega

end Instant

end AsyncStage
