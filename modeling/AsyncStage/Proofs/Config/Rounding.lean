import AsyncStage.Proofs.Config.RoundTrip
import AsyncStage.Proofs.Config.Validation

/-!
# What texts do to durations

The text of a configuration counts in milliseconds, so what is read from it has every duration rounded
down. A timeout of no time at all is none. So of a timeout below a millisecond nothing is left: entries
that had a limited time then wait forever, and a configuration that retries is refused when its own text
is read. Every other configuration is as bounded as before.
-/

namespace AsyncStage

namespace Duration

variable {d : Duration}

/-- Rounding goes down to the millisecond, and not beyond what 64 bits can count. -/
theorem nanos_inMillis (d : Duration) : d.inMillis.nanos = min (d.nanos / 1000000) (2 ^ 64 - 1) * 1000000 := rfl

/-- Nothing is left of what is shorter than a millisecond, and of nothing else. -/
theorem isZero_inMillis : d.inMillis.isZero = true ↔ d.nanos < nanosPerMilli := by
  rw [isZero, beq_iff_eq, nanos_inMillis, nanosPerMilli]
  omega

theorem isZero_inMillis_of_isZero (zero : d.isZero = true) : d.inMillis.isZero = true := by
  rw [isZero, beq_iff_eq] at zero
  rw [isZero_inMillis, zero]
  decide

end Duration

@[simp] theorem RetryPolicy.isEnabled_inMillis (policy : RetryPolicy) :
    policy.inMillis.isEnabled = policy.isEnabled := by
  cases policy <;> rfl

/-- A delay that is always the same has no faults but those of what is retried on. -/
theorem RetryPolicy.validate_inMillis {policy : RetryPolicy} (steady : policy.isSteady = true) :
    policy.inMillis.validate = policy.validate := by
  cases policy with
  | noRetry => rfl
  | fixedDelay => rfl
  | exponentialBackoff => cases steady

namespace Config

variable {c : Config}

/-- There is a timeout in effect, but it is shorter than a millisecond. -/
def isFleeting (c : Config) : Bool := c.effectiveTimeout.any fun d => d.nanos < Duration.nanosPerMilli

theorem isSome_of_isFleeting (fleeting : c.isFleeting = true) : c.effectiveTimeout.isSome = true := by
  unfold isFleeting at fleeting
  cases effective : c.effectiveTimeout with
  | none => simp [effective] at fleeting
  | some d => rfl

/-- What is left of the timeout in effect. -/
theorem effectiveTimeout_inMillis :
    c.inMillis.effectiveTimeout = if c.isFleeting then none else c.effectiveTimeout.map Duration.inMillis := by
  unfold isFleeting effectiveTimeout inMillis
  cases c.timeout with
  | none => rfl
  | some d =>
    cases zero : d.isZero with
    | true => simp [Option.filter_some, zero, Duration.isZero_inMillis_of_isZero zero]
    | false =>
      by_cases short : d.nanos < Duration.nanosPerMilli
      · simp [Option.filter_some, zero, short, Duration.isZero_inMillis.2 short]
      · have left : d.inMillis.isZero = false := Bool.not_eq_true _ ▸ mt Duration.isZero_inMillis.1 short
        simp [Option.filter_some, zero, short, left]

/-- Of a valid configuration with steady delays rounding can only spoil the timeout that its retries need. -/
theorem validate_inMillis (valid : c.validate = .ok ()) (steady : c.retry.isSteady = true) : c.inMillis.validate =
    if c.isFleeting && c.retry.isEnabled then .error (.unboundedRetry c.stepId) else .ok () := by
  obtain ⟨room, policy, bounded⟩ := validate_eq_ok_iff.1 valid
  have room' : c.inMillis.checkCapacity = .ok () := room
  have policy' : c.inMillis.retry.validate = .ok () := (RetryPolicy.validate_inMillis steady).trans policy
  rw [validate_eq_checkRetryTimeout room' policy', effectiveTimeout_inMillis]
  change checkRetryTimeout c.stepId c.retry.inMillis.isEnabled _ = _
  rw [RetryPolicy.isEnabled_inMillis]
  cases fleeting : c.isFleeting with
  | true => simp [checkRetryTimeout]
  | false =>
    refine checkRetryTimeout_eq_ok_iff.2 fun enabled => ?_
    simpa using bounded enabled

/-- **Reading the text** of a valid configuration. -/
theorem ofText_text_eq (valid : c.validate = .ok ()) (steady : c.retry.isSteady = true) : ofText c.text =
    if c.isFleeting && c.retry.isEnabled then .error (.unboundedRetry c.stepId) else .ok c.inMillis := by
  rw [ofText, parse?_text steady]
  dsimp only
  rw [validate_inMillis valid steady]
  split <;> rfl

/-- What is read from the text of a configuration. -/
structure ReadBack (c : Config) : Prop where
  /-- The durations are rounded down, and the bounds are those that there were. -/
  bounded : c.isFleeting = false → ofText c.text = .ok c.inMillis ∧
    (c.inMillis.effectiveTimeout.isSome = true ↔ c.effectiveTimeout.isSome = true)
  /-- Entries whose time was limited wait forever. -/
  unbounded : c.isFleeting = true → c.retry.isEnabled = false →
    ofText c.text = .ok c.inMillis ∧ c.effectiveTimeout.isSome = true ∧ c.inMillis.effectiveTimeout = none
  /-- A configuration that is valid is refused. -/
  refused : c.isFleeting = true → c.retry.isEnabled = true → ofText c.text = .error (.unboundedRetry c.stepId)
  retry : c.inMillis.retry.isEnabled = c.retry.isEnabled

/-- **Texts round down.** Let a configuration be valid, and let it not retry or retry after a fixed delay.
Unless it has a timeout that is positive and below a millisecond, its text is read as the same configuration
with every duration rounded down, and this one has a timeout in effect if the other has. A shorter timeout is
lost: without retries the text is read as a configuration without a timeout, and with retries it is refused. -/
theorem texts_round {c : Config} (valid : c.validate = .ok ())
    (retry : c.retry = .noRetry ∨ ∃ budget backoff on, c.retry = .fixedDelay budget backoff on) :
    c.ReadBack ∧ ∀ d : Duration, d.inMillis.nanos = min (d.nanos / 1000000) (2 ^ 64 - 1) * 1000000 := by
  have steady : c.retry.isSteady = true := by
    rcases retry with none | ⟨_, _, _, fixed⟩
    · rw [none]; rfl
    · rw [fixed]; rfl
  have read := ofText_text_eq valid steady
  refine ⟨⟨fun long => ?_, fun fleeting single => ?_, fun fleeting retries => ?_, RetryPolicy.isEnabled_inMillis _⟩,
    Duration.nanos_inMillis⟩
  · rw [long] at read
    refine ⟨read.trans (if_neg Bool.false_ne_true), ?_⟩
    rw [effectiveTimeout_inMillis, long]
    simp
  · rw [single, Bool.and_false] at read
    refine ⟨read.trans (if_neg Bool.false_ne_true), isSome_of_isFleeting fleeting, ?_⟩
    rw [effectiveTimeout_inMillis, fleeting, if_pos rfl]
  · rw [fleeting, retries] at read
    exact read.trans (if_pos rfl)

/-- Half a millisecond for each entry. -/
def hasty : Config where
  timeout := some ⟨500000⟩

/-- The same with a retry, which would come in time. -/
def hastyRetry : Config := { hasty with retry := .fixedDelay (some 1) ⟨1000⟩ {} }

/-- A millisecond and a half for each entry, and a delay that 64 bits cannot count. -/
def patientRetry : Config where
  timeout := some ⟨1500000⟩
  retry := .fixedDelay none ⟨2 ^ 64 * 1000000 + 7⟩ {}

/-- The time limit of one is lost, the text of the next is refused, and the last is kept as far as it goes. -/
theorem texts_round_hasty :
    (hasty.validate = .ok () ∧ ofText hasty.text = .ok hasty.inMillis ∧ hasty.inMillis.effectiveTimeout = none) ∧
    (hastyRetry.validate = .ok () ∧ ofText hastyRetry.text = .error (.unboundedRetry "async_wait")) ∧
    patientRetry.validate = .ok () ∧ ofText patientRetry.text = .ok
      { timeout := some (.ofMillis 1), retry := .fixedDelay none (.ofMillis (2 ^ 64 - 1)) {} } :=
  ⟨⟨rfl, ((texts_round rfl (.inl rfl)).1.unbounded rfl rfl).1, ((texts_round rfl (.inl rfl)).1.unbounded rfl rfl).2.2⟩,
    ⟨rfl, (texts_round rfl (.inr ⟨_, _, _, rfl⟩)).1.refused rfl rfl⟩,
    rfl, ((texts_round rfl (.inr ⟨_, _, _, rfl⟩)).1.bounded rfl).1⟩

/-- So a text may hide that a configuration is bounded. -/
theorem not_all_texts_bounded : ¬ ∀ c : Config, c.validate = .ok () →
    (c.retry = .noRetry ∨ ∃ budget backoff on, c.retry = .fixedDelay budget backoff on) →
    ∃ c', ofText c.text = .ok c' ∧ (c'.effectiveTimeout.isSome = true ↔ c.effectiveTimeout.isSome = true) ∧
      c'.retry.isEnabled = c.retry.isEnabled := by
  intro all
  obtain ⟨c', read, bounds, -⟩ := all hasty rfl (.inl rfl)
  have lost : ofText hasty.text = .ok hasty.inMillis := ofText_text_eq rfl rfl
  obtain rfl := Except.ok.inj (read.symm.trans lost)
  cases bounds.2 rfl

end Config

end AsyncStage
