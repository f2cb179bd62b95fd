import AsyncStage.Proofs.Config.RoundTrip
import AsyncStage.Proofs.Config.Validation
import AsyncStage.Proofs.Stage.Run

/-!
# What a stage can be built from

A configuration is checked twice: as the description that it is, when it is read, and once more on the
way to a stage, where the strategy that it describes has been made of it. Both come to the same, and
the first fault that one of them meets is the first that the other meets. With a strategy of its own a
builder does not look at what the configuration says about retries, but still bounds them by a timeout.
-/

namespace AsyncStage

namespace Builder

variable {b : Builder} {now : Instant} {s : Stage}

/-- A stage is built of a strategy that fits the rest of its configuration. -/
theorem build_eq_ok_iff : b.build now = .ok s ↔ ∃ retry, b.retryStrategy = .ok retry ∧ 0 < b.config.capacity.toNat ∧
    (retry.enabled = true → b.config.effectiveTimeout.isSome = true) ∧ s = Stage.start b retry now := by
  rw [← Config.checkCapacity_eq_ok_iff]
  simp only [← @Config.checkRetryTimeout_eq_ok_iff b.config.stepId]
  unfold build
  cases b.config.checkCapacity with
  | error e => simp [bind, Except.bind]
  | ok _ =>
    cases b.retryStrategy with
    | error e => simp [bind, Except.bind]
    | ok retry =>
      cases check : Config.checkRetryTimeout b.config.stepId retry.enabled b.config.effectiveTimeout <;>
        simp [check, bind, Except.bind, pure, Except.pure, Stage.start, eq_comm]

/-- Of the strategy, building only checks whether it is enabled. -/
theorem build_map_unit (b : Builder) (now : Instant) : (b.build now).map (fun _ => ()) = (do
    b.config.checkCapacity
    let enabled ← b.retryStrategy.map RetryStrategy.enabled
    Config.checkRetryTimeout b.config.stepId enabled b.config.effectiveTimeout) := by
  unfold build
  cases b.config.checkCapacity with
  | error e => rfl
  | ok _ =>
    cases b.retryStrategy with
    | error e => rfl
    | ok retry =>
      dsimp only [bind, Except.bind, Except.map]
      cases Config.checkRetryTimeout b.config.stepId retry.enabled b.config.effectiveTimeout <;> rfl

/-- Without a strategy of its own a builder comes to what the checks of its configuration come to. -/
theorem build_map_unit_eq_validate (described : b.strategy = none) :
    (b.build now).map (fun _ => ()) = b.config.validate := by
  have strategy : b.retryStrategy = b.config.retry.strategy := by rw [retryStrategy, described]
  rw [build_map_unit, strategy, RetryPolicy.strategy_map_enabled, Config.validate]
  cases b.config.retry.validate <;> rfl

/-- A builder with a strategy of its own does not look at the policy of its configuration. -/
theorem build_with_retry {strategy : RetryStrategy} (own : b.strategy = some strategy) (policy : RetryPolicy) :
    { b with config := { b.config with retry := policy } }.build now = b.build now := by
  unfold build retryStrategy
  simp only [own]
  rfl

end Builder

/-- What is found out about a configuration when it is checked, when it is read and when a stage is built
from it. -/
structure Config.ChecksAgree (c : Config) : Prop where
  /-- Checking meets the fault that building meets, if there is one. -/
  built : ∀ (b : Builder) (now : Instant), b.config = c → b.strategy = none →
    (b.build now).map (fun _ => ()) = c.validate
  /-- So does reading. -/
  read : ∀ text, Config.parse? text = some c → Config.ofText text = c.validate.map fun _ => c
  /-- A stage has room, and retries end at some time, whoever provides the strategy. -/
  bounded : ∀ (b : Builder) (now : Instant) (s : Stage), b.config = c → b.build now = .ok s →
    1 ≤ s.queue.capacity ∧ (∀ strategy, b.strategy = some strategy → s.setup.retry = strategy) ∧
      (s.setup.retry.enabled = true → ∃ d, c.effectiveTimeout = some d ∧ s.setup.timeout = some d ∧ 0 < d.nanos)
  /-- A strategy of its own takes the place of the policy altogether. -/
  own : ∀ (b : Builder) (now : Instant) (strategy : RetryStrategy) (policy : RetryPolicy), b.config = c →
    b.strategy = some strategy → { b with config := { c with retry := policy } }.build now = b.build now

namespace Config

/-- **The checks agree.** Whatever the configuration says, validating it, reading a text that says the same
and building a stage from it without another strategy succeed together or meet the same fault. A stage that
is built has room for an entry, and a positive timeout if its strategy retries. With a strategy of its own
a builder is indifferent to the policy of the configuration. -/
theorem checks_agree (c : Config) : c.ChecksAgree where
  built b now same described := same ▸ b.build_map_unit_eq_validate described
  read text parsed := by
    rw [ofText, parsed]
    dsimp only
    cases c.validate <;> rfl
  bounded b now s same ok := by
    obtain ⟨retry, strategy, room, bounded, rfl⟩ := Builder.build_eq_ok_iff.1 ok
    subst same
    refine ⟨room, fun own custom => ?_, fun enabled => ?_⟩
    · rw [Builder.retryStrategy, custom] at strategy
      exact (Except.ok.inj strategy).symm
    · obtain ⟨d, effective⟩ := Option.isSome_iff_exists.1 (bounded enabled)
      exact ⟨d, effective, effective, effectiveTimeout_pos effective⟩
  own b now strategy policy same custom := same ▸ b.build_with_retry custom policy

/-- There is no room in the queue, and the delays would grow by what is not a number. -/
def twoFaults : Config where
  capacity := 0
  timeout := some (.ofMillis 1000)
  retry := .exponentialBackoff none (.ofMillis 1) (.ofMillis 10) (0.0 / 0.0) {}

/-- The same with room. -/
def oneFault : Config := { twoFaults with capacity := 1 }

/-- Every outcome is followed by another attempt. -/
def insistent : RetryStrategy := ⟨true, fun _ _ => true, fun _ => .zero⟩

/-- The lack of room is met before the bad factor, and the bad factor when there is room, but not when the
strategy is another one. A text without room is refused. -/
theorem checks_agree_twoFaults :
    ({ config := twoFaults, function := fun _ => [] : Builder }.build .epoch).map (fun _ => ()) =
      .error (.zeroCapacity "async_wait") ∧
    ({ config := oneFault, function := fun _ => [] : Builder }.build .epoch).map (fun _ => ()) =
      .error (.multiplierTooSmall (0.0 / 0.0)) ∧
    (∃ s, { config := oneFault, strategy := some insistent, function := fun _ => [] : Builder }.build .epoch = .ok s ∧
      1 ≤ s.queue.capacity ∧ s.setup.retry = insistent ∧ ∃ d, s.setup.timeout = some d ∧ 0 < d.nanos) ∧
    ofText ({ capacity := 0 } : Config).text = .error (.zeroCapacity "async_wait") := by
  refine ⟨(twoFaults.checks_agree.built _ _ rfl rfl).trans rfl, (oneFault.checks_agree.built _ _ rfl rfl).trans rfl,
    ?_, (checks_agree _).read _ (parse?_text rfl)⟩
  have built : { config := oneFault, strategy := some insistent, function := fun _ => [] : Builder }.build .epoch =
    .ok (Stage.start _ insistent .epoch) := rfl
  obtain ⟨room, own, bounded⟩ := oneFault.checks_agree.bounded _ _ _ rfl built
  obtain ⟨d, -, set, positive⟩ := bounded rfl
  exact ⟨_, built, room, own insistent rfl, d, set, positive⟩

end Config

end AsyncStage
