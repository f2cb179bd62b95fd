import AsyncStage.Config

/-!
# Valid configurations

A configuration is valid if its queue has room, its policy has no fault, and a policy that retries comes
with a timeout. The strategy that a policy describes exists exactly if the policy has no fault.
-/

namespace AsyncStage

/-- A description makes a strategy exactly if it is valid, and says rightly whether that one is enabled. -/
theorem RetryPolicy.strategy_map_enabled (policy : RetryPolicy) :
    policy.strategy.map RetryStrategy.enabled = policy.validate.map fun _ => policy.isEnabled := by
  unfold strategy
  cases policy with
  | noRetry => rfl
  | fixedDelay budget backoff on =>
    simp only [validate, isEnabled]
    cases on.predicate <;> rfl
  | exponentialBackoff budget initial longest multiplier on =>
    simp only [validate, isEnabled]
    split
    · rfl
    split
    · rfl
    cases on.predicate <;> rfl

namespace Config

variable {c : Config}

theorem checkCapacity_eq_ok_iff : c.checkCapacity = .ok () ↔ 0 < c.capacity.toNat := by
  have zero : c.capacity = 0 ↔ c.capacity.toNat = 0 := UInt64.toNat_inj.symm
  unfold checkCapacity
  split <;> simp_all [Nat.pos_iff_ne_zero]

theorem checkRetryTimeout_eq_ok_iff {stepId : String} {enabled : Bool} {timeout : Option Duration} :
    checkRetryTimeout stepId enabled timeout = .ok () ↔ (enabled = true → timeout.isSome = true) := by
  unfold checkRetryTimeout
  cases enabled <;> cases timeout <;> simp

/-- With room and a policy without faults, only the need for a timeout is left to check. -/
theorem validate_eq_checkRetryTimeout (room : c.checkCapacity = .ok ()) (policy : c.retry.validate = .ok ()) :
    c.validate = checkRetryTimeout c.stepId c.retry.isEnabled c.effectiveTimeout := by
  rw [validate, room, policy]
  rfl

theorem validate_eq_ok_iff : c.validate = .ok () ↔ c.checkCapacity = .ok () ∧ c.retry.validate = .ok () ∧
    (c.retry.isEnabled = true → c.effectiveTimeout.isSome = true) := by
  rw [← @checkRetryTimeout_eq_ok_iff c.stepId]
  cases room : c.checkCapacity with
  | error e => simp [validate, room, bind, Except.bind]
  | ok _ =>
    cases policy : c.retry.validate with
    | error e => simp [validate, room, policy, bind, Except.bind]
    | ok _ => simp [validate_eq_checkRetryTimeout room policy]

/-- A timeout that is in effect is positive. -/
theorem effectiveTimeout_pos {d : Duration} (effective : c.effectiveTimeout = some d) : 0 < d.nanos := by
  obtain ⟨-, positive⟩ := Option.filter_eq_some_iff.1 effective
  simpa [Duration.isZero, Nat.pos_iff_ne_zero] using positive

end Config

end AsyncStage
