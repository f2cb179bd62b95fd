import AsyncStage.Error
import AsyncStage.Retry.Strategy

/-!
# Retry policies

A `RetryPolicy` is the part of a configuration that describes a retry strategy.
`validate` says what is wrong with a policy and `strategy` builds what it describes.
-/

namespace AsyncStage

/-- Which outcomes a configured policy retries on. -/
structure RetryOn where
  emptyResult : Bool := false
  error : Bool := true
deriving DecidableEq, Repr

/-- The description of a retry strategy. -/
inductive RetryPolicy where
  | noRetry
  | fixedDelay (budget : RetryBudget) (backoff : Duration) (retryOn : RetryOn)
  | exponentialBackoff (budget : RetryBudget) (initial longest : Duration) (multiplier : Float)
      (retryOn : RetryOn)
deriving BEq

namespace RetryOn

/-- The predicate that a choice of outcomes stands for; choosing none is refused. -/
def predicate (on : RetryOn) : Except ConfigError RetryPredicate :=
  match on.emptyResult, on.error with
  | true, true => .ok .emptyResultOrError
  | true, false => .ok .emptyResult
  | false, true => .ok .error
  | false, false => .error .nothingToRetryOn

end RetryOn

namespace RetryPolicy

def isEnabled : RetryPolicy → Bool
  | .noRetry => false
  | .fixedDelay .. => true
  | .exponentialBackoff .. => true

/-- Checks the numbers of a policy, then the outcomes it retries on. -/
def validate : RetryPolicy → Except ConfigError Unit
  | .noRetry => .ok ()
  | .fixedDelay _ _ on => on.predicate.map fun _ => ()
  | .exponentialBackoff _ initial longest multiplier on =>
    if !multiplier.isFinite || multiplier < 1.0 then .error (.multiplierTooSmall multiplier)
    else if longest < initial then .error (.delaysInverted initial longest)
    else on.predicate.map fun _ => ()

/-- The strategy that a valid policy describes. -/
def strategy (policy : RetryPolicy) : Except ConfigError RetryStrategy := do
  policy.validate
  match policy with
  | .noRetry => pure .never
  | .fixedDelay budget backoff on =>
    pure (FixedDelay.strategy ⟨budget, backoff, ← on.predicate⟩)
  | .exponentialBackoff budget initial longest multiplier on =>
    pure (ExponentialBackoff.strategy ⟨budget, initial, longest, multiplier, ← on.predicate⟩)

end RetryPolicy

end AsyncStage
