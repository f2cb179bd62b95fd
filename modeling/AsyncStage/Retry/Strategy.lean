import AsyncStage.Decimal.Shortest
import AsyncStage.Outcome
import AsyncStage.Time.Duration

/-!
# Retry strategies

A strategy decides from an attempt's number and outcome whether another attempt follows,
and how long to wait before it. Attempts are numbered from one. The two built-in ways to
wait are a fixed delay and a delay that grows by a factor up to a limit.
-/

namespace AsyncStage

/-- Which outcomes are worth another attempt. -/
inductive RetryPredicate where
  | emptyResult
  | error
  | emptyResultOrError
  | custom (accepts : Outcome → Bool)

namespace RetryPredicate

def accepts : RetryPredicate → Outcome → Bool
  | .emptyResult, outcome => outcome.isEmptyResult
  | .error, outcome => outcome.isFailure
  | .emptyResultOrError, outcome => outcome.isEmptyResult || outcome.isFailure
  | .custom accepts, outcome => accepts outcome

def name : RetryPredicate → String
  | .emptyResult => "EmptyResult"
  | .error => "Error"
  | .emptyResultOrError => "EmptyResultOrError"
  | .custom _ => "Custom(..)"

/-- Accepts values among which is this one. -/
def hasValue (value : String) : RetryPredicate :=
  .custom fun
    | .values values => values.contains value
    | .failure _ => false

/-- Whether one text occurs in another. -/
def occursIn (part : List Char) : List Char → Bool
  | [] => part.isEmpty
  | c :: cs => part.isPrefixOf (c :: cs) || occursIn part cs

/-- Accepts failures whose reason contains this text. -/
def reasonContains (part : String) : RetryPredicate :=
  .custom fun
    | .values _ => false
    | .failure e => occursIn part.toList e.reason.toList

end RetryPredicate

/-- How a stage retries. A strategy that is not enabled never retries. -/
structure RetryStrategy where
  enabled : Bool
  shouldRetry : (attempt : Nat) → Outcome → Bool
  backoffBefore : (attempt : Nat) → Duration

/-- The number of retries allowed after the first attempt; `none` sets no limit. -/
abbrev RetryBudget := Option UInt32

/-- Whether the attempt of this number may be followed by another. -/
def RetryBudget.allows (budget : RetryBudget) (attempt : Nat) : Bool :=
  match budget with
  | none => true
  | some most => attempt ≤ most.toNat

namespace RetryStrategy

/-- Every first outcome is final. -/
def never : RetryStrategy where
  enabled := false
  shouldRetry _ _ := false
  backoffBefore _ := .zero

end RetryStrategy

/-- Waits the same time before every retry. -/
structure FixedDelay where
  budget : RetryBudget
  backoff : Duration
  predicate : RetryPredicate

namespace FixedDelay

def strategy (d : FixedDelay) : RetryStrategy where
  enabled := true
  shouldRetry attempt outcome := d.budget.allows attempt && d.predicate.accepts outcome
  backoffBefore _ := d.backoff

end FixedDelay

/-- Waits `initial` before the first retry, `multiplier` times as long before each further
one, and never longer than `longest`. -/
structure ExponentialBackoff where
  budget : RetryBudget
  initial : Duration
  longest : Duration
  multiplier : Float
  predicate : RetryPredicate

/-- The product of `acc` and `base` to the power `n`, by squaring. -/
def powerBySquaring (base acc : Float) (n : Nat) : Float :=
  let acc := if n % 2 = 1 then acc * base else acc
  if 2 ≤ n then powerBySquaring (base * base) acc (n / 2) else acc
termination_by n

/-- The whole number nearest to `n / d`, halves going to the even neighbour. -/
def divideToEven (n d : Nat) : Nat :=
  match compare (2 * (n % d)) d with
  | .lt => n / d
  | .gt => n / d + 1
  | .eq => if n / d % 2 = 0 then n / d else n / d + 1

/-- The duration of so many seconds to the nearest nanosecond; `none` for negative numbers,
numbers of at least 2^64 and what is not a number. -/
def Duration.ofSeconds? (seconds : Float) : Option Duration :=
  match Decimal.FloatParts.ofBits seconds.toBits.toNat with
  | .nan | .infinite _ | .finite true _ => none
  | .zero _ => some .zero
  | .finite false magnitude =>
    let (n, d) := Decimal.scaled magnitude.mantissa 2 magnitude.exponent
    if UInt64.size * d ≤ n then none else some ⟨divideToEven (n * nanosPerSecond) d⟩

namespace ExponentialBackoff

/-- The delay after the attempt of this number. -/
def delay (b : ExponentialBackoff) (attempt : Nat) : Duration :=
  let seconds := b.initial.toSeconds * powerBySquaring b.multiplier 1 (min (attempt - 1) (1 <<< 31 - 1))
  match Duration.ofSeconds? seconds with
  | some d => if d < b.longest then d else b.longest
  | none => b.longest

def strategy (b : ExponentialBackoff) : RetryStrategy where
  enabled := true
  shouldRetry attempt outcome := b.budget.allows attempt && b.predicate.accepts outcome
  backoffBefore := b.delay

end ExponentialBackoff

end AsyncStage
