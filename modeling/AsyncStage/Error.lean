import AsyncStage.Decimal.Text
import AsyncStage.Outcome
import AsyncStage.Text.Quoted
import AsyncStage.Time.Duration

/-!
# Errors

Each type names the causes of one kind of failure, and `message` gives the wording of each
cause. `StageError` is what the operations of a stage answer.
-/

namespace AsyncStage

/-- Why an entry got no result of its own. -/
inductive EntryError where
  | invocation (error : InvocationError)
  | timeout (elapsed : Duration) (attempts : Nat)
deriving DecidableEq, Repr

/-- An entry that failed in a stage without a fallback. -/
structure EntryFailure where
  stepId : String
  input : String
  cause : EntryError
deriving DecidableEq, Repr

/-- Why a configuration is refused. -/
inductive ConfigError where
  | zeroCapacity (stepId : String)
  | multiplierTooSmall (multiplier : Float)
  | delaysInverted (initial maximum : Duration)
  | nothingToRetryOn
  | unboundedRetry (stepId : String)
  | unreadable
  | unknownLevel (level : String)
  | badDirectives
  | because (reason : String)

/-- Why bytes are not a snapshot. -/
inductive DecodeError where
  | inputTooShort
  | invalidUtf8
  | invalidTag
  | invalidContent
deriving DecidableEq, Repr

/-- Why a snapshot could not be kept or brought back. -/
inductive RecoveryError where
  | store
  | decoding (error : DecodeError)
deriving DecidableEq, Repr

/-- What the operations of a stage answer when they fail. -/
inductive StageError where
  | configuration (error : ConfigError)
  | entryFailed (failure : EntryFailure)
  | closed (stepId : String)
  | cannotBlock
  | recovery (error : RecoveryError)

namespace EntryError

def message : EntryError → String
  | .invocation error => "async invocation failed: " ++ error.reason
  | .timeout elapsed attempts =>
    "async invocation timed out after " ++ elapsed.text ++ " and " ++ Text.natText attempts ++
      " attempt(s)"

def isTimeout : EntryError → Bool
  | .invocation _ => false
  | .timeout _ _ => true

end EntryError

namespace EntryFailure

def message (f : EntryFailure) : String :=
  "step " ++ f.stepId ++ " failed processing input " ++ Text.quoted f.input ++ ": " ++
    f.cause.message

end EntryFailure

namespace ConfigError

/-- The fault itself, without the words that introduce it. -/
def reason : ConfigError → String
  | .zeroCapacity stepId => "capacity of step " ++ stepId ++ " must be positive"
  | .multiplierTooSmall multiplier =>
    "exponential backoff multiplier must be at least 1.0; got " ++ Decimal.positional multiplier
  | .delaysInverted initial maximum =>
    "exponential backoff initial delay " ++ initial.text ++ " exceeds max delay " ++ maximum.text
  | .nothingToRetryOn => "retry_on must enable at least one of empty_result or error"
  | .unboundedRetry stepId =>
    "step " ++ stepId ++ " enables retry, which requires a positive timeout"
  | .unreadable => "unable to parse config"
  | .unknownLevel level => "Wrong log level: " ++ level
  | .badDirectives => "bad ASYNC_WAIT_LOG directives"
  | .because reason => reason

def message (e : ConfigError) : String := "invalid async wait configuration: " ++ e.reason

end ConfigError

namespace StageError

/-- The wording of an error, where it has one of its own. -/
def message? : StageError → Option String
  | .configuration error => some error.message
  | .entryFailed failure => some failure.message
  | .closed stepId => some ("step " ++ stepId ++ " is no longer running")
  | .cannotBlock =>
    some ("unable to block inside a current-thread tokio runtime; drive the stage from a " ++
      "multi-thread runtime or a plain thread")
  | .recovery _ => none

/-- The error of the entry behind a failure. -/
def entryError? : StageError → Option EntryError
  | .entryFailed failure => some failure.cause
  | _ => none

end StageError

end AsyncStage
