import AsyncStage.Config
import AsyncStage.Json.Fields
import AsyncStage.Json.Float
import AsyncStage.Json.Printer
import AsyncStage.Json.Reader

/-!
# Configurations as JSON

Durations are written as whole milliseconds. Every field of a configuration may be left out
when it is read; a retry policy is a choice tagged by `type`.
-/

namespace AsyncStage

open Json (Field)

namespace Duration

/-- Reads a duration in whole milliseconds. -/
def ofJson? (j : Json) : Option Duration := j.asNat64?.map ofMillis

def toJson (d : Duration) : Json := Json.nat d.wholeMillis

end Duration

namespace RetryOn

/-- Reads the chosen outcomes; what is not mentioned is not chosen. -/
def ofJson? (j : Json) : Option RetryOn := do
  match ← Json.record? ["empty_result", "error"] j with
  | [emptyResult, error] =>
    pure
      { emptyResult := ← emptyResult.withDefault false Json.asBool?
        error := ← error.withDefault false Json.asBool? }
  | _ => none

def toJson (on : RetryOn) : Json :=
  .fields [("empty_result", .bool on.emptyResult), ("error", .bool on.error)]

end RetryOn

namespace RetryPolicy

def readBudget (f : Field) : Option RetryBudget :=
  f.withDefault none (Json.nullable Json.asUInt32?)

def readRetryOn (f : Field) : Option RetryOn := f.withDefault {} RetryOn.ofJson?

/-- Reads the content of a policy whose tag has been read. -/
def ofTagged? (t : Json.Tagged) : Option RetryPolicy :=
  match t.tag with
  | "no_retry" =>
    match t.rest with
    | .array (_ :: _) => none
    | _ => some .noRetry
  | "fixed_delay" => do
    match ← Json.record? ["max_attempts", "backoff_ms", "retry_on"] t.rest with
    | [budget, backoff, on] =>
      pure (.fixedDelay (← readBudget budget) (← backoff.required Duration.ofJson?)
        (← readRetryOn on))
    | _ => none
  | "exponential_backoff" => do
    let names := ["max_attempts", "initial_delay_ms", "max_delay_ms", "multiplier", "retry_on"]
    match ← Json.record? names t.rest with
    | [budget, initial, longest, multiplier, on] =>
      pure (.exponentialBackoff (← readBudget budget) (← initial.required Duration.ofJson?)
        (← longest.required Duration.ofJson?) (← multiplier.required Json.asFloat?)
        (← readRetryOn on))
    | _ => none
  | _ => none

/-- Reads a policy inside a value of which so many levels may still be opened. -/
def ofJsonAt? (depth : Nat) (j : Json) : Option RetryPolicy :=
  (Json.tagged? "type" depth j).bind ofTagged?

/-- Reads a policy that is a value of its own. -/
def ofJson? (j : Json) : Option RetryPolicy := ofJsonAt? 128 j

def budgetJson (budget : RetryBudget) : Json :=
  Json.orNull (budget.map fun most => Json.nat most.toNat)

def toJson : RetryPolicy → Json
  | .noRetry => .fields [("type", "no_retry")]
  | .fixedDelay budget backoff on =>
    .fields
      [("type", "fixed_delay"), ("max_attempts", budgetJson budget),
        ("backoff_ms", backoff.toJson), ("retry_on", on.toJson)]
  | .exponentialBackoff budget initial longest multiplier on =>
    .fields
      [("type", "exponential_backoff"), ("max_attempts", budgetJson budget),
        ("initial_delay_ms", initial.toJson), ("max_delay_ms", longest.toJson),
        ("multiplier", .ofFloat multiplier), ("retry_on", on.toJson)]

end RetryPolicy

namespace OutputMode

def ofName? : String → Option OutputMode
  | "ordered" => some .ordered
  | "unordered" => some .unordered
  | _ => none

def name : OutputMode → String
  | .ordered => "ordered"
  | .unordered => "unordered"

/-- Reads a mode: its name, or an object with `null` under its name. -/
def ofJson? : Json → Option OutputMode
  | .string (some s) => ofName? s
  | .object [(some s, .null)] => ofName? s
  | _ => none

end OutputMode

namespace Config

/-- Reads a configuration, which may still be invalid. -/
def ofJson? (j : Json) : Option Config := do
  match ← Json.record? ["step_id", "mode", "capacity", "timeout_ms", "retry"] j with
  | [stepId, mode, capacity, timeout, retry] =>
    let default : Config := {}
    pure
      { stepId := ← stepId.withDefault default.stepId Json.asText?
        mode := ← mode.withDefault default.mode OutputMode.ofJson?
        capacity := ← (capacity.withDefault default.capacity fun j => j.asNat64?.map UInt64.ofNat)
        timeout := ← timeout.withDefault none (Json.nullable Duration.ofJson?)
        retry := ← retry.withDefault .noRetry (RetryPolicy.ofJsonAt? 127) }
  | _ => none

def toJson (c : Config) : Json :=
  .fields
    [("step_id", .text c.stepId), ("mode", .text c.mode.name), ("capacity", .nat c.capacity.toNat),
      ("timeout_ms", Json.orNull (c.timeout.map Duration.toJson)), ("retry", c.retry.toJson)]

/-- The compact text of a configuration. -/
def text (c : Config) : String := c.toJson.render

/-- Reads the text of a configuration, whether it is valid or not. -/
def parse? (s : String) : Option Config := (Json.parse? s).bind ofJson?

/-- Reads the text of a valid configuration. -/
def ofText (s : String) : Except ConfigError Config := do
  match parse? s with
  | none => .error .unreadable
  | some c =>
    c.validate
    pure c

end Config

end AsyncStage
