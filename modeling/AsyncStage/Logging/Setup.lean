import AsyncStage.Error
import AsyncStage.Json.Fields
import AsyncStage.Json.Printer
import AsyncStage.Json.Reader
import AsyncStage.Logging.Directive
import AsyncStage.Text.Lowercase

/-!
# Setting up logging

The level comes from the configuration and has to be one of five names in any case. The
environment may give filter directives instead; they are looked at only after the level.
-/

namespace AsyncStage.Logging

/-- How much is logged. -/
inductive Level where
  | trace
  | debug
  | info
  | warn
  | error
deriving DecidableEq, Repr

structure LogConfig where
  level : Option String := none
deriving DecidableEq

namespace Level

def ofName? : String → Option Level
  | "trace" => some .trace
  | "debug" => some .debug
  | "info" => some .info
  | "warn" => some .warn
  | "error" => some .error
  | _ => none

end Level

namespace LogConfig

/-- The level of a configuration; without one, only errors are logged. -/
def chosenLevel (c : LogConfig) : Except ConfigError Level :=
  match c.level with
  | none => .ok .error
  | some name =>
    let name := Text.lower name
    match Level.ofName? name with
    | some level => .ok level
    | none => .error (.unknownLevel name)

/-- Checks the level, then the directives of the environment, if there are any. -/
def check (c : LogConfig) (directives : Option String) : Except ConfigError Level := do
  let level ← c.chosenLevel
  match directives with
  | none => pure level
  | some s => if areDirectives s then pure level else .error .badDirectives

def ofJson? (j : Json) : Option LogConfig := do
  match ← Json.record? ["log_level"] j with
  | [level] => pure { level := ← level.withDefault none (Json.nullable Json.asText?) }
  | _ => none

def toJson (c : LogConfig) : Json :=
  .fields [("log_level", Json.orNull (c.level.map Json.text))]

def parse? (s : String) : Option LogConfig := (Json.parse? s).bind ofJson?

def text (c : LogConfig) : String := c.toJson.render

end LogConfig

end AsyncStage.Logging
