import AsyncStage.Scenario.Basic

/-!
# What a scenario reports

Every step is answered, and beside the answer the report tells how the stage stands and
what is new since the step before.
-/

namespace AsyncStage.Scenario

open Snapshot (Bytes)

/-- A held call as it is shown. -/
structure CallView where
  value : String
  label : Nat
  entry : EntryId
  attempt : Nat
  cancelled : Bool

/-- A stage as it is shown. -/
structure Inspection where
  stepId : String
  capacity : Nat
  isEmpty : Bool
  outputSize : Nat
  entries : List Entry

inductive Answer where
  | done
  | accepted
  | full (record : Record)
  | failed (error : StageError)
  /-- The call would never return. -/
  | blocked
  | noStage
  | noCall
  | outOfTime
  | unreadableConfig
  | unknownStep
  | elements (elements : List Element)
  | bytes (bytes : Bytes)
  | calls (calls : List CallView)
  | inspection (inspection : Inspection)
  | stored (answer : StoreAnswer)
  | metrics (metrics : Metrics)

/-- How the stage stands after a step. -/
structure Standing where
  isRunning : Bool
  entries : List Entry

/-- The label of a call: its value and the number of its attempt. -/
def label (value : String) (attempt : Nat) : String := value ++ "#" ++ Text.natText attempt

/-- How a call that has not been completed describes itself. -/
def CallView.description (c : CallView) : String :=
  "ResultFuture \x7b entry: " ++ Text.natText c.entry ++ ", attempt: " ++ Text.natText c.attempt ++
    ", cancelled: " ++ (if c.cancelled then "true" else "false") ++ " \x7d"

structure StepReport where
  answer : Answer
  standing : Option Standing := none
  elements : List Element := []
  statuses : List StreamStatus := []
  invocations : List String := []
  cancelled : List String := []
  notices : List FallbackNotice := []

/-- The report of a whole scenario: how the first stage was built, the steps, the metrics. -/
structure Report where
  build : Answer
  steps : List StepReport
  metrics : Metrics

end AsyncStage.Scenario
