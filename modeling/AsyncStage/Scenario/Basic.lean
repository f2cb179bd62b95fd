import AsyncStage.Checkpoint.Call
import AsyncStage.Stage.Builder

/-!
# Scenarios

A scenario drives one stage after another, step by step. Its function answers some attempts
by a script and holds the others until a step of the scenario completes them. The clock
moves only by steps.
-/

namespace AsyncStage.Scenario

open Snapshot (Bytes)

/-- When an attempt's outcome reaches the mailbox. -/
inductive FunctionKind where
  /-- As soon as it is known, be it before the call of the function returns. -/
  | immediate
  /-- At the end of the step in which it becomes known, unless the attempt was cancelled. -/
  | deferred
deriving DecidableEq

/-- What takes the place of a failed entry's output. -/
inductive FallbackKind where
  /-- The input behind a mark, and the text of the error. -/
  | describe
  | nothing
deriving DecidableEq

namespace FallbackKind

def output : FallbackKind → String → EntryError → List String
  | .describe, input, error => ["fb:" ++ input, error.message]
  | .nothing, _, _ => []

end FallbackKind

/-- The attempts that are answered without being held. -/
structure Script where
  /-- For some values, the outcomes of the attempts from the first on. -/
  outcomes : List (String × Array (Option Outcome)) := []
  /-- Whether other values are answered by themselves. -/
  echoes : Bool := false

namespace Script

/-- The scripted outcome of an attempt, counted from one, for a value. -/
def outcome? (s : Script) (value : String) (attempt : Nat) : Option Outcome :=
  match s.outcomes.lookup value with
  | some outcomes => if attempt = 0 then none else (outcomes[attempt - 1]?).join
  | none => if s.echoes then some (.values [value]) else none

end Script

/-- How a step picks a held call: by its value, and by its attempt if that is given. -/
structure CallPattern where
  value : String
  attempt : Option Nat := none

/-- What another thread does while a step blocks. -/
inductive Action where
  | complete (call : CallPattern) (outcome : Outcome)
  | advance (nanos : Int)

/-- On what kind of thread a step that can block is made, and what happens meanwhile. -/
structure Blocking where
  /-- Whether the thread may block; a step with actions may unless it says otherwise. -/
  allowed : Bool := false
  actions : List Action := []

/-- A configuration, or `none` if it could not be read. -/
abbrev GivenConfig := Option Config

inductive Step where
  | offer (record : Record)
  | put (record : Record) (blocking : Blocking)
  | watermark (time : Timestamp) (blocking : Blocking)
  | finish (blocking : Blocking)
  | status (status : StreamStatus)
  | poll
  | close
  | drop
  | intoOutput
  | takeOutput
  | advance (nanos : Int)
  | setClock (time : Instant)
  | complete (call : CallPattern) (outcome : Outcome)
  | abandon (call : CallPattern)
  | calls
  | inspect
  | pendingElements
  | snapshot
  | checkpoint (id : CheckpointId) (store : String)
  | store (name : String) (call : StoreCall)
  /-- Without a state, the last snapshot; without a configuration, the first one. -/
  | restore (state : Option Bytes) (config : Option GivenConfig) (blocking : Blocking)
  | restoreFrom (store : String) (config : Option GivenConfig) (blocking : Blocking)
  | metrics
  | unknown

end Scenario

/-- Stages driven step by step. -/
structure Scenario where
  config : Scenario.GivenConfig
  start : Instant
  strategy : Option RetryStrategy := none
  fallback : Option Scenario.FallbackKind := none
  listening : Bool := false
  function : Scenario.FunctionKind := .immediate
  script : Scenario.Script := {}
  stores : Table String Store := .empty
  steps : List Scenario.Step

namespace Scenario

/-- The function as a stage sees it: scripted outcomes are in the mailbox when it returns,
unless they are deferred. -/
def stageFunction (s : Scenario) (call : Invocation) : List Completion :=
  match s.function with
  | .deferred => []
  | .immediate =>
    match s.script.outcome? call.value call.attempt with
    | some outcome => [⟨call.entry, call.attempt, outcome⟩]
    | none => []

/-- What a stage of the scenario is built from, with this mailbox. -/
def builder (s : Scenario) (mailbox : MailboxId) (config : Config) : Builder where
  config := config
  strategy := s.strategy
  fallback := s.fallback.map FallbackKind.output
  listening := s.listening
  mailbox := mailbox
  function := s.stageFunction

end Scenario

end AsyncStage
