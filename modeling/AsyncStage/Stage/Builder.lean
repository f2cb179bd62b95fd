import AsyncStage.Snapshot.Encoding
import AsyncStage.Stage.Operations

/-!
# Building and restoring stages

A stage starts empty, or from the bytes of a snapshot, whose elements are admitted again one
after the other: every record is attempted anew.
-/

namespace AsyncStage

open Snapshot (Bytes)

/-- Everything that a stage is built from. -/
structure Builder where
  config : Config := {}
  /-- Takes the place of the strategy that the configuration describes. -/
  strategy : Option RetryStrategy := none
  fallback : Option (String → EntryError → List String) := none
  listening : Bool := false
  /-- The mailbox that is opened for the stage. -/
  mailbox : MailboxId := 0
  function : Invocation → List Completion

/-- What came of restoring a stage. -/
inductive Restoration where
  /-- No stage was built. -/
  | refused (error : StageError)
  /-- A stage was built; admitting the elements of the snapshot was answered so. -/
  | built (stage : Stage) (reply : Reply Unit)

namespace Builder

/-- The strategy in use. -/
def retryStrategy (b : Builder) : Except ConfigError RetryStrategy :=
  match b.strategy with
  | some strategy => .ok strategy
  | none => b.config.retry.strategy

/-- An empty stage, unless the configuration is invalid. -/
def build (b : Builder) (now : Instant) : Except ConfigError Stage := do
  b.config.checkCapacity
  let retry ← b.retryStrategy
  let timeout := b.config.effectiveTimeout
  Config.checkRetryTimeout b.config.stepId retry.enabled timeout
  pure
    { setup :=
        { stepId := b.config.stepId
          mailbox := b.mailbox
          retry := retry
          timeout := timeout
          fallback := b.fallback
          listening := b.listening
          function := b.function }
      now := now
      queue := Queue.empty b.config.mode b.config.capacity.toNat }

end Builder

namespace Stage

/-- Admits an element again, waiting while the queue is full. -/
def putElement (s : Stage) (e : Element) (i : Interference) : Stage × Reply Unit :=
  match e with
  | .record r => s.put r i
  | .watermark t => s.putWatermark t i

/-- Admits elements again in order; each comes with what happens around its admission. -/
def putAll (s : Stage) : List (Element × Interference) → Stage × Reply Unit
  | [] => (s, .done ())
  | (e, i) :: rest =>
    match s.putElement e i with
    | (s, .done ()) => s.putAll rest
    | answer => answer

end Stage

namespace Builder

/-- A stage that starts from a snapshot. The bytes are read before the configuration is
looked at. `around` tells what happens around the admission of each element. -/
def restore (b : Builder) (now : Instant) (state : Bytes) (around : Nat → Interference) :
    Restoration :=
  match Snapshot.decode state with
  | .error e => .refused (.recovery (.decoding e))
  | .ok elements =>
    match b.build now with
    | .error e => .refused (.configuration e)
    | .ok s =>
      let (s, reply) := s.putAll (elements.zipIdx.map fun (e, n) => (e, around n))
      .built s reply

end Builder

end AsyncStage
