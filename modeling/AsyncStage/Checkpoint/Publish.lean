import AsyncStage.Checkpoint.Store
import AsyncStage.Stage.Builder

/-!
# Checkpoints of a stage

A checkpoint runs a turn, writes a snapshot of the elements in flight to a store and removes
the older snapshots of the step. A stage can be restored from the newest one.
-/

namespace AsyncStage

open Snapshot (Bytes)

namespace Stage

/-- The bytes of the elements in flight; taking them is timed. -/
def snapshot (s : Stage) : Stage × Bytes :=
  (s.measure .snapshotTimed, Snapshot.encode s.pendingElements)

/-- Writes a snapshot under a number and removes the step's snapshots with smaller ones. -/
def publish (stepId : String) (id : CheckpointId) (state : Bytes) (store : Store) :
    Store × Except RecoveryError Unit :=
  match store.write stepId id state with
  | .error e => (store, .error e)
  | .ok store =>
    match store.discardBefore stepId id with
    | .error e => (store, .error e)
    | .ok (_, store) => (store, .ok ())

/-- Emits what may leave, then publishes a snapshot of what stays. -/
def checkpoint (s : Stage) (id : CheckpointId) (store : Store) :
    Stage × Store × Except StageError Unit :=
  match s.poll with
  | (s, .error e) => (s, store, .error e)
  | (s, .ok ()) =>
    let (s, state) := s.snapshot
    match publish s.stepId id state store with
    | (store, .error e) => (s, store, .error (.recovery e))
    | (store, .ok ()) => (s, store, .ok ())

end Stage

namespace Builder

/-- A stage that starts from the newest snapshot of its step in a store, or empty without
one. -/
def restoreFrom (b : Builder) (now : Instant) (store : Store) (around : Nat → Interference) :
    Restoration :=
  match store.latest? b.config.stepId with
  | some (_, state) => b.restore now state around
  | none =>
    match b.build now with
    | .error e => .refused (.configuration e)
    | .ok s => .built s (.done ())

end Builder

end AsyncStage
