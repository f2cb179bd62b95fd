import AsyncStage.Error
import AsyncStage.Snapshot.Encoding
import AsyncStage.Table

/-!
# Checkpoint stores

A store keeps snapshots by step and checkpoint number. One kind keeps them in memory, one
in the rows of a database whose numbers end at 2^63 - 1, and one keeps nothing.
-/

namespace AsyncStage

open Snapshot (Bytes)

/-- Checkpoints are numbered by whoever takes them. -/
abbrev CheckpointId := Nat

/-- Snapshots in memory: for each step that has any, a table of its own. -/
structure MemoryStore where
  steps : Table String (Table CheckpointId Bytes) := .empty

namespace MemoryStore

def write (s : MemoryStore) (step : String) (id : CheckpointId) (state : Bytes) : MemoryStore :=
  ⟨s.steps.insert step (((s.steps.get? step).getD .empty).insert id state)⟩

/-- The snapshot with the greatest number. -/
def latest? (s : MemoryStore) (step : String) : Option (CheckpointId × Bytes) :=
  (s.steps.get? step).bind Table.last?

/-- Removes the snapshots with smaller numbers; the answer is how many there were. -/
def discardBefore (s : MemoryStore) (step : String) (id : CheckpointId) : Nat × MemoryStore :=
  match s.steps.get? step with
  | none => (0, s)
  | some snapshots =>
    let kept := snapshots.filterKeys fun n => id ≤ n
    (snapshots.size - kept.size,
      ⟨if kept.isEmpty then s.steps.erase step else s.steps.insert step kept⟩)

def count (s : MemoryStore) (step : String) : Nat := ((s.steps.get? step).map Table.size).getD 0

end MemoryStore

/-- A row of the database. -/
structure SnapshotRow where
  step : String
  id : CheckpointId
  state : Bytes
deriving DecidableEq

/-- Snapshots in a database table with at most one row for each step and number. -/
structure DatabaseStore where
  rows : List SnapshotRow := []

namespace DatabaseStore

/-- The numbers that the database can hold. -/
def canHold (id : CheckpointId) : Bool := id < 1 <<< 63

/-- Whether a row is the snapshot of this step with this number. -/
def isRow (step : String) (id : CheckpointId) (r : SnapshotRow) : Bool := r.step = step && r.id = id

/-- Inserts a row, or overwrites the one of the same step and number. -/
def write (s : DatabaseStore) (step : String) (id : CheckpointId) (state : Bytes) :
    Except RecoveryError DatabaseStore :=
  if canHold id then
    if s.rows.any (isRow step id) then
      .ok ⟨s.rows.map fun r => if isRow step id r then { r with state } else r⟩
    else
      .ok ⟨s.rows ++ [⟨step, id, state⟩]⟩
  else
    .error .store

/-- The row with the greater number. -/
def greater (best : Option SnapshotRow) (r : SnapshotRow) : Option SnapshotRow :=
  match best with
  | none => some r
  | some b => if b.id < r.id then some r else some b

/-- The snapshot with the greatest number. -/
def latest? (s : DatabaseStore) (step : String) : Option (CheckpointId × Bytes) :=
  ((s.rows.filter (·.step = step)).foldl greater none).map fun r => (r.id, r.state)

/-- Removes the rows with smaller numbers; the answer is how many there were. -/
def discardBefore (s : DatabaseStore) (step : String) (id : CheckpointId) :
    Except RecoveryError (Nat × DatabaseStore) :=
  if canHold id then
    let kept := s.rows.filter fun r => !(r.step = step && r.id < id)
    .ok (s.rows.length - kept.length, ⟨kept⟩)
  else
    .error .store

end DatabaseStore

/-- A place to keep snapshots. -/
inductive Store where
  | memory (store : MemoryStore)
  | database (store : DatabaseStore)
  /-- Keeps nothing. -/
  | nowhere

namespace Store

def write (s : Store) (step : String) (id : CheckpointId) (state : Bytes) :
    Except RecoveryError Store :=
  match s with
  | .memory m => .ok (.memory (m.write step id state))
  | .database d => (d.write step id state).map .database
  | .nowhere => .ok .nowhere

/-- The snapshot of a step with the greatest number. -/
def latest? (s : Store) (step : String) : Option (CheckpointId × Bytes) :=
  match s with
  | .memory m => m.latest? step
  | .database d => d.latest? step
  | .nowhere => none

/-- Removes the snapshots of a step with smaller numbers; the answer is how many there were. -/
def discardBefore (s : Store) (step : String) (id : CheckpointId) :
    Except RecoveryError (Nat × Store) :=
  match s with
  | .memory m =>
    let (n, m) := m.discardBefore step id
    .ok (n, .memory m)
  | .database d => (d.discardBefore step id).map fun (n, d) => (n, .database d)
  | .nowhere => .ok (0, .nowhere)

/-- The number of snapshots of a step, where it can be told. -/
def count? (s : Store) (step : String) : Option Nat :=
  match s with
  | .memory m => some (m.count step)
  | .database _ => none
  | .nowhere => none

end Store

end AsyncStage
