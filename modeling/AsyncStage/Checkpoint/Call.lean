import AsyncStage.Checkpoint.Store

/-!
# Calls to a store

A session with a store is a list of calls, each of which is answered and may change what
the store keeps.
-/

namespace AsyncStage

open Snapshot (Bytes)

/-- A call to a store. -/
inductive StoreCall where
  | write (step : String) (id : CheckpointId) (state : Bytes)
  | latest (step : String)
  | discardBefore (step : String) (id : CheckpointId)
  | count (step : String)
  /-- Closes the store and opens it again; what it keeps outlives that. -/
  | reopen

inductive StoreAnswer where
  | done
  | found (snapshot : Option (CheckpointId × Bytes))
  | number (n : Option Nat)
  | failed (error : RecoveryError)

namespace Store

/-- Makes one call. A call that fails leaves the store as it was. -/
def perform (s : Store) : StoreCall → StoreAnswer × Store
  | .write step id state =>
    match s.write step id state with
    | .ok s => (.done, s)
    | .error e => (.failed e, s)
  | .latest step => (.found (s.latest? step), s)
  | .discardBefore step id =>
    match s.discardBefore step id with
    | .ok (n, s) => (.number (some n), s)
    | .error e => (.failed e, s)
  | .count step => (.number (s.count? step), s)
  | .reopen => (.done, s)

/-- Makes several calls, one after the other. -/
def performAll (s : Store) : List StoreCall → List StoreAnswer
  | [] => []
  | call :: calls =>
    let (answer, s) := s.perform call
    answer :: s.performAll calls

end Store

end AsyncStage
