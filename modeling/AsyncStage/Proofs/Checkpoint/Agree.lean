import AsyncStage.Checkpoint.Call
import AsyncStage.Proofs.Checkpoint.Table
import Mathlib.Algebra.Group.Nat.Defs

/-!
# Stores that agree

A session is answered as a table answers it: writing inserts or overwrites, reading finds the greatest
number of the step, discarding counts what it removes. A number that the store cannot hold
is refused, and the table stays as it was. The store in memory and the database differ in the
numbers that they can hold and in nothing else.
-/

namespace AsyncStage

open Snapshot (Bytes)

namespace StoreCall

/-- Whether the call is one of those that every store offers. -/
def isTabular : StoreCall → Bool
  | .write _ _ _ => true
  | .latest _ => true
  | .discardBefore _ _ => true
  | .count _ => false
  | .reopen => false

/-- The checkpoint number that is handed to the store. -/
def number? : StoreCall → Option CheckpointId
  | .write _ id _ => some id
  | .latest _ => none
  | .discardBefore _ id => some id
  | .count _ => none
  | .reopen => none

/-- Whether a store with this limit can take the number of the call. -/
def fits (limit : CheckpointId → Bool) (call : StoreCall) : Bool := call.number?.all limit

end StoreCall

namespace SnapshotTable

/-- What a table answers to a call, and the table that this leaves. -/
inductive Answers (t : SnapshotTable) : StoreCall → StoreAnswer → SnapshotTable → Prop where
  | write {step : String} {id : CheckpointId} {state : Bytes} :
    Answers t (.write step id state) .done (t.put step id state)
  | latest {step : String} {found : Option (CheckpointId × Bytes)} (isLatest : t.IsLatest step found) :
    Answers t (.latest step) (.found found) t
  | discardBefore {step : String} {id : CheckpointId} :
    Answers t (.discardBefore step id) (.number (some (t.below step id))) (t.discard step id)

/-- The answers to calls made one after the other. A call whose number is beyond the limit fails and
leaves the table as it was. -/
inductive Session (limit : CheckpointId → Bool) : SnapshotTable → List StoreCall → List StoreAnswer → Prop where
  | nil {t : SnapshotTable} : Session limit t [] []
  | answered {t t' : SnapshotTable} {call : StoreCall} {answer : StoreAnswer} {calls : List StoreCall}
      {answers : List StoreAnswer} (fits : call.fits limit = true) (answered : t.Answers call answer t')
      (rest : Session limit t' calls answers) : Session limit t (call :: calls) (answer :: answers)
  | refused {t : SnapshotTable} {call : StoreCall} {calls : List StoreCall} {answers : List StoreAnswer}
      (beyond : call.fits limit = false) (rest : Session limit t calls answers) :
    Session limit t (call :: calls) (.failed .store :: answers)

variable {t t' t'' : SnapshotTable} {call : StoreCall} {answer answer' : StoreAnswer}

/-- A table answers a call in one way. -/
theorem Answers.unique (h : t.Answers call answer t') (h' : t.Answers call answer' t'') :
    answer = answer' ∧ t' = t'' := by
  cases h with
  | write =>
    cases h'
    exact ⟨rfl, rfl⟩
  | latest isLatest =>
    cases h' with
    | latest isLatest' => exact ⟨congrArg _ (isLatest.unique isLatest'), rfl⟩
  | discardBefore =>
    cases h'
    exact ⟨rfl, rfl⟩

/-- As long as no number is beyond the one limit or the other, the limits make no difference. -/
theorem Session.eq_of_fits {limit limit' : CheckpointId → Bool} {calls : List StoreCall}
    {answers answers' : List StoreAnswer} (h : Session limit t calls answers) (h' : Session limit' t calls answers')
    (fits : ∀ call ∈ calls, call.fits limit = true ∧ call.fits limit' = true) : answers = answers' := by
  induction h generalizing answers' with
  | nil =>
    cases h'
    rfl
  | answered _ answered _ ih =>
    obtain ⟨⟨-, here'⟩, fits⟩ := List.forall_mem_cons.1 fits
    cases h' with
    | answered _ answered' rest' =>
      obtain ⟨rfl, rfl⟩ := answered.unique answered'
      rw [ih rest' fits]
    | refused beyond' => exact absurd (here'.symm.trans beyond') (nomatch ·)
  | refused beyond =>
    obtain ⟨⟨here, -⟩, -⟩ := List.forall_mem_cons.1 fits
    exact absurd (here.symm.trans beyond) (nomatch ·)

end SnapshotTable

namespace Store

/-- What a store keeps. -/
def table : Store → SnapshotTable
  | .memory m => m.table
  | .database d => d.table
  | .nowhere => fun _ _ => none

/-- The numbers that a store can hold. -/
def canHold : Store → CheckpointId → Bool
  | .memory _ => fun _ => true
  | .database _ => DatabaseStore.canHold
  | .nowhere => fun _ => true

/-- The store keeps what is written to it, and a database one row for each step and number. -/
def Sound : Store → Prop
  | .memory _ => True
  | .database d => d.Keyed
  | .nowhere => False

/-- The store keeps this table and can hold numbers within this limit. -/
structure Keeps (s : Store) (limit : CheckpointId → Bool) (t : SnapshotTable) : Prop where
  sound : s.Sound
  limit : s.canHold = limit
  table : s.table = t

theorem Sound.keeps {s : Store} (h : s.Sound) : s.Keeps s.canHold s.table := ⟨h, rfl, rfl⟩

namespace Keeps

variable {s : Store} {limit : CheckpointId → Bool} {t : SnapshotTable} {id : CheckpointId}

theorem write (h : s.Keeps limit t) (fits : limit id = true) (step : String) (state : Bytes) :
    ∃ s', s.write step id state = .ok s' ∧ s'.Keeps limit (t.put step id state) := by
  obtain ⟨sound, rfl, rfl⟩ := h
  cases s with
  | memory m => exact ⟨_, rfl, trivial, rfl, m.table_write step id state⟩
  | database d =>
    obtain ⟨d', written, keyed, table⟩ := DatabaseStore.write_of_canHold fits step state sound
    exact ⟨.database d', congrArg (Except.map Store.database) written, keyed, rfl, table⟩
  | nowhere => exact sound.elim

theorem isLatest (h : s.Keeps limit t) (step : String) : t.IsLatest step (s.latest? step) := by
  obtain ⟨sound, -, rfl⟩ := h
  cases s with
  | memory m => exact m.isLatest step
  | database d => exact DatabaseStore.isLatest sound step
  | nowhere => exact sound.elim

theorem discardBefore (h : s.Keeps limit t) (fits : limit id = true) (step : String) :
    ∃ s', s.discardBefore step id = .ok (t.below step id, s') ∧ s'.Keeps limit (t.discard step id) := by
  obtain ⟨sound, rfl, rfl⟩ := h
  cases s with
  | memory m =>
    refine ⟨.memory (m.discardBefore step id).2, ?_, trivial, rfl, m.table_discardBefore step id⟩
    rw [Store.discardBefore, Store.table, ← m.number_discardBefore]
  | database d =>
    obtain ⟨d', discarded, keyed, table⟩ := DatabaseStore.discardBefore_of_canHold fits step sound
    refine ⟨.database d', ?_, keyed, rfl, table⟩
    rw [Store.discardBefore, discarded]
    rfl
  | nowhere => exact sound.elim

/-- Only a database has a limit. -/
theorem eq_database (h : s.Keeps limit t) (beyond : limit id = false) :
    ∃ d, s = .database d ∧ DatabaseStore.canHold id = false := by
  obtain ⟨sound, rfl, -⟩ := h
  cases s with
  | memory m => cases beyond
  | database d => exact ⟨d, rfl, beyond⟩
  | nowhere => exact sound.elim

/-- A number beyond the limit is refused. -/
theorem write_beyond (h : s.Keeps limit t) (beyond : limit id = false) (step : String) (state : Bytes) :
    s.write step id state = .error .store := by
  obtain ⟨d, rfl, tooLarge⟩ := h.eq_database beyond
  simp [Store.write, DatabaseStore.write, tooLarge, Except.map]

theorem discardBefore_beyond (h : s.Keeps limit t) (beyond : limit id = false) (step : String) :
    s.discardBefore step id = .error .store := by
  obtain ⟨d, rfl, tooLarge⟩ := h.eq_database beyond
  simp [Store.discardBefore, DatabaseStore.discardBefore, tooLarge, Except.map]

/-! ## Calls -/

/-- A call within the limit is answered as the table answers it. -/
theorem perform {call : StoreCall} (h : s.Keeps limit t) (tabular : call.isTabular = true)
    (fits : call.fits limit = true) :
    ∃ t', t.Answers call (s.perform call).1 t' ∧ (s.perform call).2.Keeps limit t' := by
  cases call with
  | write step id state =>
    obtain ⟨s', written, keeps⟩ := h.write fits step state
    rw [Store.perform, written]
    exact ⟨_, .write, keeps⟩
  | latest step => exact ⟨t, .latest (h.isLatest step), h⟩
  | discardBefore step id =>
    obtain ⟨s', discarded, keeps⟩ := h.discardBefore fits step
    rw [Store.perform, discarded]
    exact ⟨_, .discardBefore, keeps⟩
  | count => cases tabular
  | reopen => cases tabular

/-- A call beyond the limit fails and changes nothing. -/
theorem perform_beyond {call : StoreCall} (h : s.Keeps limit t) (beyond : call.fits limit = false) :
    s.perform call = (.failed .store, s) := by
  cases call with
  | write step id state => rw [Store.perform, h.write_beyond beyond]
  | discardBefore step id => rw [Store.perform, h.discardBefore_beyond beyond]
  | latest => cases beyond
  | count => cases beyond
  | reopen => cases beyond

theorem session {calls : List StoreCall} (h : s.Keeps limit t) (tabular : ∀ call ∈ calls, call.isTabular = true) :
    t.Session limit calls (s.performAll calls) := by
  induction calls generalizing s t with
  | nil => exact .nil
  | cons call calls ih =>
    obtain ⟨here, tabular⟩ := List.forall_mem_cons.1 tabular
    rw [performAll]
    cases fits : call.fits limit with
    | true =>
      obtain ⟨t', answered, keeps⟩ := h.perform here fits
      exact .answered fits answered (ih keeps tabular)
    | false =>
      rw [h.perform_beyond fits]
      exact .refused fits (ih h tabular)

end Keeps

/-- **The stores agree.** A session with an empty store in memory is answered as an empty table without a
limit answers it, and one with an empty database as a table that cannot hold numbers from 2^63 on. So the
two give the same answers to all calls with smaller numbers. -/
theorem stores_agree {calls : List StoreCall} (tabular : ∀ call ∈ calls, call.isTabular = true) :
    SnapshotTable.Session (fun _ => true) (fun _ _ => none) calls ((Store.memory {}).performAll calls) ∧
      SnapshotTable.Session (fun id => decide (id < 2 ^ 63)) (fun _ _ => none) calls
        ((Store.database {}).performAll calls) ∧
      ((∀ call ∈ calls, call.fits (fun id => decide (id < 2 ^ 63)) = true) →
        (Store.memory {}).performAll calls = (Store.database {}).performAll calls) := by
  have memory : (Store.memory {}).Keeps (fun _ => true) fun _ _ => none := ⟨trivial, rfl, rfl⟩
  have database : (Store.database {}).Keeps (fun id => decide (id < 2 ^ 63)) fun _ _ => none :=
    ⟨List.nodup_nil, rfl, rfl⟩
  refine ⟨memory.session tabular, database.session tabular, fun fits => ?_⟩
  refine (memory.session tabular).eq_of_fits (database.session tabular) fun call here => ⟨?_, fits call here⟩
  simp [StoreCall.fits]

/-- Numbers that do not grow, an overwritten snapshot and one without bytes. -/
def outOfOrder : List StoreCall :=
  [.write "a" 5 [1], .write "b" 1 [], .write "a" 2 [2], .write "a" 5 [3], .latest "a", .discardBefore "a" 5,
   .discardBefore "b" 9, .latest "b"]

/-- A write at 2^63 fails, and what follows it is answered as if it had not been made. -/
theorem stores_agree_outOfOrder :
    (Store.memory {}).performAll outOfOrder = (Store.database {}).performAll outOfOrder ∧
      (Store.database {}).performAll outOfOrder =
        [.done, .done, .done, .done, .found (some (5, [3])), .number (some 1), .number (some 1), .found none] ∧
      SnapshotTable.Session (fun id => decide (id < 2 ^ 63)) (fun _ _ => none)
        (.write "a" (2 ^ 63) [4] :: outOfOrder) (.failed .store :: (Store.database {}).performAll outOfOrder) := by
  have beyond : ∀ call ∈ .write "a" (2 ^ 63) [4] :: outOfOrder, call.isTabular = true := by decide
  refine ⟨(stores_agree ?_).2.2 ?_, rfl, (stores_agree beyond).2.1⟩
  · decide
  · decide

end Store

end AsyncStage
