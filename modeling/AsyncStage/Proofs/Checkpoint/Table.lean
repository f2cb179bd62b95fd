import AsyncStage.Checkpoint.Store
import AsyncStage.Proofs.Table
import Mathlib.Data.List.NodupEquivFin
import Mathlib.Data.List.Range

/-!
# Stores as tables

What a store keeps is a table from steps and checkpoint numbers to bytes. The nested tables in
memory and the rows of the database are two ways to hold one, and each of their operations
is described by what it does to the table.
-/

namespace AsyncStage

open Snapshot (Bytes)

/-- The snapshot of each step and number, where there is one. -/
abbrev SnapshotTable := String → CheckpointId → Option Bytes

namespace SnapshotTable

/-- The table with a snapshot in place of any of the same step and number. -/
def put (t : SnapshotTable) (step : String) (id : CheckpointId) (state : Bytes) : SnapshotTable :=
  fun step' id' => if step' = step ∧ id' = id then some state else t step' id'

/-- The table without the snapshots of a step that have smaller numbers. -/
def discard (t : SnapshotTable) (step : String) (id : CheckpointId) : SnapshotTable :=
  fun step' id' => if step' = step ∧ id' < id then none else t step' id'

/-- How many snapshots of a step have smaller numbers. -/
def below (t : SnapshotTable) (step : String) (id : CheckpointId) : Nat :=
  ((List.range id).filter fun id' => (t step id').isSome).length

/-- The snapshot of a step with the greatest number, or that there is none. -/
def IsLatest (t : SnapshotTable) (step : String) : Option (CheckpointId × Bytes) → Prop
  | none => ∀ id, t step id = none
  | some (id, state) => t step id = some state ∧ ∀ later, id < later → t step later = none

variable {t : SnapshotTable} {step : String} {id : CheckpointId}

/-- There is at most one latest snapshot. -/
theorem IsLatest.unique {a b : Option (CheckpointId × Bytes)} (ha : t.IsLatest step a) (hb : t.IsLatest step b) :
    a = b := by
  match a, b with
  | none, none => rfl
  | none, some (id, state) => exact absurd ((ha id).symm.trans hb.1) (nomatch ·)
  | some (id, state), none => exact absurd ((hb id).symm.trans ha.1) (nomatch ·)
  | some (id, state), some (id', state') =>
    obtain ⟨here, last⟩ := ha
    obtain ⟨here', last'⟩ := hb
    rcases Nat.lt_trichotomy id id' with lt | rfl | gt
    · exact absurd ((last id' lt).symm.trans here') (nomatch ·)
    · rw [Option.some.inj (here.symm.trans here')]
    · exact absurd ((last' id gt).symm.trans here) (nomatch ·)

/-- Numbers that are listed once each are counted by the length of their list. -/
theorem below_eq_length {l : List CheckpointId} (nodup : l.Nodup)
    (listed : ∀ id', id' ∈ l ↔ id' < id ∧ (t step id').isSome) : t.below step id = l.length := by
  refine List.Perm.length_eq ((List.perm_ext_iff_of_nodup (List.nodup_range.filter _) nodup).2 fun id' => ?_)
  rw [List.mem_filter, List.mem_range, listed]

end SnapshotTable

namespace MemoryStore

/-- What the store keeps. -/
def table (m : MemoryStore) : SnapshotTable := fun step id => (m.steps.get? step).bind (·.get? id)

variable (m : MemoryStore) (step : String) (id : CheckpointId)

section Known

variable {m step} {snapshots : Table CheckpointId Bytes}

theorem table_of_known (known : m.steps.get? step = some snapshots) (id : CheckpointId) :
    m.table step id = snapshots.get? id := by
  rw [table, known, Option.bind_some]

/-- Discarding leaves the larger numbers of the step, and no table for a step without any. -/
theorem get?_discardBefore (known : m.steps.get? step = some snapshots) (id : CheckpointId) (step' : String)
    (id' : CheckpointId) :
    (m.discardBefore step id).2.table step' id' =
      if step' = step then (snapshots.filterKeys fun n => id ≤ n).get? id' else m.table step' id' := by
  simp only [discardBefore, known, table]
  by_cases empty : (snapshots.filterKeys fun n => id ≤ n).isEmpty = true
  · have none' : (snapshots.filterKeys fun n => id ≤ n).get? id' = none := by
      rw [Table.isEmpty_iff] at empty
      simp [Table.get?, empty]
    rw [if_pos empty, Table.get?_erase, none']
    split <;> rfl
  · rw [if_neg empty, Table.get?_insert]
    split <;> rfl

end Known

theorem table_write (state : Bytes) : (m.write step id state).table = m.table.put step id state := by
  funext step' id'
  rw [table, write, Table.get?_insert, SnapshotTable.put]
  by_cases same : step' = step
  · simp only [same, if_true, true_and, Option.bind_some, Table.get?_insert, table]
    cases m.steps.get? step with
    | none => rfl
    | some snapshots => rfl
  · simp [same, table]

theorem isLatest : m.table.IsLatest step (m.latest? step) := by
  rw [latest?]
  cases known : m.steps.get? step with
  | none => exact fun id => by simp [table, known]
  | some snapshots =>
    have inside := table_of_known known
    rw [Option.bind_some]
    cases last : snapshots.last? with
    | none =>
      have empty : snapshots.toList = [] := List.getLast?_eq_none_iff.1 last
      exact fun id => (inside id).trans (by simp [Table.get?, empty])
    | some p =>
      obtain ⟨listed, greatest⟩ := Table.last?_eq_some last
      refine ⟨(inside _).trans (Table.get?_eq_some_iff.2 listed), fun later lt => ?_⟩
      rw [inside, Table.get?_eq_none_iff]
      intro state here
      rcases greatest _ here with rfl | less
      · exact Nat.lt_irrefl _ lt
      · exact Nat.lt_asymm lt (Nat.compare_eq_lt.1 less)

theorem table_discardBefore : (m.discardBefore step id).2.table = m.table.discard step id := by
  funext step' id'
  rw [SnapshotTable.discard]
  cases known : m.steps.get? step with
  | none =>
    have same : (m.discardBefore step id).2 = m := by simp [discardBefore, known]
    rw [same]
    split
    next here => simp [table, here.1, known]
    next => rfl
  | some snapshots =>
    rw [get?_discardBefore known, Table.get?_filterKeys]
    by_cases same : step' = step
    · have inside := table_of_known known id'
      by_cases smaller : id' < id
      · simp [same, smaller, Nat.not_le.2 smaller]
      · simp [same, smaller, Nat.not_lt.1 smaller, inside]
    · simp [same]

theorem number_discardBefore : (m.discardBefore step id).1 = m.table.below step id := by
  rw [discardBefore]
  cases known : m.steps.get? step with
  | none => simp [SnapshotTable.below, table, known]
  | some snapshots =>
    have inside := table_of_known known
    have listed : ∀ id', id' ∈ (snapshots.filterKeys (· < id)).keys ↔ id' < id ∧ (m.table step id').isSome := by
      intro id'
      rw [Table.mem_keys_iff, Table.get?_filterKeys, inside]
      by_cases smaller : id' < id <;> simp [smaller]
    have split := snapshots.toList.length_eq_length_filter_add fun p => decide (p.1 < id)
    rw [SnapshotTable.below_eq_length (Table.keys_nodup _) listed, Table.keys, List.length_map]
    simp only [Table.size, Table.filterKeys, ← Nat.not_lt, decide_not] at split ⊢
    omega

end MemoryStore

namespace DatabaseStore

variable {d : DatabaseStore} {step : String} {id : CheckpointId}

/-- The step and the number of a row. -/
def key (r : SnapshotRow) : String × CheckpointId := (r.step, r.id)

/-- No two rows have one step and number. -/
def Keyed (d : DatabaseStore) : Prop := (d.rows.map key).Nodup

/-- What the store keeps. -/
def table (d : DatabaseStore) : SnapshotTable := fun step id => (d.rows.find? (isRow step id)).map (·.state)

theorem isRow_iff {r : SnapshotRow} : isRow step id r = true ↔ key r = (step, id) := by
  simp [isRow, key]

theorem table_eq_some_iff (h : d.Keyed) {state : Bytes} :
    d.table step id = some state ↔ ⟨step, id, state⟩ ∈ d.rows := by
  rw [table, Option.map_eq_some_iff]
  constructor
  · rintro ⟨r, found, rfl⟩
    obtain ⟨rfl, rfl⟩ := Prod.mk.inj (isRow_iff.1 (List.find?_some found))
    exact List.mem_of_find?_eq_some found
  · intro here
    have known : (d.rows.find? (isRow step id)).isSome :=
      List.find?_isSome.2 ⟨_, here, isRow_iff.2 rfl⟩
    obtain ⟨r, found⟩ := Option.isSome_iff_exists.1 known
    have same := isRow_iff.1 (List.find?_some found)
    have row := List.inj_on_of_nodup_map h (List.mem_of_find?_eq_some found) here same
    exact ⟨r, found, congrArg SnapshotRow.state row⟩

/-! ## Writing -/

section Write

variable {state : Bytes}

/-- The row with new bytes if it is that of this step and number. -/
def revised (step : String) (id : CheckpointId) (state : Bytes) (r : SnapshotRow) : SnapshotRow :=
  if isRow step id r then { r with state } else r

theorem key_revised (r : SnapshotRow) : key (revised step id state r) = key r := by
  rw [revised]
  split <;> rfl

theorem isRow_revised (step' : String) (id' : CheckpointId) :
    isRow step' id' ∘ revised step id state = isRow step' id' := by
  funext r
  rw [Function.comp, Bool.eq_iff_iff, isRow_iff, isRow_iff, key_revised]

/-- Overwriting a row changes the bytes of its step and number. -/
theorem table_revised (known : d.rows.any (isRow step id) = true) :
    table ⟨d.rows.map (revised step id state)⟩ = d.table.put step id state := by
  funext step' id'
  rw [table, List.find?_map, isRow_revised, Option.map_map, SnapshotTable.put]
  split
  next here =>
    obtain ⟨rfl, rfl⟩ := here
    obtain ⟨r, found⟩ := Option.isSome_iff_exists.1 (List.find?_isSome.2 (List.any_eq_true.1 known))
    rw [found, Option.map_some, Function.comp, revised, if_pos (List.find?_some found)]
  next other =>
    refine Option.map_congr fun r found => ?_
    have row := isRow_iff.1 (List.find?_some found)
    have away : isRow step id r ≠ true := fun same =>
      other (Prod.mk.inj (row.symm.trans (isRow_iff.1 same)))
    rw [Function.comp, revised, if_neg away]

/-- A new row is the only one of its step and number. -/
theorem table_append (new : d.rows.any (isRow step id) ≠ true) :
    table ⟨d.rows ++ [⟨step, id, state⟩]⟩ = d.table.put step id state := by
  funext step' id'
  rw [table, List.find?_append, SnapshotTable.put]
  split
  next here =>
    obtain ⟨rfl, rfl⟩ := here
    have none' : d.rows.find? (isRow step' id') = none := by simpa using new
    have row : isRow step' id' ⟨step', id', state⟩ = true := isRow_iff.2 rfl
    rw [none', Option.none_or, List.find?_singleton, if_pos row, Option.map_some]
  next other =>
    have away : isRow step' id' ⟨step, id, state⟩ ≠ true := fun same =>
      other (Prod.mk.inj (isRow_iff.1 same).symm)
    rw [List.find?_singleton, if_neg away, Option.or_none, table]

theorem write_of_canHold (holds : canHold id = true) (step : String) (state : Bytes) (h : d.Keyed) :
    ∃ d', d.write step id state = .ok d' ∧ d'.Keyed ∧ d'.table = d.table.put step id state := by
  by_cases known : d.rows.any (isRow step id) = true
  · refine ⟨⟨d.rows.map (revised step id state)⟩, ?_, ?_, table_revised known⟩
    · rw [write, if_pos holds, if_pos known]
      rfl
    · rw [Keyed, List.map_map, show key ∘ revised step id state = key from funext key_revised]
      exact h
  · refine ⟨⟨d.rows ++ [⟨step, id, state⟩]⟩, ?_, ?_, table_append known⟩
    · rw [write, if_pos holds, if_neg known]
    · rw [Keyed, List.map_append]
      refine List.nodup_append.2 ⟨h, List.nodup_singleton _, fun a ha b hb same => known ?_⟩
      obtain ⟨r, hr, rfl⟩ := List.mem_map.1 ha
      obtain rfl := List.mem_singleton.1 hb
      exact List.any_eq_true.2 ⟨r, hr, isRow_iff.2 same⟩

end Write

/-! ## Discarding -/

/-- Whether discarding up to a number removes a row. -/
def isOlder (step : String) (id : CheckpointId) (r : SnapshotRow) : Bool := r.step = step && r.id < id

theorem isOlder_iff {r : SnapshotRow} : isOlder step id r = true ↔ r.step = step ∧ r.id < id := by
  simp [isOlder]

theorem table_filter (d : DatabaseStore) (step : String) (id : CheckpointId) :
    table ⟨d.rows.filter fun r => !isOlder step id r⟩ = d.table.discard step id := by
  funext step' id'
  have older : ∀ r, isRow step' id' r = true → (isOlder step id r = true ↔ step' = step ∧ id' < id) := by
    intro r row
    obtain ⟨rfl, rfl⟩ := Prod.mk.inj (isRow_iff.1 row)
    exact isOlder_iff
  rw [table, SnapshotTable.discard]
  split
  next here =>
    have none' : (d.rows.filter fun r => !isOlder step id r).find? (isRow step' id') = none := by
      refine List.find?_eq_none.2 fun r hr row => ?_
      have kept := (List.mem_filter.1 hr).2
      rw [(older r row).2 here] at kept
      cases kept
    rw [none', Option.map_none]
  next away =>
    rw [List.find?_filter]
    have same : (fun r => decide ((!isOlder step id r) = true ∧ isRow step' id' r = true)) = isRow step' id' := by
      funext r
      cases row : isRow step' id' r with
      | false => simp
      | true => simpa using mt (older r row).1 away
    rw [same, table]

/-- The rows that are removed are as many as the table has below that number. -/
theorem length_older (h : d.Keyed) (step : String) (id : CheckpointId) :
    (d.rows.filter (isOlder step id)).length = d.table.below step id := by
  have nodup : ((d.rows.filter (isOlder step id)).map (·.id)).Nodup := by
    refine List.Nodup.map_on (fun a ha b hb same => ?_) ((List.Nodup.of_map _ h).filter _)
    obtain ⟨ha, olderA⟩ := List.mem_filter.1 ha
    obtain ⟨hb, olderB⟩ := List.mem_filter.1 hb
    have step := (isOlder_iff.1 olderA).1.trans (isOlder_iff.1 olderB).1.symm
    exact List.inj_on_of_nodup_map h ha hb (Prod.ext step same)
  have listed : ∀ id', id' ∈ (d.rows.filter (isOlder step id)).map (·.id) ↔
      id' < id ∧ (d.table step id').isSome := by
    intro id'
    simp only [List.mem_map, List.mem_filter, isOlder_iff, Option.isSome_iff_exists, table_eq_some_iff h]
    constructor
    · rintro ⟨r, ⟨here, rfl, lt⟩, rfl⟩
      exact ⟨lt, r.state, here⟩
    · rintro ⟨lt, state, here⟩
      exact ⟨_, ⟨here, rfl, lt⟩, rfl⟩
  rw [SnapshotTable.below_eq_length nodup listed, List.length_map]

theorem discardBefore_of_canHold (holds : canHold id = true) (step : String) (h : d.Keyed) :
    ∃ d', d.discardBefore step id = .ok (d.table.below step id, d') ∧ d'.Keyed ∧
      d'.table = d.table.discard step id := by
  refine ⟨⟨d.rows.filter fun r => !isOlder step id r⟩, ?_, ?_, table_filter d step id⟩
  · have split := d.rows.length_eq_length_filter_add (isOlder step id)
    rw [length_older h] at split
    have number : d.rows.length - (d.rows.filter fun r => !isOlder step id r).length = d.table.below step id := by
      omega
    rw [discardBefore, if_pos holds, ← number]
    rfl
  · exact h.sublist (List.filter_sublist.map _)

/-! ## Reading -/

/-- The row that is found is one of those looked at, and none of them has a greater number. -/
theorem foldl_greater (l : List SnapshotRow) (r : SnapshotRow) :
    ∃ best ∈ r :: l, l.foldl greater (some r) = some best ∧ ∀ r' ∈ r :: l, r'.id ≤ best.id := by
  induction l generalizing r with
  | nil => exact ⟨r, List.mem_cons_self, rfl, by simp⟩
  | cons a l ih =>
    rw [List.foldl_cons, greater]
    split
    next lt =>
      obtain ⟨best, hbest, found, bound⟩ := ih a
      refine ⟨best, List.mem_cons_of_mem _ hbest, found, List.forall_mem_cons.2 ⟨?_, bound⟩⟩
      exact (Nat.le_of_lt lt).trans (bound a List.mem_cons_self)
    next ge =>
      obtain ⟨best, hbest, found, bound⟩ := ih r
      obtain ⟨first, others⟩ := List.forall_mem_cons.1 bound
      refine ⟨best, ?_, found, List.forall_mem_cons.2 ⟨first, List.forall_mem_cons.2 ⟨?_, others⟩⟩⟩
      · exact (List.mem_cons.1 hbest).elim (· ▸ List.mem_cons_self)
          fun later => List.mem_cons_of_mem _ (List.mem_cons_of_mem _ later)
      · exact (Nat.not_lt.1 ge).trans first

theorem isLatest (h : d.Keyed) (step : String) : d.table.IsLatest step (d.latest? step) := by
  have rows : ∀ id state, d.table step id = some state →
      ⟨step, id, state⟩ ∈ d.rows.filter (·.step = step) := fun id state here =>
    List.mem_filter.2 ⟨(table_eq_some_iff h).1 here, decide_eq_true rfl⟩
  rw [latest?]
  cases list : d.rows.filter (·.step = step) with
  | nil =>
    intro id
    refine Option.eq_none_iff_forall_ne_some.2 fun state here => ?_
    have listed := rows id state here
    rw [list] at listed
    cases listed
  | cons r l =>
    obtain ⟨best, hbest, found, bound⟩ := foldl_greater l r
    rw [← list] at hbest bound
    obtain ⟨here, same⟩ := List.mem_filter.1 hbest
    rw [List.foldl_cons, greater, found, Option.map_some]
    refine ⟨(table_eq_some_iff h).2 (of_decide_eq_true same ▸ here), fun later lt => ?_⟩
    refine Option.eq_none_iff_forall_ne_some.2 fun state more => ?_
    exact Nat.not_le.2 lt (bound _ (rows later state more))

end DatabaseStore

end AsyncStage
