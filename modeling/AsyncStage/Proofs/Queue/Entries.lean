import AsyncStage.Config
import AsyncStage.Entry
import Mathlib.Data.List.Nodup

/-!
# Entries in the order of admission

Entries are numbered as they are admitted, so the numbers grow along a queue and a number
names at most one entry. `Entry.Before` is what each mode asks of two entries that leave one
after the other: in ordered mode the first was admitted first, in unordered mode only if one
of them is a watermark.
-/

namespace AsyncStage

namespace Entry

def isWatermark : Entry → Bool
  | .record _ => false
  | .watermark _ _ => true

/-- The number and the element of an entry: what stays the same as long as it is in flight. -/
def label (e : Entry) : EntryId × Element := (e.id, e.element)

/-- Applies `f` if this is the record entry `id`. -/
def modify (id : EntryId) (f : RecordEntry → RecordEntry) (e : Entry) : Entry :=
  if e.id = id then e.mapRecord f else e

/-- What a mode asks of an entry `a` that leaves before `b`. -/
def Before (mode : OutputMode) (a b : Entry) : Prop :=
  match mode with
  | .ordered => a.id < b.id
  | .unordered => a.isWatermark ∨ b.isWatermark → a.id < b.id

@[simp] theorem id_record (e : RecordEntry) : (Entry.record e).id = e.id := rfl

@[simp] theorem id_watermark (id : EntryId) (t : Timestamp) : (Entry.watermark id t).id = id := rfl

@[simp] theorem label_fst (e : Entry) : e.label.1 = e.id := rfl

@[simp] theorem label_record (e : RecordEntry) : (Entry.record e).label = (e.id, .record e.record) := rfl

@[simp] theorem label_watermark (id : EntryId) (t : Timestamp) :
    (Entry.watermark id t).label = (id, .watermark t) := rfl

theorem record?_eq_some_iff {e : Entry} {r : RecordEntry} : e.record? = some r ↔ e = .record r := by
  cases e <;> simp [record?]

/-- In both modes an entry may leave before one that was admitted later. -/
theorem before_of_lt {mode : OutputMode} {a b : Entry} (lt : a.id < b.id) : a.Before mode b := by
  cases mode
  · exact lt
  · exact fun _ => lt

theorem before_records {a b : RecordEntry} : (Entry.record a).Before .unordered (.record b) := by
  rintro (h | h) <;> cases h

theorem before_congr {mode : OutputMode} {a a' b b' : Entry} (ha : a'.label = a.label)
    (hb : b'.label = b.label) (h : a.Before mode b) : a'.Before mode b' := by
  obtain ⟨ia, ea⟩ := Prod.ext_iff.1 ha
  obtain ⟨ib, eb⟩ := Prod.ext_iff.1 hb
  cases a <;> cases a' <;> cases b <;> cases b' <;> cases mode <;>
    simp_all [Before, isWatermark, label, element]

/-- Whether entries may leave in an order is seen by their labels. -/
theorem pairwise_before_congr {mode : OutputMode} {l l' : List Entry} (same : l'.map label = l.map label)
    (h : l.Pairwise (Before mode)) : l'.Pairwise (Before mode) := by
  have labels : (l.map label).Pairwise fun x y => ∃ a b : Entry, a.label = x ∧ b.label = y ∧ a.Before mode b :=
    List.pairwise_map.2 (h.imp fun {a b} before => ⟨a, b, rfl, rfl, before⟩)
  rw [← same, List.pairwise_map] at labels
  exact labels.imp fun ⟨_, _, ha, hb, before⟩ => before_congr ha.symm hb.symm before

section Modify

variable {id : EntryId} {f : RecordEntry → RecordEntry}

@[simp] theorem modify_watermark {i : EntryId} {t : Timestamp} :
    (Entry.watermark i t).modify id f = .watermark i t := ite_self _

theorem modify_record (e : RecordEntry) :
    (Entry.record e).modify id f = .record (if e.id = id then f e else e) :=
  (apply_ite Entry.record _ _ _).symm

theorem id_modify (hid : ∀ r, (f r).id = r.id) (e : Entry) : (e.modify id f).id = e.id := by
  cases e with
  | watermark => rw [modify_watermark]
  | record r =>
    rw [modify_record]
    split <;> simp [hid]

theorem modify_of_ne {e : Entry} (ne : e.id ≠ id) : e.modify id f = e := if_neg ne

end Modify

end Entry

/-- The numbers of these entries grow from one to the next. -/
def Increasing (l : List Entry) : Prop := l.Pairwise fun a b => a.id < b.id

namespace Increasing

variable {l : List Entry}

/-- A number names one entry. -/
theorem eq_of_id_eq (h : Increasing l) {a b : Entry} (ha : a ∈ l) (hb : b ∈ l) (same : a.id = b.id) :
    a = b := by
  have nodup : (l.map Entry.id).Nodup := List.pairwise_map.2 (h.imp fun lt => Nat.ne_of_lt lt)
  exact List.inj_on_of_nodup_map nodup ha hb same

theorem record_eq (h : Increasing l) {a b : RecordEntry} (ha : .record a ∈ l) (hb : .record b ∈ l)
    (same : a.id = b.id) : a = b :=
  Entry.record.inj (h.eq_of_id_eq ha hb same)

end Increasing

end AsyncStage
