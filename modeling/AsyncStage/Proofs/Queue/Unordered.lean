import AsyncStage.Proofs.Queue.Entries
import AsyncStage.Proofs.Table
import AsyncStage.Queue.Unordered
import Mathlib.Data.List.Chain

/-!
# The queue of the unordered mode

The segments of the queue are well formed: every run lists its entries under their own
numbers, is not empty and knows which of its records are resolved, and two runs never stand
next to each other. Numbers grow along the queue. Under these conditions `find?`, `update` and
`push` are described by the list of entries, and `drain` by what it takes out: entries that
are done, in the order in which they were marked within each run, and none across a watermark.
-/

namespace AsyncStage

namespace Segment

/-- The numbers of the resolved records, as they were resolved. -/
def ready : Segment → List EntryId
  | .records _ ready => ready
  | .watermark _ _ => []

def isRun : Segment → Bool
  | .records _ _ => true
  | .watermark _ _ => false

/-- Every entry of a run is listed under its own number. -/
def Keyed : Segment → Prop
  | .records entries _ => ∀ p ∈ entries.toList, p.2.id = p.1
  | .watermark _ _ => True

/-- A run has entries, and lists each resolved one of them once as ready. -/
def Marked : Segment → Prop
  | .records entries ready =>
    entries.toList ≠ [] ∧ ready.Nodup ∧ ∀ id, id ∈ ready ↔ ∃ e, (id, e) ∈ entries.toList ∧ e.isDone = true
  | .watermark _ _ => True

/-- Of two neighbours at least one is a watermark. -/
def Apart (a b : Segment) : Prop := a.isRun = false ∨ b.isRun = false

theorem mem_toList_records {entries : Table EntryId RecordEntry} {ready : List EntryId} {e : Entry} :
    e ∈ (records entries ready).toList ↔ ∃ p ∈ entries.toList, .record p.2 = e := by
  simp [toList, Table.values]

theorem find?_eq_some_iff {s : Segment} (keyed : s.Keyed) {id : EntryId} {e : RecordEntry} :
    s.find? id = some e ↔ .record e ∈ s.toList ∧ e.id = id := by
  cases s with
  | watermark => simp [find?, toList]
  | records entries ready =>
    simp only [find?, Table.get?_eq_some_iff, mem_toList_records, Entry.record.injEq]
    constructor
    · exact fun listed => ⟨⟨_, listed, rfl⟩, keyed _ listed⟩
    · rintro ⟨⟨p, listed, rfl⟩, rfl⟩
      rw [keyed p listed]
      exact listed

theorem holds_iff {s : Segment} (keyed : s.Keyed) {id : EntryId} :
    s.holds id = true ↔ ∃ e, .record e ∈ s.toList ∧ e.id = id := by
  rw [show s.holds id = (s.find? id).isSome by cases s <;> rfl, Option.isSome_iff_exists]
  exact exists_congr fun e => find?_eq_some_iff keyed

end Segment

namespace UnorderedQueue

/-- All entries of some segments. -/
abbrev flat (segments : List Segment) : List Entry := segments.flatMap Segment.toList

/-- The numbers of the resolved records, segment by segment. -/
def readyIds (segments : List Segment) : List EntryId := segments.flatMap Segment.ready

/-- The segments are as the operations of the stage leave them. -/
structure WellFormed (segments : List Segment) : Prop where
  keyed : ∀ s ∈ segments, s.Keyed
  marked : ∀ s ∈ segments, s.Marked
  apart : segments.IsChain Segment.Apart

namespace WellFormed

variable {s : Segment} {segments : List Segment}

theorem tail (h : WellFormed (s :: segments)) : WellFormed segments where
  keyed s hs := h.keyed s (List.mem_cons_of_mem _ hs)
  marked s hs := h.marked s (List.mem_cons_of_mem _ hs)
  apart := h.apart.tail

end WellFormed

/-- What `update` does to the segment of the record. -/
def updateRun (id : EntryId) (f : RecordEntry → RecordEntry) : Segment → Segment
  | .records entries ready => .records (entries.modify id f) ready
  | .watermark i t => .watermark i t

/-- What `update` and then `markCompleted` do to the segment of the record. -/
def settleRun (id : EntryId) (f : RecordEntry → RecordEntry) : Segment → Segment
  | .records entries ready => .records (entries.modify id f) (ready ++ [id])
  | .watermark i t => .watermark i t

/-! ## Entries by number -/

section Lookup

variable {segments : List Segment} {id : EntryId}

theorem find?_eq_some_iff {q : UnorderedQueue} (keyed : ∀ s ∈ q.segments, s.Keyed)
    (h : Increasing q.toList) {e : RecordEntry} :
    q.find? id = some e ↔ .record e ∈ q.toList ∧ e.id = id := by
  have sound : ∀ {e : RecordEntry}, q.find? id = some e → .record e ∈ q.toList ∧ e.id = id := by
    intro e found
    obtain ⟨s, hs, here⟩ := List.exists_of_findSome?_eq_some found
    obtain ⟨he, hid⟩ := (Segment.find?_eq_some_iff (keyed s hs)).1 here
    exact ⟨List.mem_flatMap.2 ⟨s, hs, he⟩, hid⟩
  refine ⟨sound, fun ⟨he, hid⟩ => ?_⟩
  obtain ⟨s, hs, here⟩ := List.mem_flatMap.1 he
  have known : (q.find? id).isSome :=
    List.findSome?_isSome_iff.2 ⟨s, hs, by rw [(Segment.find?_eq_some_iff (keyed s hs)).2 ⟨here, hid⟩]; rfl⟩
  obtain ⟨e', found⟩ := Option.isSome_iff_exists.1 known
  obtain ⟨he', hid'⟩ := sound found
  rw [found, h.record_eq he' he (hid'.trans hid.symm)]

/-- Entries of the later segments have other numbers than a record of the first. -/
theorem id_ne_of_holds {s : Segment} (keyed : s.Keyed) (h : Increasing (flat (s :: segments)))
    (here : s.holds id = true) : ∀ e ∈ flat segments, e.id ≠ id := by
  obtain ⟨r, hr, rfl⟩ := (Segment.holds_iff keyed).1 here
  exact fun e he => Nat.ne_of_gt ((List.pairwise_append.1 h).2.2 _ hr e he)

theorem flat_updateSegment {f : RecordEntry → RecordEntry} {g : Segment → Segment}
    (keyed : ∀ s ∈ segments, s.Keyed) (h : Increasing (flat segments))
    (entries : ∀ s ∈ segments, s.holds id = true → (g s).toList = s.toList.map (Entry.modify id f)) :
    flat (updateSegment id g segments) = (flat segments).map (Entry.modify id f) := by
  induction segments with
  | nil => rfl
  | cons s rest ih =>
    have keyedHere := keyed s List.mem_cons_self
    simp only [updateSegment, flat, List.flatMap_cons, List.map_append]
    by_cases here : s.holds id = true
    · have others : (flat rest).map (Entry.modify id f) = flat rest := by
        rw [List.map_congr_left fun e he => Entry.modify_of_ne (id_ne_of_holds keyedHere h here e he),
          List.map_id']
      rw [if_pos here, List.flatMap_cons, entries s List.mem_cons_self here]
      exact congrArg _ others.symm
    · have others : s.toList.map (Entry.modify id f) = s.toList := by
        refine (List.map_congr_left fun e he => ?_).trans (List.map_id' _)
        cases e with
        | watermark i t => rw [Entry.modify_watermark]
        | record r =>
          exact Entry.modify_of_ne fun same => here ((Segment.holds_iff keyedHere).2 ⟨r, he, same⟩)
      rw [if_neg here, List.flatMap_cons, others]
      exact congrArg _ (ih (fun s hs => keyed s (List.mem_cons_of_mem _ hs)) (List.pairwise_append.1 h).2.1
        fun s hs => entries s (List.mem_cons_of_mem _ hs))

theorem toList_records_modify {entries : Table EntryId RecordEntry} {ready ready' : List EntryId}
    (keyed : (Segment.records entries ready).Keyed) (f : RecordEntry → RecordEntry) :
    (Segment.records (entries.modify id f) ready').toList =
      (Segment.records entries ready).toList.map (Entry.modify id f) := by
  simp only [Segment.toList, Table.values, Table.toList_modify, List.map_map]
  apply List.map_congr_left
  intro p hp
  simp only [Function.comp, Entry.modify_record, keyed p hp]

theorem toList_update {q : UnorderedQueue} (keyed : ∀ s ∈ q.segments, s.Keyed)
    (h : Increasing q.toList) (f : RecordEntry → RecordEntry) :
    (q.update id f).toList = q.toList.map (Entry.modify id f) := by
  apply flat_updateSegment keyed h
  intro s hs _
  cases s with
  | watermark i t => exact congrArg (· :: []) Entry.modify_watermark.symm
  | records entries ready => exact toList_records_modify (keyed _ hs) f

end Lookup

/-! ## Changing and resolving a record -/

section Resolving

variable {segments : List Segment} {id : EntryId} {f : RecordEntry → RecordEntry}

theorem contains_modify {entries : Table EntryId RecordEntry} (i : EntryId) :
    (entries.modify id f).contains i = entries.contains i := by
  rw [Bool.eq_iff_iff, Table.contains_iff, Table.contains_iff]
  simp only [Table.toList_modify, List.mem_map, Prod.mk.injEq]
  constructor
  · rintro ⟨v, p, hp, rfl, -⟩
    exact ⟨p.2, hp⟩
  · rintro ⟨v, hv⟩
    exact ⟨_, _, hv, rfl, rfl⟩

theorem flat_settle (keyed : ∀ s ∈ segments, s.Keyed) (h : Increasing (flat segments)) :
    flat (updateSegment id (settleRun id f) segments) = (flat segments).map (Entry.modify id f) := by
  apply flat_updateSegment keyed h
  intro s hs here
  cases s with
  | watermark => cases here
  | records entries ready => exact toList_records_modify (keyed _ hs) f

theorem segments_settle (q : UnorderedQueue) :
    ((q.update id f).markCompleted id).segments = updateSegment id (settleRun id f) q.segments := by
  change updateSegment id _ (updateSegment id _ q.segments) = _
  induction q.segments with
  | nil => rfl
  | cons s rest ih =>
    by_cases here : s.holds id = true
    · cases s with
      | watermark => cases here
      | records entries ready =>
        have still : (Segment.records (entries.modify id f) ready).holds id = true := by
          rw [Segment.holds, contains_modify]
          exact here
        simp only [updateSegment, here, still, if_true, settleRun]
    · simp only [updateSegment, here, if_false, Bool.false_eq_true]
      exact congrArg _ ih

theorem map_isRun_updateSegment (id : EntryId) {g : Segment → Segment} (same : ∀ s, (g s).isRun = s.isRun) :
    (updateSegment id g segments).map Segment.isRun = segments.map Segment.isRun := by
  induction segments with
  | nil => rfl
  | cons s rest ih =>
    simp only [updateSegment]
    split <;> simp [same, ih]

theorem mem_updateSegment {g : Segment → Segment} {s : Segment} (hs : s ∈ updateSegment id g segments) :
    s ∈ segments ∨ ∃ s' ∈ segments, s'.holds id = true ∧ s = g s' := by
  induction segments with
  | nil => cases hs
  | cons s' rest ih =>
    simp only [updateSegment] at hs
    split at hs
    next here =>
      rcases List.mem_cons.1 hs with rfl | later
      · exact .inr ⟨s', List.mem_cons_self, here, rfl⟩
      · exact .inl (List.mem_cons_of_mem _ later)
    next =>
      rcases List.mem_cons.1 hs with rfl | later
      · exact .inl List.mem_cons_self
      · rcases ih later with old | ⟨s'', hs'', rest⟩
        · exact .inl (List.mem_cons_of_mem _ old)
        · exact .inr ⟨s'', List.mem_cons_of_mem _ hs'', rest⟩

/-- Changing one segment keeps the segments well formed if it keeps that segment so. -/
theorem WellFormed.replace {g : Segment → Segment} (h : WellFormed segments)
    (kind : ∀ s, (g s).isRun = s.isRun)
    (good : ∀ s ∈ segments, s.holds id = true → (g s).Keyed ∧ (g s).Marked) :
    WellFormed (updateSegment id g segments) where
  keyed s hs := by
    rcases mem_updateSegment hs with old | ⟨s', hs', here, rfl⟩
    · exact h.keyed s old
    · exact (good s' hs' here).1
  marked s hs := by
    rcases mem_updateSegment hs with old | ⟨s', hs', here, rfl⟩
    · exact h.marked s old
    · exact (good s' hs' here).2
  apart := by
    have kinds : (segments.map Segment.isRun).IsChain fun a b => a = false ∨ b = false :=
      (List.isChain_map _).2 h.apart
    rw [← map_isRun_updateSegment id kind, List.isChain_map] at kinds
    exact kinds

theorem keyed_modify {entries : Table EntryId RecordEntry} {ready ready' : List EntryId}
    (keyed : (Segment.records entries ready).Keyed) (hid : ∀ r, (f r).id = r.id) :
    (Segment.records (entries.modify id f) ready').Keyed := by
  intro p hp
  rw [Table.toList_modify] at hp
  obtain ⟨p, listed, rfl⟩ := List.mem_map.1 hp
  simp only
  split
  · rw [hid, keyed p listed]
  · exact keyed p listed

/-- An update that leaves open what was open keeps the queue well formed. -/
theorem WellFormed.update (h : WellFormed segments) (hid : ∀ r, (f r).id = r.id)
    (done : ∀ r, .record r ∈ flat segments → r.id = id → (f r).isDone = r.isDone) :
    WellFormed (updateSegment id (updateRun id f) segments) := by
  apply h.replace (fun s => by cases s <;> rfl)
  intro s hs _
  cases s with
  | watermark => exact ⟨trivial, trivial⟩
  | records entries ready =>
    have keyed := h.keyed _ hs
    obtain ⟨some', nodup, ready_iff⟩ := h.marked _ hs
    refine ⟨keyed_modify keyed hid, by simpa [Table.toList_modify] using some', nodup, fun i => ?_⟩
    rw [ready_iff i]
    simp only [Table.toList_modify, List.mem_map, Prod.mk.injEq]
    have same : ∀ p ∈ entries.toList, (if p.1 = id then f p.2 else p.2).isDone = p.2.isDone := by
      intro p hp
      split
      next key =>
        exact done _ (List.mem_flatMap.2 ⟨_, hs, Segment.mem_toList_records.2 ⟨p, hp, rfl⟩⟩)
          ((keyed p hp).trans key)
      next => rfl
    constructor
    · rintro ⟨e, he, hd⟩
      exact ⟨_, ⟨_, he, rfl, rfl⟩, (same _ he).trans hd⟩
    · rintro ⟨_, ⟨p, hp, rfl, rfl⟩, hd⟩
      exact ⟨p.2, hp, (same p hp).symm.trans hd⟩

/-- Resolving an open record and marking it keeps the queue well formed. -/
theorem WellFormed.settle (h : WellFormed segments) (hid : ∀ r, (f r).id = r.id)
    (open' : ∀ r, .record r ∈ flat segments → r.id = id → r.isDone = false ∧ (f r).isDone = true) :
    WellFormed (updateSegment id (settleRun id f) segments) := by
  apply h.replace (fun s => by cases s <;> rfl)
  intro s hs here
  cases s with
  | watermark => exact ⟨trivial, trivial⟩
  | records entries ready =>
    have keyed := h.keyed _ hs
    obtain ⟨some', nodup, ready_iff⟩ := h.marked _ hs
    have now : ∀ p ∈ entries.toList, p.1 = id → p.2.isDone = false ∧ (f p.2).isDone = true :=
      fun p hp key => open' _ (List.mem_flatMap.2 ⟨_, hs, Segment.mem_toList_records.2 ⟨p, hp, rfl⟩⟩)
        ((keyed p hp).trans key)
    obtain ⟨e, he⟩ := Table.contains_iff.1 here
    have new : id ∉ ready := by
      rw [ready_iff]
      rintro ⟨e', he', hd⟩
      rw [(now _ he' rfl).1] at hd
      cases hd
    refine ⟨keyed_modify keyed hid, by simpa [Table.toList_modify] using some', ?_, fun i => ?_⟩
    · refine List.nodup_append.2 ⟨nodup, by simp, fun i hi j hj eq => ?_⟩
      rw [List.mem_singleton.1 hj] at eq
      exact new (eq ▸ hi)
    · simp only [List.mem_append, List.mem_singleton, ready_iff i, Table.toList_modify, List.mem_map,
        Prod.mk.injEq]
      constructor
      · rintro (⟨e', he', hd⟩ | rfl)
        · have ne : i ≠ id := fun key => by
            rw [(now _ he' key).1] at hd
            cases hd
          exact ⟨e', ⟨_, he', rfl, if_neg ne⟩, hd⟩
        · exact ⟨_, ⟨_, he, rfl, if_pos rfl⟩, (now _ he rfl).2⟩
      · rintro ⟨_, ⟨p, hp, rfl, rfl⟩, hd⟩
        by_cases key : p.1 = id
        · exact .inr key
        · rw [if_neg key] at hd
          exact .inl ⟨p.2, hp, hd⟩

end Resolving

end UnorderedQueue

end AsyncStage
