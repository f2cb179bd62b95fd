import AsyncStage.Proofs.Queue.Unordered
import Mathlib.Data.List.Perm.Basic

/-!
# Filling and draining segments

What was marked stays in the order of marking: among the numbers of a stretch without
watermarks, resolving a record adds its number at the end, and draining moves the marked
numbers out in this order. What drains is done, and what drains or stays respects every
watermark.
-/

namespace AsyncStage

/-- The numbers from `lo` up to `hi`. -/
def within (lo hi : EntryId) (id : EntryId) : Bool := lo ≤ id && id < hi

theorem within_iff {lo hi id : EntryId} : within lo hi id = true ↔ lo ≤ id ∧ id < hi := by
  simp [within]

/-- No watermark has a number from `lo` up to `hi`. -/
def Unbroken (lo hi : EntryId) (l : List Entry) : Prop :=
  ∀ e ∈ l, e.isWatermark = true → ¬ within lo hi e.id = true

/-- The numbers of the records in a list of entries. -/
def recordIds (l : List Entry) : List EntryId := (l.filterMap Entry.record?).map (·.id)

@[simp] theorem recordIds_append (l l' : List Entry) : recordIds (l ++ l') = recordIds l ++ recordIds l' := by
  simp [recordIds]

theorem recordIds_sublist (l : List Entry) : (recordIds l).Sublist (l.map Entry.id) := by
  unfold recordIds
  induction l with
  | nil => exact .slnil
  | cons a rest ih =>
    cases a with
    | watermark id t => exact ih.cons _
    | record e => exact ih.cons_cons _

theorem recordIds_records (l : List RecordEntry) : recordIds (l.map .record) = l.map (·.id) := by
  simp [recordIds, List.filterMap_map, Function.comp_def, Entry.record?]

namespace UnorderedQueue

variable {segments : List Segment} {id : EntryId}

/-! ## Marking -/

theorem mem_flat_of_ready (h : WellFormed segments) (marked : id ∈ readyIds segments) :
    ∃ e, .record e ∈ flat segments ∧ e.id = id := by
  obtain ⟨s, hs, here⟩ := List.mem_flatMap.1 marked
  cases s with
  | watermark => cases here
  | records entries ready =>
    obtain ⟨e, he, -⟩ := ((h.marked _ hs).2.2 id).1 here
    exact ⟨e, List.mem_flatMap.2 ⟨_, hs, Segment.mem_toList_records.2 ⟨_, he, rfl⟩⟩, h.keyed _ hs _ he⟩

/-- Behind a run that reaches into an unbroken stretch nothing of this stretch is marked. -/
theorem ready_behind {entries : Table EntryId RecordEntry} {ready : List EntryId} {lo hi : EntryId}
    (h : WellFormed (.records entries ready :: segments))
    (increasing : Increasing (flat (.records entries ready :: segments)))
    (unbroken : Unbroken lo hi (flat segments)) {e : Entry}
    (here : e ∈ (Segment.records entries ready).toList) (inside : within lo hi e.id = true) :
    (readyIds segments).filter (within lo hi) = [] := by
  cases segments with
  | nil => rfl
  | cons s rest =>
    cases s with
    | records => simpa [Segment.Apart, Segment.isRun] using (List.isChain_cons_cons.1 h.apart).1
    | watermark w t =>
      have outside := unbroken (.watermark w t) (by simp [flat, Segment.toList]) rfl
      have before := (List.pairwise_append.1 increasing).2.2 e here (.watermark w t)
        (by simp [Segment.toList])
      apply List.filter_eq_nil_iff.2
      intro i hi'
      have later : i ∈ readyIds rest := by simpa [readyIds, Segment.ready] using hi'
      obtain ⟨r, hr, rfl⟩ := mem_flat_of_ready h.tail.tail later
      have behind := (List.pairwise_append.1 (List.pairwise_append.1 increasing).2.1).2.2
        (.watermark w t) (by simp [Segment.toList]) _ hr
      rw [Entry.id_record] at behind
      rw [Entry.id_watermark] at before behind outside
      simp only [within_iff] at inside outside ⊢
      lia

/-- Resolving a record adds its number to those marked in its stretch. -/
theorem readyIds_settle {f : RecordEntry → RecordEntry} {lo hi : EntryId} (h : WellFormed segments)
    (increasing : Increasing (flat segments)) (unbroken : Unbroken lo hi (flat segments))
    (known : ∃ e, .record e ∈ flat segments ∧ e.id = id) :
    (readyIds (updateSegment id (settleRun id f) segments)).filter (within lo hi) =
      (readyIds segments ++ [id]).filter (within lo hi) := by
  induction segments with
  | nil => simp at known
  | cons s rest ih =>
    have keyed := h.keyed s List.mem_cons_self
    have unbrokenRest : Unbroken lo hi (flat rest) := fun e he => unbroken e (List.mem_append_right _ he)
    simp only [updateSegment]
    by_cases here : s.holds id = true
    · obtain ⟨e, he, rfl⟩ := (Segment.holds_iff keyed).1 here
      cases s with
      | watermark => cases here
      | records entries ready =>
        rw [if_pos here]
        simp only [readyIds, List.flatMap_cons, settleRun, Segment.ready, List.filter_append]
        by_cases inside : within lo hi e.id = true
        · have none' := ready_behind h increasing unbrokenRest he inside
          rw [readyIds] at none'
          simp [none']
        · simp [inside]
    · rw [if_neg here]
      have knownRest : ∃ e, .record e ∈ flat rest ∧ e.id = id := by
        obtain ⟨e, he, hid⟩ := known
        rcases List.mem_append.1 he with first | later
        · exact absurd ((Segment.holds_iff keyed).2 ⟨e, first, hid⟩) here
        · exact ⟨e, later, hid⟩
      have := ih h.tail (List.pairwise_append.1 increasing).2.1 unbrokenRest knownRest
      simp only [readyIds, List.flatMap_cons, List.filter_append, List.append_assoc] at this ⊢
      rw [this]

theorem readyIds_update {f : RecordEntry → RecordEntry} :
    readyIds (updateSegment id (updateRun id f) segments) = readyIds segments := by
  induction segments with
  | nil => rfl
  | cons s rest ih =>
    simp only [updateSegment, readyIds, List.flatMap_cons] at *
    split
    · cases s <;> rfl
    · rw [List.flatMap_cons, ih]

/-! ## Adding an entry -/

section Push

variable {e : RecordEntry}

theorem toList_records_insert {entries : Table EntryId RecordEntry} {ready ready' : List EntryId}
    (keyed : (Segment.records entries ready).Keyed)
    (last : ∀ e' ∈ (Segment.records entries ready).toList, e'.id < e.id) :
    (Segment.records (entries.insert e.id e) ready').toList =
      (Segment.records entries ready).toList ++ [.record e] := by
  have lt : ∀ p ∈ entries.toList, compare p.1 e.id = .lt := fun p hp =>
    Nat.compare_eq_lt.2 (keyed p hp ▸ last _ (Segment.mem_toList_records.2 ⟨p, hp, rfl⟩))
  simp [Segment.toList, Table.values, Table.toList_insert_last lt]

theorem flat_pushRecord (h : WellFormed segments) (last : ∀ e' ∈ flat segments, e'.id < e.id) :
    flat (pushRecord e segments) = flat segments ++ [.record e] := by
  fun_induction pushRecord e segments with
  | case1 => rfl
  | case2 entries ready =>
    have keyed := h.keyed _ List.mem_cons_self
    simp only [flat, List.flatMap_cons, List.flatMap_nil, List.append_nil]
    exact toList_records_insert keyed fun e' he' => last e' (by simpa [flat] using he')
  | case3 s rest _ ih =>
    simp only [flat, List.flatMap_cons, List.append_assoc]
    exact congrArg _ (ih h.tail fun e' he' => last e' (List.mem_append_right _ he'))

theorem readyIds_pushRecord (open' : e.isDone = false) :
    readyIds (pushRecord e segments) = readyIds segments := by
  fun_induction pushRecord e segments with
  | case1 => simp [readyIds, Segment.ready, open']
  | case2 entries ready => simp [readyIds, Segment.ready, open']
  | case3 s rest _ ih =>
    simp only [readyIds, List.flatMap_cons] at ih ⊢
    rw [ih]

theorem isRun_head?_pushRecord {s : Segment} (first : s ∈ (pushRecord e segments).head?) :
    segments = [] ∨ ∃ s' ∈ segments.head?, s'.isRun = s.isRun := by
  fun_cases pushRecord e segments with
  | case1 => exact .inl rfl
  | case2 entries ready =>
    obtain rfl := Option.some.inj first
    exact .inr ⟨_, rfl, rfl⟩
  | case3 s' rest =>
    rw [pushRecord] at first
    · obtain rfl := Option.some.inj first
      exact .inr ⟨_, rfl, rfl⟩
    · assumption

/-- A record that is numbered behind those of a run joins them, and the ready ones if it has a result. -/
theorem marked_insert {entries : Table EntryId RecordEntry} {ready : List EntryId} (nodup : ready.Nodup)
    (ready_iff : ∀ i, i ∈ ready ↔ ∃ e', (i, e') ∈ entries.toList ∧ e'.isDone = true)
    (lt : ∀ p ∈ entries.toList, compare p.1 e.id = .lt) :
    (Segment.records (entries.insert e.id e) (if e.isDone then ready ++ [e.id] else ready)).Marked := by
  have toList := Table.toList_insert_last (v := e) lt
  have new : e.id ∉ ready := by
    rw [ready_iff]
    rintro ⟨e', he, -⟩
    simpa using lt _ he
  refine ⟨by simp [toList], ?_, fun i => ?_⟩
  · split
    · exact List.nodup_append.2 ⟨nodup, List.nodup_singleton _, fun i hi j hj same => by
        rw [List.mem_singleton.1 hj] at same
        exact new (same ▸ hi)⟩
    · exact nodup
  · have listed : (∃ e', (i, e') ∈ (entries.insert e.id e).toList ∧ e'.isDone = true) ↔
        i ∈ ready ∨ i = e.id ∧ e.isDone = true := by
      simp only [toList, List.mem_append, List.mem_singleton, Prod.mk.injEq, or_and_right, exists_or, ready_iff,
        and_assoc, exists_and_left, exists_eq_left]
    rw [listed]
    split
    next done => simp [done]
    next opened => simp [opened]

theorem WellFormed.pushRecord (h : WellFormed segments) (last : ∀ e' ∈ flat segments, e'.id < e.id) :
    WellFormed (pushRecord e segments) := by
  fun_induction UnorderedQueue.pushRecord e segments with
  | case1 =>
    have marked := @marked_insert e .empty [] List.nodup_nil (by simp) (by simp)
    refine ⟨?_, fun s hs => ?_, List.isChain_singleton _⟩
    · simp [Segment.Keyed, Table.insert, Table.insertInto]
    · rw [List.mem_singleton.1 hs]
      exact marked
  | case2 entries ready =>
    have keyed := h.keyed _ List.mem_cons_self
    obtain ⟨-, nodup, ready_iff⟩ := h.marked _ List.mem_cons_self
    have lt : ∀ p ∈ entries.toList, compare p.1 e.id = .lt := by
      intro p hp
      have listed : .record p.2 ∈ (Segment.records entries ready).toList :=
        Segment.mem_toList_records.2 ⟨p, hp, rfl⟩
      exact Nat.compare_eq_lt.2 (keyed p hp ▸ last _ (List.mem_append_left _ listed))
    refine ⟨?_, fun s hs => ?_, List.isChain_singleton _⟩
    · simp only [List.mem_singleton, forall_eq, Segment.Keyed, Table.toList_insert_last lt, List.mem_append]
      rintro p (hp | rfl)
      · exact keyed p hp
      · rfl
    · rw [List.mem_singleton.1 hs]
      exact marked_insert nodup ready_iff lt
  | case3 s rest notLast ih =>
    have wf := ih h.tail fun e' he' => last e' (List.mem_append_right _ he')
    refine ⟨?_, ?_, List.isChain_cons.2 ⟨fun s' first => ?_, wf.apart⟩⟩
    · exact fun s' hs' => (List.mem_cons.1 hs').elim (· ▸ h.keyed s List.mem_cons_self) (wf.keyed s')
    · exact fun s' hs' => (List.mem_cons.1 hs').elim (· ▸ h.marked s List.mem_cons_self) (wf.marked s')
    · rcases isRun_head?_pushRecord first with rfl | ⟨s'', second, same⟩
      · cases s with
        | watermark => exact .inl rfl
        | records entries ready => exact (notLast entries ready rfl rfl).elim
      · have apart := (List.isChain_cons.1 h.apart).1 s'' second
        rwa [Segment.Apart, same] at apart

theorem WellFormed.pushWatermark {t : Timestamp} (h : WellFormed segments) :
    WellFormed (segments ++ [.watermark id t]) where
  keyed s hs := by
    rcases List.mem_append.1 hs with old | new
    · exact h.keyed s old
    · rw [List.mem_singleton.1 new]
      trivial
  marked s hs := by
    rcases List.mem_append.1 hs with old | new
    · exact h.marked s old
    · rw [List.mem_singleton.1 new]
      trivial
  apart := List.isChain_append.2 ⟨h.apart, List.isChain_singleton _, fun _ _ s hs => by
    obtain rfl := Option.some.inj hs
    exact .inr rfl⟩

end Push

end UnorderedQueue

end AsyncStage
