import AsyncStage.Proofs.Queue.Segments

/-!
# What leaves an unordered queue

`Drained` says what draining does to the segments: entries that are done leave, the marked
records of each run in the order in which they were marked, and neither what leaves nor what
stays gets ahead of a watermark. It is proved by following the segments from the head: a
watermark at the head leaves, a run of which everything leaves opens the way for the segment
behind it, and a run of which something stays ends the draining.
-/

namespace AsyncStage.UnorderedQueue

/-- What `takeReady` does to a run: the listed records leave in the listed order. -/
structure Taken (entries : Table EntryId RecordEntry) (ready : List EntryId) (taken : List RecordEntry)
    (kept : Table EntryId RecordEntry) : Prop where
  listed : taken.map (·.id) = ready
  done : ∀ e ∈ taken, e.isDone = true
  perm : (taken ++ kept.values).Perm entries.values
  stays : kept.toList.Sublist entries.toList
  others : ∀ p ∈ kept.toList, p.1 ∉ ready

theorem takeReady_taken {entries : Table EntryId RecordEntry} {ready : List EntryId}
    (keyed : ∀ p ∈ entries.toList, p.2.id = p.1) (nodup : ready.Nodup)
    (resolved : ∀ id ∈ ready, ∃ e, (id, e) ∈ entries.toList ∧ e.isDone = true) :
    ∃ taken, (takeReady entries ready).1 = taken.map Entry.record ∧
      Taken entries ready taken (takeReady entries ready).2 := by
  induction ready generalizing entries with
  | nil => exact ⟨[], rfl, rfl, by simp, .refl _, .refl _, by simp⟩
  | cons id ready ih =>
    obtain ⟨e, he, done⟩ := resolved id List.mem_cons_self
    obtain ⟨new, nodup⟩ := List.nodup_cons.1 nodup
    have erased : (entries.erase id).toList.Sublist entries.toList := List.filter_sublist
    have resolved' : ∀ i ∈ ready, ∃ e, (i, e) ∈ (entries.erase id).toList ∧ e.isDone = true := by
      intro i hi
      obtain ⟨e', he', done'⟩ := resolved i (List.mem_cons_of_mem _ hi)
      have ne : i ≠ id := fun eq => new (eq ▸ hi)
      refine ⟨e', ?_, done'⟩
      rw [Table.toList_erase]
      exact List.mem_filter.2 ⟨he', by simpa using ne⟩
    obtain ⟨taken, out, rest⟩ := ih (fun p hp => keyed p (erased.subset hp)) nodup resolved'
    refine ⟨e :: taken, ?_, ?_, ?_, ?_, rest.stays.trans erased, ?_⟩
    · simp [takeReady, Table.get?_eq_some_iff.2 he, out]
    · rw [List.map_cons, rest.listed, keyed _ he]
    · exact List.forall_mem_cons.2 ⟨done, rest.done⟩
    · exact (rest.perm.cons e).trans ((Table.perm_erase he).map Prod.snd).symm
    · intro p hp listed
      rcases List.mem_cons.1 listed with same | later
      · have here := rest.stays.subset hp
        rw [Table.toList_erase] at here
        simpa [same] using (List.mem_filter.1 here).2
      · exact rest.others p hp later

/-- What draining does to the segments. -/
structure Drained (segments : List Segment) (drained : List Entry) (left : List Segment) : Prop where
  perm : (drained ++ flat left).Perm (flat segments)
  stays : (flat left).Sublist (flat segments)
  before : (drained ++ flat left).Pairwise (Entry.Before .unordered)
  done : ∀ e ∈ drained, e.isDone = true
  ready : recordIds drained ++ readyIds left = readyIds segments
  wellFormed : WellFormed left

variable {segments : List Segment}

theorem flat_cons (s : Segment) (segments : List Segment) :
    flat (s :: segments) = s.toList ++ flat segments := rfl

theorem pairwise_before_records (l : List RecordEntry) :
    (l.map Entry.record).Pairwise (Entry.Before .unordered) := by
  refine List.pairwise_map.2 (List.pairwise_of_forall_mem_list fun a _ b _ => ?_)
  exact Entry.before_records

theorem drained_watermark {id : EntryId} {t : Timestamp} {drained : List Entry} {left : List Segment}
    (increasing : Increasing (flat (.watermark id t :: segments))) (h : Drained segments drained left) :
    Drained (.watermark id t :: segments) (.watermark id t :: drained) left where
  perm := h.perm.cons _
  stays := h.stays.cons _
  before := by
    refine List.pairwise_cons.2 ⟨fun e he => Entry.before_of_lt ?_, h.before⟩
    exact (List.pairwise_cons.1 increasing).1 e (h.perm.subset he)
  done := List.forall_mem_cons.2 ⟨rfl, h.done⟩
  ready := h.ready
  wellFormed := h.wellFormed

section Run

variable {entries kept : Table EntryId RecordEntry} {ready : List EntryId} {taken : List RecordEntry}

/-- A run of which everything leaves, with what leaves behind it. -/
theorem drained_run {drained : List Entry} {left : List Segment} (out : Taken entries ready taken kept)
    (empty : kept.toList = []) (increasing : Increasing (flat (.records entries ready :: segments)))
    (h : Drained segments drained left) :
    Drained (.records entries ready :: segments) (taken.map .record ++ drained) left := by
  have all : (taken.map Entry.record).Perm (Segment.records entries ready).toList := by
    have perm := out.perm
    rw [Table.values, empty, List.map_nil, List.append_nil] at perm
    exact perm.map _
  refine ⟨?_, h.stays.trans (List.sublist_append_right _ _), ?_, ?_, ?_, h.wellFormed⟩
  · rw [List.append_assoc]
    exact all.append h.perm
  · rw [List.append_assoc]
    refine List.pairwise_append.2 ⟨pairwise_before_records taken, h.before, fun a ha b hb => ?_⟩
    exact Entry.before_of_lt ((List.pairwise_append.1 increasing).2.2 a (all.subset ha) b (h.perm.subset hb))
  · simp only [List.mem_append, List.mem_map]
    rintro e (⟨r, hr, rfl⟩ | he)
    · exact out.done r hr
    · exact h.done e he
  · rw [recordIds_append, recordIds_records, out.listed, List.append_assoc, h.ready]
    rfl

/-- A run of which something stays. -/
theorem drained_part (out : Taken entries ready taken kept) (some' : kept.toList ≠ [])
    (h : WellFormed (.records entries ready :: segments))
    (increasing : Increasing (flat (.records entries ready :: segments))) :
    Drained (.records entries ready :: segments) (taken.map .record) (.records kept [] :: segments) := by
  have parts : (taken.map Entry.record ++ (Segment.records kept []).toList).Perm
      (Segment.records entries ready).toList := by
    have perm := out.perm.map Entry.record
    rwa [List.map_append] at perm
  have stays : (Segment.records kept []).toList.Sublist (Segment.records entries ready).toList :=
    (out.stays.map _).map _
  refine ⟨?_, stays.append_right _, ?_, ?_, ?_, ⟨?_, ?_, ?_⟩⟩
  · rw [flat_cons, ← List.append_assoc]
    exact parts.append_right _
  · rw [flat_cons, ← List.append_assoc]
    refine List.pairwise_append.2 ⟨?_, ?_, fun a ha b hb => ?_⟩
    · rw [Segment.toList, ← List.map_append]
      exact pairwise_before_records _
    · exact (List.pairwise_append.1 increasing).2.1.imp fun lt => Entry.before_of_lt lt
    · exact Entry.before_of_lt ((List.pairwise_append.1 increasing).2.2 a (parts.subset ha) b hb)
  · simp only [List.mem_map]
    rintro e ⟨r, hr, rfl⟩
    exact out.done r hr
  · rw [recordIds_records, out.listed]
    rfl
  · refine List.forall_mem_cons.2 ⟨fun p hp => ?_, fun s hs => h.keyed s (List.mem_cons_of_mem _ hs)⟩
    exact h.keyed _ List.mem_cons_self p (out.stays.subset hp)
  · refine List.forall_mem_cons.2 ⟨⟨some', List.nodup_nil, fun i => ?_⟩,
      fun s hs => h.marked s (List.mem_cons_of_mem _ hs)⟩
    simp only [List.not_mem_nil, false_iff, not_exists, not_and]
    intro e he done
    exact out.others _ he (((h.marked _ List.mem_cons_self).2.2 i).2 ⟨e, out.stays.subset he, done⟩)
  · exact List.isChain_cons.2 ⟨(List.isChain_cons.1 h.apart).1, h.tail.apart⟩

end Run

/-- **Draining** emits what is done, in the order of marking and never across a watermark. -/
theorem drainSegments_drained (h : WellFormed segments) (increasing : Increasing (flat segments)) :
    Drained segments (drainSegments segments).1 (drainSegments segments).2 := by
  induction segments with
  | nil => exact ⟨.refl _, .refl _, .nil, by simp [drainSegments], rfl, h⟩
  | cons s rest ih =>
    have later := ih h.tail (List.pairwise_append.1 increasing).2.1
    cases s with
    | watermark id t => exact drained_watermark increasing later
    | records entries ready =>
      obtain ⟨-, nodup, ready_iff⟩ := h.marked _ List.mem_cons_self
      obtain ⟨taken, out, run⟩ := takeReady_taken (h.keyed _ List.mem_cons_self) nodup
        fun id hid => (ready_iff id).1 hid
      simp only [drainSegments, out]
      split
      next empty => exact drained_run run (Table.isEmpty_iff.1 empty) increasing later
      next some' => exact drained_part run (fun empty => some' (Table.isEmpty_iff.2 empty)) h increasing

/-- Nothing more may leave after draining. -/
theorem hasReady_drain (q : UnorderedQueue) : q.drain.2.hasReady = false := by
  change hasReady ⟨(drainSegments q.segments).2, _⟩ = false
  induction q.segments with
  | nil => rfl
  | cons s rest ih =>
    cases s with
    | watermark => exact ih
    | records entries ready =>
      simp only [drainSegments]
      split
      · exact ih
      next some' => simp [hasReady, some']

end AsyncStage.UnorderedQueue
