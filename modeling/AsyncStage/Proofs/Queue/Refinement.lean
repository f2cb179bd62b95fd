import AsyncStage.Proofs.Queue.Flat
import AsyncStage.Proofs.Queue.Ready

/-!
# Segments hide nothing

The unordered queue answers every call as the flat queue does. The two are related by their
entries and by the marks: each run lists as ready those numbers that it holds, in the order of
the marks, and every mark belongs to some run. Every call keeps this, and a call is
answered alike by queues that are so related.
-/

namespace AsyncStage

namespace UnorderedQueue

/-- Each run lists the marked numbers that it holds, and every mark has its record. -/
structure Lists (segments : List Segment) (marked : List EntryId) : Prop where
  ready : ∀ s ∈ segments, s.ready = marked.filter fun id => s.holds id
  known : ∀ id ∈ marked, ∃ e, .record e ∈ flat segments ∧ e.id = id

variable {segments : List Segment} {marked : List EntryId} {id : EntryId}

/-! ## Entries that come -/

theorem Lists.pushWatermark {time : Timestamp} (h : Lists segments marked) :
    Lists (segments ++ [.watermark id time]) marked where
  ready s hs := by
    rcases List.mem_append.1 hs with old | new
    · exact h.ready s old
    · rw [List.mem_singleton.1 new]
      simp [Segment.ready, Segment.holds]
  known id marks := by
    obtain ⟨e, he, number⟩ := h.known id marks
    exact ⟨e, by simp [flat, he], number⟩

/-- A record that is not marked changes no list of marks. -/
theorem ready_pushRecord {e : RecordEntry} (ready : ∀ s ∈ segments, s.ready = marked.filter fun id => s.holds id)
    (opened : e.isDone = false) (new : e.id ∉ marked) :
    ∀ s ∈ UnorderedQueue.pushRecord e segments, s.ready = marked.filter fun id => s.holds id := by
  have same : ∀ (entries : Table EntryId RecordEntry), ∀ id ∈ marked,
      (entries.insert e.id e).contains id = entries.contains id := by
    intro entries id marks
    have other : id ≠ e.id := fun eq => new (eq ▸ marks)
    rw [Table.contains, Table.get?_insert, if_neg other, Table.contains]
  fun_induction UnorderedQueue.pushRecord e segments with
  | case1 =>
    intro s hs
    rw [List.mem_singleton.1 hs, opened]
    refine (List.filter_eq_nil_iff.2 fun id marks => ?_).symm
    rw [Segment.holds, same _ id marks]
    exact Bool.false_ne_true
  | case2 entries listed =>
    intro s hs
    rw [List.mem_singleton.1 hs, opened]
    refine (ready _ List.mem_cons_self).trans (List.filter_congr fun id marks => ?_)
    exact (same entries id marks).symm
  | case3 s rest _ ih =>
    refine List.forall_mem_cons.2 ⟨ready s List.mem_cons_self, ih fun s' hs' => ?_⟩
    exact ready s' (List.mem_cons_of_mem _ hs')

theorem Lists.pushRecord {e : RecordEntry} (h : Lists segments marked) (wellFormed : WellFormed segments)
    (last : ∀ e' ∈ flat segments, e'.id < e.id) (opened : e.isDone = false) :
    Lists (UnorderedQueue.pushRecord e segments) marked where
  ready := by
    refine ready_pushRecord h.ready opened fun marks => ?_
    obtain ⟨e', he', number⟩ := h.known _ marks
    exact absurd (last _ he') (number ▸ Nat.lt_irrefl _)
  known id marks := by
    obtain ⟨e', he', number⟩ := h.known id marks
    rw [flat_pushRecord wellFormed last]
    exact ⟨e', List.mem_append_left _ he', number⟩

/-! ## Records that are resolved -/

variable {f : RecordEntry → RecordEntry}

theorem holds_settleRun (s : Segment) (i : EntryId) : (settleRun id f s).holds i = s.holds i := by
  cases s with
  | watermark => rfl
  | records entries ready => exact contains_modify i

/-- A number that no segment holds is not looked at. -/
theorem updateSegment_of_absent {g : Segment → Segment} (absent : ∀ s ∈ segments, s.holds id = false) :
    updateSegment id g segments = segments := by
  induction segments with
  | nil => rfl
  | cons s rest ih =>
    rw [updateSegment, absent s List.mem_cons_self, if_neg Bool.false_ne_true,
      ih fun s' hs' => absent s' (List.mem_cons_of_mem _ hs')]

/-- A new mark is listed by the run that holds the record and by no other. -/
theorem ready_settle (keyed : ∀ s ∈ segments, s.Keyed) (increasing : Increasing (flat segments))
    (ready : ∀ s ∈ segments, s.ready = marked.filter fun id => s.holds id) :
    ∀ s ∈ updateSegment id (settleRun id f) segments, s.ready = (marked ++ [id]).filter fun id => s.holds id := by
  have apart : ∀ {s : Segment}, s.holds id = false →
      (marked ++ [id]).filter (fun id => s.holds id) = marked.filter fun id => s.holds id := by
    intro s absent
    simp [List.filter_append, absent]
  induction segments with
  | nil => simp [updateSegment]
  | cons s rest ih =>
    obtain ⟨keyedHere, keyed⟩ := List.forall_mem_cons.1 keyed
    obtain ⟨readyHere, ready⟩ := List.forall_mem_cons.1 ready
    rw [updateSegment]
    split
    next here =>
      refine List.forall_mem_cons.2 ⟨?_, fun s' hs' => ?_⟩
      · cases s with
        | watermark => cases here
        | records entries listed =>
          simp only [holds_settleRun, List.filter_append, ← readyHere]
          simp [settleRun, Segment.ready, here]
      · have absent : s'.holds id = false := by
          rw [← Bool.not_eq_true, Segment.holds_iff (keyed s' hs')]
          rintro ⟨e, he, number⟩
          exact id_ne_of_holds keyedHere increasing here _ (List.mem_flatMap.2 ⟨s', hs', he⟩) number
        rw [apart absent, ready s' hs']
    next absent =>
      rw [Bool.not_eq_true] at absent
      refine List.forall_mem_cons.2 ⟨?_, ih keyed (List.pairwise_append.1 increasing).2.1 ready⟩
      rw [apart absent, readyHere]

theorem Lists.settle (h : Lists segments marked) (keyed : ∀ s ∈ segments, s.Keyed)
    (increasing : Increasing (flat segments)) (hid : ∀ r, (f r).id = r.id)
    (here : ∃ e, .record e ∈ flat segments ∧ e.id = id) :
    Lists (updateSegment id (settleRun id f) segments) (marked ++ [id]) where
  ready := ready_settle keyed increasing h.ready
  known i marks := by
    have old : ∃ e, .record e ∈ flat segments ∧ e.id = i := by
      rcases List.mem_append.1 marks with old | new
      · exact h.known i old
      · exact List.mem_singleton.1 new ▸ here
    obtain ⟨e, he, number⟩ := old
    rw [flat_settle keyed increasing]
    refine ⟨_, List.mem_map.2 ⟨_, he, Entry.modify_record e⟩, ?_⟩
    split <;> simp [hid, number]

/-! ## Entries that leave -/

section Drain

variable {entries : Table EntryId RecordEntry} {ready : List EntryId}

/-- What stays of a run: the records that are not marked. -/
theorem toList_takeReady : (takeReady entries ready).2.toList = entries.toList.filter (·.1 ∉ ready) := by
  induction ready generalizing entries with
  | nil => simp [takeReady]
  | cons id ready ih =>
    rw [takeReady, ih, Table.toList_erase, List.filter_filter]
    apply List.filter_congr
    intro p _
    simp [Bool.and_comm]

/-- A run of which everything leaves opens the way for the segments behind it. -/
theorem drainSegments_all (empty : (takeReady entries ready).2.toList = []) :
    drainSegments (.records entries ready :: segments) =
      ((takeReady entries ready).1 ++ (drainSegments segments).1, (drainSegments segments).2) := by
  simp [drainSegments, Table.isEmpty_iff, empty]

/-- A run of which something stays ends the draining. -/
theorem drainSegments_part (some' : (takeReady entries ready).2.toList ≠ []) :
    drainSegments (.records entries ready :: segments) =
      ((takeReady entries ready).1, .records (takeReady entries ready).2 [] :: segments) := by
  simp [drainSegments, Table.isEmpty_iff, some']

/-- The marks that leave are those of the first run. -/
theorem leaving_run (capacity : Nat) (h : Lists (.records entries ready :: segments) marked)
    (wellFormed : WellFormed (.records entries ready :: segments)) :
    (⟨capacity, flat (.records entries ready :: segments), marked⟩ : FlatQueue).leaving = ready := by
  refine Eq.trans (List.filter_congr fun id _ => ?_) (h.ready _ List.mem_cons_self).symm
  rw [FlatQueue.front, takeWhile_run wellFormed, Bool.eq_iff_iff,
    Segment.holds_iff (wellFormed.keyed _ List.mem_cons_self), List.any_eq_true]
  constructor
  · rintro ⟨e, he, number⟩
    obtain ⟨p, hp, rfl⟩ := Segment.mem_toList_records.1 he
    exact ⟨p.2, he, by simpa using number⟩
  · rintro ⟨e, he, number⟩
    exact ⟨_, he, by simpa using number⟩

/-- The marked records of the first run leave as they were marked. -/
theorem out_run (capacity : Nat) (marked : List EntryId) (wellFormed : WellFormed (.records entries ready :: segments))
    (increasing : Increasing (flat (.records entries ready :: segments))) :
    (ready.filterMap (⟨capacity, flat (.records entries ready :: segments), marked⟩ : FlatQueue).find?).map
      Entry.record = (takeReady entries ready).1 := by
  obtain ⟨-, nodup, ready_iff⟩ := wellFormed.marked _ List.mem_cons_self
  obtain ⟨taken, out, run⟩ := takeReady_taken (wellFormed.keyed _ List.mem_cons_self) nodup
    fun id marks => (ready_iff id).1 marks
  have found : ∀ e ∈ taken,
      (⟨capacity, flat (.records entries ready :: segments), marked⟩ : FlatQueue).find? e.id = some e := by
    intro e he
    obtain ⟨p, hp, value⟩ := List.mem_map.1 (run.perm.subset (List.mem_append_left _ he))
    have here : Entry.record e ∈ (Segment.records entries ready).toList :=
      Segment.mem_toList_records.2 ⟨p, hp, by rw [value]⟩
    exact (FlatQueue.find?_eq_some_iff increasing).2 ⟨List.mem_append_left _ here, rfl⟩
  rw [out, ← run.listed, List.filterMap_map]
  exact congrArg _ ((List.filterMap_congr found).trans (List.filterMap_some ..))

theorem notMem_ready_of_later (wellFormed : WellFormed (.records entries ready :: segments))
    (increasing : Increasing (flat (.records entries ready :: segments))) :
    ∀ e ∈ flat segments, e.id ∉ ready := by
  intro e later marks
  have keyed := wellFormed.keyed _ List.mem_cons_self
  obtain ⟨r, listed, -⟩ := ((wellFormed.marked _ List.mem_cons_self).2.2 e.id).1 marks
  have here : (Segment.records entries ready).holds e.id = true := Table.contains_iff.2 ⟨r, listed⟩
  exact id_ne_of_holds keyed increasing here e later rfl

/-- What stays once the marked records of the first run have left. -/
theorem without_run (capacity : Nat) (marked : List EntryId) (wellFormed : WellFormed (.records entries ready :: segments))
    (increasing : Increasing (flat (.records entries ready :: segments))) :
    (⟨capacity, flat (.records entries ready :: segments), marked⟩ : FlatQueue).without ready =
      ⟨capacity, flat (.records (takeReady entries ready).2 [] :: segments), marked.filter (· ∉ ready)⟩ := by
  have keyed := wellFormed.keyed _ List.mem_cons_self
  have first : ((Segment.records entries ready).toList.filter (·.id ∉ ready)) =
      (Segment.records (takeReady entries ready).2 []).toList := by
    simp only [Segment.toList, Table.values, toList_takeReady, List.map_map, List.filter_map]
    refine congrArg _ (List.filter_congr fun p hp => ?_)
    simp [keyed p hp]
  have others : (flat segments).filter (·.id ∉ ready) = flat segments :=
    List.filter_eq_self.2 fun e later => by
      simpa using notMem_ready_of_later wellFormed increasing e later
  rw [FlatQueue.without, flat, List.flatMap_cons, List.filter_append, first, others]
  rfl

/-- A mark that the first run holds is ready there. -/
theorem Lists.mem_ready (h : Lists (.records entries ready :: segments) marked) (marks : id ∈ marked)
    (here : (Segment.records entries ready).holds id = true) : id ∈ ready := by
  have listed : ready = marked.filter _ := h.ready _ List.mem_cons_self
  rw [listed]
  exact List.mem_filter.2 ⟨marks, here⟩

/-- The marks that stay are listed by the later runs. -/
theorem Lists.later (h : Lists (.records entries ready :: segments) marked)
    (wellFormed : WellFormed (.records entries ready :: segments))
    (increasing : Increasing (flat (.records entries ready :: segments))) :
    Lists segments (marked.filter (· ∉ ready)) where
  ready s hs := by
    rw [h.ready s (List.mem_cons_of_mem _ hs), List.filter_filter]
    refine List.filter_congr fun id _ => ?_
    cases here : s.holds id with
    | false => rfl
    | true =>
      obtain ⟨e, he, number⟩ := (Segment.holds_iff (wellFormed.tail.keyed s hs)).1 here
      have other := notMem_ready_of_later wellFormed increasing _ (List.mem_flatMap.2 ⟨s, hs, he⟩)
      rw [Entry.id_record, number] at other
      simp [other]
  known id marks := by
    obtain ⟨old, other⟩ := List.mem_filter.1 marks
    obtain ⟨e, he, number⟩ := h.known id old
    rcases List.mem_append.1 he with first | later
    · have here := (Segment.holds_iff (wellFormed.keyed _ List.mem_cons_self)).2 ⟨e, first, number⟩
      exact absurd (h.mem_ready old here) (by simpa using other)
    · exact ⟨e, later, number⟩

/-- A run of which something stays has no marks any more. -/
theorem Lists.kept (h : Lists (.records entries ready :: segments) marked)
    (wellFormed : WellFormed (.records entries ready :: segments))
    (increasing : Increasing (flat (.records entries ready :: segments))) :
    Lists (.records (takeReady entries ready).2 [] :: segments) (marked.filter (· ∉ ready)) where
  ready := by
    refine List.forall_mem_cons.2 ⟨?_, (h.later wellFormed increasing).ready⟩
    refine (List.filter_eq_nil_iff.2 fun id marks here => ?_).symm
    obtain ⟨old, other⟩ := List.mem_filter.1 marks
    obtain ⟨e, listed⟩ := Table.contains_iff.1 here
    rw [toList_takeReady] at listed
    have holds : (Segment.records entries ready).holds id = true :=
      Table.contains_iff.2 ⟨e, List.mem_of_mem_filter listed⟩
    exact absurd (h.mem_ready old holds) (by simpa using other)
  known id marks := by
    obtain ⟨e, he, number⟩ := (h.later wellFormed increasing).known id marks
    exact ⟨e, List.mem_append_right _ he, number⟩

theorem Lists.tail {time : Timestamp} (h : Lists (.watermark id time :: segments) marked) :
    Lists segments marked where
  ready s hs := h.ready s (List.mem_cons_of_mem _ hs)
  known id marks := by
    obtain ⟨e, he, number⟩ := h.known id marks
    exact ⟨e, (List.mem_cons.1 he).resolve_left (nomatch ·), number⟩

/-- **Draining** the segments is draining the flat queue. -/
theorem drain_alike (capacity : Nat) (h : Lists segments marked) (wellFormed : WellFormed segments)
    (increasing : Increasing (flat segments)) :
    ∃ left, (⟨capacity, flat segments, marked⟩ : FlatQueue).drain =
        ((drainSegments segments).1, ⟨capacity, flat (drainSegments segments).2, left⟩) ∧
      Lists (drainSegments segments).2 left := by
  induction segments generalizing marked with
  | nil => exact ⟨marked, FlatQueue.drain_nil capacity marked, h⟩
  | cons s rest ih =>
    have increasingRest := (List.pairwise_append.1 increasing).2.1
    cases s with
    | watermark id time =>
      obtain ⟨left, drained, lists⟩ := ih h.tail wellFormed.tail increasingRest
      refine ⟨left, (FlatQueue.drain_watermark capacity time (flat rest) marked).trans ?_, lists⟩
      rw [drained]
      rfl
    | records entries ready =>
      have leaves := leaving_run capacity h wellFormed
      have out := out_run capacity marked wellFormed increasing
      have stays := without_run capacity marked wellFormed increasing
      by_cases empty : (takeReady entries ready).2.toList = []
      · -- nothing of the run stays, so what is behind it drains as well
        obtain ⟨left, drained, lists⟩ := ih (h.later wellFormed increasing) wellFormed.tail increasingRest
        have gone : flat (.records (takeReady entries ready).2 [] :: rest) = flat rest := by
          simp [flat, Segment.toList, Table.values, empty]
        rw [gone] at stays
        have opened := FlatQueue.drain_of_opened
          (q := ⟨capacity, flat (.records entries ready :: rest), marked⟩)
          (by rw [leaves, stays]; exact isWatermark_behind wellFormed)
        rw [leaves, out, stays, drained] at opened
        rw [opened, drainSegments_all empty]
        exact ⟨left, rfl, lists⟩
      · have waits := FlatQueue.drain_of_waits
          (q := ⟨capacity, flat (.records entries ready :: rest), marked⟩)
          (by rw [leaves, stays]; exact isWatermark_run empty)
        rw [leaves, out, stays] at waits
        rw [waits, drainSegments_part empty]
        exact ⟨_, rfl, h.kept wellFormed increasing⟩

end Drain

end UnorderedQueue

namespace Queue

/-- The queue is unordered, and its runs list these marks. -/
def Lists (q : Queue) (marked : List EntryId) : Prop :=
  match q.discipline with
  | .ordered _ => False
  | .unordered u => UnorderedQueue.Lists u.segments marked

/-- The two queues hold the same entries with the same marks. -/
structure Refines (q : Queue) (r : FlatQueue) : Prop where
  sound : q.Sound
  capacity : q.capacity = r.capacity
  entries : q.toList = r.entries
  lists : q.Lists r.marked

theorem refines_empty (capacity : Nat) : (empty .unordered capacity).Refines ⟨capacity, [], []⟩ where
  sound := .empty .unordered capacity
  capacity := rfl
  entries := rfl
  lists := ⟨by simp, by simp⟩

namespace Refines

variable {q : Queue} {r : FlatQueue} {id : EntryId}

/-! ## What is seen -/

theorem increasing (h : q.Refines r) : Increasing r.entries := h.entries ▸ h.sound.increasing

theorem hasRoom (h : q.Refines r) : q.hasRoom = r.hasRoom := by
  rw [Queue.hasRoom, FlatQueue.hasRoom, h.sound.size, h.entries, h.capacity]

theorem find? (h : q.Refines r) (id : EntryId) : q.find? id = r.find? id := by
  apply Option.ext
  intro e
  rw [find?_eq_some_iff h.sound, FlatQueue.find?_eq_some_iff h.increasing, h.entries]

theorem drain (h : q.Refines r) : q.drain.1 = r.drain.1 ∧ q.drain.2.Refines r.drain.2 := by
  have sound := (drain_drains h.sound).sound
  obtain ⟨capacity, o | u⟩ := q
  · exact h.lists.elim
  · obtain ⟨left, drained, lists⟩ := UnorderedQueue.drain_alike capacity h.lists h.sound.wellFormed
      h.sound.increasing
    have same : r = ⟨capacity, UnorderedQueue.flat u.segments, r.marked⟩ := by
      rw [show capacity = r.capacity from h.capacity, show UnorderedQueue.flat u.segments = r.entries from h.entries]
    rw [← same] at drained
    rw [drained]
    exact ⟨rfl, sound, rfl, rfl, lists⟩

theorem hasReady (h : q.Refines r) : q.hasReady = r.hasReady := by
  rw [Bool.eq_iff_iff, hasReady_iff h.sound, h.drain.1]
  simp [FlatQueue.hasReady]

theorem view (h : q.Refines r) : q.view = r.view := by
  simp only [Queue.view, FlatQueue.view, h.entries, h.sound.size, h.hasRoom, h.hasReady, funext h.find?]

/-! ## What a call does -/

theorem put {e : Entry} (h : q.Refines r) (room : q.size < q.capacity) (new : q.New e) :
    (q.push e).Refines { r with entries := r.entries ++ [e] } where
  sound := h.sound.push new room
  capacity := h.capacity
  entries := by rw [toList_push h.sound new, h.entries]
  lists := by
    obtain ⟨capacity, o | u⟩ := q
    · exact h.lists.elim
    · cases e with
      | watermark id time => exact UnorderedQueue.Lists.pushWatermark h.lists
      | record e =>
        exact UnorderedQueue.Lists.pushRecord h.lists h.sound.wellFormed new.last (new.pending e rfl)

/-- Settling a record that is not there changes nothing. -/
theorem settle_of_absent (h : q.Refines r) (absent : q.find? id = none) (f : RecordEntry → RecordEntry) :
    q.settle id f = q := by
  have other := (find?_eq_none_iff h.sound).1 absent
  obtain ⟨capacity, o | u⟩ := q
  · exact h.lists.elim
  · have none' : ∀ s ∈ u.segments, s.holds id = false := by
      intro s hs
      rw [← Bool.not_eq_true, Segment.holds_iff (h.sound.wellFormed.keyed s hs)]
      rintro ⟨e, he, number⟩
      exact other e (List.mem_flatMap.2 ⟨s, hs, he⟩) number
    have segments : ((u.update id f).markCompleted id).segments = u.segments := by
      rw [UnorderedQueue.segments_settle, UnorderedQueue.updateSegment_of_absent none']
    change (⟨capacity, .unordered ⟨((u.update id f).markCompleted id).segments, u.size⟩⟩ : Queue) = _
    rw [segments]

theorem settle {slot : Slot} (h : q.Refines r) (final : slot.isFinal = true)
    (opened : ∀ e, r.find? id = some e → e.isDone = false) :
    (q.settle id (.given slot)).Refines (r.settle id slot) := by
  rw [FlatQueue.settle]
  split
  next absent =>
    rwa [h.settle_of_absent ((h.find? id).trans absent)]
  next e found =>
    obtain ⟨here, number⟩ := (FlatQueue.find?_eq_some_iff h.increasing).1 found
    rw [← h.entries] at here
    have pending : ∀ e', .record e' ∈ q.toList → e'.id = id →
        e'.isDone = false ∧ (e'.given slot).isDone = true := by
      intro e' he' number'
      have found' := (FlatQueue.find?_eq_some_iff h.increasing).2 ⟨h.entries ▸ he', number'⟩
      exact ⟨opened e' found', final⟩
    refine ⟨h.sound.settle (fun _ => rfl) pending, ?_, ?_, ?_⟩
    · obtain ⟨capacity, _ | _⟩ := q <;> exact h.capacity
    · rw [toList_settle h.sound, h.entries]
    · obtain ⟨capacity, o | u⟩ := q
      · exact h.lists.elim
      · have lists := UnorderedQueue.Lists.settle (f := .given slot) h.lists h.sound.wellFormed.keyed
          h.sound.increasing (fun _ => rfl) ⟨e, here, number⟩
        rw [← UnorderedQueue.segments_settle] at lists
        exact lists

theorem clear (h : q.Refines r) : q.clear.Refines { r with entries := [], marked := [] } where
  sound := .clear q
  capacity := h.capacity
  entries := toList_clear
  lists := by
    obtain ⟨capacity, o | u⟩ := q
    · exact h.lists.elim
    · exact ⟨by simp, by simp⟩

/-- Queues that hold the same answer an allowed call alike, and hold the same afterwards. -/
theorem perform {call : QueueCall} (h : q.Refines r) (allowed : r.allows call = true) :
    (q.perform call).1 = (r.perform call).1 ∧ (q.perform call).2.Refines (r.perform call).2 := by
  rw [FlatQueue.allows, Bool.and_eq_true] at allowed
  obtain ⟨proper, fits⟩ := allowed
  cases call with
  | put e =>
    simp only [FlatQueue.isOpenTo, List.all_eq_true, decide_eq_true_eq] at fits
    have new : q.New e := ⟨h.entries ▸ fits, fun e' eq => by
      simpa [eq, QueueCall.isProper, Entry.record?] using proper⟩
    rw [Queue.perform, FlatQueue.perform, Queue.put?, ← h.hasRoom]
    cases room : q.hasRoom with
    | true => exact ⟨rfl, h.put (of_decide_eq_true room) new⟩
    | false => exact ⟨rfl, h⟩
  | resolve id slot =>
    simp only [FlatQueue.isOpenTo, Option.all_eq_true, Bool.not_eq_true'] at fits
    exact ⟨congrArg QueueAnswer.found (h.find? id), h.settle proper fits⟩
  | drain => exact ⟨congrArg QueueAnswer.taken h.drain.1, h.drain.2⟩
  | clear => exact ⟨congrArg QueueAnswer.taken h.entries, h.clear⟩

theorem session {calls : List QueueCall} (h : q.Refines r) (allowed : r.allowsAll calls = true) :
    (AsyncStage.session Queue.perform q calls).1 = (AsyncStage.session FlatQueue.perform r calls).1 ∧
      (AsyncStage.session Queue.perform q calls).2.Refines (AsyncStage.session FlatQueue.perform r calls).2 := by
  induction calls generalizing q r with
  | nil => exact ⟨rfl, h⟩
  | cons call calls ih =>
    rw [FlatQueue.allowsAll, Bool.and_eq_true] at allowed
    obtain ⟨answer, next⟩ := h.perform allowed.1
    obtain ⟨answers, last⟩ := ih next allowed.2
    exact ⟨congrArg₂ List.cons answer answers, last⟩

end Refines

/-- **The unordered queue** answers every call as the flat queue does, and nothing that can be seen of the
two differs. Something may leave exactly when draining takes something out, and nothing may directly
after that. Among the allowed calls are all that are in order from the beginning. -/
theorem session_eq_flat (capacity : Nat) {calls : List QueueCall}
    (allowed : (⟨capacity, [], []⟩ : FlatQueue).allowsAll calls = true) :
    let queue := session perform (empty .unordered capacity) calls
    let flat := session FlatQueue.perform ⟨capacity, [], []⟩ calls
    queue.1 = flat.1 ∧ queue.2.view = flat.2.view ∧
      (queue.2.hasReady = true ↔ queue.2.drain.1 ≠ []) ∧ queue.2.drain.2.hasReady = false := by
  obtain ⟨answers, holds⟩ := (refines_empty capacity).session allowed
  exact ⟨answers, holds.view, hasReady_iff holds.sound, hasReady_drain _⟩

def dawn : Timestamp where
  secs := 0
  nanos := 0

/-- Behind the watermark a record is resolved before the one in front of it. -/
def overtaking : List QueueCall :=
  [.put (.record ⟨0, ⟨"first", none⟩, .epoch, .pending, {}, none, none⟩), .put (.watermark 1 dawn),
   .put (.record ⟨2, ⟨"second", none⟩, .epoch, .pending, {}, none, none⟩), .put (.watermark 3 dawn),
   .resolve 2 (.completed ["b"]), .drain, .resolve 0 (.completed ["a"]), .drain]

/-- The record that was resolved first has to wait, so the first draining yields nothing and the
second one everything that fitted in. -/
theorem session_eq_flat_overtaking : QueueCall.Orderly overtaking ∧
    (session perform (empty .unordered 3) overtaking).1 =
      [.accepted, .accepted, .accepted, .handedBack (.watermark 3 dawn),
       .found (some ⟨2, ⟨"second", none⟩, .epoch, .pending, {}, none, none⟩), .taken [],
       .found (some ⟨0, ⟨"first", none⟩, .epoch, .pending, {}, none, none⟩),
       .taken [.record ⟨0, ⟨"first", none⟩, .epoch, .completed ["a"], {}, none, none⟩, .watermark 1 dawn,
         .record ⟨2, ⟨"second", none⟩, .epoch, .completed ["b"], {}, none, none⟩]] ∧
    (session perform (empty .unordered 3) overtaking).2.view =
      (session FlatQueue.perform ⟨3, [], []⟩ overtaking).2.view := by
  have orderly : QueueCall.Orderly overtaking := {
    increasing := by simp [overtaking, Increasing, QueueCall.entry?, List.filterMap_cons]
    proper := by decide
    once := by decide }
  obtain ⟨answers, view, -⟩ := session_eq_flat 3 (FlatQueue.allowsAll_of_orderly 3 orderly)
  refine ⟨orderly, answers.trans ?_, view⟩
  decide +kernel

end Queue

end AsyncStage
