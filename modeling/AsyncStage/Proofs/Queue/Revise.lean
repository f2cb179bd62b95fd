import AsyncStage.Proofs.Queue.Ready

/-!
# Changing records before and after draining

A record without a result is not in the way of those that may leave: they leave whether it is
changed before or after, and what the change lets leave comes behind them. So draining before a
change, and again after it, takes out the same entries in the same order as draining once at the end.
Changes of two records may be made in either order if one of them gives no result.
-/

namespace AsyncStage

variable {id i j : EntryId} {f g : RecordEntry → RecordEntry} {final : Bool}

namespace Table

variable {β : Type} {t : Table EntryId β} {f g : β → β}

theorem modify_modify (t : Table EntryId β) (i : EntryId) (f g : β → β) :
    (t.modify i f).modify i g = t.modify i fun v => g (f v) := by
  apply Table.ext
  simp only [toList_modify, List.map_map]
  apply List.map_congr_left
  intro p _
  simp only [Function.comp]
  split <;> rfl

theorem modify_comm (ne : i ≠ j) : (t.modify i f).modify j g = (t.modify j g).modify i f := by
  apply Table.ext
  simp only [toList_modify, List.map_map]
  apply List.map_congr_left
  intro p _
  by_cases first : p.1 = i
  · have second : p.1 ≠ j := first ▸ ne
    simp [Function.comp, first, first ▸ second]
  · simp [Function.comp, first]

theorem get?_modify_of_ne (ne : i ≠ j) : (t.modify i f).get? j = t.get? j := by
  apply Option.ext
  intro v
  rw [get?_eq_some_iff, get?_eq_some_iff, toList_modify, List.mem_map]
  constructor
  · rintro ⟨p, hp, same⟩
    obtain ⟨rfl, rfl⟩ := Prod.mk.inj same
    rw [if_neg (Ne.symm ne)]
    exact hp
  · intro hp
    exact ⟨_, hp, by rw [if_neg (Ne.symm ne)]⟩

theorem erase_modify (t : Table EntryId β) (i j : EntryId) (f : β → β) :
    (t.modify i f).erase j = (t.erase j).modify i f := by
  apply Table.ext
  simp only [toList_modify, toList_erase, List.filter_map]
  rfl

theorem contains_erase_of_ne (ne : i ≠ j) : (t.erase j).contains i = t.contains i := by
  rw [Bool.eq_iff_iff, contains_iff, contains_iff]
  simp [toList_erase, ne]

end Table

namespace OrderedQueue

variable {o o' : OrderedQueue} {e : RecordEntry}

theorem increasing_update (h : Increasing o.toList) (hid : ∀ r, (f r).id = r.id) :
    Increasing (o.update id f).toList := by
  rw [toList_update h]
  exact Queue.increasing_modify h hid

/-- Two changes of one record are one. -/
theorem update_update (h : Increasing o.toList) (hid : ∀ r, (f r).id = r.id) :
    (o.update id f).update id g = o.update id fun r => g (f r) := by
  apply ext
  rw [toList_update (increasing_update h hid), toList_update h, toList_update h, List.map_map]
  apply List.map_congr_left
  intro a _
  cases a with
  | watermark => simp
  | record r => by_cases here : r.id = id <;> simp [Entry.modify_record, here, hid]

/-- Changes of two records may be made in either order. -/
theorem update_comm (h : Increasing o.toList) (ne : i ≠ j) (hf : ∀ r, (f r).id = r.id) (hg : ∀ r, (g r).id = r.id) :
    (o.update j g).update i f = (o.update i f).update j g := by
  apply ext
  rw [toList_update (increasing_update h hg), toList_update (increasing_update h hf), toList_update h,
    toList_update h, List.map_map, List.map_map]
  apply List.map_congr_left
  intro a _
  simp only [Function.comp]
  by_cases first : a.id = i
  · have second : a.id ≠ j := first ▸ ne
    have second' : (a.modify i f).id ≠ j := by rwa [Entry.id_modify hf]
    rw [Entry.modify_of_ne second, Entry.modify_of_ne second']
  · have first' : (a.modify j g).id ≠ i := by rwa [Entry.id_modify hg]
    rw [Entry.modify_of_ne first, Entry.modify_of_ne first']

/-- Entries in front that may leave are drained first. -/
theorem drain_of_append {l : List Entry} (done : ∀ a ∈ l, a.isDone = true) (split : o.toList = l ++ o'.toList) :
    o.drain = (l ++ o'.drain.1, o'.drain.2) := by
  simp only [drain, split, List.takeWhile_append_of_pos done, List.dropWhile_append_of_pos done]

/-- **Draining before a change of a record without a result** makes no difference once everything is drained. -/
theorem drain_update (h : Increasing o.toList) (here : .record e ∈ o.toList) (opened : e.isDone = false) :
    (o.update e.id f).drain =
      (o.drain.1 ++ (o.drain.2.update e.id f).drain.1, (o.drain.2.update e.id f).drain.2) := by
  have left : Increasing o.drain.2.toList := by
    rw [← o.drain_append] at h
    exact (List.pairwise_append.1 h).2.1
  have untouched : o.drain.1.map (Entry.modify e.id f) = o.drain.1 := by
    refine (List.map_congr_left fun a taken => Entry.modify_of_ne fun same => ?_).trans (List.map_id _)
    have done := isDone_of_mem_drain taken
    rw [h.eq_of_id_eq ((List.takeWhile_sublist _).subset taken) here same] at done
    exact Bool.false_ne_true (opened.symm.trans done)
  have split : (o.update e.id f).toList = o.drain.1 ++ (o.drain.2.update e.id f).toList :=
    calc (o.update e.id f).toList
      _ = o.toList.map (Entry.modify e.id f) := toList_update h _ _
      _ = (o.drain.1 ++ o.drain.2.toList).map (Entry.modify e.id f) := by rw [o.drain_append]
      _ = o.drain.1 ++ o.drain.2.toList.map (Entry.modify e.id f) := by rw [List.map_append, untouched]
      _ = o.drain.1 ++ (o.drain.2.update e.id f).toList := by rw [toList_update left]
  exact drain_of_append (fun _ => isDone_of_mem_drain) split

end OrderedQueue

namespace UnorderedQueue

variable {segments : List Segment} {entries : Table EntryId RecordEntry} {ready extra : List EntryId}

/-! ## Taking out what is ready -/

theorem takeReady_append (entries : Table EntryId RecordEntry) (ready extra : List EntryId) :
    takeReady entries (ready ++ extra) =
      ((takeReady entries ready).1 ++ (takeReady (takeReady entries ready).2 extra).1,
        (takeReady (takeReady entries ready).2 extra).2) := by
  induction ready generalizing entries with
  | nil => rfl
  | cons i ready ih => simp only [List.cons_append, takeReady, ih, List.append_assoc]

/-- What is ready leaves whether another record is changed before or after. -/
theorem takeReady_modify (entries : Table EntryId RecordEntry) (waits : id ∉ ready) :
    takeReady (entries.modify id f) ready =
      ((takeReady entries ready).1, (takeReady entries ready).2.modify id f) := by
  induction ready generalizing entries with
  | nil => rfl
  | cons i ready ih =>
    have ne := List.ne_of_not_mem_cons waits
    have later := List.not_mem_of_not_mem_cons waits
    simp only [takeReady, Table.erase_modify, ih _ later, Table.get?_modify_of_ne ne]

theorem contains_takeReady (entries : Table EntryId RecordEntry) (waits : id ∉ ready) :
    (takeReady entries ready).2.contains id = entries.contains id := by
  induction ready generalizing entries with
  | nil => rfl
  | cons i ready ih =>
    have ne := List.ne_of_not_mem_cons waits
    have later := List.not_mem_of_not_mem_cons waits
    rw [takeReady, ih _ later, Table.contains_erase_of_ne ne]

theorem not_contains_takeReady (entries : Table EntryId RecordEntry) (ready : List EntryId)
    (absent : entries.contains id = false) : (takeReady entries ready).2.contains id = false := by
  induction ready generalizing entries with
  | nil => exact absent
  | cons i ready ih =>
    apply ih
    rw [← Bool.not_eq_true, Table.contains_iff] at absent ⊢
    rintro ⟨v, listed⟩
    rw [Table.toList_erase] at listed
    exact absent ⟨v, List.mem_of_mem_filter listed⟩

/-! ## Segments -/

/-- Changes a record of a run and adds to what is ready. -/
def reviseRun (id : EntryId) (f : RecordEntry → RecordEntry) (extra : List EntryId) : Segment → Segment
  | .records entries ready => .records (entries.modify id f) (ready ++ extra)
  | .watermark i t => .watermark i t

theorem holds_reviseRun (i : EntryId) (s : Segment) : (reviseRun id f extra s).holds i = s.holds i := by
  cases s with
  | watermark => rfl
  | records entries ready => exact contains_modify i

/-- Changes of segments that agree may be made in either order. -/
theorem updateSegment_comm {a b : Segment → Segment} (ha : ∀ k s, (a s).holds k = s.holds k)
    (hb : ∀ k s, (b s).holds k = s.holds k) (same : ∀ s, a (b s) = b (a s)) (segments : List Segment) :
    updateSegment i a (updateSegment j b segments) = updateSegment j b (updateSegment i a segments) := by
  induction segments with
  | nil => rfl
  | cons s rest ih =>
    by_cases first : s.holds i = true <;> by_cases second : s.holds j = true <;>
      simp [updateSegment, first, second, ha, hb, same, ih]

theorem updateSegment_updateSegment {a b : Segment → Segment} (hb : ∀ k s, (b s).holds k = s.holds k)
    (segments : List Segment) :
    updateSegment i a (updateSegment i b segments) = updateSegment i (fun s => a (b s)) segments := by
  induction segments with
  | nil => rfl
  | cons s rest ih => by_cases here : s.holds i = true <;> simp [updateSegment, here, hb, ih]

/-- **Draining before a change of a waiting record** makes no difference once everything is drained. -/
theorem drainSegments_revise (waits : ∀ s ∈ segments, s.holds id = true → id ∉ s.ready) :
    drainSegments (updateSegment id (reviseRun id f extra) segments) =
      ((drainSegments segments).1 ++
          (drainSegments (updateSegment id (reviseRun id f extra) (drainSegments segments).2)).1,
        (drainSegments (updateSegment id (reviseRun id f extra) (drainSegments segments).2)).2) := by
  induction segments with
  | nil => rfl
  | cons s rest ih =>
    have later := ih fun s hs => waits s (List.mem_cons_of_mem _ hs)
    cases s with
    | watermark i t =>
      simp only [updateSegment, Segment.holds, Bool.false_eq_true, if_false, drainSegments, later, List.cons_append]
    | records entries ready =>
      cases here : entries.contains id with
      | true =>
        have apart : id ∉ ready := waits _ List.mem_cons_self here
        have left := contains_takeReady entries apart
        rw [here] at left
        have some' : (takeReady entries ready).2.isEmpty = false := by
          obtain ⟨v, listed⟩ := Table.contains_iff.1 left
          rw [← Bool.not_eq_true, Table.isEmpty_iff]
          exact List.ne_nil_of_mem listed
        simp only [updateSegment, Segment.holds, here, left, if_true, reviseRun, drainSegments, takeReady_append,
          takeReady_modify entries apart, some', Bool.false_eq_true, if_false, List.nil_append]
        split <;> simp only [List.append_assoc]
      | false =>
        have left := not_contains_takeReady entries ready here
        cases gone : (takeReady entries ready).2.isEmpty with
        | true =>
          simp only [updateSegment, Segment.holds, here, Bool.false_eq_true, if_false, drainSegments, gone, if_true,
            later, List.append_assoc]
        | false =>
          simp only [updateSegment, Segment.holds, here, left, Bool.false_eq_true, if_false, drainSegments, gone,
            takeReady, List.append_nil]

/-- A record without a result is not among those that may leave. -/
theorem not_mem_ready {e : RecordEntry} (h : WellFormed segments) (increasing : Increasing (flat segments))
    (here : .record e ∈ flat segments) (opened : e.isDone = false) : ∀ s ∈ segments, e.id ∉ s.ready := by
  intro s hs marked
  cases s with
  | watermark => cases marked
  | records entries ready =>
    obtain ⟨e', listed, done⟩ := ((h.marked _ hs).2.2 e.id).1 marked
    have there : .record e' ∈ flat segments :=
      List.mem_flatMap.2 ⟨_, hs, Segment.mem_toList_records.2 ⟨_, listed, rfl⟩⟩
    rw [increasing.record_eq there here (h.keyed _ hs _ listed), opened] at done
    cases done

end UnorderedQueue

namespace Queue

variable {q : Queue} {e : RecordEntry}

/-- Changes the record entry with this number, and notes that it has its final result if so. -/
def revise (q : Queue) (id : EntryId) (f : RecordEntry → RecordEntry) (final : Bool) : Queue :=
  if final then q.settle id f else q.update id f

theorem revise_unordered (capacity : Nat) (u : UnorderedQueue) :
    revise ⟨capacity, .unordered u⟩ id f final = ⟨capacity, .unordered
      ⟨UnorderedQueue.updateSegment id (UnorderedQueue.reviseRun id f (if final then [id] else [])) u.segments,
        u.size⟩⟩ := by
  cases final with
  | false =>
    have same : UnorderedQueue.reviseRun id f [] = UnorderedQueue.updateRun id f := by
      funext s
      cases s <;> simp [UnorderedQueue.reviseRun, UnorderedQueue.updateRun]
    simp only [Bool.false_eq_true, if_false, same]
    rfl
  | true =>
    have same : UnorderedQueue.reviseRun id f [id] = UnorderedQueue.settleRun id f := by
      funext s
      cases s <;> rfl
    simp only [if_true, same, ← UnorderedQueue.segments_settle]
    rfl

theorem revise_ordered (capacity : Nat) (o : OrderedQueue) :
    revise ⟨capacity, .ordered o⟩ id f final = ⟨capacity, .ordered (o.update id f)⟩ := by
  cases final <;> rfl

/-- Two changes of one record are one. -/
theorem revise_update (h : q.Sound) (hid : ∀ r, (f r).id = r.id) :
    (q.update id f).revise id g final = q.revise id (fun r => g (f r)) final := by
  obtain ⟨capacity, o | u⟩ := q
  · rw [revise_ordered, ← OrderedQueue.update_update h.increasing hid]
    exact revise_ordered capacity _
  · have first : update ⟨capacity, .unordered u⟩ id f = revise ⟨capacity, .unordered u⟩ id f false := rfl
    rw [first, revise_unordered, revise_unordered, revise_unordered,
      UnorderedQueue.updateSegment_updateSegment UnorderedQueue.holds_reviseRun]
    congr
    funext s
    cases s with
    | watermark => rfl
    | records entries ready => simp [UnorderedQueue.reviseRun, Table.modify_modify]

/-- **Changes of two records** may be made in either order if one of them gives no result. -/
theorem revise_comm (h : q.Sound) (ne : i ≠ j) (hf : ∀ r, (f r).id = r.id) (hg : ∀ r, (g r).id = r.id) :
    (q.update j g).revise i f final = (q.revise i f final).update j g := by
  obtain ⟨capacity, o | u⟩ := q
  · rw [revise_ordered]
    refine (revise_ordered capacity _).trans ?_
    rw [OrderedQueue.update_comm h.increasing ne hf hg]
    rfl
  · have plain : ∀ q : Queue, q.update j g = q.revise j g false := fun _ => rfl
    rw [plain, plain, revise_unordered, revise_unordered, revise_unordered, revise_unordered]
    congr 3
    apply UnorderedQueue.updateSegment_comm UnorderedQueue.holds_reviseRun UnorderedQueue.holds_reviseRun
    intro s
    cases s with
    | watermark => rfl
    | records entries ready => simp [UnorderedQueue.reviseRun, Table.modify_comm ne]

/-- **Draining before a change of a record without a result**, and once more after it, is draining once
after it. -/
theorem drain_revise (h : q.Sound) (here : .record e ∈ q.toList) (opened : e.isDone = false) :
    (q.revise e.id f final).drain =
      (q.drain.1 ++ (q.drain.2.revise e.id f final).drain.1, (q.drain.2.revise e.id f final).drain.2) := by
  obtain ⟨capacity, o | u⟩ := q
  · rw [revise_ordered]
    change ((o.update e.id f).drain.1, (⟨capacity, .ordered (o.update e.id f).drain.2⟩ : Queue)) =
      (o.drain.1 ++ (drain (revise ⟨capacity, .ordered o.drain.2⟩ e.id f final)).1,
        (drain (revise ⟨capacity, .ordered o.drain.2⟩ e.id f final)).2)
    rw [revise_ordered, OrderedQueue.drain_update h.increasing here opened]
    rfl
  · have waits := UnorderedQueue.not_mem_ready h.wellFormed h.increasing here opened
    have parts : UnorderedQueue.drainSegments (UnorderedQueue.updateSegment e.id
        (UnorderedQueue.reviseRun e.id f (if final then [e.id] else [])) u.segments) = _ :=
      UnorderedQueue.drainSegments_revise fun s hs _ => waits s hs
    rw [revise_unordered]
    change ((UnorderedQueue.drainSegments _).1, (⟨capacity, .unordered ⟨(UnorderedQueue.drainSegments _).2,
      u.size - (UnorderedQueue.drainSegments _).1.length⟩⟩ : Queue)) = (u.drain.1 ++
        (drain (revise ⟨capacity, .unordered u.drain.2⟩ e.id f final)).1,
        (drain (revise ⟨capacity, .unordered u.drain.2⟩ e.id f final)).2)
    rw [revise_unordered, parts]
    simp only [drain, UnorderedQueue.drain, List.length_append, Nat.sub_sub]

end Queue

end AsyncStage
