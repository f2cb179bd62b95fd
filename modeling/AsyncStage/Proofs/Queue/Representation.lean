import AsyncStage.Proofs.Queue.Refinement

/-!
# How an unordered queue is stored

`UnorderedQueue.Reached` are the queues that come of an empty one when entries are put in with growing numbers,
records are given their results, and what may leave is taken out. Such a queue is stored as it is meant to be:
its segments are well formed, its numbers grow from segment to segment, and its size is the number of its
entries. So draining never takes out more entries than were counted, and whether anything may leave is never
decided by a run without records, because there is none.
-/

namespace AsyncStage.UnorderedQueue

/-- Gives the record its result and notes that it has one. -/
def resolve (q : UnorderedQueue) (id : EntryId) (slot : Slot) : UnorderedQueue :=
  (q.update id (.given slot)).markCompleted id

/-- The queues that can be reached from an empty one. All numbers put in so far, also of entries that have left,
are less than `next`. -/
inductive Reached : (next : EntryId) → UnorderedQueue → Prop where
  | empty : Reached 0 {}
  /-- The record may have its result already; then it counts as resolved. -/
  | push {next : EntryId} {q : UnorderedQueue} (e : Entry) (new : next ≤ e.id) :
      Reached next q → Reached (e.id + 1) (q.push e)
  /-- Something else about a record changes. -/
  | revise {next : EntryId} {q : UnorderedQueue} (id : EntryId) (f : RecordEntry → RecordEntry)
      (same : ∀ r, (f r).id = r.id) (still : ∀ r, (f r).slot = r.slot) : Reached next q → Reached next (q.update id f)
  /-- A record that has no result gets one. If there is no such record, nothing happens. -/
  | resolve {next : EntryId} {q : UnorderedQueue} (id : EntryId) (slot : Slot) (final : slot.isFinal = true)
      (once : ∀ r, q.find? id = some r → r.isDone = false) : Reached next q → Reached next (q.resolve id slot)
  | drain {next : EntryId} {q : UnorderedQueue} : Reached next q → Reached next q.drain.2
  | clear {next : EntryId} {q : UnorderedQueue} : Reached next q → Reached next {}

/-- A queue is stored as it is meant to be. -/
structure Intact (q : UnorderedQueue) : Prop where
  wellFormed : WellFormed q.segments
  increasing : Increasing q.toList
  size : q.size = q.toList.length

namespace Intact

variable {q : UnorderedQueue} {id : EntryId}

theorem empty : Intact {} where
  wellFormed := ⟨by simp, by simp, .nil⟩
  increasing := .nil
  size := rfl

/-- With enough room the queue is sound as that of a stage. -/
theorem sound (h : q.Intact) : (⟨q.size, .unordered q⟩ : Queue).Sound :=
  ⟨h.increasing, h.size, Nat.le_refl _, h.wellFormed⟩

theorem of_sound {capacity : Nat} (h : (⟨capacity, .unordered q⟩ : Queue).Sound) : q.Intact :=
  ⟨h.wellFormed, h.increasing, h.size⟩

/-- An entry is put in behind all others. -/
theorem toList_push (h : q.Intact) {e : Entry} (last : ∀ e' ∈ q.toList, e'.id < e.id) :
    (q.push e).toList = q.toList ++ [e] := by
  cases e with
  | watermark i t => exact List.flatMap_append.trans (by simp [Segment.toList, toList])
  | record r => exact flat_pushRecord h.wellFormed last

theorem push (h : q.Intact) {e : Entry} (last : ∀ e' ∈ q.toList, e'.id < e.id) : (q.push e).Intact where
  wellFormed := by
    cases e with
    | watermark i t => exact h.wellFormed.pushWatermark
    | record r => exact h.wellFormed.pushRecord last
  increasing := by
    rw [h.toList_push last]
    exact List.pairwise_append.2 ⟨h.increasing, List.pairwise_singleton _ _, by simpa using last⟩
  size := by
    have counted : (q.push e).size = q.size + 1 := by cases e <;> rfl
    rw [counted, h.toList_push last, List.length_append, List.length_singleton, h.size]

theorem revise (h : q.Intact) {f : RecordEntry → RecordEntry} (same : ∀ r, (f r).id = r.id)
    (still : ∀ r, (f r).slot = r.slot) : (q.update id f).Intact :=
  of_sound (h.sound.update same fun r _ _ => congrArg Slot.isFinal (still r))

theorem resolve (h : q.Intact) {slot : Slot} (final : slot.isFinal = true)
    (once : ∀ r, q.find? id = some r → r.isDone = false) : (q.resolve id slot).Intact := by
  refine of_sound (h.sound.settle (RecordEntry.id_given slot) fun r here same => ⟨once r ?_, final⟩)
  exact (find?_eq_some_iff h.wellFormed.keyed h.increasing).2 ⟨here, same⟩

theorem toList_resolve (h : q.Intact) (slot : Slot) :
    (q.resolve id slot).toList = q.toList.map (Entry.modify id (.given slot)) := Queue.toList_settle h.sound _

theorem drain (h : q.Intact) : q.drain.2.Intact := of_sound (Queue.drain_drains h.sound).sound

/-- Draining takes out no more entries than there are. -/
theorem length_drain_le (h : q.Intact) : q.drain.1.length ≤ q.size := by
  have parts := (Queue.drain_drains h.sound).perm.length_eq
  rw [List.length_append] at parts
  rw [h.size]
  exact (Nat.le_add_right _ _).trans_eq parts

variable {entries : Table EntryId RecordEntry} {ready : List EntryId} {rest : List Segment}

/-- A run at the head has records. -/
theorem isEmpty_head (h : q.Intact) (head : q.segments = .records entries ready :: rest) :
    entries.isEmpty = false := by
  have marked := h.wellFormed.marked _ (head ▸ List.mem_cons_self)
  exact Bool.eq_false_iff.2 fun empty => marked.1 (Table.isEmpty_iff.1 empty)

/-- With a run at the head, something may leave if one of its records is resolved, and only then. -/
theorem hasReady_head (h : q.Intact) (head : q.segments = .records entries ready :: rest) :
    q.hasReady = !ready.isEmpty := by
  rw [hasReady, head]
  simp [h.isEmpty_head head]

end Intact

namespace Reached

variable {next : EntryId} {q : UnorderedQueue}

theorem below_modify {l : List Entry} {id : EntryId} {f : RecordEntry → RecordEntry} (same : ∀ r, (f r).id = r.id)
    (below : ∀ e ∈ l, e.id < next) : ∀ e ∈ l.map (Entry.modify id f), e.id < next :=
  List.forall_mem_map.2 fun e here => (Entry.id_modify same e).symm ▸ below e here

/-- What is reached is intact, and the numbers in it have been put in. -/
theorem intact_below (reached : Reached next q) : q.Intact ∧ ∀ e ∈ q.toList, e.id < next := by
  induction reached with
  | empty => exact ⟨.empty, fun e here => absurd here List.not_mem_nil⟩
  | @push next q e new _ ih =>
    have last : ∀ e' ∈ q.toList, e'.id < e.id := fun e' here => (ih.2 e' here).trans_le new
    refine ⟨ih.1.push last, ?_⟩
    rw [ih.1.toList_push last]
    simp only [List.mem_append, List.mem_singleton]
    rintro e' (old | rfl)
    · exact (last e' old).trans (Nat.lt_succ_self _)
    · exact Nat.lt_succ_self _
  | revise id f same still _ ih =>
    refine ⟨ih.1.revise same still, ?_⟩
    rw [toList_update ih.1.wellFormed.keyed ih.1.increasing f]
    exact below_modify same ih.2
  | resolve id slot final once _ ih =>
    refine ⟨ih.1.resolve final once, ?_⟩
    rw [ih.1.toList_resolve]
    exact below_modify (RecordEntry.id_given slot) ih.2
  | drain _ ih => exact ⟨ih.1.drain, fun e here => ih.2 e ((Queue.drain_drains ih.1.sound).stays.subset here)⟩
  | clear _ ih => exact ⟨.empty, fun e here => absurd here List.not_mem_nil⟩

end Reached

/-- A queue is intact, and what the operations take for granted of it is so. -/
structure Represented (q : UnorderedQueue) : Prop extends Intact q where
  /-- What is drained can be taken off the size. -/
  enough : q.drain.1.length ≤ q.size
  head : ∀ entries ready rest, q.segments = .records entries ready :: rest →
    entries.isEmpty = false ∧ q.hasReady = !ready.isEmpty

/-- **The representation of an unordered queue.** Whatever is done with the queue, its runs have records and
stand apart, each lists as ready the resolved ones of its records, each of them once, the numbers grow along
the queue, and its size is the number of its entries. Draining takes out no more than that, and there is never
a run without records that could be at the head. -/
theorem represented {next : EntryId} {q : UnorderedQueue} (reached : Reached next q) : q.Represented := by
  have intact := reached.intact_below.1
  exact {
    toIntact := intact
    enough := intact.length_drain_le
    head := fun _ _ _ head => ⟨intact.isEmpty_head head, intact.hasReady_head head⟩ }

/-- A record as it is put in. -/
def fresh (id : EntryId) (slot : Slot) : Entry := .record { id, slot, record := ⟨"a", none⟩, enqueuedAt := .epoch }

/-- Two records in front of a watermark and two behind it, of which one came with its result. -/
def filled : UnorderedQueue :=
  [fresh 0 .pending, fresh 1 .pending, .watermark 2 Queue.dawn, fresh 3 (.completed ["b"]), fresh 5 .pending].foldl
    push {}

/-- The second one of each two has been resolved, and what may leave has left. -/
def halfDrained : UnorderedQueue := ((filled.resolve 5 (.completed ["b"])).resolve 1 (.completed [])).drain.2

/-- The record in front holds up the others, both of which are ready. -/
theorem represented_halfDrained : Reached 6 halfDrained ∧ halfDrained.Represented ∧ halfDrained.size = 4 ∧
    halfDrained.segments.map Segment.ready = [[], [], [3, 5]] ∧ halfDrained.hasReady = false := by
  have front := (Reached.empty.push (fresh 0 .pending) (by decide)).push (fresh 1 .pending) (by decide)
  have behind := (front.push (.watermark 2 Queue.dawn) (by decide)).push (fresh 3 (.completed ["b"])) (by decide)
  have put : Reached 6 filled := behind.push (fresh 5 .pending) (by decide)
  have reached : Reached 6 halfDrained := by
    refine (Reached.resolve 1 _ rfl ?_ (.resolve 5 _ rfl ?_ put)).drain
    · decide +kernel
    · decide +kernel
  exact ⟨reached, represented reached, by decide +kernel, by decide +kernel, by decide +kernel⟩

end AsyncStage.UnorderedQueue
