import AsyncStage.Proofs.Queue.Drain
import AsyncStage.Proofs.Queue.Ordered
import AsyncStage.Queue

/-!
# What the operations of a queue do

`Queue.Sound` is what holds of the queue of a stage in both modes. Under it every operation
is described by the list of entries: `find?` finds the record of a number, `update` changes
it in place, `settle` gives it a final result and notes that, and `drain` takes entries out
that are done, in an order that the mode allows.
-/

namespace AsyncStage

/-- The discipline of a mode is well formed. -/
def Discipline.WellFormed : Discipline → Prop
  | .ordered _ => True
  | .unordered u => UnorderedQueue.WellFormed u.segments

namespace Queue

/-- What holds of the queue of a stage: numbers grow, entries are counted and fit. -/
structure Sound (q : Queue) : Prop where
  increasing : Increasing q.toList
  size : q.size = q.toList.length
  fits : q.size ≤ q.capacity
  wellFormed : q.discipline.WellFormed

def mode (q : Queue) : OutputMode :=
  match q.discipline with
  | .ordered _ => .ordered
  | .unordered _ => .unordered

/-- The numbers of the resolved records that an unordered queue holds, run by run. -/
def readyIds (q : Queue) : List EntryId :=
  match q.discipline with
  | .ordered _ => []
  | .unordered u => UnorderedQueue.readyIds u.segments

/-- Gives the record entry `id` its final result and notes that. -/
def settle (q : Queue) (id : EntryId) (f : RecordEntry → RecordEntry) : Queue :=
  (q.update id f).markCompleted id

variable {q : Queue} {id : EntryId} {f : RecordEntry → RecordEntry}

/-! ## What stays the same -/

@[simp] theorem mode_update : (q.update id f).mode = q.mode := by
  obtain ⟨_, _ | _⟩ := q <;> rfl

@[simp] theorem mode_settle : (q.settle id f).mode = q.mode := by
  obtain ⟨_, _ | _⟩ := q <;> rfl

@[simp] theorem mode_push (e : Entry) : (q.push e).mode = q.mode := by
  obtain ⟨_, _ | _⟩ := q <;> rfl

@[simp] theorem mode_drain : q.drain.2.mode = q.mode := by
  obtain ⟨_, _ | _⟩ := q <;> rfl

@[simp] theorem mode_clear : q.clear.mode = q.mode := by
  obtain ⟨_, _ | _⟩ := q <;> rfl

@[simp] theorem clear_update : (q.update id f).clear = q.clear := by
  obtain ⟨_, _ | _⟩ := q <;> rfl

@[simp] theorem mode_empty (mode : OutputMode) (capacity : Nat) : (empty mode capacity).mode = mode := by
  cases mode <;> rfl

@[simp] theorem capacity_drain : q.drain.2.capacity = q.capacity := by
  obtain ⟨_, _ | _⟩ := q <;> rfl

@[simp] theorem capacity_clear : q.clear.capacity = q.capacity := rfl

@[simp] theorem size_update : (q.update id f).size = q.size := by
  obtain ⟨_, o | u⟩ := q
  · simp only [update, size, OrderedQueue.size, OrderedQueue.update]
    split <;> simp
  · rfl

@[simp] theorem size_settle : (q.settle id f).size = q.size := by
  rw [← @size_update q id f]
  obtain ⟨_, _ | _⟩ := q <;> rfl

@[simp] theorem size_push (e : Entry) : (q.push e).size = q.size + 1 := by
  obtain ⟨_, o | u⟩ := q
  · exact Array.size_push _
  · cases e <;> rfl

@[simp] theorem capacity_push (e : Entry) : (q.push e).capacity = q.capacity := rfl

/-! ## Records by number -/

theorem find?_eq_some_iff (h : q.Sound) {e : RecordEntry} :
    q.find? id = some e ↔ .record e ∈ q.toList ∧ e.id = id := by
  obtain ⟨capacity, o | u⟩ := q
  · exact OrderedQueue.find?_eq_some_iff h.increasing
  · exact UnorderedQueue.find?_eq_some_iff h.wellFormed.keyed h.increasing

theorem find?_of_mem (h : q.Sound) {e : RecordEntry} (here : .record e ∈ q.toList) : q.find? e.id = some e :=
  (find?_eq_some_iff h).2 ⟨here, rfl⟩

theorem find?_eq_none_iff (h : q.Sound) :
    q.find? id = none ↔ ∀ e, .record e ∈ q.toList → e.id ≠ id := by
  rw [Option.eq_none_iff_forall_ne_some]
  exact forall_congr' fun e => (not_congr (find?_eq_some_iff h)).trans not_and

theorem toList_update (h : q.Sound) (f : RecordEntry → RecordEntry) :
    (q.update id f).toList = q.toList.map (Entry.modify id f) := by
  obtain ⟨capacity, o | u⟩ := q
  · exact OrderedQueue.toList_update h.increasing id f
  · exact UnorderedQueue.toList_update h.wellFormed.keyed h.increasing f

theorem toList_settle (h : q.Sound) (f : RecordEntry → RecordEntry) :
    (q.settle id f).toList = q.toList.map (Entry.modify id f) := by
  obtain ⟨capacity, o | u⟩ := q
  · exact toList_update (q := ⟨capacity, .ordered o⟩) h f
  · apply (congrArg UnorderedQueue.flat (UnorderedQueue.segments_settle u)).trans
    exact UnorderedQueue.flat_settle h.wellFormed.keyed h.increasing

theorem increasing_modify {l : List Entry} (h : Increasing l) (hid : ∀ r, (f r).id = r.id) :
    Increasing (l.map (Entry.modify id f)) := by
  refine List.pairwise_map.2 (h.imp fun {a b} lt => ?_)
  rwa [Entry.id_modify hid, Entry.id_modify hid]

/-- Changing a record that stays open, or stays resolved, keeps the queue sound. -/
theorem Sound.update (h : q.Sound) (hid : ∀ r, (f r).id = r.id)
    (done : ∀ r, .record r ∈ q.toList → r.id = id → (f r).isDone = r.isDone) :
    (q.update id f).Sound where
  increasing := by
    rw [toList_update h]
    exact increasing_modify h.increasing hid
  size := by rw [toList_update h, List.length_map, size_update, h.size]
  fits := by
    rw [size_update]
    exact h.fits
  wellFormed := by
    obtain ⟨capacity, o | u⟩ := q
    · trivial
    · exact UnorderedQueue.WellFormed.update h.wellFormed hid done

/-- Giving an open record its final result keeps the queue sound. -/
theorem Sound.settle (h : q.Sound) (hid : ∀ r, (f r).id = r.id)
    (open' : ∀ r, .record r ∈ q.toList → r.id = id → r.isDone = false ∧ (f r).isDone = true) :
    (q.settle id f).Sound where
  increasing := by
    rw [toList_settle h]
    exact increasing_modify h.increasing hid
  size := by rw [toList_settle h, List.length_map, size_settle, h.size]
  fits := by
    rw [size_settle]
    exact h.fits
  wellFormed := by
    obtain ⟨capacity, o | u⟩ := q
    · trivial
    · have wf := UnorderedQueue.WellFormed.settle h.wellFormed hid open'
      rw [← UnorderedQueue.segments_settle] at wf
      exact wf

theorem readyIds_update : (q.update id f).readyIds = q.readyIds := by
  obtain ⟨capacity, o | u⟩ := q
  · rfl
  · exact UnorderedQueue.readyIds_update

/-- In unordered mode a resolved record is marked behind the others of its stretch. -/
theorem readyIds_settle (h : q.Sound) (mode : q.mode = .unordered) {lo hi : EntryId}
    (unbroken : Unbroken lo hi q.toList) (known : ∃ e, .record e ∈ q.toList ∧ e.id = id) :
    (q.settle id f).readyIds.filter (within lo hi) = (q.readyIds ++ [id]).filter (within lo hi) := by
  obtain ⟨capacity, o | u⟩ := q
  · cases mode
  · have marked := UnorderedQueue.readyIds_settle (f := f) h.wellFormed h.increasing unbroken known
    rw [← UnorderedQueue.segments_settle] at marked
    exact marked

/-! ## Entries that come and leave -/

theorem put?_eq_some_iff {q' : Queue} {e : Entry} :
    q.put? e = some q' ↔ q.size < q.capacity ∧ q' = q.push e := by
  simp [put?, hasRoom, eq_comm]

/-- The entry is numbered behind all others and, if it is a record, has no result yet. -/
structure New (q : Queue) (e : Entry) : Prop where
  last : ∀ e' ∈ q.toList, e'.id < e.id
  pending : ∀ r, e = .record r → r.isDone = false

theorem toList_push (h : q.Sound) {e : Entry} (new : q.New e) : (q.push e).toList = q.toList ++ [e] := by
  obtain ⟨capacity, o | u⟩ := q
  · exact OrderedQueue.toList_push o e
  · cases e with
    | watermark i t => exact List.flatMap_append.trans (by simp [Segment.toList, toList, UnorderedQueue.toList])
    | record r => exact UnorderedQueue.flat_pushRecord h.wellFormed new.last

theorem Sound.push (h : q.Sound) {e : Entry} (new : q.New e) (room : q.size < q.capacity) :
    (q.push e).Sound where
  increasing := by
    rw [toList_push h new]
    exact List.pairwise_append.2 ⟨h.increasing, List.pairwise_singleton _ _, by simpa using new.last⟩
  size := by simp [toList_push h new, h.size]
  fits := by
    rw [size_push, capacity_push]
    exact room
  wellFormed := by
    obtain ⟨capacity, o | u⟩ := q
    · trivial
    · cases e with
      | watermark i t => exact UnorderedQueue.WellFormed.pushWatermark h.wellFormed
      | record r => exact UnorderedQueue.WellFormed.pushRecord h.wellFormed new.last

theorem readyIds_push {e : Entry} (new : q.New e) : (q.push e).readyIds = q.readyIds := by
  obtain ⟨capacity, o | u⟩ := q
  · rfl
  · cases e with
    | watermark i t =>
      exact List.flatMap_append.trans (by simp [Segment.ready, readyIds, UnorderedQueue.readyIds])
    | record r => exact UnorderedQueue.readyIds_pushRecord (new.pending r rfl)

/-- What draining takes out of a queue and what it leaves. -/
structure Drains (q : Queue) (drained : List Entry) (left : Queue) : Prop where
  perm : (drained ++ left.toList).Perm q.toList
  stays : left.toList.Sublist q.toList
  before : (drained ++ left.toList).Pairwise (Entry.Before q.mode)
  done : ∀ e ∈ drained, e.isDone = true
  ready : q.mode = .unordered → recordIds drained ++ left.readyIds = q.readyIds
  sound : left.Sound

theorem drain_drains (h : q.Sound) : q.Drains q.drain.1 q.drain.2 := by
  obtain ⟨capacity, o | u⟩ := q
  · have parts := o.drain_append
    have stays : o.drain.2.toList.Sublist o.toList := parts ▸ List.sublist_append_right _ _
    exact {
      perm := .of_eq parts
      stays := stays
      before := parts ▸ h.increasing
      done := fun e he => OrderedQueue.isDone_of_mem_drain he
      ready := fun mode => by cases mode
      sound := ⟨List.Pairwise.sublist stays h.increasing, rfl, stays.length_le.trans h.fits, trivial⟩ }
  · have out := UnorderedQueue.drainSegments_drained h.wellFormed h.increasing
    have size : u.size = u.toList.length := h.size
    have total : (UnorderedQueue.drainSegments u.segments).1.length +
        (UnorderedQueue.flat (UnorderedQueue.drainSegments u.segments).2).length = u.size := by
      rw [← List.length_append, out.perm.length_eq, size]
      rfl
    have left : u.drain.2.size = (UnorderedQueue.flat (UnorderedQueue.drainSegments u.segments).2).length := by
      change u.size - (UnorderedQueue.drainSegments u.segments).1.length = _
      omega
    exact {
      perm := out.perm
      stays := out.stays
      before := out.before
      done := out.done
      ready := fun _ => out.ready
      sound := ⟨List.Pairwise.sublist out.stays h.increasing, left,
        (Nat.sub_le _ _).trans h.fits, out.wellFormed⟩ }

theorem hasReady_drain (q : Queue) : q.drain.2.hasReady = false := by
  obtain ⟨capacity, o | u⟩ := q
  · exact o.hasReady_drain
  · exact u.hasReady_drain

/-! ## Empty queues -/

@[simp] theorem toList_clear : q.clear.toList = [] := by
  obtain ⟨_, _ | _⟩ := q <;> rfl

@[simp] theorem toList_empty (mode : OutputMode) (capacity : Nat) : (empty mode capacity).toList = [] := by
  cases mode <;> rfl

theorem Sound.clear (q : Queue) : q.clear.Sound := by
  obtain ⟨capacity, o | u⟩ := q
  · exact ⟨.nil, rfl, Nat.zero_le _, trivial⟩
  · exact ⟨.nil, rfl, Nat.zero_le _, ⟨by simp, by simp, .nil⟩⟩

theorem Sound.empty (mode : OutputMode) (capacity : Nat) : (empty mode capacity).Sound := by
  cases mode
  · exact ⟨.nil, rfl, Nat.zero_le _, trivial⟩
  · exact ⟨.nil, rfl, Nat.zero_le _, ⟨by simp, by simp, .nil⟩⟩

theorem isEmpty_iff (h : q.Sound) : q.isEmpty = true ↔ q.toList = [] := by
  rw [isEmpty, h.size]
  simp

end Queue

end AsyncStage
