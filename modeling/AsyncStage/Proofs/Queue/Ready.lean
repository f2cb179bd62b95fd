import AsyncStage.Proofs.Queue.Sound
import Mathlib.Data.List.TakeWhile

/-!
# Queues of which nothing may leave

A queue that was drained starts with an entry that has to wait, and this is never a watermark. Draining
it again changes nothing.
-/

namespace AsyncStage

namespace UnorderedQueue

variable {segments : List Segment} {entries : Table EntryId RecordEntry} {ready : List EntryId}

/-- A run with records begins with a record. -/
theorem isWatermark_run (some' : entries.toList ≠ []) :
    ∀ e ∈ (flat (.records entries ready :: segments)).head?, e.isWatermark = false := by
  obtain ⟨p, l, list⟩ := List.exists_cons_of_ne_nil some'
  intro e first
  simp only [flat, List.flatMap_cons, Segment.toList, Table.values, list, List.map_cons, List.cons_append,
    List.head?_cons, Option.mem_def, Option.some.injEq] at first
  subst first
  rfl

/-- Behind a run stands a watermark. -/
theorem isWatermark_behind (wellFormed : WellFormed (.records entries ready :: segments)) :
    ∀ e ∈ (flat segments).head?, e.isWatermark = true := by
  cases segments with
  | nil => simp [flat]
  | cons s rest =>
    cases s with
    | watermark id time =>
      intro e first
      obtain rfl := Option.some.inj first
      rfl
    | records => simpa [Segment.Apart, Segment.isRun] using (List.isChain_cons_cons.1 wellFormed.apart).1

/-- The records of a run are what stands before the first watermark. -/
theorem takeWhile_run (wellFormed : WellFormed (.records entries ready :: segments)) :
    (flat (.records entries ready :: segments)).takeWhile (!·.isWatermark) =
      (Segment.records entries ready).toList := by
  have records : ∀ e ∈ (Segment.records entries ready).toList, (!e.isWatermark) = true := by
    intro e he
    obtain ⟨p, -, rfl⟩ := Segment.mem_toList_records.1 he
    rfl
  have behind := isWatermark_behind wellFormed
  rw [flat_cons, List.takeWhile_append_of_pos records]
  cases later : flat segments with
  | nil => simp
  | cons e rest => simp [behind e (by rw [later]; rfl)]

/-- What the first segment is when nothing may leave: a run of which no record is resolved. -/
theorem hasReady_eq_false_iff (size : Nat) (h : WellFormed segments) :
    hasReady ⟨segments, size⟩ = false ↔ ∀ s ∈ segments.head?, s.isRun = true ∧ s.ready = [] := by
  cases segments with
  | nil => simp [hasReady]
  | cons s rest =>
    cases s with
    | watermark => simp [hasReady, Segment.isRun]
    | records entries ready =>
      have some' : entries.isEmpty = false := by
        rw [← Bool.not_eq_true, Table.isEmpty_iff]
        exact (h.marked _ List.mem_cons_self).1
      simp [hasReady, Segment.isRun, Segment.ready, some']

end UnorderedQueue

namespace Queue

variable {q : Queue}

/-- A watermark at the head may leave. -/
theorem isWatermark_head (h : q.Sound) (calm : q.hasReady = false) : ∀ e ∈ q.toList.head?, e.isWatermark = false := by
  obtain ⟨capacity, o | u⟩ := q
  · intro e first
    have waits := OrderedQueue.hasReady_eq_false_iff.1 calm e first
    cases e with
    | record r => rfl
    | watermark id t => cases waits
  · obtain ⟨segments, size⟩ := u
    have run := (UnorderedQueue.hasReady_eq_false_iff _ h.wellFormed).1 calm
    cases segments with
    | nil => simp [toList, UnorderedQueue.toList]
    | cons s rest =>
      cases s with
      | watermark => cases (run _ rfl).1
      | records entries ready =>
        exact UnorderedQueue.isWatermark_run (h.wellFormed.marked _ List.mem_cons_self).1

/-- The entries at which an emission may begin: in ordered mode the first one, in unordered mode all
before the first watermark. -/
def front (mode : OutputMode) (l : List Entry) : List Entry :=
  match mode with
  | .ordered => l.take 1
  | .unordered => l.takeWhile fun e => !e.isWatermark

theorem front_subset (mode : OutputMode) (l : List Entry) : front mode l ⊆ l := by
  cases mode with
  | ordered => exact List.take_subset 1 l
  | unordered => exact (List.takeWhile_sublist _).subset

/-- A list that begins with a record has records only at its front. -/
theorem isWatermark_front {mode : OutputMode} {l : List Entry} (head : ∀ e ∈ l.head?, e.isWatermark = false) :
    ∀ e ∈ front mode l, e.isWatermark = false := by
  cases mode with
  | ordered =>
    intro e he
    exact head e (by rwa [front, List.take_one, Option.mem_toList] at he)
  | unordered =>
    intro e he
    exact Bool.not_eq_true' _ ▸ List.mem_takeWhile_imp (p := fun e : Entry => !e.isWatermark) he

theorem isWatermark_congr {a b : Entry} (same : a.label = b.label) : a.isWatermark = b.isWatermark := by
  cases a <;> cases b <;> first | rfl | cases same

theorem isWatermark_head_congr {l l' : List Entry} (same : l'.map Entry.label = l.map Entry.label)
    (head : ∀ e ∈ l.head?, e.isWatermark = false) : ∀ e ∈ l'.head?, e.isWatermark = false := by
  intro e first
  have labels := congrArg List.head? same
  rw [List.head?_map, List.head?_map, first, Option.map_some, eq_comm, Option.map_eq_some_iff] at labels
  obtain ⟨e', first', label⟩ := labels
  rw [← isWatermark_congr label, head e' first']

/-- The labels of the entries tell which of them are at the front. -/
theorem map_label_front {l l' : List Entry} (same : l'.map Entry.label = l.map Entry.label) (mode : OutputMode) :
    (front mode l').map Entry.label = (front mode l).map Entry.label := by
  have shown : (fun e : Entry => !e.isWatermark) = (fun x : EntryId × Element => x.2.isRecord) ∘ Entry.label := by
    funext e
    cases e <;> rfl
  cases mode with
  | ordered => rw [front, front, List.map_take, List.map_take, same]
  | unordered => rw [front, front, shown, ← List.takeWhile_map, ← List.takeWhile_map, same]

/-- **Something may leave** exactly if a watermark is at the head or an entry of the front has a result. -/
theorem hasReady_eq_false_iff (h : q.Sound) : q.hasReady = false ↔
    (∀ e ∈ q.toList.head?, e.isWatermark = false) ∧ ∀ e ∈ front q.mode q.toList, e.isDone = false := by
  obtain ⟨capacity, o | u⟩ := q
  · have heads : ∀ e, e ∈ front .ordered o.toList ↔ e ∈ o.toList.head? := by
      intro e
      cases o.toList <;> simp [front, eq_comm]
    refine OrderedQueue.hasReady_eq_false_iff.trans ⟨fun waits => ⟨fun e first => ?_, fun e first => ?_⟩, ?_⟩
    · exact isWatermark_head h (OrderedQueue.hasReady_eq_false_iff.2 waits) e first
    · exact waits e ((heads e).1 first)
    · exact fun waits e first => waits.2 e ((heads e).2 first)
  · obtain ⟨segments, size⟩ := u
    cases segments with
    | nil => exact iff_of_true rfl ⟨fun e first => (nomatch first), fun e first => (nomatch first)⟩
    | cons s rest =>
      cases s with
      | watermark id t =>
        refine iff_of_false (by simp [hasReady, UnorderedQueue.hasReady]) fun waits => ?_
        cases waits.1 (.watermark id t) rfl
      | records entries ready =>
        have wellFormed : UnorderedQueue.WellFormed (.records entries ready :: rest) := h.wellFormed
        have marked := (wellFormed.marked _ List.mem_cons_self).2.2
        have listed : front .unordered (UnorderedQueue.toList ⟨.records entries ready :: rest, size⟩) =
          entries.values.map .record := UnorderedQueue.takeWhile_run wellFormed
        refine (UnorderedQueue.hasReady_eq_false_iff size wellFormed).trans ?_
        change _ ↔ _ ∧ ∀ e ∈ front .unordered (UnorderedQueue.toList ⟨.records entries ready :: rest, size⟩), _
        rw [listed]
        constructor
        · intro waits
          have none : ready = [] := (waits _ rfl).2
          refine ⟨UnorderedQueue.isWatermark_run (wellFormed.marked _ List.mem_cons_self).1, fun e he => ?_⟩
          obtain ⟨r, hr, rfl⟩ := List.mem_map.1 he
          obtain ⟨p, hp, rfl⟩ := List.mem_map.1 hr
          by_contra done
          have here := (marked p.1).2 ⟨p.2, hp, Bool.not_eq_false _ ▸ done⟩
          rw [none] at here
          cases here
        · rintro ⟨-, opened⟩ s first
          cases first
          refine ⟨rfl, List.eq_nil_iff_forall_not_mem.2 fun id ready => ?_⟩
          obtain ⟨e, he, done⟩ := (marked id).1 ready
          have waits := opened (.record e) (List.mem_map_of_mem (List.mem_map.2 ⟨_, he, rfl⟩))
          cases done.symm.trans waits

/-- While no record has a result and the first entry is no watermark, everything has to wait. -/
theorem hasReady_of_open (h : q.Sound) (opened : ∀ r, .record r ∈ q.toList → r.isDone = false)
    (head : ∀ e ∈ q.toList.head?, e.isWatermark = false) : q.hasReady = false := by
  refine (hasReady_eq_false_iff h).2 ⟨head, fun e he => ?_⟩
  have record := isWatermark_front head e he
  cases e with
  | watermark id t => cases record
  | record r => exact opened r (front_subset _ _ he)

theorem hasReady_of_empty (h : q.Sound) (empty : q.toList = []) : q.hasReady = false :=
  hasReady_of_open h (by simp [empty]) (by simp [empty])

/-- Draining takes nothing out of a queue of which nothing may leave. -/
theorem drain_eq_self (h : q.Sound) (calm : q.hasReady = false) : q.drain = ([], q) := by
  obtain ⟨capacity, o | u⟩ := q
  · have none : o.toList.takeWhile Entry.isDone = [] := o.drain_of_not_hasReady calm
    have all := List.takeWhile_append_dropWhile (p := Entry.isDone) (l := o.toList)
    rw [none, List.nil_append] at all
    simp only [drain, OrderedQueue.drain, none, all]
    rfl
  · obtain ⟨segments, size⟩ := u
    have run := (UnorderedQueue.hasReady_eq_false_iff size h.wellFormed).1 calm
    match segments with
    | [] => rfl
    | .watermark id t :: rest => cases (run _ rfl).1
    | .records entries ready :: rest =>
      have none : ready = [] := (run _ rfl).2
      have some' : entries.isEmpty = false := by
        rw [← Bool.not_eq_true, Table.isEmpty_iff]
        exact (h.wellFormed.marked _ List.mem_cons_self).1
      simp [drain, UnorderedQueue.drain, UnorderedQueue.drainSegments, UnorderedQueue.takeReady, none, some']

/-- Something may leave exactly when draining takes something out. -/
theorem hasReady_iff (h : q.Sound) : q.hasReady = true ↔ q.drain.1 ≠ [] := by
  refine ⟨fun ready => ?_, fun out => ?_⟩
  · obtain ⟨capacity, o | u⟩ := q
    · obtain ⟨⟨list⟩⟩ := o
      cases list with
      | nil => cases ready
      | cons e rest =>
        have done : e.isDone = true := ready
        simp [drain, OrderedQueue.drain, OrderedQueue.toList, done]
    · obtain ⟨segments, size⟩ := u
      cases segments with
      | nil => cases ready
      | cons s rest =>
        cases s with
        | watermark id t => simp [drain, UnorderedQueue.drain, UnorderedQueue.drainSegments]
        | records entries listed =>
          have run := h.wellFormed.marked _ List.mem_cons_self
          cases listed with
          | nil =>
            have some' : entries.isEmpty ≠ true := fun none' => run.1 (Table.isEmpty_iff.1 none')
            simp [hasReady, UnorderedQueue.hasReady, some'] at ready
          | cons id ids =>
            obtain ⟨e, here, -⟩ := (run.2.2 id).1 List.mem_cons_self
            have found := Table.get?_eq_some_iff.2 here
            simp only [drain, UnorderedQueue.drain, UnorderedQueue.drainSegments, UnorderedQueue.takeReady, found]
            split <;> simp
  · by_contra calm
    rw [drain_eq_self h (Bool.not_eq_true _ ▸ calm)] at out
    exact out rfl

end Queue

end AsyncStage
