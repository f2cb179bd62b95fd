import AsyncStage.Checkpoint.Publish
import AsyncStage.Proofs.Snapshot.Encoding
import AsyncStage.Proofs.Stage.Admission
import AsyncStage.Proofs.Stage.Emission

/-!
# Restarts

A stage that is restored from a snapshot goes on where the stage left off from which the
snapshot was taken: what the one had emitted by then and what the other emits until its input
ends are together everything that was admitted, each element once. `placeAfter` counts what the
two stages admitted in one sequence, so that the order of what they emitted can be compared
with it.
-/

namespace AsyncStage

namespace Stage

/-- The place in the sequence of everything that was admitted, of the element that a restored
stage admitted under this number: the elements of the snapshot keep their places, and later
ones come behind everything that the stage before had admitted. -/
def placeAfter (s : Stage) (id : EntryId) : Nat :=
  ((s.entries.map Entry.id)[id]?).getD (s.nextId + (id - s.entries.length))

/-- What a stage has emitted, with the places. -/
def emitted (s : Stage) : List (Element × Nat) := s.released.map fun e => (e.element, e.id)

/-- What a restored stage has emitted, with the places. -/
def emittedAfter (s t : Stage) : List (Element × Nat) := t.released.map fun e => (e.element, s.placeAfter e.id)

/-- A watermark keeps its place among elements that are emitted one after the other. -/
def InPlace (a b : Element × Nat) : Prop := a.1.isRecord = false ∨ b.1.isRecord = false → a.2 < b.2

/-- What two stages emit of which the second is restored from the first: `s` is the first one
when the snapshot was taken, `t` the second one at the end of its input, and `ys` are the
elements that the second one admitted by itself. -/
structure Continues (s t : Stage) (ys : List Element) : Prop where
  /-- In ordered mode the second stage emits the rest and then what it admitted by itself. -/
  ordered : s.queue.mode = .ordered →
    s.released.map Entry.element = s.admittedElements.take s.released.length ∧
    t.released.map Entry.element = s.admittedElements.drop s.released.length ++ ys
  /-- In unordered mode the elements of the first stage are emitted once, by one of the two. -/
  partition : s.queue.mode = .unordered →
    (s.emitted ++ (s.emittedAfter t).filter fun p => p.2 < s.nextId).Perm s.admittedElements.zipIdx
  /-- And so is everything. -/
  whole : s.queue.mode = .unordered →
    (s.emitted ++ s.emittedAfter t).Perm (s.admittedElements ++ ys).zipIdx
  /-- Watermarks keep their place across the restart. -/
  barrier : s.queue.mode = .unordered → (s.emitted ++ s.emittedAfter t).Pairwise InPlace
  rendered : t.Rendered

variable {s t : Stage} {ys : List Element}

/-! ## Places -/

theorem isRecord_element (e : Entry) : e.element.isRecord = !e.isWatermark := by
  cases e <;> rfl

theorem length_pendingElements (s : Stage) : s.pendingElements.length = s.entries.length := List.length_map _

/-- The elements of a snapshot keep their places. -/
theorem placeAfter_entries (s : Stage) :
    (s.pendingElements.zipIdx.map fun x => (x.1, s.placeAfter x.2)) = s.entries.map fun e => (e.element, e.id) := by
  apply List.ext_getElem (by simp [pendingElements])
  intro i inside inside'
  have small : i < s.entries.length := by simpa using inside'
  simp [placeAfter, pendingElements, small]

/-- Later elements are counted from the end of what was admitted before. -/
theorem placeAfter_later (s : Stage) (ys : List Element) :
    ((ys.zipIdx s.entries.length).map fun x => (x.1, s.placeAfter x.2)) = ys.zipIdx s.nextId := by
  rw [List.zipIdx_eq_map_add, List.zipIdx_eq_map_add (i := s.nextId), List.map_map]
  apply List.map_congr_left
  intro x _
  simp [placeAfter]

/-- Places grow with the numbers. -/
theorem placeAfter_lt (h : s.Sound) {i j : Nat} (less : i < j) : s.placeAfter i < s.placeAfter j := by
  have increasing : (s.entries.map Entry.id).Pairwise (· < ·) := List.pairwise_map.2 h.queue.increasing
  have below : ∀ i (inside : i < (s.entries.map Entry.id).length), (s.entries.map Entry.id)[i] < s.nextId := by
    intro i inside
    obtain ⟨e, he, same⟩ := List.mem_map.1 (List.getElem_mem inside)
    exact same ▸ h.below e he
  have length : (s.entries.map Entry.id).length = s.entries.length := List.length_map _
  unfold placeAfter
  by_cases first : i < (s.entries.map Entry.id).length
  · rw [List.getElem?_eq_getElem first, Option.getD_some]
    by_cases second : j < (s.entries.map Entry.id).length
    · rw [List.getElem?_eq_getElem second, Option.getD_some]
      exact List.pairwise_iff_getElem.1 increasing i j first second less
    · rw [List.getElem?_eq_none (Nat.not_lt.1 second), Option.getD_none]
      exact Nat.lt_of_lt_of_le (below i first) (Nat.le_add_right _ _)
  · have second : ¬ j < (s.entries.map Entry.id).length := by lia
    rw [List.getElem?_eq_none (Nat.not_lt.1 first), List.getElem?_eq_none (Nat.not_lt.1 second)]
    simp only [Option.getD_none]
    lia

namespace Kept

theorem length_admittedElements (h : s.Kept) : s.admittedElements.length = s.nextId :=
  (List.length_map _).trans h.lined.length_admitted

/-- Elements are admitted under the numbers of their places. -/
theorem admitted_zipIdx (h : s.Kept) : (s.admitted.map fun p => (p.2, p.1)) = s.admittedElements.zipIdx := by
  rw [List.zipIdx_eq_zip_range', h.length_admittedElements, ← List.range_eq_range', ← h.lined.numbered,
    admittedElements, List.zip_map']

/-- What a running stage has emitted and what it holds is what it has admitted. -/
theorem emitted_perm (h : s.Kept) (unordered : s.queue.mode = .unordered) (running : s.isRunning = true) :
    (s.emitted ++ s.entries.map fun e => (e.element, e.id)).Perm s.admittedElements.zipIdx := by
  have line := (h.line unordered running).1.map fun p => (p.2, p.1)
  rw [List.map_map, h.admitted_zipIdx, List.map_append] at line
  exact line

end Kept

/-! ## The second stage -/

section Second

variable (hs : s.Kept) (ht : t.Kept) (alive : t.isRunning = true) (empty : t.entries = [])
  (admitted : t.admittedElements = s.pendingElements ++ ys)

include ht alive empty admitted

/-- In unordered mode the second stage emits what the first one held and what it admitted by
itself. -/
theorem emittedAfter_perm (unordered : t.queue.mode = .unordered) :
    (s.emittedAfter t).Perm ((s.entries.map fun e => (e.element, e.id)) ++ ys.zipIdx s.nextId) := by
  have line := (ht.line unordered alive).1.map fun p => (p.2, s.placeAfter p.1)
  have places : (t.admitted.map fun p => (p.2, s.placeAfter p.1)) =
      t.admittedElements.zipIdx.map fun x => (x.1, s.placeAfter x.2) := by
    rw [← ht.admitted_zipIdx, List.map_map]
    rfl
  rw [List.map_map, empty, List.append_nil, places, admitted, List.zipIdx_append, List.map_append,
    placeAfter_entries, length_pendingElements, Nat.zero_add, placeAfter_later] at line
  exact line

/-- What the second stage emits is held by the first one or comes behind it. -/
theorem mem_emittedAfter (second : t.queue.mode = .unordered) {p : Element × Nat} (hp : p ∈ s.emittedAfter t) :
    (∃ c ∈ s.entries, c.element = p.1 ∧ c.id = p.2) ∨ s.nextId ≤ p.2 := by
  rcases List.mem_append.1 ((emittedAfter_perm ht alive empty admitted second).subset hp) with held | later
  · obtain ⟨c, hc, same⟩ := List.mem_map.1 held
    exact .inl ⟨c, hc, congrArg Prod.fst same, congrArg Prod.snd same⟩
  · exact .inr (List.le_snd_of_mem_zipIdx later)

include hs

/-- Everything is emitted once, by one of the two stages. -/
theorem whole_perm (first : s.queue.mode = .unordered) (second : t.queue.mode = .unordered)
    (running : s.isRunning = true) :
    (s.emitted ++ s.emittedAfter t).Perm (s.admittedElements ++ ys).zipIdx := by
  have own := hs.emitted_perm first running
  have rest := emittedAfter_perm ht alive empty admitted second
  apply (rest.append_left s.emitted).trans
  rw [← List.append_assoc, List.zipIdx_append, Nat.zero_add, hs.length_admittedElements]
  exact own.append_right _

theorem partition_perm (first : s.queue.mode = .unordered) (second : t.queue.mode = .unordered)
    (running : s.isRunning = true) :
    (s.emitted ++ (s.emittedAfter t).filter fun p => p.2 < s.nextId).Perm s.admittedElements.zipIdx := by
  have whole := (whole_perm hs ht alive empty admitted first second running).filter fun p => p.2 < s.nextId
  have before : s.emitted.filter (fun p => p.2 < s.nextId) = s.emitted := by
    refine List.filter_eq_self.2 fun p hp => decide_eq_true ?_
    have place := (hs.emitted_perm first running).subset (List.mem_append_left _ hp)
    have small := List.snd_lt_add_of_mem_zipIdx place
    rwa [Nat.zero_add, hs.length_admittedElements] at small
  have own : s.admittedElements.zipIdx.filter (fun p => p.2 < s.nextId) = s.admittedElements.zipIdx := by
    refine List.filter_eq_self.2 fun p hp => decide_eq_true ?_
    have small := List.snd_lt_add_of_mem_zipIdx hp
    rwa [Nat.zero_add, hs.length_admittedElements] at small
  have later : (ys.zipIdx s.nextId).filter (fun p => p.2 < s.nextId) = [] := by
    apply List.filter_eq_nil_iff.2
    intro p hp
    rw [decide_eq_true_eq]
    exact Nat.not_lt.2 (List.le_snd_of_mem_zipIdx hp)
  rwa [List.filter_append, before, List.zipIdx_append, Nat.zero_add, hs.length_admittedElements, List.filter_append,
    own, later, List.append_nil] at whole

theorem barrier (first : s.queue.mode = .unordered) (second : t.queue.mode = .unordered)
    (running : s.isRunning = true) : (s.emitted ++ s.emittedAfter t).Pairwise InPlace := by
  have own := (hs.line first running).2
  have next := (ht.line second alive).2
  have watermark : ∀ a b : Entry, a.element.isRecord = false ∨ b.element.isRecord = false →
      a.isWatermark = true ∨ b.isWatermark = true := by
    intro a b
    simp [isRecord_element]
  obtain ⟨early, -, across⟩ := List.pairwise_append.1 own
  refine List.pairwise_append.2 ⟨List.pairwise_map.2 (early.imp fun {a b} before one => ?_),
    List.pairwise_map.2 ((List.pairwise_append.1 next).1.imp fun {a b} before one => ?_), ?_⟩
  · exact before (watermark a b one)
  · exact placeAfter_lt hs.sound (before (watermark a b one))
  · rintro p hp q hq one
    obtain ⟨a, ha, rfl⟩ := List.mem_map.1 hp
    rcases mem_emittedAfter ht alive empty admitted second hq with ⟨c, hc, element, id⟩ | behind
    · rw [← id]
      exact across a ha c hc (watermark a c (element.symm ▸ one))
    · exact Nat.lt_of_lt_of_le (hs.lined.released_lt ha) behind

theorem ordered (first : s.queue.mode = .ordered) (second : t.queue.mode = .ordered)
    (running : s.isRunning = true) :
    s.released.map Entry.element = s.admittedElements.take s.released.length ∧
      t.released.map Entry.element = s.admittedElements.drop s.released.length ++ ys := by
  have own := congrArg (List.map (·.2)) ((hs.inOrder first).whole running)
  have next := congrArg (List.map (·.2)) ((ht.inOrder second).whole alive)
  rw [List.map_map, List.map_append] at own next
  rw [empty, List.map_nil, List.append_nil] at next
  have length : (s.released.map Entry.element).length = s.released.length := List.length_map _
  have whole : s.admittedElements = s.released.map Entry.element ++ s.pendingElements := own
  constructor
  · rw [whole, List.take_left' length]
  · rw [whole, List.drop_left' length, ← admitted]
    exact next.symm

theorem continues (same : t.queue.mode = s.queue.mode) (running : s.isRunning = true) : Continues s t ys where
  ordered first := ordered hs ht alive empty admitted first (same.trans first) running
  partition first := partition_perm hs ht alive empty admitted first (same.trans first) running
  whole first := whole_perm hs ht alive empty admitted first (same.trans first) running
  barrier first := barrier hs ht alive empty admitted first (same.trans first) running
  rendered := ht.rendered

end Second

/-! ## Restoring -/

/-- The elements in flight are few enough to be counted in eight bytes. -/
theorem length_pendingElements_lt {b : Builder} {now : Instant} (built : b.build now = .ok s) (steps : Steps s t) :
    t.pendingElements.length < 2 ^ 64 := by
  have sound := (build_sound built).steps steps
  have capacity : t.queue.capacity = b.config.capacity.toNat := by
    obtain ⟨retry, rfl⟩ := build_eq built
    exact (fixed_of_steps steps).capacity
  have fits := sound.queue.fits
  rw [sound.queue.size, capacity] at fits
  rw [length_pendingElements]
  exact Nat.lt_of_le_of_lt fits b.config.capacity.toNat_lt

/-- Restoring a stage admits the elements of the snapshot again. -/
theorem restore_encode {b : Builder} {now : Instant} {elements : List Element} (built : b.build now = .ok s)
    (few : elements.length < 2 ^ 64) (writable : ∀ e ∈ elements, Snapshot.Writable e) (around : Nat → Interference) :
    b.restore now (Snapshot.encode elements) around =
      .built (s.putAll (elements.zipIdx.map fun (e, n) => (e, around n))).1
        (s.putAll (elements.zipIdx.map fun (e, n) => (e, around n))).2 := by
  rw [Builder.restore, Snapshot.decode_encode few writable]
  simp only [built]

/-- A restored stage runs and has admitted the elements of the snapshot. -/
theorem restore_done {b : Builder} {now : Instant} {elements : List Element} (few : elements.length < 2 ^ 64)
    (writable : ∀ e ∈ elements, Snapshot.Writable e) {around : Nat → Interference}
    (restored : b.restore now (Snapshot.encode elements) around = .built t (.done ())) :
    t.Kept ∧ t.queue.mode = b.config.mode ∧ t.admittedElements = elements := by
  cases built : b.build now with
  | error error =>
    rw [Builder.restore, Snapshot.decode_encode few writable] at restored
    simp [built] at restored
  | ok u =>
    rw [restore_encode built few writable, Restoration.built.injEq] at restored
    obtain ⟨rfl, done⟩ := restored
    obtain ⟨steps, whole⟩ := putAll_done (build_sound built) (elements.zipIdx.map fun (e, n) => (e, around n))
    have running : u.isRunning = true := by
      obtain ⟨retry, rfl⟩ := build_eq built
      rfl
    obtain ⟨-, admitted⟩ := whole done running
    refine ⟨(Kept.build built).steps steps, (fixed_of_steps steps).mode.trans (mode_build built), ?_⟩
    have none : u.admittedElements = [] := by
      obtain ⟨retry, rfl⟩ := build_eq built
      rfl
    rw [admitted, none, List.nil_append, List.map_map]
    exact List.zipIdx_map_fst 0 elements

/-- A stage with room for one element whose function is answered by others. -/
def narrow : Builder where
  config := { mode := .unordered, capacity := 1 }
  function _ := []

/-- The first record is answered while a later element waits for room. -/
def lateAnswer (_ : Nat) : Interference where
  waiting := .wakes [⟨[.completes ⟨0, 1, .values ["late"]⟩], []⟩]

/-- **A restart loses nothing and emits nothing twice.** A stage is left at any time while it
runs, and another one of the same mode is restored from the snapshot that was taken then. It
may be used in any way, and when the end of its input is answered with success, what the two
have emitted is what they have admitted. -/
theorem restart_continues {b b' : Builder} {now now' : Instant} {s t : Stage} (built : b.build now = .ok s)
    (actions : List Action) (running : (s.run actions).isRunning = true)
    (writable : ∀ e ∈ (s.run actions).pendingElements, Snapshot.Writable e)
    (mode : b'.config.mode = b.config.mode) {around : Nat → Interference}
    (restored : b'.restore now' (s.run actions).snapshot.2 around = .built t (.done ())) (actions' : List Action)
    (i : Interference) (done : ((t.run actions').finish i).2 = .done ()) :
    t.admittedElements = (s.run actions).pendingElements ∧ ∃ ys,
      ((t.run actions').finish i).1.admittedElements = t.admittedElements ++ ys ∧
        Continues (s.run actions) ((t.run actions').finish i).1 ys := by
  have steps := run_steps (build_sound built) actions
  obtain ⟨kept, mode', admitted⟩ := restore_done (length_pendingElements_lt built steps) writable restored
  have steps' := run_steps kept.sound actions'
  have ending := (finish_goes (kept.sound.steps steps') i).steps
  obtain ⟨-, alive, empty⟩ := finish_done (kept.sound.steps steps') done
  obtain ⟨more, further⟩ := admitted_extends (steps'.trans ending)
  have total : ((t.run actions').finish i).1.admittedElements = t.admittedElements ++ more.map (·.2) := by
    rw [admittedElements, ← further, List.map_append]
    rfl
  refine ⟨admitted, more.map (·.2), total, ?_⟩
  refine continues (Kept.run built actions) (kept.steps (steps'.trans ending)) alive empty (admitted ▸ total) ?_ running
  rw [(fixed_of_steps (steps'.trans ending)).mode, mode', mode, mode_run built]

/-- The first stage emits the fast record, and the second one the rest, though the watermark has
to wait for room. -/
theorem restart_continues_slowFirst : ∃ s t, (oneSlow .unordered).build .epoch = .ok s ∧
    narrow.restore .epoch (s.run slowFirst).snapshot.2 lateAnswer = .built t (.done ()) ∧
    (∃ ys, Continues (s.run slowFirst) (t.finish {}).1 ys) ∧
    (s.run slowFirst).output.elements.toList = [.record ⟨"fast", some noon⟩] ∧
    (t.finish {}).1.output.elements.toList = [.record ⟨"late", none⟩, .watermark noon] := by
  have built : (oneSlow .unordered).build .epoch = .ok (start (oneSlow .unordered) .never .epoch) := rfl
  have held : ((start (oneSlow .unordered) .never .epoch).run slowFirst).pendingElements =
    [.record ⟨"slow", none⟩, .watermark noon] := by decide +kernel
  have writable : ∀ e ∈ [.record ⟨"slow", none⟩, .watermark noon], Snapshot.Writable e := by decide
  have admitted : ((start narrow .never .epoch).putAll
      [(.record ⟨"slow", none⟩, lateAnswer 0), (.watermark noon, lateAnswer 1)]).2 = .done () := by decide +kernel
  have restored : narrow.restore .epoch ((start (oneSlow .unordered) .never .epoch).run slowFirst).snapshot.2
      lateAnswer = .built ((start narrow .never .epoch).putAll
        [(.record ⟨"slow", none⟩, lateAnswer 0), (.watermark noon, lateAnswer 1)]).1 (.done ()) := by
    rw [← admitted, snapshot, held]
    exact restore_encode rfl (by decide) writable lateAnswer
  have mode : narrow.config.mode = (oneSlow .unordered).config.mode := rfl
  obtain ⟨-, ys, -, continues⟩ :=
    restart_continues built slowFirst (by decide +kernel) (held ▸ writable) mode restored [] {} (by decide +kernel)
  exact ⟨_, _, built, restored, ⟨ys, continues⟩, by decide +kernel, by decide +kernel⟩

end Stage

end AsyncStage
