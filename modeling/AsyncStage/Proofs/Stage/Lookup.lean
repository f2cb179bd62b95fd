import AsyncStage.Proofs.Queue.Lookup
import AsyncStage.Proofs.Stage.Beginnings
import AsyncStage.Proofs.Stage.Emission

/-!
# Looking up entries of an ordered stage

A completion, a timer and the end of the input name the entry that they are about by its number. In ordered mode the
entry is looked up by halving. Every step of a stage makes of its queue what admissions, changes of records and
departures at the head make of it, and gives each number once, to an element that it admits. So whatever a stage has
been through, looking up a number is exact, and it stays so while the next step is under way.
-/

namespace AsyncStage.Stage

open OrderedQueue (Change Changes)

/-- What has been admitted, and the entries in flight as an ordered queue holds them. -/
def placing (s : Stage) : List (EntryId × Element) × OrderedQueue := (s.admitted, ⟨s.entries.toArray⟩)

variable {s s' : Stage} {e e' : RecordEntry} {new : List Event}

theorem toList_placing (s : Stage) : s.placing.2.toList = s.entries := rfl

/-- An ordered queue is what it holds. -/
theorem ordered_of_mode (mode : s.queue.mode = .ordered) : s.queue.discipline = .ordered s.placing.2 := by
  unfold placing entries Queue.toList
  unfold Queue.mode at mode
  cases list : s.queue.discipline with
  | ordered o => rfl
  | unordered u =>
    rw [list] at mode
    cases mode

/-! ## What a step does to the queue -/

theorem Quiet.changes (q : Quiet s s') : Changes s.placing s'.placing := by
  rw [placing, placing, q.admitted, q.entries]

theorem Works.changes (w : Works s s' e e' new) (sound : s.Sound) (quiet : InFlight new) :
    Changes s.placing s'.placing := by
  rw [placing, placing, w.admitted quiet]
  refine .of_modify sound.queue.increasing w.queue.here ?_ w.queue.toList
  rw [Entry.label_record, Entry.label_record, w.queue.id, w.queue.record]

theorem Ends.changes {status : Status} (w : Ends s s' status) : Changes s.placing s'.placing := by
  rw [placing, placing, w.admitted, w.entries]
  exact .of_append (List.append_nil s.entries)

theorem Resolves.changes {result : Resolution} (r : Resolves s s' e result new) (sound : s.Sound)
    (quiet : InFlight new) : Changes s.placing s'.placing := by
  cases r with
  | completed values final works => exact works.changes sound quiet
  | failed error s₁ e₁ final cause works silent ends => exact (works.changes sound quiet).trans ends.changes

theorem Applies.changes {c : Completion} (a : Applies s s' c) (sound : s.Sound) : Changes s.placing s'.placing := by
  cases a with
  | ignored same => rw [same]
  | scheduled e here names accepted wanted works => exact works.changes sound ⟨rfl, rfl⟩
  | resolved e here names accepted unwanted resolves => exact resolves.changes sound ⟨rfl, rfl⟩

/-- In ordered mode entries are emitted from the head on. -/
theorem Emits.changes {drained : List Entry} (m : Emits s s' drained) (sound : s.Sound)
    (ordered : s.queue.mode = .ordered) : Changes s.placing s'.placing := by
  have before := m.queue.before
  rw [ordered] at before
  -- What leaves and what stays is sorted by number, as the queue is, so nothing has changed its place.
  have parts : drained ++ s'.entries = s.entries :=
    m.queue.perm.eq_of_pairwise (fun _ _ _ _ lt lt' => absurd lt' (Nat.lt_asymm lt)) before sound.queue.increasing
  rw [placing, placing, m.admitted]
  exact .of_append parts

/-- An element is admitted under the number of those before it. -/
theorem Admits.changes {a : Entry} (m : Admits s s' a new) (lined : s.Lined) (quiet : InFlight new) :
    Changes s.placing s'.placing := by
  have next : a.id = s.admitted.length := m.id.trans lined.length_admitted.symm
  have pushed : s'.placing.2 = s.placing.2.push a := by
    apply OrderedQueue.ext
    rw [OrderedQueue.toList_push, toList_placing, toList_placing, m.entries]
  have change : Change s.placing (s.admitted ++ [a.label], s.placing.2.push a) := .admitted a next
  rw [← m.admitted quiet, ← pushed] at change
  exact .single change

/-- **Each step** of an ordered stage makes of its queue what changes make of it. -/
theorem Step.changes (h : s.Kept) (ordered : s.queue.mode = .ordered) (step : Step s s') :
    Changes s.placing s'.placing := by
  have sound := h.sound
  cases step with
  | posted c same => exact same ▸ (quiet_post s c).changes
  | clock time same => exact same ▸ (quiet_clock s time).changes
  | @took c rest takes =>
    have quiet := quiet_mailbox s rest
    exact quiet.changes.trans (takes.applies.changes (sound.quiet quiet))
  | fired pops =>
    cases pops.fires with
    | retried e here at' set works timers => exact works.changes sound (inFlight_calls _ _)
    | expired e here opened started timeout deadline resolves => exact resolves.changes sound (inFlight_expiry _ _ _)
  | emitted drained emits => exact emits.changes sound ordered
  | admittedRecord r running admits timers => exact admits.changes h.lined (inFlight_calls _ _)
  | admittedWatermark t running admits timers => exact admits.changes h.lined ⟨rfl, rfl⟩
  | inputEnded running same => exact same ▸ (quiet_inputEnded s).changes
  | cutShort e here ended at' resolves => exact resolves.changes sound ⟨rfl, rfl⟩
  | forwarded status same => exact same ▸ (quiet_forwarded s status).changes
  | measured m same => exact same ▸ (quiet_measure s m).changes
  | closed running ends => exact ends.changes

theorem changes_of_steps (h : s.Kept) (ordered : s.queue.mode = .ordered) (steps : Steps s s') :
    Changes s.placing s'.placing := by
  induction steps with
  | refl => exact .refl
  | @tail t t' before last ih =>
    have mode : t.queue.mode = .ordered := (fixed_of_steps before).mode.trans ordered
    exact ih.trans (last.changes (h.steps before) mode)

/-! ## Whatever a stage has been through -/

/-- Nothing is found under the number of an entry that was emitted. -/
theorem Kept.released_ne (h : s.Kept) (ordered : s.queue.mode = .ordered) {a a' : Entry} (gone : a ∈ s.released)
    (here : a' ∈ s.entries) : a'.id ≠ a.id := by
  obtain ⟨lost, -, -, before⟩ := h.lined.line
  rw [ordered] at before
  have first := (List.pairwise_append.1 (List.pairwise_append.1 before).1).2.2 a gone a' here
  exact Nat.ne_of_gt first

/-- How a stage in ordered mode finds its entries. -/
structure LooksUp (t : Stage) (q : OrderedQueue) : Prop where
  ordered : t.queue.discipline = .ordered q
  /-- Elements are admitted under the numbers from zero on. What is refused gets none. -/
  numbered : t.admitted.map (·.1) = List.range t.nextId
  /-- The queue came of an empty one by changes only. -/
  reached : Changes ([], {}) (t.admitted, q)
  /-- The entries that were emitted are not found any more. -/
  emitted : ∀ a ∈ t.released, q.find? a.id = none
  /-- Looking up is exact now, and after whatever changes the next step consists of. -/
  exact : ∀ admitted q', Changes (t.admitted, q) (admitted, q') → q'.Exact admitted

theorem placing_build {b : Builder} {now : Instant} (built : b.build now = .ok s) : s.placing = ([], {}) := by
  obtain ⟨retry, rfl⟩ := build_eq built
  rw [placing, show (start b retry now).entries = [] from Queue.toList_empty _ _]
  rfl

/-- A stage looks up its entries exactly if changes have led to its queue. -/
theorem Kept.looksUp (h : s.Kept) (mode : s.queue.mode = .ordered) (reached : Changes ([], {}) s.placing) :
    LooksUp s s.placing.2 := by
  have placed : OrderedQueue.Placed s.admitted s.placing.2 := OrderedQueue.Placed.empty.changes reached
  refine ⟨ordered_of_mode mode, h.lined.numbered, reached, fun a gone => ?_, fun _ _ later => ?_⟩
  · refine (placed.find?_eq_none_iff a.id).2 (.inr (.inl ⟨⟨_, h.lined.released_admitted gone⟩, fun a' here => ?_⟩))
    exact h.released_ne mode gone here
  · exact (OrderedQueue.Placed.empty.changes (reached.trans later)).exact

/-- An ordered stage with three places, whose function answers at once, except to one value. -/
def threeInOrder : Builder := { oneSlow .ordered with config := { mode := .ordered, capacity := 3 } }

/-- Two slow records with a watermark between them. A third record is refused, until the first one is answered and
leaves together with the watermark. -/
def oneRefused : List Action :=
  [.offer ⟨"slow", none⟩ [], .putWatermark noon {}, .offer ⟨"slow", some noon⟩ [], .offer ⟨"fast", none⟩ [],
    .undergo (.completes ⟨0, 1, .values ["late"]⟩), .poll, .offer ⟨"fast", some noon⟩ [], .putWatermark noon {}]

/-- **Looking up a number in ordered mode** finds the record that was admitted under it, as long as it is in the
queue, and nothing else. It does so however the stage began, after any steps, and in the middle of the next one. -/
theorem lookup_exact {b : Builder} {now : Instant} {error : Option StageError} (begins : b.Begins now s error)
    (ordered : b.config.mode = .ordered) {t : Stage} (steps : Steps s t) : ∃ q, LooksUp t q := by
  have mode : t.queue.mode = .ordered := (begins.mode steps).trans ordered
  obtain ⟨s₀, before, built, rfl, -, -⟩ := begins.exists_run
  have all : Steps s₀ t := (run_steps (build_sound built) before).trans steps
  have kept := Kept.build built
  have reached := changes_of_steps kept ((mode_build built).trans ordered) all
  rw [placing_build built] at reached
  exact ⟨t.placing.2, (kept.steps all).looksUp mode reached⟩

/-- The refused record has left no number behind, and only the two records in the queue are found. A result for
one of them does not touch the other. -/
theorem lookup_exact_oneRefused : ∃ s q, threeInOrder.build .epoch = .ok s ∧ LooksUp (s.run oneRefused) q ∧
    (s.run oneRefused).admitted.map (·.1) = [0, 1, 2, 3, 4] ∧ q.toList.map Entry.id = [2, 3, 4] ∧
    (List.range 6).map (fun id => (q.find? id).map fun e => (id, e.record.value)) =
      [none, none, some (2, "slow"), some (3, "fast"), none, none] ∧
    (q.update 2 fun e => { e with slot := .completed ["later"] }).find? 3 = q.find? 3 := by
  have built : threeInOrder.build .epoch = .ok _ := rfl
  obtain ⟨q, looksUp⟩ := lookup_exact (.built built) rfl (run_steps (build_sound built) oneRefused)
  obtain rfl : (Stage.placing (Stage.run _ oneRefused)).2 = q :=
    Discipline.ordered.inj ((ordered_of_mode (by decide +kernel)).symm.trans looksUp.ordered)
  have exact := looksUp.exact _ _ .refl
  have others := (exact.order 2 (fun e => { e with slot := .completed ["later"] }) fun e found =>
    ((exact.found 2 e).1 found).2).2 3
  exact ⟨_, _, built, looksUp, by decide +kernel, by decide +kernel, by decide +kernel, others⟩

end AsyncStage.Stage
