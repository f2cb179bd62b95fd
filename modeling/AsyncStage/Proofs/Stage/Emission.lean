import AsyncStage.Proofs.Stage.Results
import AsyncStage.Proofs.Stage.Taken
import AsyncStage.Proofs.Stage.Turns

/-!
# What is emitted, and in what order

Whatever is done with a stage, nothing that it admitted is lost or emitted twice as long as it
runs. In ordered mode entries are emitted in the order of admission. In unordered mode a
watermark keeps its place among all entries, and between two watermarks records are emitted in
the order in which they were resolved. The output is made of the emitted entries: a watermark
as it is, a record as its final values. What was admitted is what the operations have taken in,
by their answers.
-/

namespace AsyncStage.Stage

/-- The output is what the emitted entries become, and each emitted record carries the values
that its result stands for, in their order and with the event time of the record. -/
structure Rendered (s : Stage) : Prop where
  output : s.output.elements.toList = s.released.flatMap Entry.rendering
  final : ∀ e, .record e ∈ s.released → ∃ result values, (e.id, result) ∈ s.resolved ∧
    s.setup.final? e.record result = some values ∧
    (Entry.record e).rendering = values.map fun v => .record ⟨v, e.record.timestamp⟩

/-- What an ordered stage has emitted and what it has still to emit. -/
structure InOrder (s : Stage) : Prop where
  /-- As long as the stage runs, everything is emitted already or in flight, in this order. -/
  whole : s.isRunning = true → s.admitted = (s.released ++ s.entries).map Entry.label
  /-- At any time the emitted entries are the first that were admitted. -/
  emitted : s.released.map Entry.label <+: s.admitted
  rendered : s.Rendered

/-- What an unordered stage has emitted and what it has still to emit. -/
structure UpToWatermarks (s : Stage) : Prop where
  /-- Elements are admitted under the numbers from zero on. -/
  numbered : s.admitted.map (·.1) = List.range s.nextId
  /-- Each admitted element is emitted already or in flight, and once only. -/
  whole : ((s.released ++ s.entries).map Entry.label).Perm s.admitted
  once : ((s.released ++ s.entries).map Entry.id).Nodup
  /-- The queue keeps the order of admission. -/
  queue : (s.entries.map Entry.label).Sublist s.admitted
  /-- What was admitted before a watermark was emitted before it. -/
  behind : ∀ pre id t post, s.released = pre ++ .watermark id t :: post →
    ∀ p ∈ s.admitted, p.1 < id → p ∈ pre.map Entry.label
  /-- What was admitted after a watermark is emitted after it. -/
  ahead : ∀ pre e post, s.released = pre ++ e :: post →
    ∀ id t, (id, Element.watermark t) ∈ s.admitted → id < e.id → .watermark id t ∈ pre
  /-- Each record is resolved once, and between two watermarks records are emitted in the order
  in which they were resolved. -/
  resolved : s.resolvedIds.Nodup
  order : ∀ lo hi, s.Stretch lo hi →
    (recordIds s.released).filter (within lo hi) <+: s.resolvedIds.filter (within lo hi)
  /-- Completions are taken up in the order in which they were posted. -/
  mail : ∃ read, s.posted = read ++ s.mailbox ∧ s.applied.Sublist read
  rendered : s.Rendered

variable {s : Stage}

namespace Kept

theorem rendered (h : s.Kept) : s.Rendered where
  output := h.lined.output
  final e released := by
    obtain ⟨result, values, told, final, slot⟩ := h.released_result released
    refine ⟨result, values, told, final, ?_⟩
    simp only [Entry.rendering, slot, Record.replace]

/-- Admitted elements are sorted by their numbers. -/
theorem admitted_pairwise (h : s.Kept) : s.admitted.Pairwise fun a b => a.1 < b.1 :=
  List.pairwise_map.1 (h.lined.numbered ▸ List.pairwise_lt_range)

theorem inOrder (h : s.Kept) (ordered : s.queue.mode = .ordered) : s.InOrder := by
  obtain ⟨lost, none, perm, before⟩ := h.lined.line
  rw [ordered] at before
  -- Both lists are sorted by number, so they are not only permutations of each other.
  have line : ((s.released ++ s.entries ++ lost).map Entry.label).Pairwise fun a b => a.1 < b.1 :=
    List.pairwise_map.2 before
  have same := perm.eq_of_pairwise (fun _ _ _ _ lt lt' => absurd lt' (Nat.lt_asymm lt)) line h.admitted_pairwise
  refine ⟨fun running => ?_, ?_, h.rendered⟩
  · rw [← same, none running, List.append_nil]
  · rw [← same, List.append_assoc, List.map_append]
    exact List.prefix_append _ _

/-! ## Watermarks keep their place -/

theorem line (h : s.Kept) (unordered : s.queue.mode = .unordered) (running : s.isRunning = true) :
    ((s.released ++ s.entries).map Entry.label).Perm s.admitted ∧
      (s.released ++ s.entries).Pairwise (Entry.Before .unordered) := by
  obtain ⟨lost, none, perm, before⟩ := h.lined.line
  rw [none running, List.append_nil] at perm before
  exact ⟨perm, unordered ▸ before⟩

/-- An element is emitted before one that was admitted later, if one of them is a watermark. -/
theorem emitted_before (h : s.Kept) (unordered : s.queue.mode = .unordered) (running : s.isRunning = true)
    {pre post : List Entry} {e : Entry} (released : s.released = pre ++ e :: post) {p : EntryId × Element}
    (hp : p ∈ s.admitted) (earlier : p.1 < e.id) (watermark : p.2.isRecord = false ∨ e.isWatermark = true) :
    ∃ a ∈ pre, a.label = p := by
  obtain ⟨perm, before⟩ := h.line unordered running
  obtain ⟨a, ha, rfl⟩ := List.mem_map.1 (perm.symm.subset hp)
  rw [released, List.append_assoc] at ha before
  refine ⟨a, ?_, rfl⟩
  rcases List.mem_append.1 ha with early | late
  · exact early
  · rcases List.mem_cons.1 late with rfl | later
    · exact absurd earlier (Nat.lt_irrefl _)
    · have after := (List.pairwise_cons.1 (List.pairwise_append.1 before).2.1).1 a later
      refine absurd earlier (Nat.lt_asymm (after ?_))
      apply watermark.symm.imp id
      intro this
      cases a with
      | record r => cases this
      | watermark id t => rfl

theorem entries_sublist (h : s.Kept) (unordered : s.queue.mode = .unordered) (running : s.isRunning = true) :
    (s.entries.map Entry.label).Sublist s.admitted := by
  have : Std.Antisymm fun a b : EntryId × Element => a.1 < b.1 :=
    ⟨fun _ _ lt lt' => absurd lt' (Nat.lt_asymm lt)⟩
  have some' : (s.entries.map Entry.label).Subperm ((s.released ++ s.entries).map Entry.label) := by
    rw [List.map_append]
    exact (List.sublist_append_right _ _).subperm
  have sorted : (s.entries.map Entry.label).Pairwise fun a b => a.1 < b.1 :=
    List.pairwise_map.2 h.sound.queue.increasing
  exact List.sublist_of_subperm_of_pairwise (some'.trans (h.line unordered running).1.subperm) sorted
    h.admitted_pairwise

theorem upToWatermarks (h : s.Kept) (unordered : s.queue.mode = .unordered) (running : s.isRunning = true) :
    s.UpToWatermarks where
  numbered := h.lined.numbered
  whole := (h.line unordered running).1
  once := by
    have ids := (h.line unordered running).1.map (·.1)
    rw [List.map_map, h.lined.numbered] at ids
    exact ids.nodup_iff.2 List.nodup_range
  queue := h.entries_sublist unordered running
  behind pre id t post released p hp earlier := by
    obtain ⟨a, early, label⟩ := h.emitted_before unordered running released hp earlier (.inr rfl)
    exact List.mem_map.2 ⟨a, early, label⟩
  ahead pre e post released id t hp earlier := by
    obtain ⟨a, early, label⟩ := h.emitted_before unordered running released hp earlier (.inl rfl)
    cases a with
    | record r => cases congrArg Prod.snd label
    | watermark id' t' =>
      cases label
      exact early
  resolved := h.resolvedIds_nodup
  order lo hi stretch := by
    rw [h.marked unordered running lo hi stretch, List.filter_append]
    exact List.prefix_append _ _
  mail := h.mailed
  rendered := h.rendered

end Kept

variable {b : Builder} {now : Instant}

theorem mode_build (built : b.build now = .ok s) : s.queue.mode = b.config.mode := by
  obtain ⟨retry, rfl⟩ := build_eq built
  exact Queue.mode_empty _ _

theorem mode_run (built : b.build now = .ok s) (actions : List Action) :
    (s.run actions).queue.mode = b.config.mode :=
  (fixed_of_steps (run_steps (build_sound built) actions)).mode.trans (mode_build built)

/-- A stage whose function answers at once, except to one value. -/
def oneSlow (mode : OutputMode) : Builder where
  config := { mode := mode }
  function call := if call.value = "slow" then [] else [⟨call.entry, call.attempt, .values [call.value]⟩]

def noon : Timestamp where
  secs := 43200
  nanos := 0

/-- A record that is answered late, one that is answered at once, and a watermark. -/
def slowFirst : List Action := [.offer ⟨"slow", none⟩ [], .offer ⟨"fast", some noon⟩ [], .putWatermark noon {}]

def slowAnswered : List Action := [.undergo (.completes ⟨0, 1, .values ["late", "later"]⟩), .poll]

/-- **In ordered mode** elements are emitted in the order of admission: after any operations,
whatever happens around them, the emitted entries and then the queue are what was admitted. -/
theorem ordered_emission (built : b.build now = .ok s) (ordered : b.config.mode = .ordered)
    (actions : List Action) : (s.run actions).InOrder :=
  (Kept.run built actions).inOrder ((mode_run built actions).trans ordered)

/-- The fast record is held back by the slow one. -/
theorem ordered_emission_slowFirst : ∃ s, (oneSlow .ordered).build .epoch = .ok s ∧
    (s.run (slowFirst ++ slowAnswered)).InOrder ∧
    (s.run slowFirst).output.elements.toList = [] ∧
    (s.run (slowFirst ++ slowAnswered)).output.elements.toList =
      [.record ⟨"late", none⟩, .record ⟨"later", none⟩, .record ⟨"fast", some noon⟩, .watermark noon] := by
  have built : (oneSlow .ordered).build .epoch = .ok _ := rfl
  exact ⟨_, built, ordered_emission built rfl _, by decide +kernel, by decide +kernel⟩

/-- **In unordered mode** nothing is lost or emitted twice, watermarks keep their place, and
between them records are emitted as they are resolved. They are resolved in the order of the
mail, of the timers and of the queue, whenever a stage that the operations lead through takes
its turn. -/
theorem unordered_emission (built : b.build now = .ok s) (unordered : b.config.mode = .unordered)
    (actions : List Action) :
    ((s.run actions).isRunning = true → (s.run actions).UpToWatermarks) ∧ ∀ t, Steps s t → t.InTurn := by
  constructor
  · intro running
    exact (Kept.run built actions).upToWatermarks ((mode_run built actions).trans unordered) running
  · intro t steps
    exact ((build_sound built).steps steps).inTurn

/-- The fast record overtakes the slow one, but the watermark does not. -/
theorem unordered_emission_slowFirst : ∃ s, (oneSlow .unordered).build .epoch = .ok s ∧
    (s.run (slowFirst ++ slowAnswered)).UpToWatermarks ∧ s.InTurn ∧
    (s.run slowFirst).output.elements.toList = [.record ⟨"fast", some noon⟩] ∧
    (s.run (slowFirst ++ slowAnswered)).output.elements.toList =
      [.record ⟨"fast", some noon⟩, .record ⟨"late", none⟩, .record ⟨"later", none⟩, .watermark noon] := by
  have built : (oneSlow .unordered).build .epoch = .ok _ := rfl
  obtain ⟨emission, turns⟩ := unordered_emission built rfl (slowFirst ++ slowAnswered)
  exact ⟨_, built, emission (by decide +kernel), turns _ .refl, by decide +kernel, by decide +kernel⟩

/-! ## Emission and answers -/

/-- **What a stage has admitted** is what its operations have taken in, by their answers. An operation that ends
the stage may have admitted one element more. -/
theorem admittedElements_run (built : b.build now = .ok s) (actions : List Action) :
    (s.run actions).admittedElements = s.tookIn actions ∨
      (s.run actions).isRunning = false ∧ ∃ e, (s.run actions).admittedElements = s.tookIn actions ++ [e] := by
  have new : s.admittedElements = [] := by
    obtain ⟨retry, rfl⟩ := build_eq built
    rfl
  cases run_enters (build_sound built) actions with
  | all same => exact .inl (by rw [same, new, List.nil_append])
  | oneMore e stopped same => exact .inr ⟨stopped, e, by rw [same, new, List.nil_append]⟩

theorem admittedElements_of_running (built : b.build now = .ok s) {actions : List Action}
    (running : (s.run actions).isRunning = true) : (s.run actions).admittedElements = s.tookIn actions := by
  rcases admittedElements_run built actions with same | ⟨stopped, -⟩
  · exact same
  · cases stopped.symm.trans running

theorem map_label_snd (es : List Entry) : (es.map Entry.label).map (·.2) = es.map Entry.element := List.map_map

/-- In ordered mode everything that was taken in is emitted, and then in flight, in the order of the answers. -/
theorem tookIn_inOrder (built : b.build now = .ok s) (ordered : b.config.mode = .ordered) {actions : List Action}
    (running : (s.run actions).isRunning = true) :
    s.tookIn actions = ((s.run actions).released ++ (s.run actions).entries).map Entry.element := by
  have inOrder := (Kept.run built actions).inOrder ((mode_run built actions).trans ordered)
  rw [← admittedElements_of_running built running, admittedElements, inOrder.whole running, map_label_snd]

/-- In unordered mode everything that was taken in is emitted or in flight, once. -/
theorem tookIn_perm (built : b.build now = .ok s) (unordered : b.config.mode = .unordered) {actions : List Action}
    (running : (s.run actions).isRunning = true) :
    (((s.run actions).released ++ (s.run actions).entries).map Entry.element).Perm (s.tookIn actions) := by
  have line := ((Kept.run built actions).line ((mode_run built actions).trans unordered) running).1.map (·.2)
  rw [map_label_snd] at line
  exact admittedElements_of_running built running ▸ line

end AsyncStage.Stage
