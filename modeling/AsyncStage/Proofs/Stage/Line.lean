import AsyncStage.Proofs.Stage.Additions
import AsyncStage.Proofs.Stage.Run

/-!
# Elements in line

Every element that was admitted has been emitted or is in flight, until the stage ends; then
what was in flight is lost. `Lined` puts what was emitted in front of what is in flight and
says that this is everything that was admitted, in an order that the mode allows. Each step
either changes an entry without moving it, or moves entries from the queue to what was emitted,
or adds one at the end. `Marked` follows the order in which an unordered stage resolves
records: on a stretch without watermarks it is the order of emission.
-/

namespace AsyncStage.Stage

/-- What was admitted stands in line: first what was emitted, then what is in flight, and last
what was lost with the end of the stage. -/
structure Lined (s : Stage) : Prop where
  numbered : s.admitted.map (·.1) = List.range s.nextId
  line : ∃ lost, (s.isRunning = true → lost = []) ∧
    ((s.released ++ s.entries ++ lost).map Entry.label).Perm s.admitted ∧
    (s.released ++ s.entries ++ lost).Pairwise (Entry.Before s.queue.mode)
  output : s.output.elements.toList = s.released.flatMap Entry.rendering
  completed : ∀ e, .record e ∈ s.released → ∃ values, e.slot = .completed values

/-- No watermark was admitted under a number from `lo` up to `hi`. -/
def Stretch (s : Stage) (lo hi : EntryId) : Prop :=
  ∀ p ∈ s.admitted, p.2.isRecord = false → ¬ within lo hi p.1 = true

/-- On a stretch without watermarks, the records resolved are those emitted and then those in
the queue that are ready, in this order. -/
def Marked (s : Stage) : Prop :=
  s.queue.mode = .unordered → s.isRunning = true → ∀ lo hi, s.Stretch lo hi →
    s.resolvedIds.filter (within lo hi) = (recordIds s.released ++ s.queue.readyIds).filter (within lo hi)

variable {s s' s₁ : Stage} {e e' : RecordEntry} {new : List Event}

namespace Lined

/-! ## Numbers name elements -/

theorem lt_nextId (h : s.Lined) {p : EntryId × Element} (hp : p ∈ s.admitted) : p.1 < s.nextId := by
  rw [← List.mem_range, ← h.numbered]
  exact List.mem_map_of_mem hp

theorem length_admitted (h : s.Lined) : s.admitted.length = s.nextId := by
  rw [← List.length_map (·.1), h.numbered, List.length_range]

/-- An element is admitted under each number that was given out. -/
theorem exists_admitted (h : s.Lined) {id : EntryId} (given : id < s.nextId) : ∃ x, (id, x) ∈ s.admitted := by
  have listed : id ∈ s.admitted.map (·.1) := h.numbered ▸ List.mem_range.2 given
  obtain ⟨p, hp, rfl⟩ := List.mem_map.1 listed
  exact ⟨p.2, hp⟩

theorem admitted_eq (h : s.Lined) {p q : EntryId × Element} (hp : p ∈ s.admitted) (hq : q ∈ s.admitted)
    (same : p.1 = q.1) : p = q :=
  List.inj_on_of_nodup_map (h.numbered ▸ List.nodup_range) hp hq same

theorem mem_admitted (h : s.Lined) {a : Entry} (ha : a ∈ s.entries) : a.label ∈ s.admitted := by
  obtain ⟨lost, -, perm, -⟩ := h.line
  exact perm.subset (List.mem_map_of_mem (List.mem_append_left _ (List.mem_append_right _ ha)))

theorem released_admitted (h : s.Lined) {a : Entry} (ha : a ∈ s.released) : a.label ∈ s.admitted := by
  obtain ⟨lost, -, perm, -⟩ := h.line
  exact perm.subset (List.mem_map_of_mem (List.mem_append_left _ (List.mem_append_left _ ha)))

theorem released_lt (h : s.Lined) {a : Entry} (ha : a ∈ s.released) : a.id < s.nextId :=
  h.lt_nextId (h.released_admitted ha)

/-! ## Standing in line -/

/-- What neither admits nor emits nor moves an entry. -/
theorem still (h : s.Lined) (admitted : s'.admitted = s.admitted) (released : s'.released = s.released)
    (labels : s'.entries.map Entry.label = s.entries.map Entry.label) (mode : s'.queue.mode = s.queue.mode)
    (nextId : s'.nextId = s.nextId) (status : s'.isRunning = s.isRunning)
    (output : s'.output.elements = s.output.elements) : s'.Lined where
  numbered := by
    rw [admitted, nextId]
    exact h.numbered
  line := by
    obtain ⟨lost, none, perm, order⟩ := h.line
    have same : (s'.released ++ s'.entries ++ lost).map Entry.label =
        (s.released ++ s.entries ++ lost).map Entry.label := by
      simp only [List.map_append, released, labels]
    refine ⟨lost, status ▸ none, same ▸ admitted ▸ perm, ?_⟩
    rw [mode]
    exact Entry.pairwise_before_congr same order
  output := by
    rw [output, released]
    exact h.output
  completed := by
    rw [released]
    exact h.completed

theorem quiet (h : s.Lined) (q : Quiet s s') : s'.Lined :=
  h.still q.admitted q.released (by rw [q.entries]) (by rw [q.queue]) q.nextId q.isRunning q.output

theorem works (h : s.Lined) (sound : s.Sound) (w : Works s s' e e' new) (quiet : InFlight new) : s'.Lined :=
  h.still (w.admitted quiet) (w.released quiet) (w.queue.labels sound.queue) w.queue.mode w.nextId
    (by rw [isRunning, w.status, isRunning]) (by rw [w.output])

/-- What is in flight when a stage ends is lost. -/
theorem ends (h : s.Lined) (running : s.isRunning = true) {status : Status} (w : Ends s s' status)
    (stopped : status.isRunning = false) : s'.Lined where
  numbered := by
    rw [w.admitted, w.nextId]
    exact h.numbered
  line := by
    obtain ⟨lost, none, perm, order⟩ := h.line
    obtain rfl := none running
    refine ⟨s.entries, fun run => ?_, ?_, ?_⟩
    · rw [isRunning, w.status, stopped] at run
      cases run
    · rw [w.admitted, w.released, w.entries]
      simpa using perm
    · rw [w.released, w.entries, w.queue, Queue.mode_clear]
      simpa using order
  output := by
    rw [w.output, w.released]
    exact h.output
  completed := by
    rw [w.released]
    exact h.completed

theorem resolves (h : s.Lined) (sound : s.Sound) {result : Resolution} (r : Resolves s s' e result new)
    (quiet : InFlight new) : s'.Lined := by
  cases r with
  | completed values final works => exact h.works sound works quiet
  | failed error s₁ e₁ final cause works silent stopped =>
    have running : s₁.isRunning = true := by
      rw [isRunning, works.status]
      exact sound.isRunning_of_mem works.queue.here
    exact (h.works sound works quiet).ends running stopped rfl

/-- Entries that leave the queue come behind those that left before. -/
theorem emits (h : s.Lined) (sound : s.Sound) {drained : List Entry} (m : Emits s s' drained) : s'.Lined where
  numbered := by
    rw [m.admitted, m.nextId]
    exact h.numbered
  line := by
    obtain ⟨lost, none, perm, order⟩ := h.line
    rw [m.admitted, m.released, m.mode]
    refine ⟨lost, fun running => none ?_, ?_, ?_⟩
    · rwa [isRunning, ← m.status]
    · refine List.Perm.trans (List.Perm.map _ ?_) perm
      rw [List.append_assoc s.released]
      exact (m.queue.perm.append_left _).append_right _
    · cases running : s.isRunning with
      | true =>
        obtain rfl := none running
        rw [List.append_nil] at order ⊢
        obtain ⟨before, -, cross⟩ := List.pairwise_append.1 order
        rw [List.append_assoc]
        exact List.pairwise_append.2 ⟨before, m.queue.before, fun a ha b hb =>
          cross a ha b (m.queue.perm.subset hb)⟩
      | false =>
        have empty : drained ++ s'.entries = [] := by
          have perm := m.queue.perm
          rw [show s.queue.toList = [] from sound.ended running] at perm
          exact perm.eq_nil
        have empty' : s.entries = [] := sound.ended running
        rw [empty'] at order
        rw [List.append_assoc s.released, empty]
        exact order
  output := by
    rw [m.output, h.output, m.released, List.flatMap_append]
  completed := by
    rw [m.released]
    intro e he
    rcases List.mem_append.1 he with old | gone
    · exact h.completed e old
    · have here := m.queue.perm.subset (List.mem_append_left _ gone)
      obtain ⟨progress, at'⟩ := sound.standing e here
      obtain ⟨values, rfl⟩ := at'.of_isDone (m.queue.done _ gone)
      cases at' with
      | done slot => exact ⟨values, slot⟩

/-- An element that is admitted comes behind all others. -/
theorem admits (h : s.Lined) (running : s.isRunning = true) {e : Entry} (a : Admits s s' e new)
    (quiet : InFlight new) : s'.Lined := by
  have admitted := a.admitted quiet
  have released := a.released quiet
  have known : ∀ b ∈ s.released ++ s.entries, b.id < s.nextId := by
    intro b hb
    rcases List.mem_append.1 hb with gone | here
    · exact h.released_lt gone
    · exact h.lt_nextId (h.mem_admitted here)
  obtain ⟨lost, none, perm, order⟩ := h.line
  obtain rfl := none running
  rw [List.append_nil] at perm order
  refine ⟨?_, ⟨[], fun _ => rfl, ?_, ?_⟩, ?_, ?_⟩
  · rw [admitted, List.map_append, h.numbered, a.nextId, List.range_succ, List.map_singleton, Entry.label_fst, a.id]
  · rw [admitted, released, a.entries, List.append_nil, ← List.append_assoc, List.map_append]
    exact perm.append_right _
  · rw [released, a.entries, a.mode, List.append_nil, ← List.append_assoc]
    refine List.pairwise_append.2 ⟨order, List.pairwise_singleton _ _, fun b hb e' he' => ?_⟩
    obtain rfl := List.mem_singleton.1 he'
    exact Entry.before_of_lt (a.id ▸ known b hb)
  · rw [a.output, released]
    exact h.output
  · rw [released]
    exact h.completed

theorem applies (h : s.Lined) (sound : s.Sound) {c : Completion} (r : Applies s s' c) : s'.Lined := by
  cases r with
  | ignored same => exact same ▸ h
  | scheduled e here names accepted wanted works => exact h.works sound works ⟨rfl, rfl⟩
  | resolved e here names accepted unwanted resolves => exact h.resolves sound resolves ⟨rfl, rfl⟩

/-- **Every step leaves the elements in line.** -/
theorem step (h : s.Lined) (sound : s.Sound) (step : Step s s') : s'.Lined := by
  cases step with
  | posted c same => exact same ▸ h.quiet (quiet_post s c)
  | clock time same => exact same ▸ h.quiet (quiet_clock s time)
  | @took c rest takes =>
    have quiet := quiet_mailbox s rest
    exact (h.quiet quiet).applies (sound.quiet quiet) takes.applies
  | fired pops =>
    cases pops.fires with
    | retried e here at' set works timers => exact h.works sound works (inFlight_calls _ _)
    | expired e here opened started timeout deadline resolves =>
      exact h.resolves sound resolves (inFlight_expiry _ _ _)
  | emitted drained emits => exact h.emits sound emits
  | admittedRecord r running admits timers => exact h.admits running admits (inFlight_calls _ _)
  | admittedWatermark t running admits timers => exact h.admits running admits ⟨rfl, rfl⟩
  | inputEnded running same => exact same ▸ h.quiet (quiet_inputEnded s)
  | cutShort e here ended at' resolves => exact h.resolves sound resolves ⟨rfl, rfl⟩
  | forwarded status same => exact same ▸ h.quiet (quiet_forwarded s status)
  | measured m same => exact same ▸ h.quiet (quiet_measure s m)
  | closed running stopped => exact h.ends running stopped rfl

end Lined

/-! ## The order of resolution -/

/-- A stretch without admitted watermarks is one without watermarks in flight. -/
theorem Lined.unbroken (h : s.Lined) {lo hi : EntryId} (stretch : s.Stretch lo hi) : Unbroken lo hi s.entries := by
  intro e he marks
  cases e with
  | record r => cases marks
  | watermark id t => exact stretch _ (h.mem_admitted he) rfl

namespace Marked

theorem quiet (h : s.Marked) (q : Quiet s s') : s'.Marked := by
  intro mode running lo hi stretch
  rw [q.queue] at mode
  rw [q.isRunning] at running
  rw [Stretch, q.admitted] at stretch
  rw [resolvedIds, q.resolved, q.released, q.queue]
  exact h mode running lo hi stretch

/-- Work on an entry that notes a result exactly if the entry gets it. -/
theorem works (h : s.Marked) (lined : s.Lined) (w : Works s s' e e' new) (quiet : InFlight new)
    (marks : (new.filterMap Event.resolved?).map (·.1) = e.newlyDone e') : s'.Marked := by
  intro mode running lo hi stretch
  rw [w.queue.mode] at mode
  rw [isRunning, w.status] at running
  rw [Stretch, w.admitted quiet] at stretch
  have marked := w.queue.marked mode lo hi (lined.unbroken stretch)
  have before := h mode running lo hi stretch
  calc s'.resolvedIds.filter (within lo hi)
      = (s.resolvedIds ++ e.newlyDone e').filter (within lo hi) := by
        rw [resolvedIds, w.resolved, List.map_append, marks, resolvedIds]
    _ = (recordIds s.released ++ s.queue.readyIds ++ e.newlyDone e').filter (within lo hi) := by
        rw [List.filter_append, before, ← List.filter_append]
    _ = (recordIds s'.released ++ s'.queue.readyIds).filter (within lo hi) := by
        rw [w.released quiet, List.append_assoc, List.filter_append, ← marked, ← List.filter_append]

theorem resolves (h : s.Marked) (lined : s.Lined) (opened : e.isDone = false) {result : Resolution}
    (r : Resolves s s' e result new) (quiet : InFlight new)
    (marks : new.filterMap Event.resolved? = [(e.id, result)]) : s'.Marked := by
  cases r with
  | completed values final works =>
    apply h.works lined works quiet
    rw [marks, RecordEntry.newlyDone, opened]
    rfl
  | failed error s₁ e₁ final cause works silent ends =>
    intro _ running
    rw [isRunning, ends.status] at running
    cases running

theorem emits (h : s.Marked) {drained : List Entry} (m : Emits s s' drained) : s'.Marked := by
  intro mode running lo hi stretch
  rw [m.mode] at mode
  rw [isRunning, m.status] at running
  rw [Stretch, m.admitted] at stretch
  rw [resolvedIds, m.resolved, m.released, recordIds_append, List.append_assoc, m.queue.ready mode]
  exact h mode running lo hi stretch

theorem admits (h : s.Marked) {entry : Entry} (a : Admits s s' entry new) (quiet : InFlight new)
    (silent : new.filterMap Event.resolved? = []) (lined' : s'.Lined) : s'.Marked := by
  intro mode running lo hi stretch
  have unbroken := lined'.unbroken stretch
  rw [a.mode] at mode
  rw [isRunning, a.status] at running
  have before : s.Stretch lo hi := by
    intro p hp
    apply stretch p
    rw [a.admitted quiet]
    exact List.mem_append_left _ hp
  rw [resolvedIds, a.resolved silent, a.released quiet, List.filter_append, a.marked mode lo hi unbroken,
    ← List.filter_append]
  exact h mode running lo hi before

theorem ends {status : Status} (w : Ends s s' status) (stopped : status.isRunning = false) : s'.Marked := by
  intro _ running
  rw [isRunning, w.status, stopped] at running
  cases running

theorem applies (h : s.Marked) (lined : s.Lined) {c : Completion} (r : Applies s s' c) : s'.Marked := by
  cases r with
  | ignored same => exact same ▸ h
  | scheduled e here names accepted wanted works =>
    exact h.works lined works ⟨rfl, rfl⟩ (if_pos rfl).symm
  | resolved e here names accepted unwanted resolves =>
    exact h.resolves lined (RecordEntry.isDone_of_accepts accepted) resolves ⟨rfl, rfl⟩ (by rw [← names]; rfl)

/-- **Every step follows the order of resolution.** -/
theorem step (h : s.Marked) (sound : s.Sound) (lined : s.Lined) (step : Step s s') : s'.Marked := by
  have lined' := lined.step sound step
  cases step with
  | posted c same => exact same ▸ h.quiet (quiet_post s c)
  | clock time same => exact same ▸ h.quiet (quiet_clock s time)
  | @took c rest takes =>
    have quiet := quiet_mailbox s rest
    exact (h.quiet quiet).applies (lined.quiet quiet) takes.applies
  | fired pops =>
    cases pops.fires with
    | retried e here at' set works timers =>
      apply h.works lined works (inFlight_calls _ _)
      rw [resolved_calls]
      exact (if_pos rfl).symm
    | expired e here opened started timeout deadline resolves =>
      exact h.resolves lined opened resolves (inFlight_expiry _ _ _) (resolved_expiry _ _ _)
  | emitted drained emits => exact h.emits emits
  | admittedRecord r running admits timers =>
    exact h.admits admits (inFlight_calls _ _) (resolved_calls _ _) lined'
  | admittedWatermark t running admits timers => exact h.admits admits ⟨rfl, rfl⟩ rfl lined'
  | inputEnded running same => exact same ▸ h.quiet (quiet_inputEnded s)
  | cutShort e here ended at' resolves => exact h.resolves lined at'.waits.1 resolves ⟨rfl, rfl⟩ rfl
  | forwarded status same => exact same ▸ h.quiet (quiet_forwarded s status)
  | measured m same => exact same ▸ h.quiet (quiet_measure s m)
  | closed running stopped => exact ends stopped rfl

end Marked

/-! ## The beginning -/

theorem build_lined {b : Builder} {now : Instant} (built : b.build now = .ok s) : s.Lined := by
  obtain ⟨retry, rfl⟩ := build_eq built
  have none : (Queue.empty b.config.mode b.config.capacity.toNat).toList = [] := Queue.toList_empty _ _
  refine ⟨rfl, ⟨[], fun _ => rfl, ?_, ?_⟩, rfl, ?_⟩ <;> simp [start, entries, none, released, admitted, events]

theorem build_marked {b : Builder} {now : Instant} (built : b.build now = .ok s) : s.Marked := by
  obtain ⟨retry, rfl⟩ := build_eq built
  intro _ _ lo hi _
  have none : (Queue.empty b.config.mode b.config.capacity.toNat).readyIds = [] := by
    cases b.config.mode <;> rfl
  simp [start, none, released, resolvedIds, resolved, events, recordIds]

end AsyncStage.Stage
