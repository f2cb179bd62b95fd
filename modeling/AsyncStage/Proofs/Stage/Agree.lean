import AsyncStage.Proofs.Queue.Revise
import AsyncStage.Proofs.Stage.Rest
import AsyncStage.Proofs.Timer.Commute

/-!
# Stages that agree but for the order of their notes

A stage notes what it does in three kinds of work: it takes up completions, it calls the function,
and its entries come and go. Two stages agree if they are the same up to their histories, and their
histories tell the same about each kind of work, in the same order. Only how the notes of different
kinds mingle is left open, and when completions were posted. Nothing that a stage counts or tells its
listener depends on that.
-/

namespace AsyncStage

/-- The kinds of work that a stage notes. -/
inductive Phase where
  /-- Completions are taken up, and entries get their results. -/
  | answers
  /-- The function is called. -/
  | calls
  /-- Entries come into the queue and leave it. -/
  | moves
deriving DecidableEq

def Counter.phase : Counter → Phase
  | .inFlight => .moves
  | .invocations => .calls
  | .retries => .answers
  | .timeouts => .answers
  | .fallbacks => .answers
  | .itemsOut => .moves

def Measurement.phase : Measurement → Phase
  | .added counter _ => counter.phase
  | .attemptTook _ => .answers
  | .snapshotTimed => .moves

/-- The kind of work at which an event is noted. Posting is done by others. -/
def Event.phase? : Event → Option Phase
  | .posted _ => none
  | .admitted _ _ => some .moves
  | .invoked _ => some .calls
  | .applied _ => some .answers
  | .scheduled _ _ _ => some .answers
  | .cancelled _ _ => some .answers
  | .resolved _ _ => some .answers
  | .substituted _ => some .answers
  | .released _ => some .moves
  | .measured m => some m.phase

/-- All of these events are noted at one kind of work. -/
def Phased (phase : Phase) (events : List Event) : Prop := ∀ v ∈ events, v.phase? = some phase

@[simp] theorem phased_nil (phase : Phase) : Phased phase [] := List.forall_mem_nil _

@[simp] theorem phased_cons {phase : Phase} {v : Event} {events : List Event} :
    Phased phase (v :: events) ↔ v.phase? = some phase ∧ Phased phase events :=
  List.forall_mem_cons

@[simp] theorem phased_append {phase : Phase} {events events' : List Event} :
    Phased phase (events ++ events') ↔ Phased phase events ∧ Phased phase events' :=
  List.forall_mem_append

theorem Phased.filter {phase : Phase} {events : List Event} (h : Phased phase events) (other : Phase) :
    events.filter (fun v => v.phase? = some other) = if phase = other then events else [] := by
  split
  next same => exact List.filter_eq_self.2 fun v hv => decide_eq_true (same ▸ h v hv)
  next ne =>
    refine List.filter_eq_nil_iff.2 fun v hv shown => ne ?_
    exact Option.some.inj ((h v hv).symm.trans (of_decide_eq_true shown))

namespace Stage

/-- Notes several events. -/
def log (s : Stage) (events : List Event) : Stage :=
  { s with history := s.history ++ (events.map (Note.mk s.now)).toArray }

/-- What was noted at this kind of work. -/
def notesOf (s : Stage) (phase : Phase) : List Note := s.history.toList.filter fun n => n.event.phase? = some phase

/-- What was measured. -/
def measurements (s : Stage) : List Measurement := s.events.filterMap Event.measurement?

/-- What the listener was told. -/
def notices (s : Stage) : List FallbackNotice := s.events.filterMap Event.notice?

/-- The stages are the same, and so is what they have noted of each kind of work. -/
structure Agree (s t : Stage) : Prop where
  same : s.forgetHistory = t.forgetHistory
  notes : ∀ phase, s.notesOf phase = t.notesOf phase

variable {s t u : Stage} {events : List Event} {phase : Phase} {α : Type}

/-! ## Notes -/

theorem note_eq_log (s : Stage) (v : Event) : s.note v = s.log [v] := by simp [note, log]

theorem log_log (s : Stage) (events events' : List Event) : (s.log events).log events' = s.log (events ++ events') := by
  simp [log]

theorem notesOf_log (s : Stage) (events : List Event) (phase : Phase) : (s.log events).notesOf phase =
    s.notesOf phase ++ (events.filter fun v => v.phase? = some phase).map (Note.mk s.now) := by
  simp [notesOf, log, List.filter_map, Function.comp_def]

/-- A list that shows events of one kind of work only is read off their notes. -/
theorem events_filterMap_notesOf {f : Event → Option α} (shown : ∀ v x, f v = some x → v.phase? = some phase) :
    s.events.filterMap f = (s.notesOf phase).filterMap fun n => f n.event := by
  rw [events, notesOf, List.filterMap_map, List.filterMap_filter]
  apply List.filterMap_congr
  intro n _
  cases told : f n.event with
  | some x => simp [told, shown _ _ told]
  | none => simp [told]

namespace Agree

theorem refl (s : Stage) : Agree s s := ⟨rfl, fun _ => rfl⟩

theorem symm (h : Agree s t) : Agree t s := ⟨h.same.symm, fun phase => (h.notes phase).symm⟩

theorem trans (h : Agree s t) (h' : Agree t u) : Agree s u :=
  ⟨h.same.trans h'.same, fun phase => (h.notes phase).trans (h'.notes phase)⟩

/-- Stages that agree differ in their histories only. -/
theorem eq_withHistory (h : Agree s t) : t = { s with history := t.history } := by
  have same := h.same
  cases s; cases t
  simp_all [forgetHistory]

theorem setup (h : Agree s t) : s.setup = t.setup := (congrArg Stage.setup h.same :)

theorem now (h : Agree s t) : s.now = t.now := (congrArg Stage.now h.same :)

theorem queue (h : Agree s t) : s.queue = t.queue := (congrArg Stage.queue h.same :)

theorem timers (h : Agree s t) : s.timers = t.timers := (congrArg Stage.timers h.same :)

theorem retrying (h : Agree s t) : s.retrying = t.retrying := (congrArg Stage.retrying h.same :)

theorem output (h : Agree s t) : s.output = t.output := (congrArg Stage.output h.same :)

theorem isRunning (h : Agree s t) : s.isRunning = t.isRunning := (congrArg (Status.isRunning ∘ Stage.status) h.same :)

/-- What is posted is not compared. -/
theorem posted (s : Stage) (cs : List Completion) : Agree (s.log (cs.map .posted)) s where
  same := rfl
  notes phase := by
    rw [notesOf_log, List.filter_eq_nil_iff.2, List.map_nil, List.append_nil]
    intro v hv
    obtain ⟨c, -, rfl⟩ := List.mem_map.1 hv
    simp [Event.phase?]

theorem log (h : Agree s t) (events : List Event) : Agree (s.log events) (t.log events) where
  same := h.same
  notes phase := by rw [notesOf_log, notesOf_log, h.notes, h.now]

/-! ## What stages show that agree -/

theorem filterMap (h : Agree s t) (phase : Phase) {f : Event → Option α}
    (shown : ∀ v x, f v = some x → v.phase? = some phase) : s.events.filterMap f = t.events.filterMap f := by
  rw [events_filterMap_notesOf shown, events_filterMap_notesOf shown, h.notes]

theorem invoked (h : Agree s t) : s.invoked = t.invoked :=
  h.filterMap .calls fun v x shown => by cases v <;> cases shown; rfl

theorem notices (h : Agree s t) : s.notices = t.notices :=
  h.filterMap .answers fun v x shown => by cases v <;> cases shown; rfl

/-- What is measured at one kind of work is measured in the same order. -/
theorem measured (h : Agree s t) (phase : Phase) {f : Measurement → Option α}
    (shown : ∀ m x, f m = some x → m.phase = phase) :
    s.measurements.filterMap f = t.measurements.filterMap f := by
  rw [measurements, measurements, List.filterMap_filterMap, List.filterMap_filterMap]
  apply h.filterMap phase
  intro v x told
  cases v with
  | measured m => exact congrArg some (shown m x told)
  | _ => cases told

/-- **Stages that agree have counted the same.** -/
theorem summary (h : Agree s t) : Summary.ofMeasurements s.measurements = Summary.ofMeasurements t.measurements := by
  have counted : ∀ c : Counter, s.measurements.filterMap c.share? = t.measurements.filterMap c.share? := by
    intro c
    apply h.measured c.phase
    intro m x told
    cases m with
    | added c' amount =>
      simp only [Counter.share?] at told
      split at told
      next same => rw [Measurement.phase, same]
      · cases told
    | attemptTook => cases told
    | snapshotTimed => cases told
  have took : s.measurements.filterMap Measurement.attemptTime? = t.measurements.filterMap Measurement.attemptTime? :=
    h.measured .answers fun m x told => by cases m <;> cases told; rfl
  have snapshots : s.measurements.filter Measurement.isSnapshot = t.measurements.filter Measurement.isSnapshot := by
    rw [← List.filterMap_eq_filter]
    apply h.measured .moves
    intro m x told
    cases m with
    | snapshotTimed => rfl
    | added => simp [Option.guard, Measurement.isSnapshot] at told
    | attemptTook => simp [Option.guard, Measurement.isSnapshot] at told
  simp only [Summary.ofMeasurements, Counter.total, counted, took, List.countP_eq_length_filter, snapshots]

end Agree

end Stage

end AsyncStage
