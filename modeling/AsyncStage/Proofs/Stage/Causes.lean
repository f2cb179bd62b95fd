import AsyncStage.Proofs.Stage.Clock

/-!
# What a step can do

Whatever a step notes has one of few causes. An attempt is started with an entry that holds its signal
then; a completion is taken up for an entry that waits for it, and nothing else schedules a retry; a
cancel signal is given to an entry whose time is up, or when the stage ends. And few things can become
of a record in flight. What is said of new notes is read off from `Step.cause`, and what is said of
records from `Step.fate`, so that nothing else has to go through the steps.
-/

namespace AsyncStage

/-- An entry that holds a signal has an attempt outstanding. -/
theorem RecordEntry.At.of_signal {e : RecordEntry} {progress : Progress} {attempt : Nat} (h : e.At progress)
    (held : e.signal = some attempt) : ∃ first, progress = .outstanding attempt first := by
  cases h with
  | outstanding _ _ _ _ signal =>
    obtain rfl := Option.some.inj (signal.symm.trans held)
    exact ⟨_, rfl⟩
  | waiting _ _ _ _ _ _ _ signal => cases signal.symm.trans held
  | done _ _ _ signal => cases signal.symm.trans held

/-- An entry that awaits a retry holds no signal. -/
theorem RecordEntry.At.silent {e : RecordEntry} {attempt : Nat} {first retryAt : Instant} {outcome : Outcome}
    (h : e.At (.waiting attempt first outcome retryAt)) : e.signal = none := by
  cases h with
  | waiting _ _ _ _ _ _ _ signal => exact signal

namespace Stage

variable {s s' : Stage} {e a : RecordEntry} {new : List Event} {P : Event → Prop}

/-! ## Notes -/

/-- What can be behind a note of a step. -/
inductive Cause (s s' : Stage) : Event → Prop where
  | posted (c : Completion) : Cause s s' (.posted c)
  | admitted (id : EntryId) (x : Element) : Cause s s' (.admitted id x)
  /-- Attempts after a first one are started for entries that await them. -/
  | invoked (e : RecordEntry) (there : .record e ∈ s'.entries) (signal : e.signal = some e.retry.attempts)
      (again : 1 < e.retry.attempts → ∃ a, .record a ∈ s.entries ∧ a.retry.isWaiting = true) :
      Cause s s' (.invoked (s.setup.call e.id e.retry.attempts e.record.value))
  | applied {c : Completion} {rest : List Completion} (takes : Takes s s' c rest) (e : RecordEntry)
      (here : .record e ∈ s.entries) (names : e.id = c.entry) (accepted : e.accepts c.attempt = true) :
      Cause s s' (.applied c)
  | scheduled (e : RecordEntry) (timer : TimerId) (retryAt : Instant) (outcome : Outcome)
      (there : .record (e.awaiting timer retryAt outcome) ∈ s'.entries) :
      Cause s s' (.scheduled e.id e.retry.attempts retryAt)
  /-- The time of the record is up. -/
  | expired {key : TimerKey} {rest : TimerQueue} (e : RecordEntry) (pops : Pops s s' key (.deadline e.id) rest)
      (here : .record e ∈ s.entries) {attempt : Nat} (signal : e.signal = some attempt) :
      Cause s s' (.cancelled e.id attempt)
  /-- The stage ends. -/
  | ended (e : RecordEntry) (here : .record e ∈ s.entries) {attempt : Nat} (signal : e.signal = some attempt)
      (stopped : s'.isRunning = false) : Cause s s' (.cancelled e.id attempt)
  | resolved (id : EntryId) (result : Resolution) : Cause s s' (.resolved id result)
  | released (a : Entry) : Cause s s' (.released a)

/-- The end of a stage notes the signals that are held. -/
theorem Ends.notes_held {status : Status} (w : Ends s s' status)
    (given : ∀ a, .record a ∈ s.entries → ∀ attempt, a.signal = some attempt → P (.cancelled a.id attempt)) :
    Notes P s s' := by
  refine ⟨w.now, s.cancellations, w.told, fun v hv => ?_⟩
  obtain ⟨a, ha, attempt, held, rfl⟩ := mem_cancellations hv
  exact given a ha attempt held

/-- A result that ends the stage notes the signals that other entries held. -/
theorem Resolves.notes_held {result : Resolution} (r : Resolves s s' e result new) (sound : s.queue.Sound)
    (all : ∀ v ∈ new, P v) (given : s'.isRunning = false → ∀ a, .record a ∈ s.entries → ∀ attempt,
      a.signal = some attempt → P (.cancelled a.id attempt)) : Notes P s s' := by
  cases r with
  | completed values final works => exact works.notes all
  | failed error s₁ e₁ final cause works silent ends =>
    refine (works.notes all).trans (ends.notes_held fun a ha attempt held => ?_)
    rcases (works.queue.mem_iff sound).1 ha with same | ⟨old, -⟩
    · cases same
      cases silent.symm.trans held
    · exact given (congrArg Status.isRunning ends.status) a old attempt held

/-- **Whatever a step notes has its cause**, and is noted at the time that the clock shows. -/
theorem Step.cause (step : Step s s') (h : s.Sound) {n : Note} (told : n ∈ s'.told) (fresh : n ∉ s.told) :
    n.time = s.now ∧ Cause s s' n.event := by
  have noted : Notes (Cause s s') s s' → n.time = s.now ∧ Cause s s' n.event := fun notes => notes.of_mem told fresh
  have silent : s'.told = s.told → n.time = s.now ∧ Cause s s' n.event := fun same => absurd (same ▸ told) fresh
  have given : s'.isRunning = false → ∀ a, .record a ∈ s.entries → ∀ attempt, a.signal = some attempt →
      Cause s s' (.cancelled a.id attempt) := fun stopped a ha _ held => .ended a ha held stopped
  have called : ∀ e, .record e ∈ s'.entries → e.signal = some e.retry.attempts →
      (1 < e.retry.attempts → ∃ a, .record a ∈ s.entries ∧ a.retry.isWaiting = true) →
      ∀ v ∈ s.calls (s.setup.call e.id e.retry.attempts e.record.value), Cause s s' v := by
    intro e there signal again v hv
    rcases List.mem_cons.1 hv with rfl | posted
    · exact .invoked e there signal again
    · obtain ⟨c, -, rfl⟩ := List.mem_map.1 posted
      exact .posted c
  cases step with
  | posted c same =>
    exact noted ⟨same ▸ rfl, [.posted c], same ▸ told_note rfl, List.forall_mem_singleton.2 (.posted c)⟩
  | clock time same => exact silent (same ▸ rfl)
  | @took c rest takes =>
    cases takes.applies with
    | ignored same => exact silent (same ▸ rfl)
    | scheduled e here names accepted wanted works =>
      have notes : Notes (Cause s s') { s with mailbox := rest } s' := by
        refine works.notes (List.forall_mem_cons.2
          ⟨.applied takes e here names accepted, List.forall_mem_singleton.2 ?_⟩)
        simp only [RecordEntry.accepts, Bool.and_eq_true, beq_iff_eq] at accepted
        rw [← names, ← accepted.2]
        exact .scheduled { e with signal := none } _ _ _ (works.there h.queue)
      exact noted ⟨notes.now, notes.told⟩
    | resolved e here names accepted unwanted resolves =>
      have notes : Notes (Cause s s') { s with mailbox := rest } s' :=
        resolves.notes_held (h.quiet (quiet_mailbox s rest)).queue (List.forall_mem_cons.2
          ⟨.applied takes e here names accepted, List.forall_mem_singleton.2 (.resolved _ _)⟩) given
      exact noted ⟨notes.now, notes.told⟩
  | fired pops =>
    cases pops.fires with
    | retried e here at' set works =>
      exact noted (works.notes (called _ (works.there h.queue) rfl fun _ => ⟨e, here, at'.waits.2⟩))
    | expired e here opened started timeout deadline resolves =>
      exact noted (resolves.notes_held h.queue
        (forall_expiry (fun _ held => .expired e pops here held) (.resolved _ _)) given)
  | emitted drained emits => exact noted (emits.notes .released)
  | admittedRecord r running admits timers =>
    exact noted (admits.notes .admitted (called (s.startedEntry r) admits.there rfl fun more =>
      absurd more (Nat.lt_irrefl 1)))
  | admittedWatermark t running admits timers => exact noted (admits.notes .admitted (List.forall_mem_nil _))
  | inputEnded running same => exact silent (same ▸ rfl)
  | cutShort e here ended at' resolves =>
    exact noted (resolves.notes_held h.queue (List.forall_mem_singleton.2 (.resolved _ _)) given)
  | forwarded status same => exact silent (same ▸ rfl)
  | measured m same => exact silent (same ▸ told_measure s m)
  | closed running ends => exact noted (ends.notes_held (given (congrArg Status.isRunning ends.status)))

/-! ## Records in flight -/

/-- The signal that the entry held, if any, is given. -/
def Cancels (s s' : Stage) (e : RecordEntry) : Prop :=
  ∀ attempt, e.signal = some attempt → ⟨s.now, .cancelled e.id attempt⟩ ∈ s'.told

/-- What can become of a record in flight. -/
inductive Fate (s s' : Stage) (e : RecordEntry) : Prop where
  | stays (there : .record e ∈ s'.entries)
  | answered {c : Completion} {rest : List Completion} (takes : Takes s s' c rest) (names : e.id = c.entry)
      (accepted : e.accepts c.attempt = true)
  | retried (silent : e.signal = none) (called : ⟨s.now, .invoked (s.nextCall e)⟩ ∈ s'.told)
  | cutShort (silent : e.signal = none) (ended : s.retrying = false) {outcome : Outcome}
      (resolves : Resolves s s' e (.ofOutcome outcome) [.resolved e.id (.ofOutcome outcome)])
  | emitted (done : e.isDone = true)
  /-- The time of the record is up. -/
  | expired {key : TimerKey} {rest : TimerQueue} (pops : Pops s s' key (.deadline e.id) rest) (cancels : s.Cancels s' e)
  /-- The stage ends. -/
  | ended (stopped : s'.isRunning = false) (cancels : s.Cancels s' e)

theorem Ends.cancels {status : Status} (w : Ends s s' status) (here : .record e ∈ s.entries) : s.Cancels s' e := by
  intro attempt held
  rw [w.told]
  refine List.mem_append_right _ (List.mem_map_of_mem (f := Note.mk s.now) ?_)
  exact List.mem_filterMap.2 ⟨e, List.mem_filterMap.2 ⟨_, here, rfl⟩, by rw [held]; rfl⟩

/-- A result leaves the other records alone, or it ends the stage. -/
theorem Resolves.beside {result : Resolution} (r : Resolves s s' a result new) (sound : s.queue.Sound)
    (here : .record e ∈ s.entries) (other : e.id ≠ a.id) :
    .record e ∈ s'.entries ∨ s'.isRunning = false ∧ s.Cancels s' e := by
  cases r with
  | completed values final works => exact .inl ((works.queue.mem_iff sound).2 (.inr ⟨here, other⟩))
  | failed error s₁ e₁ final cause works silent ends =>
    have cancels := ends.cancels ((works.queue.mem_iff sound).2 (.inr ⟨here, other⟩))
    rw [Cancels, works.now] at cancels
    exact .inr ⟨congrArg Status.isRunning ends.status, cancels⟩

/-- **What a step does to a record in flight.** -/
theorem Step.fate (step : Step s s') (h : s.Sound) (here : .record e ∈ s.entries) : s.Fate s' e := by
  have left : .record e ∈ s'.entries ∨ s'.isRunning = false ∧ s.Cancels s' e → s.Fate s' e :=
    fun either => either.elim .stays fun ⟨stopped, cancels⟩ => .ended stopped cancels
  cases step with
  | posted c same => exact .stays (same ▸ here)
  | clock time same => exact .stays (same ▸ here)
  | @took c rest takes =>
    cases takes.applies with
    | ignored same => exact .stays (same ▸ here)
    | scheduled a ha names accepted wanted works =>
      by_cases own : e.id = a.id
      · obtain rfl := h.record_eq here ha own
        exact .answered takes names accepted
      · exact .stays ((works.queue.mem_iff h.queue).2 (.inr ⟨here, own⟩))
    | resolved a ha names accepted unwanted resolves =>
      by_cases own : e.id = a.id
      · obtain rfl := h.record_eq here ha own
        exact .answered takes names accepted
      · exact left (resolves.beside (h.quiet (quiet_mailbox s rest)).queue here own)
  | fired pops =>
    cases pops.fires with
    | retried a ha at' set works =>
      by_cases own : e.id = a.id
      · obtain rfl := h.record_eq here ha own
        exact .retried at'.silent (works.told ▸ List.mem_append_right _ List.mem_cons_self)
      · exact .stays ((works.queue.mem_iff h.queue).2 (.inr ⟨here, own⟩))
    | expired a ha opened started timeout deadline resolves =>
      by_cases own : e.id = a.id
      · obtain rfl := h.record_eq here ha own
        refine .expired pops fun attempt held => resolves.noted (List.mem_append_left _ ?_)
        rw [held]
        exact List.mem_singleton_self _
      · exact left (resolves.beside h.queue here own)
  | emitted drained emits =>
    rcases List.mem_append.1 (emits.queue.perm.mem_iff.2 here) with leaves | stays
    · exact .emitted (emits.queue.done _ leaves)
    · exact .stays stays
  | admittedRecord r running admits timers => exact .stays (admits.mem_entries.2 (.inl here))
  | admittedWatermark t running admits timers => exact .stays (admits.mem_entries.2 (.inl here))
  | inputEnded running same => exact .stays (same ▸ here)
  | cutShort a ha ended at' resolves =>
    by_cases own : e.id = a.id
    · obtain rfl := h.record_eq here ha own
      exact .cutShort at'.silent ended resolves
    · exact left (resolves.beside h.queue here own)
  | forwarded status same => exact .stays (same ▸ here)
  | measured m same => exact .stays (same ▸ here)
  | closed running ends => exact .ended (congrArg Status.isRunning ends.status) (ends.cancels here)

end Stage

end AsyncStage
