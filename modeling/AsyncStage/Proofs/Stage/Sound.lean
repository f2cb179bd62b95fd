import AsyncStage.Proofs.Stage.Additions

/-!
# Entries and their timers

A record in flight has an attempt outstanding, awaits a retry, or is done. The pending timers
are exactly those that the records in flight own: the deadline of every record that has no
result yet, if there is a timeout, and the retry of every record that awaits one. `Sound` says
so, and says that nothing is left of a stage that has ended. Each kind of work keeps all this.
-/

namespace AsyncStage

/-- How far a record in flight has come. -/
inductive Progress where
  /-- The attempt with this number is outstanding. -/
  | outstanding (attempt : Nat) (first : Instant)
  /-- The attempt with this number has ended with an outcome that a retry is to replace. -/
  | waiting (attempt : Nat) (first : Instant) (outcome : Outcome) (retryAt : Instant)
  | done (values : List String)

namespace RecordEntry

/-- What an entry looks like at each point of its progress. -/
inductive At (e : RecordEntry) : Progress → Prop where
  | outstanding {attempt : Nat} {first : Instant} (slot : e.slot = .pending)
      (attempts : e.retry.attempts = attempt) (started : e.retry.firstAttempt = some first)
      (timer : e.retry.retryTimer = none) (signal : e.signal = some attempt) :
      At e (.outstanding attempt first)
  | waiting {attempt : Nat} {first : Instant} {outcome : Outcome} {retryAt : Instant}
      (slot : e.slot = .pending) (attempts : e.retry.attempts = attempt)
      (started : e.retry.firstAttempt = some first) (timer : TimerId)
      (set : e.retry.retryTimer = some timer) (fires : e.retry.nextRetryAt = some retryAt)
      (kept : e.retry.lastOutcome = some outcome) (signal : e.signal = none) :
      At e (.waiting attempt first outcome retryAt)
  | done {values : List String} (slot : e.slot = .completed values) (timer : e.retry.retryTimer = none)
      (deadline : e.deadlineTimer = none) (signal : e.signal = none) : At e (.done values)

/-- The timers that an entry has set and not yet seen fire. -/
def Owns (timeout : Option Duration) (e : RecordEntry) (p : TimerKey × TimerTarget) : Prop :=
  (p.2 = .deadline e.id ∧ e.deadlineTimer = some p.1.id ∧
    ∃ first span, e.retry.firstAttempt = some first ∧ timeout = some span ∧ p.1.fireAt = first.after span.span) ∨
  (p.2 = .retry e.id ∧ e.retry.retryTimer = some p.1.id ∧ e.retry.nextRetryAt = some p.1.fireAt)

variable {e e' : RecordEntry} {timeout : Option Duration} {p : TimerKey × TimerTarget}

/-- A timer names its owner. -/
theorem id_eq_of_owns (h : e.Owns timeout p) (h' : e'.Owns timeout p) : e.id = e'.id := by
  rcases h with ⟨target, -⟩ | ⟨target, -⟩ <;> rcases h' with ⟨target', -⟩ | ⟨target', -⟩ <;>
    simp_all

theorem not_owns_withResult {values : List String} : ¬ (e.withResult values).Owns timeout p := by
  rintro (⟨-, none, -⟩ | ⟨-, none, -⟩) <;> cases none

theorem at_withResult (values : List String) : (e.withResult values).At (.done values) :=
  .done rfl rfl rfl rfl

theorem At.isDone {values : List String} (h : e.At (.done values)) : e.isDone = true := by
  cases h with
  | done slot => simp [RecordEntry.isDone, slot, Slot.isFinal]

theorem At.opened {attempt : Nat} {first : Instant} (h : e.At (.outstanding attempt first)) :
    e.isDone = false := by
  cases h with
  | outstanding slot => simp [RecordEntry.isDone, slot, Slot.isFinal]

theorem At.waits {attempt : Nat} {first : Instant} {outcome : Outcome} {retryAt : Instant}
    (h : e.At (.waiting attempt first outcome retryAt)) : e.isDone = false ∧ e.retry.isWaiting = true := by
  cases h with
  | waiting slot _ _ _ set => simp [RecordEntry.isDone, slot, Slot.isFinal, RetryContext.isWaiting, set]

/-- An entry that is done shows its values. -/
theorem At.of_isDone {progress : Progress} (h : e.At progress) (done : e.isDone = true) :
    ∃ values, progress = .done values := by
  cases h with
  | outstanding slot => simp [RecordEntry.isDone, slot, Slot.isFinal] at done
  | waiting slot => simp [RecordEntry.isDone, slot, Slot.isFinal] at done
  | done => exact ⟨_, rfl⟩

/-- An entry whose time is running is open, and its first attempt has been started. -/
theorem At.of_deadline {progress : Progress} {timer : TimerId} (h : e.At progress)
    (set : e.deadlineTimer = some timer) : e.isDone = false ∧ ∃ first, e.retry.firstAttempt = some first := by
  cases h with
  | outstanding slot _ started => exact ⟨by simp [RecordEntry.isDone, slot, Slot.isFinal], _, started⟩
  | waiting slot _ started => exact ⟨by simp [RecordEntry.isDone, slot, Slot.isFinal], _, started⟩
  | done _ _ deadline => simp [deadline] at set

/-- An entry shows how far it has come. -/
theorem At.unique {progress progress' : Progress} (h : e.At progress) (h' : e.At progress') :
    progress = progress' := by
  cases h <;> cases h' <;> simp_all

/-- A completion matters while the attempt is outstanding that it is of. -/
theorem At.of_accepts {progress : Progress} {attempt : Nat} (h : e.At progress)
    (accepted : e.accepts attempt = true) : ∃ first, progress = .outstanding attempt first := by
  simp only [RecordEntry.accepts, Bool.and_eq_true, Bool.not_eq_true', beq_iff_eq] at accepted
  obtain ⟨⟨opened, awake⟩, current⟩ := accepted
  cases h with
  | outstanding _ attempts => exact ⟨_, by rw [← attempts, current]⟩
  | waiting _ _ _ timer set => simp [RetryContext.isWaiting, set] at awake
  | done slot => simp [RecordEntry.isDone, slot, Slot.isFinal] at opened

end RecordEntry

namespace Stage

/-- What holds of a stage between two steps. -/
structure Sound (s : Stage) : Prop where
  queue : s.queue.Sound
  below : ∀ e ∈ s.entries, e.id < s.nextId
  timers : s.timers.Sound
  standing : ∀ e, .record e ∈ s.entries → ∃ progress, e.At progress
  armed : ∀ e, .record e ∈ s.entries → e.isDone = false → e.deadlineTimer.isSome = s.setup.timeout.isSome
  owned : ∀ p, p ∈ s.timers.toList ↔ ∃ e, .record e ∈ s.entries ∧ e.Owns s.setup.timeout p
  ended : s.isRunning = false → s.entries = []

variable {s s' s₁ : Stage} {e e' : RecordEntry} {new : List Event}

namespace Sound

/-- It does not matter what was emitted and noted before. -/
theorem collect (h : s.Sound) (output : Output) (history : Array Note) : Sound { s with output, history } :=
  ⟨h.queue, h.below, h.timers, h.standing, h.armed, h.owned, h.ended⟩

/-- Something is in flight only while the stage runs. -/
theorem isRunning_of_mem (h : s.Sound) {a : Entry} (here : a ∈ s.entries) : s.isRunning = true := by
  by_contra stopped
  rw [h.ended (Bool.not_eq_true _ ▸ stopped)] at here
  cases here

/-- No timer is pending while nothing is in flight. -/
theorem timers_of_empty (h : s.Sound) (none : s.entries = []) : s.timers.toList = [] := by
  refine List.eq_nil_iff_forall_not_mem.2 fun p hp => ?_
  obtain ⟨e, here, -⟩ := (h.owned p).1 hp
  rw [none] at here
  cases here

/-- The record of a number. -/
theorem record_eq (h : s.Sound) {a b : RecordEntry} (ha : .record a ∈ s.entries) (hb : .record b ∈ s.entries)
    (same : a.id = b.id) : a = b :=
  h.queue.increasing.record_eq ha hb same

/-- A record whose completion would be accepted is at this attempt. -/
theorem at_of_accepts (h : s.Sound) (here : .record e ∈ s.entries) {attempt : Nat}
    (accepted : e.accepts attempt = true) :
    ∃ first, e.At (.outstanding attempt first) := by
  obtain ⟨progress, at'⟩ := h.standing e here
  obtain ⟨first, rfl⟩ := at'.of_accepts accepted
  exact ⟨first, at'⟩

/-- A deadline is that of a record whose time runs: it began with the first attempt. -/
theorem deadline_eq (h : s.Sound) (here : .record e ∈ s.entries) {timer : TimerId}
    (set : e.deadlineTimer = some timer) :
    ∃ first span, e.retry.firstAttempt = some first ∧ s.setup.timeout = some span ∧
      e.Owns s.setup.timeout (⟨first.after span.span, timer⟩, .deadline e.id) := by
  obtain ⟨progress, at'⟩ := h.standing e here
  obtain ⟨opened, first, started⟩ := at'.of_deadline set
  obtain ⟨span, timeout⟩ : ∃ span, s.setup.timeout = some span := by
    rw [← Option.isSome_iff_exists, ← h.armed e here opened, set, Option.isSome_some]
  exact ⟨first, span, started, timeout, .inl ⟨rfl, set, first, span, started, timeout, rfl⟩⟩

/-- A pending timer with the number of an entry's deadline is this deadline. -/
theorem owns_of_deadline (h : s.Sound) (here : .record e ∈ s.entries) {p : TimerKey × TimerTarget}
    (hp : p ∈ s.timers.toList) (set : e.deadlineTimer = some p.1.id) : e.Owns s.setup.timeout p := by
  obtain ⟨first, span, -, -, own⟩ := h.deadline_eq here set
  rwa [h.timers.eq_of_id_eq hp ((h.owned _).2 ⟨e, here, own⟩) rfl]

/-- A pending timer with the number of an entry's retry is this retry. -/
theorem owns_of_retry (h : s.Sound) (here : .record e ∈ s.entries) {p : TimerKey × TimerTarget}
    (hp : p ∈ s.timers.toList) (set : e.retry.retryTimer = some p.1.id) : e.Owns s.setup.timeout p := by
  obtain ⟨progress, at'⟩ := h.standing e here
  cases at' with
  | outstanding _ _ _ timer => simp [timer] at set
  | done _ timer => simp [timer] at set
  | @waiting _ _ _ retryAt _ _ _ timer _ fires =>
    have own : e.Owns s.setup.timeout (⟨retryAt, p.1.id⟩, .retry e.id) := .inr ⟨rfl, set, fires⟩
    rwa [h.timers.eq_of_id_eq hp ((h.owned _).2 ⟨e, here, own⟩) rfl]

theorem spared_iff (h : s.Sound) (here : .record e ∈ s.entries) {p : TimerKey × TimerTarget} :
    s.Spared e p ↔ p ∈ s.timers.toList ∧ ¬ e.Owns s.setup.timeout p := by
  refine and_congr_right fun hp => ⟨?_, fun foreign => ⟨fun set => ?_, fun set => ?_⟩⟩
  · rintro ⟨deadline, retry⟩ (⟨-, set, -⟩ | ⟨-, set, -⟩)
    · exact deadline set
    · exact retry set
  · exact foreign (h.owns_of_deadline here hp set)
  · exact foreign (h.owns_of_retry here hp set)

/-! ## What keeps a stage sound -/

/-- Work on one entry, after which its timers are its own again. -/
theorem works (h : s.Sound) (w : Works s s' e e' new) (timers : s'.timers.Sound)
    (standing : ∃ progress, e'.At progress)
    (armed : e'.isDone = false → e'.deadlineTimer.isSome = s.setup.timeout.isSome)
    (owned : ∀ p, p ∈ s'.timers.toList ↔
      p ∈ s.timers.toList ∧ ¬ e.Owns s.setup.timeout p ∨ e'.Owns s.setup.timeout p) : s'.Sound where
  queue := w.queue.sound
  below a ha := by
    rw [w.nextId]
    rcases (w.queue.mem_iff h.queue).1 ha with rfl | ⟨old, -⟩
    · rw [Entry.id_record, w.queue.id]
      exact h.below _ w.queue.here
    · exact h.below a old
  timers := timers
  standing a ha := by
    rcases (w.queue.mem_iff h.queue).1 ha with same | ⟨old, -⟩
    · exact Entry.record.inj same ▸ standing
    · exact h.standing a old
  armed a ha := by
    rw [w.setup]
    rcases (w.queue.mem_iff h.queue).1 ha with same | ⟨old, -⟩
    · exact Entry.record.inj same ▸ armed
    · exact h.armed a old
  owned p := by
    rw [owned, h.owned, w.setup]
    constructor
    · rintro (⟨⟨a, ha, owns⟩, foreign⟩ | owns)
      · refine ⟨a, (w.queue.mem_iff h.queue).2 (.inr ⟨ha, fun same => foreign ?_⟩), owns⟩
        exact h.record_eq ha w.queue.here same ▸ owns
      · exact ⟨e', w.there h.queue, owns⟩
    · rintro ⟨a, ha, owns⟩
      rcases (w.queue.mem_iff h.queue).1 ha with same | ⟨old, other⟩
      · exact .inr (Entry.record.inj same ▸ owns)
      · exact .inl ⟨⟨a, old, owns⟩, fun own => other (RecordEntry.id_eq_of_owns owns own)⟩
  ended stopped := by
    have running := h.isRunning_of_mem w.queue.here
    rw [isRunning, w.status] at stopped
    rw [isRunning, stopped] at running
    cases running

/-- The end of a stage. -/
theorem ends {status : Status} (w : Ends s s' status) : s'.Sound := by
  have none := w.entries
  refine ⟨?_, by simp [none], ?_, by simp [none], by simp [none], by simp [none, w.timers], fun _ => none⟩
  · rw [w.queue]
    exact .clear _
  · rw [w.timers]
    exact TimerQueue.sound_clear _

/-- A final result. -/
theorem resolves (h : s.Sound) (here : .record e ∈ s.entries) {result : Resolution}
    (r : Resolves s s' e result new) : s'.Sound := by
  cases r with
  | completed values final works timers left =>
    apply h.works works timers ⟨_, RecordEntry.at_withResult values⟩ (fun opened => by cases opened)
    intro p
    rw [left, h.spared_iff here, or_iff_left RecordEntry.not_owns_withResult]
  | failed error s₁ e₁ final cause works silent stopped => exact ends stopped

/-- What does not touch the entries and the timers. -/
theorem quiet (h : s.Sound) (q : Quiet s s') : s'.Sound := by
  refine ⟨q.queue ▸ h.queue, ?_, q.timers ▸ h.timers, ?_, ?_, ?_, ?_⟩
  · rw [q.entries, q.nextId]
    exact h.below
  · rw [q.entries]
    exact h.standing
  · rw [q.entries, q.setup]
    exact h.armed
  · rw [q.entries, q.setup, q.timers]
    exact h.owned
  · rw [q.entries, q.isRunning]
    exact h.ended

/-- Taking up a completion. -/
theorem applies (h : s.Sound) {c : Completion} (r : Applies s s' c) : s'.Sound := by
  cases r with
  | ignored same => exact same ▸ h
  | resolved e here _ _ _ resolves => exact h.resolves here resolves
  | scheduled e here names accepted wanted works timers =>
    obtain ⟨first, at'⟩ := h.at_of_accepts here accepted
    obtain ⟨slot, attempts, started, timer, -⟩ := at'
    refine h.works works (timers ▸ h.timers.schedule)
      ⟨_, .waiting slot attempts started s.timers.nextId rfl rfl rfl rfl⟩ (h.armed e here) fun p => ?_
    have own : e.Owns s.setup.timeout p → p ∈ s.timers.toList := fun owns => (h.owned p).2 ⟨e, here, owns⟩
    rw [timers, TimerQueue.mem_schedule h.timers]
    constructor
    · rintro (rfl | old)
      · exact .inr (.inr ⟨congrArg _ names.symm, rfl, rfl⟩)
      · by_cases owns : e.Owns s.setup.timeout p
        · rcases owns with deadline | ⟨-, set, -⟩
          · exact .inr (.inl deadline)
          · simp [timer] at set
        · exact .inl ⟨old, owns⟩
    · rintro (⟨old, -⟩ | deadline | ⟨target, set, fires⟩)
      · exact .inr old
      · exact .inr (own (.inl deadline))
      · refine .inl (Prod.ext (TimerKey.ext (Option.some.inj fires).symm (Option.some.inj set).symm) ?_)
        exact target.trans (congrArg _ names)

/-- Admitting a watermark. -/
theorem admitWatermark (h : s.Sound) (running : s.isRunning = true) {t : Timestamp}
    (a : Admits s s' (.watermark s.nextId t) new) (timers : s'.timers = s.timers) : s'.Sound := by
  have mem : ∀ e, .record e ∈ s'.entries ↔ .record e ∈ s.entries := by simp [a.mem_entries]
  refine ⟨a.sound, a.below h.below, timers ▸ h.timers, ?_, ?_, ?_, fun stopped => ?_⟩
  · simp only [mem]
    exact h.standing
  · simp only [mem, a.setup]
    exact h.armed
  · simp only [mem, a.setup, timers]
    exact h.owned
  · cases running.symm.trans (a.isRunning ▸ stopped)

theorem mem_armed (h : s.Sound) {id : EntryId} {p : TimerKey × TimerTarget} :
    p ∈ (s.armed id).toList ↔ p ∈ s.timers.toList ∨
      ∃ span, s.setup.timeout = some span ∧ p = (⟨s.now.after span.span, s.timers.nextId⟩, .deadline id) := by
  unfold Stage.armed
  cases s.setup.timeout with
  | none => simp
  | some span => simp [TimerQueue.mem_schedule h.timers, or_comm]

theorem sound_armed (h : s.Sound) (id : EntryId) : (s.armed id).Sound := by
  unfold Stage.armed
  cases s.setup.timeout with
  | none => exact h.timers
  | some span => exact h.timers.schedule

/-- Admitting a record and starting its first attempt. -/
theorem admitRecord (h : s.Sound) (running : s.isRunning = true) {r : Record}
    (a : Admits s s' (.record (s.startedEntry r)) new) (timers : s'.timers = s.armed s.nextId) :
    s'.Sound := by
  have mem : ∀ e, .record e ∈ s'.entries ↔ .record e ∈ s.entries ∨ e = s.startedEntry r := by
    simp [a.mem_entries]
  refine ⟨a.sound, a.below h.below, timers ▸ h.sound_armed _, fun e he => ?_, fun e he opened => ?_,
    fun p => ?_, fun stopped => ?_⟩
  · rcases (mem e).1 he with old | rfl
    · exact h.standing e old
    · exact ⟨.outstanding 1 s.now, .outstanding rfl rfl rfl rfl rfl⟩
  · rw [a.setup]
    rcases (mem e).1 he with old | rfl
    · exact h.armed e old opened
    · exact Option.isSome_map
  · rw [timers, h.mem_armed, h.owned, a.setup]
    simp only [mem, or_and_right, exists_or, exists_eq_left]
    refine or_congr_right ⟨?_, ?_⟩
    · rintro ⟨span, timeout, rfl⟩
      exact .inl ⟨rfl, by simp [startedEntry, timeout], s.now, span, rfl, timeout, rfl⟩
    · rintro (⟨target, set, first, span, started, timeout, fires⟩ | ⟨-, set, -⟩)
      · refine ⟨span, timeout, Prod.ext (TimerKey.ext ?_ ?_) target⟩
        · rw [fires, ← Option.some.inj started]
          rfl
        · simpa [startedEntry, timeout, eq_comm] using set
      · cases set
  · cases running.symm.trans (a.isRunning ▸ stopped)

/-- Emission. -/
theorem emits (h : s.Sound) {drained : List Entry} (m : Emits s s' drained) : s'.Sound := by
  have stays : ∀ a ∈ s'.entries, a ∈ s.entries := fun a ha => m.queue.stays.subset ha
  refine ⟨m.queue.sound, fun a ha => ?_, m.timers ▸ h.timers, fun e he => h.standing e (stays _ he),
    fun e he => m.setup ▸ h.armed e (stays _ he), fun p => ?_, fun stopped => ?_⟩
  · rw [m.nextId]
    exact h.below a (stays a ha)
  · rw [m.timers, h.owned, m.setup]
    refine exists_congr fun e => and_congr_left fun owns => ⟨fun here => ?_, stays _⟩
    rcases List.mem_append.1 (m.queue.perm.mem_iff.2 here) with gone | left
    · obtain ⟨progress, at'⟩ := h.standing e here
      obtain ⟨values, rfl⟩ := at'.of_isDone (m.queue.done _ gone)
      cases at' with
      | done _ timer deadline =>
        rcases owns with ⟨-, set, -⟩ | ⟨-, set, -⟩
        · simp [deadline] at set
        · simp [timer] at set
    · exact left
  · rw [isRunning, m.status] at stopped
    exact List.eq_nil_of_subset_nil (h.ended stopped ▸ stays)

end Sound

end Stage

end AsyncStage
