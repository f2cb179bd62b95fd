import AsyncStage.Proofs.Stage.Attempts
import AsyncStage.Proofs.Stage.Causes
import AsyncStage.Proofs.Stage.Provenance

/-!
# Awaited retries

An answer that allows another attempt makes the record await it, and a retry that is awaited is
awaited until it starts: its timer fires before that of the record's deadline, and no other
record is in its way. Only the end of the input or of the stage takes it back. So after a turn all
attempts have been started that were due.
-/

namespace AsyncStage.Stage

variable {s s' : Stage} {e : RecordEntry} {id : EntryId} {r : Record} {attempt : Nat}
  {first answered retryAt : Instant} {outcome : Outcome}

/-- The stage runs, and its input has not ended. -/
def GoesOn (s : Stage) : Prop := s.retrying = true ∧ s.isRunning = true

theorem Step.goesOn (step : Step s s') (on : s'.GoesOn) : s.GoesOn := by
  obtain ⟨retrying, running⟩ := on
  cases step with
  | posted c same =>
    subst same
    exact ⟨retrying, running⟩
  | clock time same =>
    subst same
    exact ⟨retrying, running⟩
  | took takes =>
    refine ⟨?_, takes.lasts.ran running⟩
    cases takes.applies with
    | ignored same => rwa [same] at retrying
    | scheduled e here names accepted wanted works => rwa [works.retrying] at retrying
    | resolved e here names accepted unwanted resolves => rwa [resolves.retrying] at retrying
  | fired pops =>
    refine ⟨?_, pops.lasts.ran running⟩
    cases pops.fires with
    | retried e here at' set works => rwa [works.retrying] at retrying
    | expired e here opened started timeout deadline resolves => rwa [resolves.retrying] at retrying
  | emitted drained emits =>
    rw [emits.retrying] at retrying
    rw [isRunning, emits.status] at running
    exact ⟨retrying, running⟩
  | admittedRecord r run admits timers =>
    rw [admits.retrying] at retrying
    exact ⟨retrying, run⟩
  | admittedWatermark t run admits timers =>
    rw [admits.retrying] at retrying
    exact ⟨retrying, run⟩
  | inputEnded run same =>
    subst same
    cases retrying
  | cutShort e here ended at' resolves =>
    rw [resolves.retrying, ended] at retrying
    cases retrying
  | forwarded status same =>
    subst same
    exact ⟨retrying, running⟩
  | measured m same =>
    subst same
    exact ⟨retrying, running⟩
  | closed run ends =>
    rw [isRunning, ends.status] at running
    cases running

/-! ## A retry is awaited until it starts -/

/-- A timer that fires is not later than a retry that is awaited. -/
theorem Pops.le_retryAt {key : TimerKey} {target : TimerTarget} {rest : TimerQueue} (p : Pops s s' key target rest)
    (h : s.Sound) (here : .record e ∈ s.entries) (at' : e.At (.waiting attempt first outcome retryAt)) :
    key.fireAt ≤ retryAt := by
  cases at' with
  | waiting slot attempts started timer set fires =>
    have pending := (h.owned (⟨retryAt, timer⟩, .retry e.id)).2 ⟨e, here, .inr ⟨rfl, set, fires⟩⟩
    have order := s.timers.toList_pairwise
    rw [p.first] at pending order
    rcases List.mem_cons.1 pending with same | later
    · cases same
      exact Int.le_refl _
    · rcases (List.pairwise_cons.1 order).1 _ later with earlier | ⟨same, -⟩
      · exact Int.le_of_lt earlier
      · exact same ▸ Int.le_refl _

/-- A deadline that fires resolves the record of its number. -/
theorem Pops.expiry {key : TimerKey} {rest : TimerQueue} (p : Pops s s' key (.deadline id) rest) :
    ∃ e first span, .record e ∈ s.entries ∧ e.id = id ∧ e.retry.firstAttempt = some first ∧
      s.setup.timeout = some span ∧ key.fireAt = first.after span.span ∧
      Resolves s s' e (.error (.timeout (s.now.elapsed first) e.retry.attempts)) (s.expiry e first) := by
  obtain ⟨-, -, -, fires⟩ := p
  generalize deadline : TimerTarget.deadline id = target at fires
  cases fires with
  | retried e => cases deadline
  | @expired e here _ first span started timeout due resolves =>
    cases deadline
    exact ⟨e, first, span, here, rfl, started, timeout, due, resolves⟩

/-- Why a step gives up the retry that an entry awaits: the time of its record is up, the input ends,
or the stage does. -/
inductive Drops (s s' : Stage) (e : RecordEntry) : Prop where
  | expired {key : TimerKey} {rest : TimerQueue} (pops : Pops s s' key (.deadline e.id) rest)
  | inputEnded (ended : s.retrying = false) {outcome : Outcome}
      (resolves : Resolves s s' e (.ofOutcome outcome) [.resolved e.id (.ofOutcome outcome)])
  | stageEnded (running : s.isRunning = true) (stopped : s'.isRunning = false)

/-- **A retry is awaited until it starts** or is given up. -/
theorem Step.keeps (step : Step s s') (h : s.Sound) (here : .record e ∈ s.entries) (waits : e.retry.isWaiting = true) :
    .record e ∈ s'.entries ∨ ⟨s.now, .invoked (s.nextCall e)⟩ ∈ s'.told ∨ Drops s s' e := by
  cases step.fate h here with
  | stays there => exact .inl there
  | answered takes names accepted =>
    simp only [RecordEntry.accepts, Bool.and_eq_true, Bool.not_eq_true'] at accepted
    cases accepted.1.2.symm.trans waits
  | retried silent called => exact .inr (.inl called)
  | cutShort silent ended resolves => exact .inr (.inr (.inputEnded ended resolves))
  | emitted done =>
    obtain ⟨progress, at'⟩ := h.standing e here
    obtain ⟨values, rfl⟩ := at'.of_isDone done
    cases at' with
    | done _ timer => simp [RetryContext.isWaiting, timer] at waits
  | expired pops cancels => exact .inr (.inr (.expired pops))
  | ended stopped cancels => exact .inr (.inr (.stageEnded (h.isRunning_of_mem here) stopped))

/-- While the stage goes on, a retry is given up only if the time of its record is up before. -/
theorem Step.awaits (step : Step s s') (h : s.Sound) (on : s'.GoesOn) (here : .record e ∈ s.entries)
    (at' : e.At (.waiting attempt first outcome retryAt))
    (early : ∀ span, s.setup.timeout = some span → retryAt < first.after span.span) :
    .record e ∈ s'.entries ∨ ⟨s.now, .invoked (s.nextCall e)⟩ ∈ s'.told := by
  rcases step.keeps h here at'.waits.2 with there | called | drops
  · exact .inl there
  · exact .inr called
  · exfalso
    cases drops with
    | expired pops =>
      have order := pops.le_retryAt h here at'
      obtain ⟨a, first', span, ha, same, started, timeout, deadline, -⟩ := pops.expiry
      obtain rfl := h.record_eq here ha same.symm
      cases at' with
      | waiting _ _ started' =>
        obtain rfl := Option.some.inj (started.symm.trans started')
        exact absurd (deadline ▸ order) (Int.not_le.2 (early span timeout))
    | inputEnded ended resolves =>
      have retrying := on.1
      rw [resolves.retrying, ended] at retrying
      cases retrying
    | stageEnded running stopped =>
      rw [on.2] at stopped
      cases stopped

/-! ## An answer makes the record await its retry -/

/-- When the attempt after this one is to start if it was answered at `answered`. -/
def retryAfter (s : Stage) (answered : Instant) (attempt : Nat) : Instant :=
  answered.after (s.setup.retry.backoffBefore attempt).span

/-- The record of a number awaits the attempt after this one. -/
def AwaitsAfter (s : Stage) (id : EntryId) (attempt : Nat) (first answered : Instant) (outcome : Outcome) : Prop :=
  ∃ e, .record e ∈ s.entries ∧ e.id = id ∧ e.At (.waiting attempt first outcome (s.retryAfter answered attempt))

/-- Only taking up mail answers an attempt, and then its record awaits the next attempt unless none
is wanted. -/
theorem Step.answers {c : Completion} {t : Instant} (step : Step s s') (h : s.Sound)
    (told : ⟨t, .applied c⟩ ∈ s'.told) (fresh : ⟨t, .applied c⟩ ∉ s.told) :
    t = s.now ∧ ∃ e, .record e ∈ s.entries ∧ e.id = c.entry ∧ ∃ first, e.At (.outstanding c.attempt first) ∧
      (s.retryBackoff? e c = none ∨ s'.AwaitsAfter c.entry c.attempt first s.now c.outcome) := by
  obtain ⟨time, cause⟩ := step.cause h told fresh
  refine ⟨time, ?_⟩
  cases cause with
  | applied takes e here names accepted =>
    obtain ⟨first, at'⟩ := h.at_of_accepts here accepted
    refine ⟨e, here, names, first, at', ?_⟩
    cases takes.applies with
    | ignored same unwanted => cases (unwanted e here names).symm.trans accepted
    | scheduled a ha names' accepted' wanted works =>
      obtain rfl := h.record_eq here ha (names.trans names'.symm)
      refine .inr ⟨_, works.queue.there h.queue, names, ?_⟩
      obtain ⟨slot, counted, started, timer, signal⟩ := at'
      obtain ⟨-, -, rfl, -⟩ := retryBackoff?_eq_some_iff.1 wanted
      rw [retryAfter, works.setup]
      exact .waiting slot counted started s.timers.nextId rfl rfl rfl rfl
    | resolved a ha names' accepted' unwanted resolves =>
      obtain rfl := h.record_eq here ha (names.trans names'.symm)
      exact .inl unwanted

/-- What was told of a record was told after its admission. -/
theorem Kept.known (h : s.Kept) (h' : s'.Kept) (steps : Steps s s') (admitted : (id, Element.record r) ∈ s'.admitted)
    {n : Note} (told : n ∈ s.toldOf id) : (id, Element.record r) ∈ s.admitted := by
  have given : id < s.nextId := by
    refine Nat.lt_of_not_le fun new => ?_
    rw [h.told.recorded.unknown id new] at told
    cases told
  obtain ⟨x, known⟩ := h.lined.exists_admitted given
  have same := h'.lined.admitted_eq admitted ((admitted_extends steps).subset known) rfl
  exact same ▸ known

/-- The first attempt of a record is told of once. -/
theorem Kept.first_eq (h : s.Kept) (admitted : (id, Element.record r) ∈ s.admitted) {first' : Instant}
    (began : ⟨first, .invoked (s.setup.call id 1 r.value)⟩ ∈ s.told)
    (began' : ⟨first', .invoked (s.setup.call id 1 r.value)⟩ ∈ s.told) :
    first = first' := by
  obtain ⟨_, _, course⟩ := (h.told.recorded.stories id r admitted).course
  exact course.called_once (mem_toldOf began rfl) (mem_toldOf began' rfl)

/-- A retry that is awaited is still awaited after a step, or has been started by it. -/
theorem AwaitsAfter.step (awaits : s.AwaitsAfter id attempt first answered outcome) (h : s.Kept) (step : Step s s')
    (on : s'.GoesOn) (known : (id, Element.record r) ∈ s.admitted)
    (inTime : ∀ span, s.setup.timeout = some span → s.retryAfter answered attempt < first.after span.span) :
    ⟨s.now, .invoked (s.setup.call id (attempt + 1) r.value)⟩ ∈ s'.told ∨
      s'.AwaitsAfter id attempt first answered outcome := by
  obtain ⟨e, here, rfl, at'⟩ := awaits
  rcases step.awaits h.sound on here at' inTime with there | called
  · refine .inr ⟨e, there, rfl, ?_⟩
    rw [retryAfter, step.fixed.setup]
    exact at'
  · cases h.lined.admitted_eq known (h.lined.mem_admitted here) rfl
    cases at' with
    | waiting slot counted =>
      rw [nextCall, counted] at called
      exact .inl called

/-- What has been told of a record is a course that began with its first attempt. -/
theorem Kept.course (h : s.Kept) (h' : s'.Kept) (steps : Steps s s') (admitted : (id, Element.record r) ∈ s'.admitted)
    (began : ⟨first, .invoked (s'.setup.call id 1 r.value)⟩ ∈ s'.told) {n : Note} (told : n ∈ s.toldOf id) :
    (id, Element.record r) ∈ s.admitted ∧ ∃ attempts, Course s.setup id r attempts first (s.toldOf id) := by
  have known := h.known h' steps admitted told
  obtain ⟨attempts, first', course⟩ := (h.told.recorded.stories id r known).course
  have began' := (told_extends steps).subset (told_of_toldOf course.began)
  rw [← (fixed_of_steps steps).setup] at began'
  obtain rfl := h'.first_eq admitted began began'
  exact ⟨known, attempts, course⟩

/-- While a stage goes on, an attempt that was answered early enough for another one is followed by
it, or it is awaited. -/
def Prompt (s : Stage) : Prop :=
  s.GoesOn → ∀ id r first attempt answered outcome, (id, Element.record r) ∈ s.admitted →
    ⟨first, .invoked (s.setup.call id 1 r.value)⟩ ∈ s.told →
    Allows s.setup id first attempt answered outcome s.told → s.retryAfter answered attempt < .latest →
    (∃ t, ⟨t, .invoked (s.setup.call id (attempt + 1) r.value)⟩ ∈ s.told) ∨
      s.AwaitsAfter id attempt first answered outcome

theorem Prompt.step (prompt : s.Prompt) (h : s.Kept) (step : Step s s') : s'.Prompt := by
  intro on id r first attempt answered outcome admitted began allows early
  have h' := h.step step
  have steps : Steps s s' := .single step
  have told := told_extends steps
  have setup := step.fixed.setup
  obtain ⟨taken, wanted, span, limit, time⟩ := allows
  rw [setup] at wanted limit time
  rw [setup]
  rw [retryAfter, setup] at early
  by_cases old : ⟨answered, .applied ⟨id, attempt, outcome⟩⟩ ∈ s.told
  · obtain ⟨known, _, course⟩ := h.course h' steps admitted began (mem_toldOf old rfl)
    have began' := told_of_toldOf course.began
    rcases prompt (step.goesOn on) id r first attempt answered outcome known began' ⟨old, wanted, span, limit, time⟩
      early with ⟨t, called⟩ | awaits
    · exact .inl ⟨t, told.subset called⟩
    · refine (awaits.step h step on known fun span' limit' => ?_).imp_left fun called => ⟨s.now, called⟩
      obtain rfl := Option.some.inj (limit.symm.trans limit')
      refine Instant.lt_after_of_lt ?_ early
      rw [retryAfter, Instant.nanos_after_of_lt early]
      rw [Instant.since] at time
      omega
  · obtain ⟨rfl, e, here, rfl, first', at', next⟩ := step.answers h.sound taken old
    have known := h.lined.mem_admitted here
    cases h'.lined.admitted_eq admitted ((admitted_extends steps).subset known) rfl
    obtain rfl := h'.first_eq admitted began (setup ▸ told.subset (h.began here at'))
    refine .inr (next.resolve_left fun final => ?_)
    cases at' with
    | outstanding slot counted started =>
      have enough := timeAllows_iff.2 ⟨span, limit, time⟩
      simp [retryBackoff?, (step.goesOn on).1, wanted, started, enough] at final

/-- A stage that was built forgets no attempt. -/
theorem prompt_of_steps {b : Builder} {now : Instant} (built : b.build now = .ok s) (steps : Steps s s') :
    s'.Prompt := by
  have kept := Kept.build built
  induction steps with
  | refl =>
    obtain ⟨retry, rfl⟩ := build_eq built
    intro _ id r first attempt answered outcome admitted
    cases admitted
  | tail before last ih => exact ih.step (kept.steps before) last

/-- **An attempt starts as soon as it is due**: a turn starts every attempt that an answer allows
and whose backoff is over. -/
theorem Kept.turn_starts (h : s.Kept) (prompt : s.turn.Prompt) (on : s.turn.GoesOn)
    (admitted : (id, Element.record r) ∈ s.turn.admitted)
    (began : ⟨first, .invoked (s.setup.call id 1 r.value)⟩ ∈ s.turn.told)
    (follows : Follows s.setup id first attempt answered outcome s.now s.turn.told)
    (early : s.retryAfter answered attempt < .latest) :
    ∃ t, ⟨t, .invoked (s.setup.call id (attempt + 1) r.value)⟩ ∈ s.turn.told := by
  have setup := (fixed_of_steps (turn_steps h.sound)).setup
  rw [retryAfter, ← setup] at early
  rw [← setup] at follows began ⊢
  rcases prompt on id r first attempt answered outcome admitted began follows.toAllows early with called | awaits
  · exact called
  · obtain ⟨e, here, -, at'⟩ := awaits
    exact absurd follows.due (Int.not_le.2 (turn_awaits h.sound here at'))

end AsyncStage.Stage
