import AsyncStage.Proofs.Stage.Beginnings
import AsyncStage.Proofs.Stage.Emission
import AsyncStage.Proofs.Stage.InputEnd
import AsyncStage.Proofs.Stage.Signals

/-!
# The end of the input

At the end of the input the records that await a retry are resolved first, in the order of the queue
and with the outcome of their last attempt, before any mail is read. The first of them that fails
without a fallback ends the stage. What is outstanding is waited for, and when the answer is success
nothing is left in flight. No further attempt is started, whatever the answer is.
-/

namespace AsyncStage

/-- The result that an entry takes when its retry is given up. -/
def RecordEntry.lastResult (e : RecordEntry) : Resolution := .ofOutcome (e.retry.lastOutcome.getD (.values []))

namespace Stage

variable {s s' w : Stage} {e : RecordEntry} {l pre post : List RecordEntry} {error : EntryError}

/-- The entries that await a retry, in the order of the queue. -/
def waiting (s : Stage) : List RecordEntry := (s.entries.filterMap Entry.record?).filter fun e => e.retry.isWaiting

theorem mem_waiting : e ∈ s.waiting ↔ .record e ∈ s.entries ∧ e.retry.isWaiting = true := by
  simp only [waiting, List.mem_filter, List.mem_filterMap, Entry.record?_eq_some_iff, exists_eq_right]

theorem waitingIds_eq (s : Stage) : s.waitingIds = s.waiting.map (·.id) := by
  unfold waitingIds waiting
  induction s.entries.filterMap Entry.record? with
  | nil => rfl
  | cons e rest ih =>
    cases waits : e.retry.isWaiting with
    | false =>
      rw [List.filterMap_cons_none (by simp [waits]), List.filter_cons_of_neg (by simp [waits])]
      exact ih
    | true =>
      rw [List.filterMap_cons_some (by simp [waits]; rfl), List.filter_cons_of_pos (by simpa using waits), ih]
      rfl

/-! ## Retries that are given up -/

/-- Giving up a retry resolves the entry with the outcome of its last attempt. -/
theorem Sound.cutsShort_last (h : s.Sound) (here : .record e ∈ s.entries) (waits : e.retry.isWaiting = true) :
    Resolves s (s.cutShort e.id) e e.lastResult [.resolved e.id e.lastResult] := by
  obtain ⟨attempt, first, outcome, retryAt, at', resolves⟩ := h.cutsShort here waits
  have last : e.lastResult = .ofOutcome outcome := by
    cases at' with
    | waiting _ _ _ _ _ _ kept => rw [RecordEntry.lastResult, kept, Option.getD_some]
  rw [last]
  exact resolves

/-- In going from `s` to `w` these entries took the outcomes of their last attempts, one after the
other, and nothing else happened. -/
structure Settles (s w : Stage) (l : List RecordEntry) : Prop where
  setup : w.setup = s.setup
  now : w.now = s.now
  mailbox : w.mailbox = s.mailbox
  told : w.told = s.told ++ l.map fun e => ⟨s.now, .resolved e.id e.lastResult⟩
  /-- Each of them gets the values of the outcome, or those that the fallback makes of its error. -/
  settled : ∀ e ∈ l, ∃ values, s.setup.final? e.record e.lastResult = some values ∧
    .record (e.withResult values) ∈ w.entries
  others : ∀ a ∈ s.entries, (∀ e ∈ l, a.id ≠ e.id) → a ∈ w.entries
  /-- Their timers are cancelled. -/
  timers : ∀ p, p ∈ w.timers.toList ↔ p ∈ s.timers.toList ∧
    ∀ e ∈ l, e.deadlineTimer ≠ some p.1.id ∧ e.retry.retryTimer ≠ some p.1.id

theorem Settles.refl (s : Stage) : Settles s s [] :=
  ⟨rfl, rfl, rfl, (List.append_nil _).symm, List.forall_mem_nil _, fun _ ha _ => ha,
    fun _ => (and_iff_left (List.forall_mem_nil _)).symm⟩

/-- One more entry before the others. -/
theorem Settles.cons {s₁ : Stage} {values : List String} (h : s.Sound)
    (final : s.setup.final? e.record e.lastResult = some values)
    (works : Works s s₁ e (e.withResult values) [.resolved e.id e.lastResult])
    (left : ∀ p, p ∈ s₁.timers.toList ↔ s.Spared e p) (new : e.id ∉ l.map (·.id)) (rest : Settles s₁ w l) :
    Settles s w (e :: l) where
  setup := rest.setup.trans works.setup
  now := rest.now.trans works.now
  mailbox := rest.mailbox.trans (works.mailbox.trans (List.append_nil _))
  told := by
    rw [rest.told, works.told, works.now, List.append_assoc]
    rfl
  settled a ha := by
    rcases List.mem_cons.1 ha with rfl | later
    · refine ⟨values, final, rest.others _ (works.there h.queue) fun b hb same => new ?_⟩
      exact List.mem_map.2 ⟨b, hb, same.symm⟩
    · rw [← works.setup]
      exact rest.settled a later
  others a ha other := by
    obtain ⟨apart, others⟩ := List.forall_mem_cons.1 other
    exact rest.others a ((works.queue.mem_iff h.queue).2 (.inr ⟨ha, apart⟩)) others
  timers p := by
    rw [rest.timers, left, Spared, List.forall_mem_cons, and_assoc, and_assoc]

theorem cutShorts_of_ended (h : s.Sound) (stopped : s.isRunning = false) (ids : List EntryId) :
    ids.foldl cutShort s = s := by
  induction ids with
  | nil => rfl
  | cons id ids ih => rw [List.foldl_cons, cutShort_of_ended h stopped, ih]

/-- The entries that are left to be given up await their retries still. -/
theorem Works.await {values : List String} {new : List Event} (works : Works s s' e (e.withResult values) new)
    (h : s.Sound) (waits : ∀ a ∈ e :: l, .record a ∈ s.entries ∧ a.retry.isWaiting = true)
    (new : e.id ∉ l.map (·.id)) : ∀ a ∈ l, .record a ∈ s'.entries ∧ a.retry.isWaiting = true := by
  intro a ha
  obtain ⟨there, waits⟩ := waits a (List.mem_cons_of_mem _ ha)
  refine ⟨(works.queue.mem_iff h.queue).2 (.inr ⟨there, fun same => new ?_⟩), waits⟩
  exact List.mem_map.2 ⟨a, ha, same⟩

/-- **Retries that are given up are settled one after the other**, if the stage survives. -/
theorem cutShorts_settles (h : s.Sound) (distinct : (l.map (·.id)).Nodup)
    (waits : ∀ e ∈ l, .record e ∈ s.entries ∧ e.retry.isWaiting = true)
    (alive : ((l.map (·.id)).foldl cutShort s).isRunning = true) : Settles s ((l.map (·.id)).foldl cutShort s) l := by
  induction l generalizing s with
  | nil => exact .refl s
  | cons e l ih =>
    obtain ⟨new, distinct⟩ := List.nodup_cons.1 distinct
    obtain ⟨here, wait⟩ := waits e List.mem_cons_self
    have resolves := h.cutsShort_last here wait
    have sound := h.resolves here resolves
    rw [List.map_cons, List.foldl_cons] at alive ⊢
    cases resolves with
    | completed values final works timers left =>
      exact .cons h final works left new (ih sound distinct (works.await h waits new) alive)
    | failed error s₁ e₁ final cause works silent ends =>
      have stopped := congrArg Status.isRunning ends.status
      rw [cutShorts_of_ended sound stopped] at alive
      cases stopped.symm.trans alive

/-- **The first failure ends the stage**: without a fallback the first entry whose last attempt failed
is the one that the stage fails with. -/
theorem cutShorts_fails (h : s.Sound) (distinct : ((pre ++ e :: post).map (·.id)).Nodup)
    (waits : ∀ a ∈ pre ++ e :: post, .record a ∈ s.entries ∧ a.retry.isWaiting = true)
    (unset : s.setup.fallback = none) (fine : ∀ a ∈ pre, ∃ values, a.lastResult = .values values)
    (fails : e.lastResult = .error error) :
    (((pre ++ e :: post).map (·.id)).foldl cutShort s).status = .failed ⟨s.stepId, e.record.value, error⟩ := by
  induction pre generalizing s with
  | nil =>
    obtain ⟨here, wait⟩ := waits e List.mem_cons_self
    have resolves := h.cutsShort_last here wait
    have sound := h.resolves here resolves
    rw [List.nil_append, List.map_cons, List.foldl_cons]
    cases resolves with
    | completed values final works =>
      rw [fails, Setup.final?, unset] at final
      cases final
    | failed error' s₁ e₁ final cause works silent ends =>
      rw [cutShorts_of_ended sound (congrArg Status.isRunning ends.status), ends.status]
      cases fails.symm.trans cause
      rfl
  | cons a pre ih =>
    obtain ⟨new, distinct⟩ := List.nodup_cons.1 distinct
    obtain ⟨here, wait⟩ := waits a List.mem_cons_self
    obtain ⟨⟨values, good⟩, fine⟩ := List.forall_mem_cons.1 fine
    have resolves := h.cutsShort_last here wait
    have sound := h.resolves here resolves
    rw [List.cons_append, List.map_cons, List.foldl_cons]
    cases resolves with
    | completed values final works =>
      rw [ih sound distinct (works.await h waits new) (works.setup ▸ unset) fine, stepId, works.setup]
      rfl
    | failed error' s₁ e₁ final cause works silent ends => cases good.symm.trans cause

/-! ## The end of the input -/

theorem withoutRetries_eq (s : Stage) :
    s.withoutRetries = (s.waiting.map (·.id)).foldl cutShort { s with retrying := false } := by
  rw [withoutRetries, waitingIds_eq]

section Running

variable (h : s.Sound) (running : s.isRunning = true)

include h running

/-- **Before any mail is read** all awaited retries are settled, if the stage survives. -/
theorem withoutRetries_settles (alive : s.withoutRetries.isRunning = true) : Settles s s.withoutRetries s.waiting := by
  have distinct := waitingIds_eq s ▸ waitingIds_nodup h
  rw [withoutRetries_eq] at alive ⊢
  have sound := h.step (.inputEnded running rfl)
  obtain ⟨setup, now, mailbox, told, settled, others, timers⟩ :=
    cutShorts_settles sound distinct (fun e he => mem_waiting.1 he) alive
  exact ⟨setup, now, mailbox, told, settled, others, timers⟩

theorem withoutRetries_fails (split : s.waiting = pre ++ e :: post) (unset : s.setup.fallback = none)
    (fine : ∀ a ∈ pre, ∃ values, a.lastResult = .values values) (fails : e.lastResult = .error error) :
    s.withoutRetries.status = .failed ⟨s.stepId, e.record.value, error⟩ := by
  have distinct := waitingIds_eq s ▸ waitingIds_nodup h
  have waits : ∀ a ∈ s.waiting, .record a ∈ s.entries ∧ a.retry.isWaiting = true := fun a ha => mem_waiting.1 ha
  rw [withoutRetries_eq]
  rw [split] at distinct waits ⊢
  exact cutShorts_fails (h.step (.inputEnded running rfl)) distinct waits unset fine fails

end Running

/-! ## What is left, and what is not -/

/-- Nothing is in flight, and everything that was admitted has been emitted. -/
structure Drained (s : Stage) : Prop where
  running : s.isRunning = true
  entries : s.entries = []
  timers : s.timers.toList = []
  whole : (s.released.map Entry.label).Perm s.admitted
  ordered : s.queue.mode = .ordered → s.released.map Entry.label = s.admitted
  output : s.output.elements.toList = s.released.flatMap Entry.rendering
  /-- A record is emitted as its final values. -/
  records : ∀ id r, (id, Element.record r) ∈ s.admitted → ∃ e result values, .record e ∈ s.released ∧ e.id = id ∧
    (id, result) ∈ s.resolved ∧ s.setup.final? r result = some values ∧
    (Entry.record e).rendering = values.map fun v => .record ⟨v, r.timestamp⟩
  /-- A watermark is emitted as itself. -/
  watermarks : ∀ id t, (id, Element.watermark t) ∈ s.admitted → .watermark id t ∈ s.released ∧
    (Entry.watermark id t).rendering = [.watermark t]

theorem Kept.drained (h : s.Kept) (running : s.isRunning = true) (empty : s.entries = []) : s.Drained := by
  obtain ⟨lost, none, perm, -⟩ := h.lined.line
  rw [none running, empty, List.append_nil, List.append_nil] at perm
  refine ⟨running, empty, h.sound.timers_of_empty empty, perm, fun ordered => ?_, h.lined.output, ?_, ?_⟩
  · rw [(h.inOrder ordered).whole running, empty, List.append_nil]
  · intro id r admitted
    obtain ⟨a, released, label⟩ := List.mem_map.1 (perm.mem_iff.2 admitted)
    cases a with
    | watermark => cases label
    | record e =>
      cases label
      obtain ⟨result, values, told, final, rendering⟩ := h.rendered.final e released
      exact ⟨e, result, values, released, rfl, told, final, rendering⟩
  · intro id t admitted
    obtain ⟨a, released, label⟩ := List.mem_map.1 (perm.mem_iff.2 admitted)
    cases a with
    | record => cases label
    | watermark id' t' =>
      cases label
      exact ⟨released, rfl⟩

/-- The outcome that a record keeps while it awaits a retry is that of its last attempt. -/
theorem Kept.last_of_waiting (h : s.Kept) (he : e ∈ s.waiting) : ∃ outcome, e.lastResult = .ofOutcome outcome ∧
    ⟨e.id, e.retry.attempts, outcome⟩ ∈ s.applied ∧
    s.invoked.filter (fun call => call.entry = e.id) = callsOf s.setup e.id e.record e.retry.attempts := by
  obtain ⟨here, waits⟩ := mem_waiting.1 he
  obtain ⟨progress, at'⟩ := h.sound.standing e here
  cases at' with
  | outstanding _ _ _ timer => simp [RetryContext.isWaiting, timer] at waits
  | done _ timer => simp [RetryContext.isWaiting, timer] at waits
  | @waiting attempt first outcome retryAt slot counted started timer set fires kept signal =>
    have attempts := h.told.attempts here (.waiting slot counted started timer set fires kept signal)
      (by simp [RecordEntry.isDone, slot, Slot.isFinal])
    obtain ⟨t, taken⟩ := attempts.applied_of_waiting
    refine ⟨outcome, by rw [RecordEntry.lastResult, kept, Option.getD_some], ?_, ?_⟩
    · rw [counted]
      exact applied_of_told (told_of_toldOf taken)
    · rw [invoked_filter, attempts.invocations_eq rfl, counted]

/-- The calls of further attempts. -/
def retries (s : Stage) : List Invocation := s.invoked.filter fun call => 1 < call.attempt

/-- If calls are made once, those of further attempts are the same if no further attempt starts. -/
theorem NoRetry.retries_eq (none : NoRetry s s') (steps : Steps s s') (once : s'.invoked.Nodup) :
    s'.retries = s.retries := by
  obtain ⟨new, told⟩ := told_extends steps
  have grows := events_filterMap_append (f := Event.invocation?)
    (fun e silent => by cases e <;> first | rfl | cases silent) told.symm
  have invoked : s'.invoked = s.invoked ++ new.filterMap fun n => n.event.invocation? := grows
  rw [invoked, List.nodup_append] at once
  have first : (new.filterMap fun n => n.event.invocation?).filter (fun call => 1 < call.attempt) = [] := by
    refine List.filter_eq_nil_iff.2 fun call called again => once.2.2 call ?_ call called rfl
    obtain ⟨⟨t, v⟩, hn, shown⟩ := List.mem_filterMap.1 called
    cases v <;> cases shown
    exact mem_invoked.2 ⟨t, none _ (told ▸ List.mem_append_right _ hn) again⟩
  rw [retries, invoked, List.filter_append, first, List.append_nil, retries]

/-- What the end of the input comes to. -/
structure Finishes (s : Stage) (stepId : String) (i : Interference) : Prop where
  /-- Success leaves nothing in flight, and everything is emitted. -/
  done : (s.finish i).2 = .done () → (s.finish i).1.Drained
  /-- Whatever the answer is and whatever is done later, no further attempt is started. -/
  noRetry : ∀ f, Steps (s.finish i).1 f → f.retries = s.retries
  /-- The records that await a retry keep the outcomes of their last attempts. -/
  last : ∀ e ∈ s.waiting, ∃ outcome, e.lastResult = .ofOutcome outcome ∧
    ⟨e.id, e.retry.attempts, outcome⟩ ∈ s.applied ∧
    s.invoked.filter (fun call => call.entry = e.id) = callsOf s.setup e.id e.record e.retry.attempts
  /-- They are resolved with them before anything else is done, unless the stage ends. -/
  settles : (s.finish i).2 = .done () ∨ (s.finish i).2 = .failed .cannotBlock →
    Settles s s.withoutRetries s.waiting ∧ Steps s.withoutRetries (s.finish i).1
  /-- Without a fallback the first of them whose last attempt failed is the one that is answered. -/
  fails : s.setup.fallback = none → ∀ pre e post error, s.waiting = pre ++ e :: post →
    (∀ a ∈ pre, ∃ values, a.lastResult = .values values) → e.lastResult = .error error →
    (s.finish i).2 = .failed (.entryFailed ⟨stepId, e.record.value, error⟩)

theorem Kept.finishes (h : s.Kept) (running : s.isRunning = true) (i : Interference)
    (once : ∀ f, Steps s f → f.invoked.Nodup) : s.Finishes s.stepId i where
  done ok := by
    obtain ⟨-, running', empty⟩ := finish_done h.sound ok
    exact (h.steps (finish_goes h.sound i).steps).drained running' empty
  noRetry f later := by
    have steps := (finish_goes h.sound i).steps.trans later
    exact (finish_noRetry h.sound i later).retries_eq steps (once f steps)
  last e he := h.last_of_waiting he
  settles answer := by
    rcases finish_cases h.sound running i with ⟨error, failed, same⟩ | ⟨fine, go⟩
    · obtain ⟨f, -, rfl⟩ := failure?_eq_some failed
      rw [same] at answer
      rcases answer with answer | answer <;> cases answer
    · have lasts : Lasts s s.withoutRetries := Lasts.trans (.inl rfl) (waiting_givesUp h.sound running).lasts
      exact ⟨withoutRetries_settles h.sound running (lasts.isRunning running fine), go.steps⟩
  fails unset pre e post error split fine cause := by
    have status := withoutRetries_fails h.sound running split unset fine cause
    have failed : s.withoutRetries.failure? = some (.entryFailed ⟨s.stepId, e.record.value, error⟩) := by
      rw [failure?, status]
      rfl
    rcases finish_cases h.sound running i with ⟨error', failed', same⟩ | ⟨fine', -⟩
    · rw [same, Option.some.inj (failed'.symm.trans failed)]
    · cases failed.symm.trans fine'

/-- A record awaits its second attempt, and another one its answer. -/
def oneWaiting : List Action :=
  [.offer ⟨"a", none⟩ [], .offer ⟨"b", none⟩ [], .undergo (.completes ⟨0, 1, .failure ⟨"down"⟩⟩), .poll]

/-- The answer comes in at the end of the input. -/
def answerAtEnd : Interference where
  meanwhile := [.completes ⟨1, 1, .values ["B"]⟩]

/-- **The end of the input drains a stage**, whatever happens meanwhile. Records that await a retry are
settled first, with the outcomes of their last attempts, and no retry is started any more. If the
answer is success, everything that was admitted has been emitted. -/
theorem finish_drains {b : Builder} {now : Instant} {answer : Option StageError} (begins : b.Begins now s answer)
    (actions : List Action) (running : (s.run actions).isRunning = true) (i : Interference) :
    (s.run actions).Finishes b.config.stepId i := by
  rw [← begins.stepId actions]
  obtain ⟨s₀, before, built, rfl, -, -⟩ := begins.exists_run
  rw [← run_append] at running ⊢
  have steps := run_steps (build_sound built) (before ++ actions)
  exact (Kept.run built _).finishes running i fun f later => .of_map _ (accounted built (steps.trans later)).distinct

/-- The record that awaits its retry gets the values of the fallback, and the other one its own. Without
a fallback the stage fails. -/
theorem finish_drains_oneWaiting : ∃ s, patient.build .epoch = .ok s ∧
    (s.run oneWaiting).Finishes "async_wait" answerAtEnd ∧ ((s.run oneWaiting).finish answerAtEnd).1.Drained ∧
    ((s.run oneWaiting).finish answerAtEnd).1.resolved =
      [(0, .error (.invocation ⟨"down"⟩)), (1, .values ["B"])] ∧
    ∃ s', { patient with fallback := none }.build .epoch = .ok s' ∧
      ((s'.run oneWaiting).finish answerAtEnd).2 =
        .failed (.entryFailed ⟨"async_wait", "a", .invocation ⟨"down"⟩⟩) := by
  have built : patient.build .epoch = .ok (start patient tenths .epoch) := rfl
  have finishes := finish_drains (.built built) oneWaiting (by decide +kernel) answerAtEnd
  have strict : { patient with fallback := none }.build .epoch =
    .ok (start { patient with fallback := none } tenths .epoch) := rfl
  have fails := (finish_drains (.built strict) oneWaiting (by decide +kernel) answerAtEnd).fails
  have waiting : ((start { patient with fallback := none } tenths .epoch).run oneWaiting).waiting.map
      (fun e => (e.record.value, e.lastResult)) = [("a", .error (.invocation ⟨"down"⟩))] := by decide +kernel
  obtain ⟨e, split, shows'⟩ := List.map_eq_singleton_iff.1 waiting
  obtain ⟨value, cause⟩ := Prod.mk.inj shows'
  refine ⟨_, built, finishes, finishes.done (by decide +kernel), by decide +kernel, _, strict, ?_⟩
  rw [fails (by decide +kernel) [] e [] _ split (List.forall_mem_nil _) cause, value]
  rfl

end Stage

end AsyncStage
