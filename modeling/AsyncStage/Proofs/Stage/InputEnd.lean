import AsyncStage.Proofs.Stage.Causes

/-!
# After the end of the input

Once the end of the input has been asked for, no retry is awaited and none is planned any more,
so no further attempt is ever started. All attempts of a record but the first one have been
started before.
-/

namespace AsyncStage.Stage

variable {s s' f : Stage} {e e' : RecordEntry} {n : Note}

/-- No retry is awaited, and none will be. -/
def Over (s : Stage) : Prop :=
  s.isRunning = true → s.retrying = false ∧ ∀ e, .record e ∈ s.entries → e.retry.isWaiting = false

theorem not_isRunning_of_ended {status : Status} (w : Ends s s' status) (ended : status.isRunning = false) :
    s'.isRunning = false := by
  rw [isRunning, w.status, ended]

/-- No further attempt starts between `s` and `s'`. -/
def NoRetry (s s' : Stage) : Prop := ∀ n ∈ s'.told, n.event.isRetry = true → n ∈ s.told

theorem Notes.noRetry (notes : Notes (fun v => v.isTimed = false) s s') : NoRetry s s' := by
  intro n told again
  by_contra fresh
  have silent := Event.not_isRetry_of_not_isTimed (notes.of_mem told fresh).2
  rw [again] at silent
  cases silent

theorem NoRetry.trans {s₁ : Stage} (a : NoRetry s s₁) (b : NoRetry s₁ s') : NoRetry s s' :=
  fun n told again => a n (b n told again) again

/-- A result leaves the other entries as they are. -/
theorem Resolves.isOver {result : Resolution} {new : List Event} (h : s.Sound) (past : s.Over)
    (r : Resolves s s' e result new) : s'.Over := by
  intro running
  cases r with
  | failed error s₁ e₁ final cause works silent ends =>
    rw [not_isRunning_of_ended ends rfl] at running
    cases running
  | completed values final works =>
    rw [isRunning, works.status] at running
    obtain ⟨ended, awake⟩ := past running
    refine ⟨works.retrying.trans ended, fun a ha => ?_⟩
    rcases (works.queue.mem_iff h.queue).1 ha with same | ⟨old, -⟩
    · exact Entry.record.inj same ▸ rfl
    · exact awake a old

namespace Over

theorem awake (past : s.Over) (h : s.Sound) (here : .record e ∈ s.entries) : e.retry.isWaiting = false :=
  (past (h.isRunning_of_mem here)).2 e here

/-- What leaves the entries alone. -/
theorem quiet (past : s.Over) (q : Quiet s s') (retrying : s'.retrying = s.retrying) : s'.Over := by
  intro running
  rw [q.isRunning] at running
  rw [q.entries, retrying]
  exact past running

theorem applies (past : s.Over) (h : s.Sound) {c : Completion} (r : Applies s s' c) : s'.Over := by
  cases r with
  | ignored same => exact same ▸ past
  | scheduled e here names accepted wanted works =>
    obtain ⟨retrying, -⟩ := retryBackoff?_eq_some_iff.1 wanted
    rw [(past (h.isRunning_of_mem here)).1] at retrying
    cases retrying
  | resolved e here names accepted unwanted resolves => exact resolves.isOver h past

theorem step (past : s.Over) (h : s.Sound) (step : Step s s') : s'.Over := by
  cases step with
  | posted c same => exact same ▸ past.quiet (quiet_post s c) rfl
  | clock time same => exact same ▸ past
  | @took c rest takes =>
    have quiet := quiet_mailbox s rest
    exact (past.quiet quiet rfl).applies (h.quiet quiet) takes.applies
  | fired pops =>
    cases pops.fires with
    | retried e here at' => cases at'.waits.2.symm.trans (past.awake h here)
    | expired e here opened started timeout deadline resolves => exact resolves.isOver h past
  | emitted drained emits =>
    intro running
    rw [isRunning, emits.status] at running
    obtain ⟨ended, awake⟩ := past running
    exact ⟨emits.retrying.trans ended, fun e here => awake e (emits.queue.stays.subset here)⟩
  | admittedRecord r running admits timers =>
    obtain ⟨ended, awake⟩ := past running
    refine fun _ => ⟨admits.retrying.trans ended, fun e here => ?_⟩
    rcases admits.mem_entries.1 here with old | same
    · exact awake e old
    · cases Entry.record.inj same
      rfl
  | admittedWatermark t running admits timers =>
    obtain ⟨ended, awake⟩ := past running
    refine fun _ => ⟨admits.retrying.trans ended, fun e here => ?_⟩
    exact awake e ((admits.mem_entries.1 here).resolve_right fun same => by cases same)
  | inputEnded running same => exact same ▸ fun _ => ⟨rfl, (past running).2⟩
  | cutShort e here ended at' => cases at'.waits.2.symm.trans (past.awake h here)
  | forwarded status same => exact same ▸ past.quiet (quiet_forwarded s status) rfl
  | measured m same => exact same ▸ past.quiet (quiet_measure s m) rfl
  | closed running ends =>
    intro running
    rw [not_isRunning_of_ended ends rfl] at running
    cases running

/-- Without an entry that awaits one, no further attempt starts. -/
theorem noRetry (past : s.Over) (h : s.Sound) (step : Step s s') : NoRetry s s' := by
  intro n told again
  by_contra fresh
  obtain ⟨-, cause⟩ := step.cause h told fresh
  generalize n.event = v at cause again
  cases cause with
  | invoked e there signal waiting =>
    obtain ⟨a, here, waits⟩ := waiting (of_decide_eq_true again)
    cases waits.symm.trans (past.awake h here)
  | _ => cases again

theorem steps (past : s.Over) (h : s.Sound) (steps : Steps s s') : s'.Over ∧ NoRetry s s' := by
  induction steps with
  | refl => exact ⟨past, fun _ told _ => told⟩
  | tail before last ih =>
    obtain ⟨past', none⟩ := ih
    have sound := h.steps before
    exact ⟨past'.step sound last, none.trans (past'.noRetry sound last)⟩

end Over

/-- Giving up retries leaves none of those awaited that it was to give up. -/
theorem GivesUp.awake {ids : List EntryId} (gives : GivesUp s ids s') (h : s.Sound) (running : s'.isRunning = true) :
    ∀ e, .record e ∈ s'.entries → e.retry.isWaiting = true → .record e ∈ s.entries ∧ e.id ∉ ids := by
  induction gives with
  | nil s => exact fun e here _ => ⟨here, List.not_mem_nil⟩
  | passed id stopped later ih =>
    cases (later.lasts.stopped stopped).symm.trans running
  | @cutShort s s₁ s' ids a here ended attempt first outcome retryAt at' resolves later ih =>
    intro e there waits
    obtain ⟨there, other⟩ := ih (h.step (.cutShort a here ended at' resolves)) running e there waits
    cases resolves with
    | failed error s₂ e₂ final cause works silent ends =>
      rw [ends.entries] at there
      cases there
    | completed values final works =>
      rcases (works.queue.mem_iff h.queue).1 there with same | ⟨old, apart⟩
      · cases Entry.record.inj same
        cases waits
      · exact ⟨old, List.not_mem_cons_of_ne_of_not_mem apart other⟩

/-- Once the awaited retries are given up, none is awaited any more. -/
theorem over_withoutRetries (h : s.Sound) (running : s.isRunning = true) : s.withoutRetries.Over := by
  intro still
  have gives := waiting_givesUp h running
  have retrying : ∀ {t t' : Stage} {ids : List EntryId}, GivesUp t ids t' → t'.retrying = t.retrying := by
    intro t t' ids gives
    induction gives with
    | nil s => rfl
    | passed id stopped later ih => exact ih
    | cutShort e here ended at' resolves later ih => exact ih.trans resolves.retrying
  refine ⟨retrying gives, fun e here => ?_⟩
  by_contra waits
  rw [Bool.not_eq_false] at waits
  obtain ⟨there, given⟩ := gives.awake (h.step (.inputEnded running rfl)) still e here waits
  exact given (mem_waitingIds.2 ⟨e, there, rfl, waits⟩)

/-- **The end of the input is the end of retrying**: whatever is done later, all attempts after a
first one were started before. -/
theorem finish_noRetry (h : s.Sound) (i : Interference) (steps : Steps (s.perform (.finish i)).1 f) :
    NoRetry s f := by
  cases running : s.isRunning with
  | false =>
    have past : s.Over := fun still => by rw [running] at still; cases still
    exact (past.steps h ((perform_steps h (.finish i)).trans steps)).2
  | true =>
    have sound := h.steps (withoutRetries_steps h running)
    have given : NoRetry s s.withoutRetries := by
      obtain ⟨now, told⟩ := GivesUp.notes (waiting_givesUp h running)
      exact Notes.noRetry ⟨now, told⟩
    have rest : Steps s.withoutRetries (s.finish i).1 := by
      rcases finish_cases h running i with ⟨error, -, same⟩ | ⟨-, go⟩
      · rw [same]
      · exact go.steps
    exact given.trans ((over_withoutRetries h running).steps sound (rest.trans steps)).2

end AsyncStage.Stage
