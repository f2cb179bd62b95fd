import AsyncStage.Proofs.Stage.Beginnings
import AsyncStage.Proofs.Stage.Provenance

/-!
# Fail-stop

A stage ends when it is closed, or when an entry fails for good, and the operation during which this
happens answers with the failure. Nothing else ends it, and it ends once. What is left has no
entries and no timers, and refuses every operation without doing anything. Completions may still
come in and the clock goes on, but nobody looks at them any more.
-/

namespace AsyncStage

/-- Whether the action is an operation that a stage performs only while it runs. -/
def Action.needsRunning : Action → Bool
  | .offer _ _ => true
  | .put _ _ => true
  | .putWatermark _ _ => true
  | .forwardStatus _ => true
  | .poll => true
  | .finish _ => true
  | .snapshot => false
  | .checkpoint _ _ => true
  | .close => false
  | .undergo _ => false

/-- The failure of an entry that an error tells of. -/
def StageError.failure? : StageError → Option EntryFailure
  | .entryFailed failure => some failure
  | _ => none

/-- Whether the event is one that happens to a stage that has ended: a completion comes in, or the
time is taken of a snapshot. -/
def Event.isIdle : Event → Bool
  | .posted _ => true
  | .measured .snapshotTimed => true
  | _ => false

namespace Stage

variable {s s' : Stage} {a : Action} {actions : List Action} {α : Type}

/-! ## Answers with a failure -/

/-- A failure that is answered is the one that ended the stage. -/
def Truthful (s : Stage) (error : Option StageError) : Prop :=
  ∀ failure, error = some (.entryFailed failure) → s.status = .failed failure

theorem Truthful.of_none (s : Stage) : s.Truthful none := nofun

theorem truthful_failure? {error : StageError} (failed : s.failure? = some error) : s.Truthful (some error) := by
  obtain ⟨f, status, rfl⟩ := failure?_eq_some failed
  rintro f' ⟨⟩
  exact status

theorem truthful_unlessFailed {next : Stage → Stage × Except StageError α}
    (go : (next s).1.Truthful (errorOf (next s).2)) :
    (s.unlessFailed next).1.Truthful (errorOf (s.unlessFailed next).2) := by
  unfold unlessFailed
  cases failed : s.failure? with
  | some error => exact truthful_failure? failed
  | none => exact go

theorem truthful_whileRunning {next : Stage → Stage × Except StageError α}
    (go : (next s).1.Truthful (errorOf (next s).2)) :
    (s.whileRunning next).1.Truthful (errorOf (s.whileRunning next).2) := by
  unfold whileRunning
  split
  · exact go
  · rintro f ⟨⟩

theorem truthful_afterTurn {next : Stage → Stage × Except StageError α}
    (go : ∀ s, (next s).1.Truthful (errorOf (next s).2)) :
    (s.afterTurn next).1.Truthful (errorOf (s.afterTurn next).2) :=
  truthful_whileRunning (truthful_unlessFailed (go s.turn))

theorem truthful_admitIfRoom {entry : Stage → Entry} {start : Stage → Stage → Stage} {meanwhile : List Occurrence}
    {no yes : α} (s : Stage) : (admitIfRoom entry start meanwhile no yes s).1.Truthful
      (errorOf (admitIfRoom entry start meanwhile no yes s).2) := by
  unfold admitIfRoom
  split
  · exact .of_none s
  · exact truthful_unlessFailed (.of_none _)

theorem truthful_offer (s : Stage) (r : Record) (meanwhile : List Occurrence) :
    (s.offer r meanwhile).1.Truthful (errorOf (s.offer r meanwhile).2) := by
  rw [offer_eq]
  exact truthful_afterTurn truthful_admitIfRoom

theorem truthful_offerWatermark (s : Stage) (t : Timestamp) (meanwhile : List Occurrence) :
    (s.offerWatermark t meanwhile).1.Truthful (errorOf (s.offerWatermark t meanwhile).2) := by
  rw [offerWatermark_eq]
  exact truthful_afterTurn truthful_admitIfRoom

theorem truthful_poll (s : Stage) : s.poll.1.Truthful (errorOf s.poll.2) := truthful_afterTurn .of_none

theorem truthful_answerOr {r : Stage × Except StageError (Option α)} {next : Stage → Stage × Reply α}
    (first : r.1.Truthful (errorOf r.2)) (go : ∀ s, (next s).1.Truthful (next s).2.error?) :
    (answerOr r next).1.Truthful (answerOr r next).2.error? := by
  obtain ⟨s, answer⟩ := r
  match answer with
  | .error error => exact first
  | .ok (some a) => exact .of_none s
  | .ok none => exact go s

theorem truthful_repeatUntil {attempt : Stage → Stage × Except StageError (Option α)} {stuck : Reply α}
    (go : ∀ s, (attempt s).1.Truthful (errorOf (attempt s).2)) (mute : ∀ s : Stage, s.Truthful stuck.error?)
    (wakes : List Wake) (s : Stage) :
    (repeatUntil attempt stuck wakes s).1.Truthful (repeatUntil attempt stuck wakes s).2.error? := by
  induction wakes generalizing s with
  | nil => exact truthful_answerOr (go s) mute
  | cons w wakes ih =>
    apply truthful_answerOr (go s)
    intro t
    cases failed : (t.sleep w).failure? with
    | some error =>
      simp only [failed]
      exact truthful_failure? failed
    | none =>
      simp only [failed]
      exact ih _

theorem truthful_waitFor {attempt : Stage → Stage × Except StageError (Option α)} (waiting : Waiting)
    (go : ∀ s, (attempt s).1.Truthful (errorOf (attempt s).2)) (s : Stage) :
    (s.waitFor waiting attempt).1.Truthful (s.waitFor waiting attempt).2.error? := by
  cases waiting with
  | forbidden => exact truthful_repeatUntil go (fun _ _ told => by cases told) [] s
  | wakes wakes => exact truthful_repeatUntil go (fun _ _ told => by cases told) wakes s

theorem truthful_put (s : Stage) (r : Record) (i : Interference) :
    (s.put r i).1.Truthful (s.put r i).2.error? := by
  rw [put_eq]
  refine truthful_waitFor i.waiting (fun t => ?_) s
  rw [errorOf_untilRoom]
  exact truthful_offer t r i.meanwhile

theorem truthful_putWatermark (s : Stage) (t : Timestamp) (i : Interference) :
    (s.putWatermark t i).1.Truthful (s.putWatermark t i).2.error? := by
  rw [putWatermark_eq]
  refine truthful_waitFor i.waiting (fun u => ?_) s
  rw [errorOf_untilRoom]
  exact truthful_offerWatermark u t i.meanwhile

theorem truthful_finish (s : Stage) (i : Interference) : (s.finish i).1.Truthful (s.finish i).2.error? := by
  cases running : s.isRunning with
  | false =>
    rw [finish_of_stopped running]
    rintro f ⟨⟩
  | true =>
    rw [finish_of_running running]
    cases failed : s.withoutRetries.failure? with
    | some error => exact truthful_failure? failed
    | none => exact truthful_waitFor i.waiting (fun u => truthful_unlessFailed (.of_none _)) _

theorem truthful_checkpoint (s : Stage) (id : CheckpointId) (store : Store) :
    (s.checkpoint id store).1.Truthful (errorOf (s.checkpoint id store).2.2) := by
  rcases checkpoint_cases s id store with ⟨error, failed, same⟩ | ⟨-, store', answer, same, done⟩
  · rw [same]
    exact failed ▸ truthful_poll s
  · rw [same]
    rcases done with rfl | ⟨error, rfl⟩
    · exact .of_none _
    · rintro f ⟨⟩

/-- **A failure is answered only by the operation that it ended.** -/
theorem truthful_perform (s : Stage) (a : Action) : (s.perform a).1.Truthful (s.perform a).2 := by
  cases a with
  | offer r meanwhile => exact truthful_offer s r meanwhile
  | put r i => exact truthful_put s r i
  | putWatermark t i => exact truthful_putWatermark s t i
  | forwardStatus status =>
    simp only [perform, forwardStatus]
    exact truthful_whileRunning (.of_none _)
  | poll => exact truthful_poll s
  | finish i => exact truthful_finish s i
  | snapshot => exact .of_none _
  | checkpoint id store => exact truthful_checkpoint s id store
  | close => exact .of_none _
  | undergo o => exact .of_none _

/-! ## What ends a stage -/

/-- Only closing a stage changes its status without a failure. -/
theorem perform_lasts (h : s.Sound) (open' : a ≠ .close) : Lasts s (s.perform a).1 := by
  cases a with
  | offer r meanwhile => exact (offer_goes h r meanwhile).lasts
  | put r i => exact (put_goes h r i).lasts
  | putWatermark t i => exact (putWatermark_goes h t i).lasts
  | forwardStatus status =>
    simp only [perform, forwardStatus, whileRunning]
    split <;> exact .inl rfl
  | poll => exact (poll_goes h).lasts
  | finish i => exact (finish_goes h i).lasts
  | snapshot => exact .inl rfl
  | checkpoint id store => exact (checkpoint_goes h id store).lasts
  | close => exact absurd rfl open'
  | undergo o => exact .inl (quiet_undergo s o).status

theorem close_stops (running : s.isRunning = true) : s.close.status = .closed := by
  rw [close, if_pos running]
  exact (teardown_ends s .closed).status

/-- **What ends a running stage**: closing it, or a failure with which the operation answers. -/
theorem perform_stops_iff (h : s.Sound) (running : s.isRunning = true) (a : Action) :
    (s.perform a).1.isRunning = false ↔ a = .close ∨ ∃ failure, (s.perform a).2 = some (.entryFailed failure) := by
  constructor
  · intro stopped
    by_cases closes : a = .close
    · exact .inl closes
    · rcases perform_lasts h closes with same | ⟨failure, failed⟩
      · rw [isRunning, same, ← isRunning, running] at stopped
        cases stopped
      · exact .inr ⟨failure, perform_reports h running a failed⟩
  · rintro (rfl | ⟨failure, told⟩)
    · exact congrArg Status.isRunning (close_stops running)
    · rw [isRunning, truthful_perform s a failure told]
      rfl

/-! ## A stage that has ended -/

/-- A call that is refused does not wait. -/
theorem waitFor_refused {attempt : Stage → Stage × Except StageError (Option α)} {error : StageError}
    (refused : attempt s = (s, .error error)) (waiting : Waiting) :
    s.waitFor waiting attempt = (s, .failed error) := by
  cases waiting with
  | forbidden => simp only [waitFor, repeatUntil, refused, answerOr]
  | wakes wakes => cases wakes <;> simp only [waitFor, repeatUntil, refused, answerOr]

section Stopped

variable (stopped : s.isRunning = false)

include stopped

theorem whileRunning_stopped (next : Stage → Stage × Except StageError α) :
    s.whileRunning next = (s, .error (.closed s.stepId)) := by
  rw [whileRunning, stopped, if_neg Bool.false_ne_true]

theorem afterTurn_stopped (next : Stage → Stage × Except StageError α) :
    s.afterTurn next = (s, .error (.closed s.stepId)) := whileRunning_stopped stopped _

theorem checkpoint_stopped (id : CheckpointId) (store : Store) :
    s.checkpoint id store = (s, store, .error (.closed s.stepId)) := by
  simp only [checkpoint, poll, afterTurn_stopped stopped]

/-- **An operation of a stage that has ended** is refused and does nothing. -/
theorem perform_stopped (needs : a.needsRunning = true) : s.perform a = (s, some (.closed s.stepId)) := by
  cases a with
  | offer r meanwhile => simp only [perform, offer, afterTurn_stopped stopped, errorOf]
  | put r i =>
    have refused : s.put r i = (s, .failed (.closed s.stepId)) := by
      rw [put_eq]
      apply waitFor_refused
      rw [offer, afterTurn_stopped stopped]
      rfl
    simp only [perform, refused, Reply.error?]
  | putWatermark t i =>
    have refused : s.putWatermark t i = (s, .failed (.closed s.stepId)) := by
      rw [putWatermark_eq]
      apply waitFor_refused
      rw [offerWatermark, afterTurn_stopped stopped]
      rfl
    simp only [perform, refused, Reply.error?]
  | forwardStatus status => simp only [perform, forwardStatus, whileRunning_stopped stopped, errorOf]
  | poll => simp only [perform, poll, afterTurn_stopped stopped, errorOf]
  | finish i => simp only [perform, finish, stopped, Bool.false_eq_true, if_false, Reply.error?]
  | snapshot => cases needs
  | checkpoint id store => simp only [perform, checkpoint_stopped stopped, errorOf]
  | close => cases needs
  | undergo o => cases needs

end Stopped

/-- In going from `s` to `s'` a stage that has ended did nothing. -/
structure Rests (s s' : Stage) : Prop where
  setup : s'.setup = s.setup
  status : s'.status = s.status
  queue : s'.queue = s.queue
  timers : s'.timers = s.timers
  output : s'.output = s.output
  events : ∃ new, s'.events = s.events ++ new ∧ ∀ v ∈ new, v.isIdle = true

namespace Rests

theorem refl (s : Stage) : Rests s s := ⟨rfl, rfl, rfl, rfl, rfl, [], by simp, by simp⟩

theorem trans {s₁ : Stage} (a : Rests s s₁) (b : Rests s₁ s') : Rests s s' := by
  obtain ⟨new, more, all⟩ := a.events
  obtain ⟨new', more', all'⟩ := b.events
  refine ⟨b.setup.trans a.setup, b.status.trans a.status, b.queue.trans a.queue, b.timers.trans a.timers,
    b.output.trans a.output, new ++ new', ?_, List.forall_mem_append.2 ⟨all, all'⟩⟩
  rw [more', more, List.append_assoc]

theorem note (s : Stage) {v : Event} (idle : v.isIdle = true) : Rests s (s.note v) :=
  ⟨rfl, rfl, rfl, rfl, rfl, [v], events_note s v, List.forall_mem_singleton.2 idle⟩

theorem isRunning (r : Rests s s') (stopped : s.isRunning = false) : s'.isRunning = false := by
  rwa [Stage.isRunning, r.status]

end Rests

theorem perform_rests (stopped : s.isRunning = false) (a : Action) : Rests s (s.perform a).1 := by
  cases needs : a.needsRunning with
  | true =>
    rw [perform_stopped stopped needs]
    exact .refl s
  | false =>
    cases a with
    | snapshot => exact .note s rfl
    | close =>
      simp only [perform, close, stopped, Bool.false_eq_true, if_false]
      exact .refl s
    | undergo o =>
      cases o with
      | completes c =>
        exact ⟨rfl, rfl, rfl, rfl, rfl, [.posted c], events_note _ _, List.forall_mem_singleton.2 rfl⟩
      | clockReads t => exact ⟨rfl, rfl, rfl, rfl, rfl, [], by simp [perform, undergo, events], by simp⟩
    | _ => cases needs

/-- **A stage that has ended rests**, whatever is done with it. -/
theorem run_rests (stopped : s.isRunning = false) (actions : List Action) : Rests s (s.run actions) := by
  induction actions generalizing s with
  | nil => exact .refl s
  | cons a actions ih =>
    have first := perform_rests stopped a
    exact first.trans (ih (first.isRunning stopped))

/-- Nothing is left of a stage that has ended, and its operations are refused without any effect. -/
structure Inert (s : Stage) (stepId : String) : Prop where
  stopped : s.isRunning = false
  entries : s.entries = []
  timers : s.timers.toList = []
  refuses : ∀ a, a.needsRunning = true → s.perform a = (s, some (.closed stepId))
  /-- A checkpoint does not call the store. -/
  checkpoint : ∀ id store, s.checkpoint id store = (s, store, .error (.closed stepId))
  close : s.close = s
  snapshot : s.pendingElements = []

theorem Sound.inert (h : s.Sound) (stopped : s.isRunning = false) : s.Inert s.stepId where
  stopped := stopped
  entries := h.ended stopped
  timers := h.timers_of_empty (h.ended stopped)
  refuses _ needs := perform_stopped stopped needs
  checkpoint id store := checkpoint_stopped stopped id store
  close := by rw [Stage.close, stopped, if_neg Bool.false_ne_true]
  snapshot := by rw [pendingElements, h.ended stopped, List.map_nil]

/-! ## The rest of an operation -/

/-- In going from `s` to `s'` nothing is done after the end of the stage. -/
structure Idle (s s' : Stage) : Prop where
  status : s'.status = s.status
  entries : s'.entries = []
  timers : s'.timers.toList = []
  emitted : s'.output.elements = s.output.elements
  told : ∀ n ∈ s'.told, n ∈ s.told ∨ ∃ c, n.event = .posted c

theorem Step.idle (step : Step s s') (h : s.Sound) (stopped : s.isRunning = false) : Idle s s' := by
  have none := h.ended stopped
  have empty := h.timers_of_empty none
  have gone : ∀ {e : RecordEntry} {P : Prop}, .record e ∈ s.entries → P := fun {e P} here => by
    rw [none] at here
    cases here
  have runs : ∀ {P : Prop}, s.isRunning = true → P := fun {P} running => by
    rw [stopped] at running
    cases running
  cases step with
  | posted c same =>
    subst same
    refine ⟨rfl, none, empty, rfl, fun n hn => ?_⟩
    rw [post, told_note rfl, List.mem_append, List.mem_singleton] at hn
    refine hn.imp id fun last => ⟨c, ?_⟩
    rw [last]
  | clock time same => exact same ▸ ⟨rfl, none, empty, rfl, fun _ => .inl⟩
  | took takes =>
    cases takes.applies with
    | ignored same => exact same ▸ ⟨rfl, none, empty, rfl, fun _ => .inl⟩
    | scheduled e here => exact gone here
    | resolved e here => exact gone here
  | fired pops =>
    rw [pops.first] at empty
    cases empty
  | emitted drained emits =>
    have leaves : drained = [] := List.eq_nil_of_subset_nil fun a ha => none ▸ emits.mem ha
    subst leaves
    refine ⟨emits.status, ?_, emits.timers ▸ empty, ?_, fun n hn => .inl ?_⟩
    · exact List.eq_nil_of_subset_nil (none ▸ emits.queue.stays.subset)
    · exact Array.toList_inj.1 (emits.output.trans (List.append_nil _))
    · rwa [emits.told, List.map_nil, List.map_nil, List.append_nil] at hn
  | admittedRecord r running => exact runs running
  | admittedWatermark t running => exact runs running
  | inputEnded running => exact runs running
  | cutShort e here => exact gone here
  | forwarded status same =>
    subst same
    exact ⟨rfl, none, empty, (quiet_forwarded s status).output, fun _ => .inl⟩
  | measured m same =>
    subst same
    exact ⟨rfl, none, empty, rfl, fun n hn => .inl (told_measure s m ▸ hn)⟩
  | closed running => exact runs running

/-- **Once a stage has ended**, also in the middle of an operation, nothing more is done. -/
theorem steps_idle (h : s.Sound) (stopped : s.isRunning = false) (steps : Steps s s') : Idle s s' := by
  induction steps with
  | refl => exact ⟨rfl, h.ended stopped, h.timers_of_empty (h.ended stopped), rfl, fun _ => .inl⟩
  | tail before last ih =>
    have next := last.idle (h.steps before) (by rwa [isRunning, ih.status])
    refine ⟨next.status.trans ih.status, next.entries, next.timers, next.emitted.trans ih.emitted, fun n hn => ?_⟩
    exact (next.told n hn).elim (ih.told n) .inr

/-! ## One failure at most -/

/-- A run of a running stage ends it by closing it or with a failure. -/
theorem stopped_of_run (h : s.Sound) (running : s.isRunning = true) (stopped : (s.run actions).isRunning = false) :
    .close ∈ actions ∨ ∃ failure, .entryFailed failure ∈ s.errors actions := by
  induction actions generalizing s with
  | nil =>
    rw [show (s.run []).isRunning = s.isRunning from rfl, running] at stopped
    cases stopped
  | cons a actions ih =>
    cases still : (s.perform a).1.isRunning with
    | true =>
      refine (ih (h.steps (perform_steps h a)) still stopped).imp (List.mem_cons_of_mem a) ?_
      rintro ⟨failure, told⟩
      exact ⟨failure, List.mem_append_right _ told⟩
    | false =>
      rcases (perform_stops_iff h running a).1 still with closes | ⟨failure, told⟩
      · exact .inl (closes ▸ List.mem_cons_self)
      · exact .inr ⟨failure, List.mem_append_left _ (Option.mem_toList.2 told)⟩

/-- The operations of a stage that has ended answer with no failure. -/
theorem failures_stopped (stopped : s.isRunning = false) (actions : List Action) :
    (s.errors actions).filterMap StageError.failure? = [] := by
  induction actions generalizing s with
  | nil => rfl
  | cons a actions ih =>
    have refused : (s.perform a).2.toList.filterMap StageError.failure? = [] := by
      cases needs : a.needsRunning with
      | true =>
        rw [perform_stopped stopped needs]
        rfl
      | false =>
        cases a with
        | snapshot => rfl
        | close => rfl
        | undergo o => rfl
        | _ => cases needs
    rw [errors, List.filterMap_append, refused, ih ((perform_rests stopped a).isRunning stopped)]
    rfl

/-- **A stage fails once**: at most one operation answers with a failure. -/
theorem failures_le_one (h : s.Sound) (actions : List Action) :
    ((s.errors actions).filterMap StageError.failure?).length ≤ 1 := by
  induction actions generalizing s with
  | nil => exact Nat.zero_le 1
  | cons a actions ih =>
    rw [errors, List.filterMap_append, List.length_append]
    cases answer : (s.perform a).2.bind StageError.failure? with
    | none =>
      have first : (s.perform a).2.toList.filterMap StageError.failure? = [] := by
        cases told : (s.perform a).2 with
        | none => rfl
        | some error => simpa [told] using answer
      rw [first, List.length_nil, Nat.zero_add]
      exact ih (h.steps (perform_steps h a))
    | some failure =>
      obtain ⟨error, told, names⟩ := Option.bind_eq_some_iff.1 answer
      obtain rfl : error = .entryFailed failure := by cases error <;> cases names; rfl
      have ended : (s.perform a).1.isRunning = false := by
        rw [isRunning, truthful_perform s a failure told]
        rfl
      rw [failures_stopped ended, told]
      exact Nat.le_refl 1

/-! ## All together -/

/-- What ends a running stage, and what does not. -/
structure EndsOnly (s : Stage) : Prop where
  stops : ∀ a, (s.perform a).1.isRunning = false ↔
    a = .close ∨ ∃ failure, (s.perform a).2 = some (.entryFailed failure)
  failed : ∀ a failure, (s.perform a).2 = some (.entryFailed failure) → (s.perform a).1.status = .failed failure
  /-- A full queue does not end it. -/
  full : ∀ r meanwhile r', (s.offer r meanwhile).2 = .ok (.full r') → (s.offer r meanwhile).1.isRunning = true
  /-- Nor does a thread that must not block. -/
  cannotBlock : ∀ a, (s.perform a).2 = some .cannotBlock → (s.perform a).1.isRunning = true
  /-- Nor does a store that fails. -/
  store : ∀ a error, (s.perform a).2 = some (.recovery error) → (s.perform a).1.isRunning = true

theorem Sound.endsOnly (h : s.Sound) (running : s.isRunning = true) : s.EndsOnly := by
  have goesOn : ∀ a, (∀ failure, (s.perform a).2 ≠ some (.entryFailed failure)) → a ≠ .close →
      (s.perform a).1.isRunning = true := by
    intro a fine open'
    by_contra stopped
    rcases (perform_stops_iff h running a).1 (Bool.not_eq_true _ ▸ stopped) with closes | ⟨failure, told⟩
    · exact open' closes
    · exact fine failure told
  refine ⟨perform_stops_iff h running, truthful_perform s, fun r meanwhile r' full => ?_, fun a told => ?_,
    fun a error told => ?_⟩
  · have answer : (s.perform (.offer r meanwhile)).2 = none := congrArg errorOf full
    exact goesOn (.offer r meanwhile) (fun failure told => by rw [answer] at told; cases told) nofun
  · refine goesOn a (fun failure failed => by rw [told] at failed; cases failed) ?_
    rintro rfl
    cases told
  · refine goesOn a (fun failure failed => by rw [told] at failed; cases failed) ?_
    rintro rfl
    cases told

/-- How a stage ends in a run, and what is left of it. Its beginning was answered with `error`, if
any. -/
structure FailStop (s : Stage) (stepId : String) (error : Option StageError) (actions : List Action) : Prop where
  endsOnly : (s.run actions).isRunning = true → (s.run actions).EndsOnly
  /-- A stage that has ended was closed or has answered with a failure. -/
  cause : (s.run actions).isRunning = false →
    .close ∈ actions ∨ ∃ failure, StageError.entryFailed failure ∈ error.toList ++ s.errors actions
  once : ((error.toList ++ s.errors actions).filterMap StageError.failure?).length ≤ 1
  /-- It stays as it is, whatever is done with it. -/
  inert : (s.run actions).isRunning = false → ∀ later,
    ((s.run actions).run later).Inert stepId ∧ Rests (s.run actions) ((s.run actions).run later)
  /-- The operation during which it ends does nothing any more either. -/
  idle : ∀ u v, Steps s u → u.isRunning = false → Steps u v → Idle u v

/-- A completion comes in when it is too late, and the stage is asked to go on. -/
def tooLate : List Action := [.undergo (.completes ⟨0, 1, .values ["late"]⟩), good, .poll, .close]

/-- **Fail-stop.** However a stage began and whatever is done with it, it ends only by being closed
or by an entry that fails for good, and one operation at most answers with such a failure. From then
on nothing is in flight, no timer is pending, and every operation is refused without any effect. -/
theorem fail_stop {b : Builder} {now : Instant} {error : Option StageError} (begins : b.Begins now s error)
    (actions : List Action) : s.FailStop b.config.stepId error actions := by
  have sound := begins.kept.sound
  have steps := run_steps sound actions
  have final := sound.steps steps
  have stepId := begins.stepId actions
  obtain ⟨s₀, before, built, rfl, answers, open'⟩ := begins.exists_run
  have sound₀ := build_sound built
  have running₀ : s₀.isRunning = true := by
    obtain ⟨retry, rfl⟩ := build_eq built
    rfl
  have whole : s₀.errors (before ++ actions) = error.toList ++ (s₀.run before).errors actions := by
    rw [errors_append, answers]
  refine ⟨final.endsOnly, fun stopped => ?_, ?_, fun stopped later => ?_, ?_⟩
  · rw [← run_append] at stopped
    rw [← whole]
    refine (stopped_of_run sound₀ running₀ stopped).imp_left fun closes => ?_
    exact (List.mem_append.1 closes).resolve_left open'
  · rw [← whole]
    exact failures_le_one sound₀ _
  · have rests := run_rests stopped later
    have inert := (final.steps (run_steps final later)).inert (rests.isRunning stopped)
    rw [Stage.stepId, rests.setup, ← Stage.stepId, stepId] at inert
    exact ⟨inert, rests⟩
  · exact fun u v toU stopped toV => steps_idle (sound.steps toU) stopped toV

/-- The second record ends the stage, and that is all. -/
theorem fail_stop_oneGood : ∃ s, oneGood.build .epoch = .ok s ∧ s.FailStop "async_wait" none [good, bad] ∧
    (s.run [good, bad]).status = .failed ⟨"async_wait", "bad", .invocation ⟨"down"⟩⟩ ∧
    ((s.run [good, bad]).run tooLate).Inert "async_wait" ∧
    (s.errors ([good, bad] ++ tooLate)).filterMap StageError.failure? =
      [⟨"async_wait", "bad", .invocation ⟨"down"⟩⟩] := by
  have built : oneGood.build .epoch = .ok (start oneGood .never .epoch) := rfl
  have stop := fail_stop (.built built) [good, bad]
  exact ⟨_, built, stop, by decide +kernel, (stop.inert (by decide +kernel) tooLate).1, by decide +kernel⟩

end Stage

end AsyncStage
