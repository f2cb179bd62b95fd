import AsyncStage.Proofs.Stage.Operations

/-!
# Runs

An `Action` is a call of an operation, with what happens while it is under way, or something
that happens between two calls. A run performs actions one after the other. Whatever the
actions are, a run of a sound stage is a sequence of moves, and an action during which the
stage fails answers with the failure.
-/

namespace AsyncStage

/-- What may be done with a stage, and what may happen to it. -/
inductive Action where
  | offer (record : Record) (meanwhile : List Occurrence)
  | put (record : Record) (i : Interference)
  | putWatermark (time : Timestamp) (i : Interference)
  | forwardStatus (status : StreamStatus)
  | poll
  | finish (i : Interference)
  | snapshot
  | checkpoint (id : CheckpointId) (store : Store)
  | close
  | undergo (occurrence : Occurrence)

instance (r : Reply Unit) : Decidable (r = .done ()) :=
  match r with
  | .done () => .isTrue rfl
  | .failed _ => .isFalse nofun
  | .blocked => .isFalse nofun

/-- The error of an answer. -/
def Reply.error? {α : Type} : Reply α → Option StageError
  | .done _ => none
  | .failed error => some error
  | .blocked => none

namespace Stage

/-- The error of an answer. -/
def errorOf {α : Type} : Except StageError α → Option StageError
  | .ok _ => none
  | .error error => some error

/-- Performs an action; the answer is the error with which the operation answers, if any. -/
def perform (s : Stage) : Action → Stage × Option StageError
  | .offer r meanwhile => let (s, answer) := s.offer r meanwhile; (s, errorOf answer)
  | .put r i => let (s, answer) := s.put r i; (s, answer.error?)
  | .putWatermark t i => let (s, answer) := s.putWatermark t i; (s, answer.error?)
  | .forwardStatus status => let (s, answer) := s.forwardStatus status; (s, errorOf answer)
  | .poll => let (s, answer) := s.poll; (s, errorOf answer)
  | .finish i => let (s, answer) := s.finish i; (s, answer.error?)
  | .snapshot => (s.snapshot.1, none)
  | .checkpoint id store => let (s, _, answer) := s.checkpoint id store; (s, errorOf answer)
  | .close => (s.close, none)
  | .undergo o => (s.undergo o, none)

/-- Performs several actions, one after the other. -/
def run (s : Stage) (actions : List Action) : Stage := actions.foldl (fun s action => (s.perform action).1) s

variable {s s' : Stage}

/-- A stage keeps its status unless an entry fails for good. -/
def Lasts (s s' : Stage) : Prop := s'.status = s.status ∨ ∃ failure, s'.status = .failed failure

theorem Lasts.trans {s s' s'' : Stage} (a : Lasts s s') (b : Lasts s' s'') : Lasts s s'' := by
  rcases b with same | failed
  · exact a.imp same.trans fun ⟨f, failed⟩ => ⟨f, same.trans failed⟩
  · exact .inr failed

theorem Resolves.lasts {e : RecordEntry} {result : Resolution} {new : List Event}
    (r : Resolves s s' e result new) : Lasts s s' := by
  cases r with
  | completed values final works => exact .inl works.status
  | failed error s₁ e₁ final cause works silent ends => exact .inr ⟨_, ends.status⟩

theorem Takes.lasts {c : Completion} {rest : List Completion} (t : Takes s s' c rest) : Lasts s s' := by
  cases t.applies with
  | ignored same => exact .inl (same ▸ rfl)
  | scheduled e here names accepted wanted works => exact .inl works.status
  | resolved e here names accepted unwanted resolves => exact resolves.lasts

theorem Pops.lasts {key : TimerKey} {target : TimerTarget} {rest : TimerQueue}
    (p : Pops s s' key target rest) : Lasts s s' := by
  cases p.fires with
  | retried e here at' set works => exact .inl works.status
  | expired e here opened started timeout deadline resolves => exact resolves.lasts

theorem Reads.lasts (reads : Reads s s') : Lasts s s' :=
  Reads.between Lasts (fun _ => .inl rfl) Lasts.trans reads Takes.lasts

theorem Expires.lasts (expires : Expires s s') : Lasts s s' :=
  Expires.between Lasts (fun _ => .inl rfl) Lasts.trans expires Pops.lasts

/-- A stage that has ended does not run again. -/
theorem Lasts.stopped (l : Lasts s s') (stopped : s.isRunning = false) : s'.isRunning = false := by
  rcases l with same | ⟨failure, failed⟩
  · rwa [isRunning, same]
  · rw [isRunning, failed]
    rfl

theorem Lasts.ran (l : Lasts s s') (running : s'.isRunning = true) : s.isRunning = true := by
  by_contra stopped
  cases (l.stopped (Bool.not_eq_true _ ▸ stopped)).symm.trans running

/-- A running stage that has not failed in a turn is running still. -/
theorem turn_lasts (h : s.Sound) : Lasts s s.turn := by
  obtain ⟨reads, expires, drained, emits⟩ := turn_parts h
  exact ((Reads.lasts reads).trans (Expires.lasts expires)).trans (.inl emits.status)

theorem Lasts.isRunning (l : Lasts s s') (running : s.isRunning = true) (fine : s'.failure? = none) :
    s'.isRunning = true := by
  rcases l with same | ⟨failure, failed⟩
  · rwa [Stage.isRunning, same]
  · simp [failure?, failed, Status.failure?] at fine

/-! ## Operations -/

/-- An operation makes moves, does not close the stage, and answers with a failure. -/
structure Goes (s s' : Stage) (error : Option StageError) : Prop where
  moves : Moves s s'
  lasts : Lasts s s'
  reports : s.isRunning = true → ∀ failure, s'.status = .failed failure → error = some (.entryFailed failure)

theorem Goes.steps {error : Option StageError} (g : Goes s s' error) : Steps s s' := Moves.steps g.moves

theorem Goes.refl {error : Option StageError} (s : Stage) : Goes s s error where
  moves := .refl
  lasts := .inl rfl
  reports running f failed := by rw [isRunning, failed] at running; cases running

variable {s₁ : Stage} {α : Type}

theorem Goes.after {error : Option StageError} (moves : Moves s s₁) (lasts : Lasts s s₁)
    (running : s.isRunning = true → s₁.isRunning = true) (g : Goes s₁ s' error) : Goes s s' error where
  moves := moves.trans g.moves
  lasts := lasts.trans g.lasts
  reports run := g.reports (running run)

theorem failure?_eq_some {error : StageError} (failed : s.failure? = some error) :
    ∃ f, s.status = .failed f ∧ error = .entryFailed f := by
  unfold failure? at failed
  cases status : s.status with
  | running => simp [status, Status.failure?] at failed
  | closed => simp [status, Status.failure?] at failed
  | failed f => exact ⟨f, rfl, by simpa [status, Status.failure?, eq_comm] using failed⟩

theorem failure?_of_running (running : s.isRunning = true) : s.failure? = none := by
  unfold isRunning at running
  unfold failure?
  cases status : s.status with
  | running => rfl
  | closed => rfl
  | failed f =>
    rw [status] at running
    cases running

/-- Stopping at a failure. -/
theorem Goes.failed {error : StageError} (moves : Moves s s₁) (lasts : Lasts s s₁)
    (failed : s₁.failure? = some error) : Goes s s₁ (some error) := by
  obtain ⟨f, status, rfl⟩ := failure?_eq_some failed
  refine ⟨moves, lasts, fun _ f' failed' => ?_⟩
  rw [status] at failed'
  cases failed'
  rfl

theorem unlessFailed_goes {next : Stage → Stage × Except StageError α} (moves : Moves s s₁)
    (lasts : Lasts s s₁) (go : s₁.failure? = none → Goes s₁ (next s₁).1 (errorOf (next s₁).2)) :
    Goes s (s₁.unlessFailed next).1 (errorOf (s₁.unlessFailed next).2) := by
  unfold unlessFailed
  cases failed : s₁.failure? with
  | some error => exact .failed moves lasts failed
  | none => exact (go failed).after moves lasts fun running => lasts.isRunning running failed

theorem afterTurn_goes (h : s.Sound) {next : Stage → Stage × Except StageError α}
    (go : s.turn.Sound → s.turn.isRunning = true → Goes s.turn (next s.turn).1 (errorOf (next s.turn).2)) :
    Goes s (s.afterTurn next).1 (errorOf (s.afterTurn next).2) := by
  unfold afterTurn whileRunning
  split
  next running =>
    apply unlessFailed_goes (.single (.turned h)) (turn_lasts h)
    intro fine
    exact go (h.steps (turn_steps h)) ((turn_lasts h).isRunning running fine)
  · exact .refl s

/-- An attempt at an admission, if putting the entry into the queue and what `start` does then is one move. -/
theorem admitIfRoom_goes {entry : Stage → Entry} {start : Stage → Stage → Stage} {meanwhile : List Occurrence}
    {no yes : α} (h : s.Sound) (starts : ∀ admitted, s.enqueue? (entry s) = some admitted →
      Move s (start s admitted) ∧ (start s admitted).status = s.status) :
    Goes s (admitIfRoom entry start meanwhile no yes s).1 (errorOf (admitIfRoom entry start meanwhile no yes s).2) := by
  unfold admitIfRoom
  cases room : s.enqueue? (entry s) with
  | none => exact .refl s
  | some admitted =>
    obtain ⟨move, same⟩ := starts admitted room
    have moves : Moves s ((start s admitted).undergoAll meanwhile) := .head move (undergoAll_moves meanwhile _)
    have sound := h.steps (Moves.steps moves)
    have lasts : Lasts s ((start s admitted).undergoAll meanwhile) :=
      .inl ((quiet_undergoAll meanwhile _).status.trans same)
    exact unlessFailed_goes (moves.tail (.turned sound)) (lasts.trans (turn_lasts sound)) fun _ => .refl _

theorem offer_goes (h : s.Sound) (r : Record) (meanwhile : List Occurrence) :
    Goes s (s.offer r meanwhile).1 (errorOf (s.offer r meanwhile).2) := by
  rw [offer_eq]
  refine afterTurn_goes h fun sound running => admitIfRoom_goes sound fun admitted room => ?_
  obtain ⟨admits, -⟩ := admitRecord_admits sound.queue sound.below room
  exact ⟨.admittedRecord sound running room, admits.status⟩

theorem offerWatermark_goes (h : s.Sound) (t : Timestamp) (meanwhile : List Occurrence) :
    Goes s (s.offerWatermark t meanwhile).1 (errorOf (s.offerWatermark t meanwhile).2) := by
  rw [offerWatermark_eq]
  refine afterTurn_goes h fun sound running => admitIfRoom_goes sound fun admitted room => ?_
  obtain ⟨admits, -⟩ := enqueue?_admits sound.queue sound.below rfl (fun _ other => by cases other) room
  exact ⟨.admittedWatermark sound running room, admits.status⟩

theorem poll_goes (h : s.Sound) : Goes s s.poll.1 (errorOf s.poll.2) :=
  afterTurn_goes h fun _ _ => .refl _

theorem poll_eq (s : Stage) : s.poll =
    if s.isRunning then
      match s.turn.failure? with
      | some error => (s.turn, .error error)
      | none => (s.turn, .ok ())
    else (s, .error (.closed s.stepId)) := rfl

/-- Whatever it answers, a running stage that is polled makes one turn. -/
theorem poll_fst (running : s.isRunning = true) : s.poll.1 = s.turn := by
  rw [poll_eq, if_pos running]
  split <;> rfl

theorem poll_ok (ok : s.poll = (s', .ok ())) : s' = s.turn ∧ s.isRunning = true := by
  rw [poll_eq] at ok
  split at ok
  next running =>
    split at ok
    · cases ok
    · cases ok
      exact ⟨rfl, running⟩
  · cases ok

theorem poll_error {error : StageError} (failed : s.poll = (s', .error error)) :
    (∃ failure, error = .entryFailed failure) ∨ error = .closed s.stepId := by
  rw [poll_eq] at failed
  split at failed
  · split at failed
    next error' fails =>
      obtain ⟨failure, -, same⟩ := failure?_eq_some fails
      cases failed
      exact .inl ⟨failure, same⟩
    · cases failed
  · cases failed
    exact .inr rfl

/-! ## Waiting -/

/-- A stage that an operation left without an error is running still. -/
theorem Goes.isRunning (g : Goes s s' none) (running : s.isRunning = true) : s'.isRunning = true := by
  rcases g.lasts with same | ⟨f, failed⟩
  · rwa [Stage.isRunning, same]
  · cases g.reports running f failed

theorem sleep_goes (h : s.Sound) (w : Wake) : Moves s (s.sleep w) ∧ Lasts s (s.sleep w) := by
  have arrive := undergoAll_moves w.arriving s
  have status := (quiet_undergoAll w.arriving s).status
  have sound := h.steps (Moves.steps arrive)
  unfold sleep
  generalize s.undergoAll w.arriving = t at arrive status sound
  cases mail : t.mailbox with
  | nil =>
    simp only [mail]
    exact ⟨arrive.trans (undergoAll_moves _ _), .inl ((quiet_undergoAll _ _).status.trans status)⟩
  | cons c rest =>
    simp only [mail]
    have lasts : Lasts s _ := Lasts.trans (.inl status) (woke_takes sound mail).lasts
    exact ⟨(arrive.tail (.woke sound mail)).trans (undergoAll_moves _ _),
      lasts.trans (.inl (quiet_undergoAll _ _).status)⟩

theorem answerOr_goes {r : Stage × Except StageError (Option α)} {next : Stage → Stage × Reply α}
    (first : Goes s r.1 (errorOf r.2)) (go : Goes r.1 (next r.1).1 (next r.1).2.error?) :
    Goes s (answerOr r next).1 (answerOr r next).2.error? := by
  obtain ⟨s₁, answer⟩ := r
  match answer with
  | .error error => exact first
  | .ok (some a) => exact first
  | .ok none => exact go.after first.moves first.lasts first.isRunning

/-- Repeating an attempt, if the attempt is an operation. -/
theorem repeatUntil_goes {attempt : Stage → Stage × Except StageError (Option α)} (stuck : Reply α)
    (go : ∀ s : Stage, s.Sound → Goes s (attempt s).1 (errorOf (attempt s).2)) (wakes : List Wake)
    (h : s.Sound) : Goes s (repeatUntil attempt stuck wakes s).1 (repeatUntil attempt stuck wakes s).2.error? := by
  induction wakes generalizing s with
  | nil => exact answerOr_goes (go s h) (.refl _)
  | cons w wakes ih =>
    apply answerOr_goes (go s h)
    have sound := h.steps (go s h).steps
    generalize (attempt s).1 = t at sound
    obtain ⟨moves, lasts⟩ := sleep_goes sound w
    cases failed : (t.sleep w).failure? with
    | some error =>
      simp only [failed]
      exact .failed moves lasts failed
    | none =>
      simp only [failed]
      exact (ih (sound.steps (Moves.steps moves))).after moves lasts fun running => lasts.isRunning running failed

theorem waitFor_goes {attempt : Stage → Stage × Except StageError (Option α)} (waiting : Waiting)
    (go : ∀ s : Stage, s.Sound → Goes s (attempt s).1 (errorOf (attempt s).2)) (h : s.Sound) :
    Goes s (s.waitFor waiting attempt).1 (s.waitFor waiting attempt).2.error? := by
  cases waiting with
  | forbidden => exact repeatUntil_goes _ go [] h
  | wakes wakes => exact repeatUntil_goes _ go wakes h

theorem errorOf_untilRoom (room : α → Bool) (r : Stage × Except StageError α) :
    errorOf (untilRoom room r).2 = errorOf r.2 := by
  obtain ⟨s, answer⟩ := r
  cases answer <;> rfl

theorem put_goes (h : s.Sound) (r : Record) (i : Interference) :
    Goes s (s.put r i).1 (s.put r i).2.error? := by
  rw [put_eq]
  refine waitFor_goes i.waiting (fun s sound => ?_) h
  rw [errorOf_untilRoom]
  exact offer_goes sound r i.meanwhile

theorem putWatermark_goes (h : s.Sound) (t : Timestamp) (i : Interference) :
    Goes s (s.putWatermark t i).1 (s.putWatermark t i).2.error? := by
  rw [putWatermark_eq]
  refine waitFor_goes i.waiting (fun s sound => ?_) h
  rw [errorOf_untilRoom]
  exact offerWatermark_goes sound t i.meanwhile

/-! ## The end of the input -/

theorem GivesUp.lasts {ids : List EntryId} (gives : GivesUp s ids s') : Lasts s s' := by
  induction gives with
  | nil s => exact .inl rfl
  | passed id stopped later ih => exact ih
  | cutShort e here ended at' resolves later ih => exact resolves.lasts.trans ih

theorem untilEmpty_goes (h : s.Sound) : Goes s s.untilEmpty.1 (errorOf s.untilEmpty.2) :=
  unlessFailed_goes (.single (.turned h)) (turn_lasts h) fun _ => .refl _

/-- The end of the input stops with a failure when it gives up the retries, or waits until the
queue is empty. -/
theorem finish_cases (h : s.Sound) (running : s.isRunning = true) (i : Interference) :
    (∃ error, s.withoutRetries.failure? = some error ∧ s.finish i = (s.withoutRetries, .failed error)) ∨
      s.withoutRetries.failure? = none ∧ Goes s.withoutRetries (s.finish i).1 (s.finish i).2.error? := by
  have sound := h.steps (withoutRetries_steps h running)
  rw [finish_of_running running]
  generalize s.withoutRetries = t at sound ⊢
  cases failed : t.failure? with
  | some error => exact .inl ⟨error, rfl, rfl⟩
  | none =>
    have arrive := undergoAll_moves i.meanwhile t
    refine .inr ⟨rfl, Goes.after arrive (.inl (quiet_undergoAll _ _).status) (fun run => ?_)
      (waitFor_goes i.waiting (fun _ => untilEmpty_goes) (sound.steps (Moves.steps arrive)))⟩
    rwa [(quiet_undergoAll _ _).isRunning]

theorem finish_goes (h : s.Sound) (i : Interference) : Goes s (s.finish i).1 (s.finish i).2.error? := by
  cases running : s.isRunning with
  | false =>
    rw [finish_of_stopped running]
    exact .refl s
  | true =>
    have move : Moves s s.withoutRetries := .single (.inputEnded h running)
    have lasts : Lasts s s.withoutRetries := Lasts.trans (.inl rfl) (waiting_givesUp h running).lasts
    rcases finish_cases h running i with ⟨error, failed, same⟩ | ⟨fine, go⟩
    · rw [same]
      exact .failed move lasts failed
    · exact go.after move lasts fun run => lasts.isRunning run fine

theorem checkpoint_goes (h : s.Sound) (id : CheckpointId) (store : Store) :
    Goes s (s.checkpoint id store).1 (errorOf (s.checkpoint id store).2.2) := by
  have go := poll_goes h
  rcases checkpoint_cases s id store with ⟨error, failed, same⟩ | ⟨ok, store', answer, same, -⟩
  · rw [same]
    rwa [failed] at go
  · rw [same]
    rw [ok] at go
    refine ⟨go.moves.tail (.measured .snapshotTimed), go.lasts.trans (.inl rfl), fun running f failed => ?_⟩
    have still := go.isRunning running
    rw [isRunning, show s.poll.1.status = .failed f from failed] at still
    cases still

/-- **Whatever is done with a stage** takes it from move to move. -/
theorem perform_moves (h : s.Sound) (a : Action) : Moves s (s.perform a).1 := by
  cases a with
  | offer r meanwhile => exact (offer_goes h r meanwhile).moves
  | put r i => exact (put_goes h r i).moves
  | putWatermark t i => exact (putWatermark_goes h t i).moves
  | forwardStatus status =>
    simp only [perform, forwardStatus, whileRunning]
    split
    · exact .single (.forwarded status)
    · exact .refl
  | poll => exact (poll_goes h).moves
  | finish i => exact (finish_goes h i).moves
  | snapshot => exact .single (.measured .snapshotTimed)
  | checkpoint id store => exact (checkpoint_goes h id store).moves
  | close =>
    simp only [perform, close]
    split
    next running => exact .single (.closed running)
    · exact .refl
  | undergo o => exact .single (.underwent o)

theorem perform_steps (h : s.Sound) (a : Action) : Steps s (s.perform a).1 := Moves.steps (perform_moves h a)

theorem run_moves (h : s.Sound) (actions : List Action) : Moves s (s.run actions) := by
  induction actions generalizing s with
  | nil => exact .refl
  | cons a actions ih => exact (perform_moves h a).trans (ih (h.steps (perform_steps h a)))

theorem run_steps (h : s.Sound) (actions : List Action) : Steps s (s.run actions) :=
  Moves.steps (run_moves h actions)

/-- **A failure is answered.** The operation during which an entry fails for good answers with
the failure that ended the stage. -/
theorem perform_reports (h : s.Sound) (running : s.isRunning = true) (a : Action) {f : EntryFailure}
    (failed : (s.perform a).1.status = .failed f) : (s.perform a).2 = some (.entryFailed f) := by
  have alive : s.status ≠ .failed f := fun status => by rw [isRunning, status] at running; cases running
  cases a with
  | offer r meanwhile => exact (offer_goes h r meanwhile).reports running f failed
  | put r i => exact (put_goes h r i).reports running f failed
  | putWatermark t i => exact (putWatermark_goes h t i).reports running f failed
  | forwardStatus status =>
    simp only [perform, forwardStatus, whileRunning, running, if_true] at failed
    exact absurd failed alive
  | poll => exact (poll_goes h).reports running f failed
  | finish i => exact (finish_goes h i).reports running f failed
  | snapshot => exact absurd failed alive
  | checkpoint id store => exact (checkpoint_goes h id store).reports running f failed
  | close =>
    simp only [perform, close, running, if_true, (teardown_ends s .closed).status] at failed
    cases failed
  | undergo o => exact absurd ((quiet_undergo s o).status.symm.trans failed) alive

/-! ## The beginning -/

/-- The stage of a builder as it starts: without entries, timers, mail and history. -/
def start (b : Builder) (retry : RetryStrategy) (now : Instant) : Stage where
  setup :=
    { stepId := b.config.stepId
      mailbox := b.mailbox
      retry := retry
      timeout := b.config.effectiveTimeout
      fallback := b.fallback
      listening := b.listening
      function := b.function }
  now := now
  queue := Queue.empty b.config.mode b.config.capacity.toNat

theorem build_eq {b : Builder} {now : Instant} (built : b.build now = .ok s) : ∃ retry, s = start b retry now := by
  unfold Builder.build at built
  cases capacity : b.config.checkCapacity with
  | error e => simp [capacity, bind, Except.bind] at built
  | ok _ =>
    cases strategy : b.retryStrategy with
    | error e => simp [capacity, strategy, bind, Except.bind] at built
    | ok retry =>
      cases check : Config.checkRetryTimeout b.config.stepId retry.enabled b.config.effectiveTimeout with
      | error e => simp [capacity, strategy, check, bind, Except.bind] at built
      | ok _ =>
        simp only [capacity, strategy, check, bind, Except.bind, pure, Except.pure] at built
        cases built
        exact ⟨retry, rfl⟩

theorem build_sound {b : Builder} {now : Instant} (built : b.build now = .ok s) : s.Sound := by
  obtain ⟨retry, rfl⟩ := build_eq built
  have none : (Queue.empty b.config.mode b.config.capacity.toNat).toList = [] := Queue.toList_empty _ _
  refine ⟨.empty _ _, ?_, TimerQueue.sound_empty, ?_, ?_, ?_, fun _ => none⟩ <;>
    simp [start, entries, none, TimerQueue.toList]

end Stage

end AsyncStage
