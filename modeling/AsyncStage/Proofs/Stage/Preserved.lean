import AsyncStage.Proofs.Stage.Room

/-!
# What operations preserve

Operations are made of a few parts: turns, what happens outside, completions that wake a call,
admissions, and the ends of the input and of the stage. A property that each part preserves is
preserved by every operation, however often it tries and sleeps. Unlike a step, no part records
anything but what it did, so this is how properties are shown that speak of what was recorded.
-/

namespace AsyncStage.Stage

variable {s : Stage} {P : Stage → Prop} {α : Type}

/-- Sound stages with a property that the parts of the operations preserve. -/
structure Preserved (P : Stage → Prop) : Prop where
  sound {s : Stage} (p : P s) : s.Sound
  turned {s : Stage} (p : P s) : P s.turn
  underwent {s : Stage} (p : P s) (o : Occurrence) : P (s.undergo o)
  woke {s : Stage} (p : P s) {c : Completion} {rest : List Completion} (mail : s.mailbox = c :: rest) :
    P (apply { s with mailbox := rest } c)
  admittedRecord {s : Stage} (p : P s) (running : s.isRunning = true) {r : Record} {admitted : Stage}
    (room : s.enqueue? (.record (s.newEntry r)) = some admitted) : P (admitted.startAttempt s.nextId)
  admittedWatermark {s : Stage} (p : P s) (running : s.isRunning = true) {t : Timestamp} {admitted : Stage}
    (room : s.enqueue? (.watermark s.nextId t) = some admitted) : P admitted
  inputEnded {s : Stage} (p : P s) (running : s.isRunning = true) : P s.withoutRetries
  forwarded {s : Stage} (p : P s) (status : StreamStatus) : P { s with output := s.output.emitStatus status }
  timed {s : Stage} (p : P s) : P (s.measure .snapshotTimed)
  closed {s : Stage} (p : P s) (running : s.isRunning = true) : P (s.teardown .closed)

namespace Preserved

variable (h : Preserved P)

/-! ## Attempts -/

theorem unlessFailed {next : Stage → Stage × Except StageError α} (p : P s)
    (go : s.failure? = none → P (next s).1) : P (s.unlessFailed next).1 := by
  unfold Stage.unlessFailed
  cases failed : s.failure? with
  | some error => exact p
  | none => exact go failed

include h

theorem undergoAll (p : P s) (os : List Occurrence) : P (s.undergoAll os) := by
  induction os generalizing s with
  | nil => exact p
  | cons o os ih => exact ih (h.underwent p o)

theorem afterTurn {next : Stage → Stage × Except StageError α} (p : P s)
    (go : P s.turn → s.turn.isRunning = true → P (next s.turn).1) : P (s.afterTurn next).1 := by
  unfold Stage.afterTurn whileRunning
  split
  next running =>
    have turned := h.turned p
    exact unlessFailed turned fun fine => go turned ((turn_lasts (h.sound p)).isRunning running fine)
  · exact p

theorem admitIfRoom {entry : Stage → Entry} {start : Stage → Stage → Stage} {meanwhile : List Occurrence}
    {no yes : α} (p : P s) (starts : ∀ admitted, s.enqueue? (entry s) = some admitted → P (start s admitted)) :
    P (admitIfRoom entry start meanwhile no yes s).1 := by
  unfold Stage.admitIfRoom
  cases room : s.enqueue? (entry s) with
  | none => exact p
  | some admitted =>
    have turned := h.turned (h.undergoAll (starts admitted room) meanwhile)
    exact unlessFailed turned fun _ => turned

theorem offer (p : P s) (r : Record) (meanwhile : List Occurrence) : P (s.offer r meanwhile).1 := by
  rw [offer_eq]
  exact h.afterTurn p fun turned running => h.admitIfRoom turned fun _ room => h.admittedRecord turned running room

theorem offerWatermark (p : P s) (t : Timestamp) (meanwhile : List Occurrence) :
    P (s.offerWatermark t meanwhile).1 := by
  rw [offerWatermark_eq]
  exact h.afterTurn p fun turned running => h.admitIfRoom turned fun _ room => h.admittedWatermark turned running room

theorem poll (p : P s) : P s.poll.1 := h.afterTurn p fun turned _ => turned

/-! ## Waiting -/

theorem sleep (p : P s) (w : Wake) : P (s.sleep w) := by
  have arrived := h.undergoAll p w.arriving
  unfold Stage.sleep
  generalize s.undergoAll w.arriving = t at arrived
  cases mail : t.mailbox with
  | nil =>
    simp only [mail]
    exact h.undergoAll arrived w.resuming
  | cons c rest =>
    simp only [mail]
    exact h.undergoAll (h.woke arrived mail) w.resuming

omit h in
theorem answerOr {r : Stage × Except StageError (Option α)} {next : Stage → Stage × Reply α} (p : P r.1)
    (go : P (next r.1).1) : P (answerOr r next).1 := by
  obtain ⟨t, answer⟩ := r
  match answer with
  | .error error => exact p
  | .ok (some a) => exact p
  | .ok none => exact go

theorem repeatUntil {attempt : Stage → Stage × Except StageError (Option α)} (stuck : Reply α)
    (go : ∀ s, P s → P (attempt s).1) (wakes : List Wake) (p : P s) : P (repeatUntil attempt stuck wakes s).1 := by
  induction wakes generalizing s with
  | nil => exact answerOr (go s p) (go s p)
  | cons w wakes ih =>
    apply answerOr (go s p)
    have awake := h.sleep (go s p) w
    cases failed : ((attempt s).1.sleep w).failure? with
    | some error =>
      simp only [failed]
      exact awake
    | none =>
      simp only [failed]
      exact ih awake

theorem waitFor {attempt : Stage → Stage × Except StageError (Option α)} (waiting : Waiting)
    (go : ∀ s, P s → P (attempt s).1) (p : P s) : P (s.waitFor waiting attempt).1 := by
  cases waiting with
  | forbidden => exact h.repeatUntil _ go [] p
  | wakes wakes => exact h.repeatUntil _ go wakes p

theorem finish (p : P s) (i : Interference) : P (s.finish i).1 := by
  cases running : s.isRunning with
  | false =>
    rw [finish_of_stopped running]
    exact p
  | true =>
    have given := h.inputEnded p running
    rw [finish_of_running running]
    generalize s.withoutRetries = t at given ⊢
    cases failed : t.failure? with
    | some error => exact given
    | none =>
      refine h.waitFor i.waiting (fun u pu => ?_) (h.undergoAll given i.meanwhile)
      exact unlessFailed (h.turned pu) fun _ => h.turned pu

theorem checkpoint (p : P s) (id : CheckpointId) (store : Store) : P (s.checkpoint id store).1 := by
  have polled := h.poll p
  rcases checkpoint_cases s id store with ⟨error, -, same⟩ | ⟨-, store', answer, same, -⟩
  · rw [same]
    exact polled
  · rw [same]
    exact h.timed polled

/-- **Every operation preserves** what its parts preserve. -/
theorem perform (p : P s) (a : Action) : P (s.perform a).1 := by
  cases a with
  | offer r meanwhile => exact h.offer p r meanwhile
  | put r i =>
    simp only [Stage.perform, put_eq]
    exact h.waitFor i.waiting (fun t pt => h.offer pt r i.meanwhile) p
  | putWatermark t i =>
    simp only [Stage.perform, putWatermark_eq]
    exact h.waitFor i.waiting (fun u pu => h.offerWatermark pu t i.meanwhile) p
  | forwardStatus status =>
    simp only [Stage.perform, forwardStatus, whileRunning]
    split
    · exact h.forwarded p status
    · exact p
  | poll => exact h.poll p
  | finish i => exact h.finish p i
  | snapshot => exact h.timed p
  | checkpoint id store => exact h.checkpoint p id store
  | close =>
    simp only [Stage.perform, close]
    split
    next running => exact h.closed p running
    · exact p
  | undergo o => exact h.underwent p o

theorem run (p : P s) (actions : List Action) : P (s.run actions) := by
  induction actions generalizing s with
  | nil => exact p
  | cons a actions ih => exact ih (h.perform p a)

end Preserved

end AsyncStage.Stage
