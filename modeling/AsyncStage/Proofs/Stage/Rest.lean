import AsyncStage.Proofs.Queue.Ready
import AsyncStage.Proofs.Stage.Clock
import AsyncStage.Proofs.Stage.FailStop
import AsyncStage.Proofs.Stage.Room

/-!
# Stages at rest

Every operation ends with a turn or with the end of the stage. So between two operations nothing may
leave the queue, whatever has been posted in the meantime, and in particular no watermark is the
first of the entries in flight. A stage at rest that has no mail and no timer that is due is left by
a turn as it is.
-/

namespace AsyncStage.Stage

variable {s s' : Stage} {α : Type}

/-- Nothing may leave the queue. -/
def AtRest (s : Stage) : Prop := s.queue.hasReady = false

theorem queue_emitReady (s : Stage) :
    s.emitReady.queue = if s.queue.hasReady then s.queue.drain.2 else s.queue := by
  unfold emitReady
  split
  · obtain ⟨history, output, same, -⟩ := foldl_release s.queue.drain.1 { s with queue := s.queue.drain.2 }
    simp only [same]
  · rfl

theorem emitReady_atRest (s : Stage) : s.emitReady.AtRest := by
  rw [AtRest, queue_emitReady]
  split
  · exact Queue.hasReady_drain _
  next calm => exact Bool.not_eq_true _ ▸ calm

/-- **A turn leaves the stage at rest.** -/
theorem turn_atRest (s : Stage) : s.turn.AtRest := emitReady_atRest _

/-- Nothing is left of a stage that has ended. -/
theorem Sound.atRest_of_stopped (h : s.Sound) (stopped : s.isRunning = false) : s.AtRest :=
  Queue.hasReady_of_empty h.queue (h.ended stopped)

theorem Sound.atRest_of_failed (h : s.Sound) {error : StageError} (failed : s.failure? = some error) : s.AtRest := by
  obtain ⟨f, status, -⟩ := failure?_eq_some failed
  exact h.atRest_of_stopped (by rw [isRunning, status]; rfl)

/-! ## Operations -/

theorem unlessFailed_atRest {next : Stage → Stage × Except StageError α} (rest : s.AtRest)
    (go : (next s).1.AtRest) : (s.unlessFailed next).1.AtRest := by
  unfold unlessFailed
  cases s.failure? with
  | some error => exact rest
  | none => exact go

theorem afterTurn_atRest (h : s.Sound) {next : Stage → Stage × Except StageError α}
    (go : (next s.turn).1.AtRest) : (s.afterTurn next).1.AtRest := by
  unfold afterTurn whileRunning
  split
  · exact unlessFailed_atRest (turn_atRest s) go
  next stopped => exact h.atRest_of_stopped (Bool.not_eq_true _ ▸ stopped)

theorem admitIfRoom_atRest {entry : Stage → Entry} {start : Stage → Stage → Stage} {meanwhile : List Occurrence}
    {no yes : α} (rest : s.AtRest) : (admitIfRoom entry start meanwhile no yes s).1.AtRest := by
  unfold admitIfRoom
  split
  · exact rest
  · exact unlessFailed_atRest (turn_atRest _) (turn_atRest _)

theorem answerOr_atRest {r : Stage × Except StageError (Option α)} {next : Stage → Stage × Reply α}
    (rest : r.1.AtRest) (go : (next r.1).1.AtRest) : (answerOr r next).1.AtRest := by
  obtain ⟨t, answer⟩ := r
  match answer with
  | .error error => exact rest
  | .ok (some a) => exact rest
  | .ok none => exact go

/-- A call that waits ends with one of its attempts, or with the end of the stage. -/
theorem repeatUntil_atRest {attempt : Stage → Stage × Except StageError (Option α)} (stuck : Reply α)
    (goes : ∀ s : Stage, s.Sound → Goes s (attempt s).1 (errorOf (attempt s).2))
    (rests : ∀ s : Stage, s.Sound → (attempt s).1.AtRest) (wakes : List Wake) (h : s.Sound) :
    (repeatUntil attempt stuck wakes s).1.AtRest := by
  induction wakes generalizing s with
  | nil => exact answerOr_atRest (rests s h) (rests s h)
  | cons w wakes ih =>
    apply answerOr_atRest (rests s h)
    have sound := h.steps (goes s h).steps
    have awake := sound.steps (Moves.steps (sleep_goes sound w).1)
    cases failed : ((attempt s).1.sleep w).failure? with
    | some error =>
      simp only [failed]
      exact awake.atRest_of_failed failed
    | none =>
      simp only [failed]
      exact ih awake

theorem waitFor_atRest {attempt : Stage → Stage × Except StageError (Option α)} (waiting : Waiting)
    (goes : ∀ s : Stage, s.Sound → Goes s (attempt s).1 (errorOf (attempt s).2))
    (rests : ∀ s : Stage, s.Sound → (attempt s).1.AtRest) (h : s.Sound) : (s.waitFor waiting attempt).1.AtRest := by
  cases waiting with
  | forbidden => exact repeatUntil_atRest _ goes rests [] h
  | wakes wakes => exact repeatUntil_atRest _ goes rests wakes h

theorem offer_atRest (h : s.Sound) (r : Record) (meanwhile : List Occurrence) : (s.offer r meanwhile).1.AtRest := by
  rw [offer_eq]
  exact afterTurn_atRest h (admitIfRoom_atRest (turn_atRest s))

theorem offerWatermark_atRest (h : s.Sound) (t : Timestamp) (meanwhile : List Occurrence) :
    (s.offerWatermark t meanwhile).1.AtRest := by
  rw [offerWatermark_eq]
  exact afterTurn_atRest h (admitIfRoom_atRest (turn_atRest s))

theorem put_atRest (h : s.Sound) (r : Record) (i : Interference) : (s.put r i).1.AtRest := by
  rw [put_eq]
  refine waitFor_atRest i.waiting (fun t sound => ?_) (fun t sound => offer_atRest sound r i.meanwhile) h
  rw [errorOf_untilRoom]
  exact offer_goes sound r i.meanwhile

theorem putWatermark_atRest (h : s.Sound) (t : Timestamp) (i : Interference) : (s.putWatermark t i).1.AtRest := by
  rw [putWatermark_eq]
  refine waitFor_atRest i.waiting (fun u sound => ?_) (fun u sound => offerWatermark_atRest sound t i.meanwhile) h
  rw [errorOf_untilRoom]
  exact offerWatermark_goes sound t i.meanwhile

theorem poll_atRest (h : s.Sound) : s.poll.1.AtRest := afterTurn_atRest h (turn_atRest s)

theorem finish_atRest (h : s.Sound) (rest : s.AtRest) (i : Interference) : (s.finish i).1.AtRest := by
  cases running : s.isRunning with
  | false =>
    rw [finish_of_stopped running]
    exact rest
  | true =>
    have sound := h.steps (withoutRetries_steps h running)
    rw [finish_of_running running]
    generalize s.withoutRetries = t at sound ⊢
    cases failed : t.failure? with
    | some error => exact sound.atRest_of_failed failed
    | none =>
      refine waitFor_atRest i.waiting (fun _ => untilEmpty_goes) (fun u _ => ?_)
        (sound.steps (undergoAll_steps i.meanwhile t))
      exact unlessFailed_atRest (turn_atRest u) (turn_atRest u)

theorem checkpoint_atRest (h : s.Sound) (id : CheckpointId) (store : Store) : (s.checkpoint id store).1.AtRest := by
  rcases checkpoint_cases s id store with ⟨error, -, same⟩ | ⟨-, store', answer, same, -⟩ <;> rw [same] <;>
    exact poll_atRest h

/-- **Every operation leaves a stage at rest.** -/
theorem perform_atRest (h : s.Sound) (rest : s.AtRest) (a : Action) : (s.perform a).1.AtRest := by
  cases a with
  | offer r meanwhile => exact offer_atRest h r meanwhile
  | put r i => exact put_atRest h r i
  | putWatermark t i => exact putWatermark_atRest h t i
  | forwardStatus status =>
    simp only [perform, forwardStatus, whileRunning]
    split <;> exact rest
  | poll => exact poll_atRest h
  | finish i => exact finish_atRest h rest i
  | snapshot => exact rest
  | checkpoint id store => exact checkpoint_atRest h id store
  | close =>
    have sound := h.steps (perform_steps h .close)
    cases running : s.isRunning with
    | true => exact sound.atRest_of_stopped (congrArg Status.isRunning (close_stops running))
    | false =>
      simp only [perform, close, running, Bool.false_eq_true, if_false]
      exact rest
  | undergo o =>
    rw [AtRest, show (s.perform (.undergo o)).1.queue = s.queue from (quiet_undergo s o).queue]
    exact rest

theorem run_atRest (h : s.Sound) (rest : s.AtRest) (actions : List Action) : (s.run actions).AtRest := by
  induction actions generalizing s with
  | nil => exact rest
  | cons a actions ih => exact ih (h.steps (perform_steps h a)) (perform_atRest h rest a)

/-- **Between two operations** nothing may leave the queue. -/
theorem atRest_of_begins {b : Builder} {now : Instant} {error : Option StageError} (begins : b.Begins now s error)
    (actions : List Action) : (s.run actions).AtRest := by
  obtain ⟨s₀, before, built, rfl, -, -⟩ := begins.exists_run
  rw [← run_append]
  have sound := build_sound built
  apply run_atRest sound
  obtain ⟨retry, rfl⟩ := build_eq built
  exact Queue.hasReady_of_empty sound.queue (Queue.toList_empty _ _)

/-- The entries in flight do not begin with a watermark. -/
theorem AtRest.isRecord_head (rest : s.AtRest) (h : s.Sound) : ∀ e ∈ s.pendingElements.head?, e.isRecord = true := by
  intro e first
  rw [pendingElements, List.head?_map, Option.mem_def, Option.map_eq_some_iff] at first
  obtain ⟨a, first, rfl⟩ := first
  rw [isRecord_element, Queue.isWatermark_head h.queue rest a first]
  rfl

/-! ## Turns that change nothing -/

/-- There is nothing to do in a turn. -/
structure Calm (s : Stage) : Prop where
  mail : s.mailbox = []
  early : ∀ p ∈ s.timers.toList, s.now < p.1.fireAt
  rest : s.AtRest

/-- After a turn that left no mail there is nothing more to do. -/
theorem Sound.calm_turn (h : s.Sound) (mail : s.turn.mailbox = []) : s.turn.Calm where
  mail := mail
  early := by rw [now_turn h]; exact turn_due h
  rest := turn_atRest s

theorem fireDue_of_early (early : ∀ p ∈ s.timers.toList, s.now < p.1.fireAt) : s.fireDue = s := by
  unfold fireDue
  cases s.timers.size with
  | zero => rfl
  | succ n =>
    have none : s.timers.popDue s.now = none :=
      TimerQueue.popDue_eq_none_iff.2 fun p first => early p (List.mem_of_mem_head? first)
    simp only [fireUpTo, none]

theorem readMail_of_empty (mail : s.mailbox = []) : s.readMail = s := by
  unfold readMail
  rw [mail, List.foldl_nil, ← mail]

theorem emitReady_of_atRest (rest : s.AtRest) : s.emitReady = s := if_neg (by rw [rest]; exact Bool.false_ne_true)

theorem Calm.settled_eq (calm : s.Calm) : s.fireDue.emitReady = s := by
  rw [fireDue_of_early calm.early, emitReady_of_atRest calm.rest]

/-- **A turn in which there is nothing to do changes nothing.** -/
theorem Calm.turn_eq (calm : s.Calm) : s.turn = s := by
  rw [turn, readMail_of_empty calm.mail, calm.settled_eq]

end AsyncStage.Stage
