import AsyncStage.Proofs.Stage.Posted

/-!
# Everything that a step keeps

`Kept` puts together what holds of a stage at any time, and every step keeps it. What the stage
was built from and the mode of its queue do not change at all.
-/

namespace AsyncStage.Stage

variable {s s' : Stage}

/-- What a stage never changes. -/
structure Fixed (s s' : Stage) : Prop where
  setup : s'.setup = s.setup
  mode : s'.queue.mode = s.queue.mode
  capacity : s'.queue.capacity = s.queue.capacity

theorem Quiet.fixed (q : Quiet s s') : Fixed s s' := ⟨q.setup, by rw [q.queue], by rw [q.queue]⟩

theorem Works.fixed {e e' : RecordEntry} {new : List Event} (w : Works s s' e e' new) : Fixed s s' :=
  ⟨w.setup, w.queue.mode, w.queue.capacity⟩

theorem Ends.fixed {status : Status} (w : Ends s s' status) : Fixed s s' :=
  ⟨w.setup, by simp [w.queue], by simp [w.queue]⟩

theorem Fixed.trans {s₁ : Stage} (h : Fixed s s₁) (h' : Fixed s₁ s') : Fixed s s' :=
  ⟨h'.setup.trans h.setup, h'.mode.trans h.mode, h'.capacity.trans h.capacity⟩

theorem Resolves.fixed {e : RecordEntry} {result : Resolution} {new : List Event}
    (r : Resolves s s' e result new) : Fixed s s' := by
  cases r with
  | completed values final works => exact works.fixed
  | failed error s₁ e₁ final cause works silent ends => exact works.fixed.trans ends.fixed

theorem Step.fixed (step : Step s s') : Fixed s s' := by
  cases step with
  | posted c same => exact same ▸ (quiet_post s c).fixed
  | clock time same => exact same ▸ (quiet_clock s time).fixed
  | @took c rest takes =>
    have quiet := quiet_mailbox s rest
    cases takes.applies with
    | ignored same => exact same ▸ quiet.fixed
    | scheduled e here names accepted wanted works => exact quiet.fixed.trans works.fixed
    | resolved e here names accepted unwanted resolves => exact quiet.fixed.trans resolves.fixed
  | fired pops =>
    cases pops.fires with
    | retried e here at' set works => exact works.fixed
    | expired e here opened started timeout deadline resolves => exact resolves.fixed
  | emitted drained emits => exact ⟨emits.setup, emits.mode, emits.capacity⟩
  | admittedRecord r running admits => exact ⟨admits.setup, admits.mode, admits.capacity⟩
  | admittedWatermark t running admits => exact ⟨admits.setup, admits.mode, admits.capacity⟩
  | inputEnded running same => exact same ▸ (quiet_inputEnded s).fixed
  | cutShort e here ended at' resolves => exact resolves.fixed
  | forwarded status same => exact same ▸ (quiet_forwarded s status).fixed
  | measured m same => exact same ▸ (quiet_measure s m).fixed
  | closed running stopped => exact stopped.fixed

theorem fixed_of_steps (steps : Steps s s') : Fixed s s' := by
  induction steps with
  | refl => exact ⟨rfl, rfl, rfl⟩
  | tail _ last ih => exact ih.trans last.fixed

/-- What holds of a stage between two steps, whatever has happened before. -/
structure Kept (s : Stage) : Prop where
  sound : s.Sound
  lined : s.Lined
  marked : s.Marked
  told : s.Told
  mailed : s.Mailed

namespace Kept

theorem step (h : s.Kept) (step : Step s s') : s'.Kept where
  sound := h.sound.step step
  lined := h.lined.step h.sound step
  marked := h.marked.step h.sound h.lined step
  told := h.told.step h.lined h.sound step
  mailed := h.mailed.step step

theorem steps (h : s.Kept) (steps : Steps s s') : s'.Kept := by
  induction steps with
  | refl => exact h
  | tail _ last ih => exact ih.step last

theorem build {b : Builder} {now : Instant} (built : b.build now = .ok s) : s.Kept where
  sound := build_sound built
  lined := build_lined built
  marked := build_marked built
  told := by
    obtain ⟨retry, rfl⟩ := build_eq built
    have none : (Queue.empty b.config.mode b.config.capacity.toNat).toList = [] := Queue.toList_empty _ _
    refine ⟨⟨?_, ?_, ?_⟩, ?_, ?_⟩ <;> simp [start, entries, none, admitted, events, toldOf, Stage.told]
  mailed := by
    obtain ⟨retry, rfl⟩ := build_eq built
    exact ⟨[], rfl, .refl _⟩

/-- **Whatever is done with a stage** that was built, everything is kept. -/
theorem run {b : Builder} {now : Instant} (built : b.build now = .ok s) (actions : List Action) :
    (s.run actions).Kept :=
  (build built).steps (run_steps (build_sound built) actions)

end Kept

end AsyncStage.Stage
