import AsyncStage.Proofs.Stage.Signals

/-!
# The mailbox of a stage

A stage is built with a mailbox, and keeps it. Each call that the stage makes names this mailbox, and the
outcome of a call is sent to the mailbox that the call has named. So an outcome reaches the stage that has
made its call, and a stage with another mailbox is not affected by it.
-/

namespace AsyncStage

namespace Stage

variable {s s' : Stage} {box : MailboxId}

/-- Every call that has been made names this mailbox. -/
def CallsName (s : Stage) (box : MailboxId) : Prop := ∀ call ∈ s.invoked, call.mailbox = box

/-- This is the mailbox of the stage, and the calls that it has made name it. -/
structure Addressed (s : Stage) (box : MailboxId) : Prop where
  sound : s.Sound
  mailbox : s.setup.mailbox = box
  calls : s.CallsName box

/-- An outcome that is sent to another mailbox is not received. -/
theorem receive_of_ne {c : Completion} (other : box ≠ s.setup.mailbox) : s.receive box c = s := if_neg other

theorem CallsName.of_told (calls : s.CallsName box) (told : s'.told = s.told) : s'.CallsName box := by
  intro call called
  rw [mem_invoked, told] at called
  exact calls call (mem_invoked.2 called)

/-- **A step calls the function with the stage's own mailbox.** -/
theorem Step.addressed (step : Step s s') (h : s.Addressed box) : s'.Addressed box := by
  refine ⟨h.sound.step step, step.fixed.setup ▸ h.mailbox, fun call called => ?_⟩
  obtain ⟨t, told⟩ := mem_invoked.1 called
  by_cases old : ⟨t, .invoked call⟩ ∈ s.told
  · exact h.calls call (mem_invoked.2 ⟨t, old⟩)
  · obtain ⟨-, cause⟩ := step.cause h.sound told old
    cases cause with
    | invoked e there signal => exact h.mailbox

namespace Addressed

theorem steps (h : s.Addressed box) (steps : Steps s s') : s'.Addressed box := by
  induction steps with
  | refl => exact h
  | tail _ last ih => exact last.addressed ih

/-- **Every operation** keeps to the mailbox. -/
theorem perform (h : s.Addressed box) (a : Action) : (s.perform a).1.Addressed box :=
  h.steps (perform_steps h.sound a)

/-- Receiving an outcome, wherever it was sent. -/
theorem receive (h : s.Addressed box) (sent : MailboxId) (c : Completion) : (s.receive sent c).Addressed box := by
  unfold Stage.receive
  split
  · exact h.perform (.undergo (.completes c))
  · exact h

/-- The stage goes on without the history of what it has done. -/
theorem forgetHistory (h : s.Addressed box) : s.forgetHistory.Addressed box where
  sound := h.sound.collect s.output #[]
  mailbox := h.mailbox
  calls := nofun

theorem takeOutput (h : s.Addressed box) : s.takeOutput.2.Addressed box where
  sound := h.sound.collect _ s.history
  mailbox := h.mailbox
  calls := h.calls

/-- Dropping a stage makes no calls. -/
theorem drop (h : s.Addressed box) : s.drop.CallsName box := by
  obtain ⟨t, steps, -, told⟩ := h.sound.drop_eq
  exact (h.steps steps).calls.of_told told

end Addressed

end Stage

/-- **However a stage began**, its mailbox is the one that it was built with. -/
theorem Builder.Begins.addressed {b : Builder} {now : Instant} {s : Stage} {error : Option StageError}
    (begins : b.Begins now s error) : s.Addressed b.mailbox := by
  obtain ⟨s₀, before, built, rfl, -, -⟩ := begins.exists_run
  obtain ⟨retry, rfl⟩ := Stage.build_eq built
  have empty : (Stage.start b retry now).Addressed b.mailbox := ⟨Stage.build_sound built, rfl, nofun⟩
  exact empty.steps (Stage.run_steps empty.sound before)

end AsyncStage
