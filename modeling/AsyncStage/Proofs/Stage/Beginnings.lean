import AsyncStage.Proofs.Stage.Kept
import AsyncStage.Stage.Builder

/-!
# Beginnings

A stage begins empty, or with the elements of a snapshot, which are admitted again one after the
other. Restoring uses the operations that everybody uses. So what holds after every run of an
empty stage holds of a restored one too, and after every run of it.
-/

namespace AsyncStage

open Snapshot (Bytes)

/-- The action that admits an element. -/
def Action.admits (e : Element) (i : Interference) : Action :=
  match e with
  | .record r => .put r i
  | .watermark t => .putWatermark t i

/-- How a stage comes out of a builder, and the error, if any, with which the admission of the
elements of a snapshot was answered. -/
inductive Builder.Begins (b : Builder) (now : Instant) (s : Stage) : Option StageError → Prop where
  | built (ok : b.build now = .ok s) : Begins b now s none
  | restored (state : Bytes) (around : Nat → Interference) (reply : Reply Unit)
      (ok : b.restore now state around = .built s reply) : Begins b now s reply.error?

namespace Stage

variable {s s' : Stage} {actions : List Action} {a : Action}

/-- The errors with which the operations of a run answer, one after the other. -/
def errors (s : Stage) : List Action → List StageError
  | [] => []
  | a :: actions => (s.perform a).2.toList ++ (s.perform a).1.errors actions

theorem run_append (s : Stage) (actions later : List Action) :
    s.run (actions ++ later) = (s.run actions).run later := List.foldl_append

theorem errors_append (s : Stage) (actions later : List Action) :
    s.errors (actions ++ later) = s.errors actions ++ (s.run actions).errors later := by
  induction actions generalizing s with
  | nil => rfl
  | cons a actions ih =>
    rw [List.cons_append, errors, ih, errors, List.append_assoc]
    rfl

theorem perform_admits (s : Stage) (e : Element) (i : Interference) :
    s.perform (.admits e i) = ((s.putElement e i).1, (s.putElement e i).2.error?) := by
  cases e <;> rfl

/-- Admitting elements again is a run, and it ends with the first error. -/
theorem putAll_eq_run (es : List (Element × Interference)) (s : Stage) :
    ∃ actions, (s.putAll es).1 = s.run actions ∧ s.errors actions = (s.putAll es).2.error?.toList ∧
      ∀ a ∈ actions, ∃ e i, a = .admits e i := by
  induction es generalizing s with
  | nil => exact ⟨[], rfl, rfl, List.forall_mem_nil _⟩
  | cons p es ih =>
    obtain ⟨e, i⟩ := p
    have performed := perform_admits s e i
    unfold putAll
    match answer : s.putElement e i with
    | (t, .failed error) =>
      rw [answer] at performed
      exact ⟨[.admits e i], by simp [run, performed], by simp [errors, performed],
        List.forall_mem_singleton.2 ⟨e, i, rfl⟩⟩
    | (t, .blocked) =>
      rw [answer] at performed
      exact ⟨[.admits e i], by simp [run, performed], by simp [errors, performed],
        List.forall_mem_singleton.2 ⟨e, i, rfl⟩⟩
    | (t, .done ()) =>
      rw [answer] at performed
      obtain ⟨actions, same, errors', all⟩ := ih t
      refine ⟨.admits e i :: actions, ?_, ?_, List.forall_mem_cons.2 ⟨⟨e, i, rfl⟩, all⟩⟩
      · simp [run, performed, same]
      · simp [errors, performed, errors', Reply.error?]

end Stage

namespace Builder.Begins

variable {b : Builder} {now : Instant} {s : Stage} {error : Option StageError}

/-- **However a stage began**, it is what a run has made of an empty one. -/
theorem exists_run (begins : b.Begins now s error) : ∃ s₀ before, b.build now = .ok s₀ ∧
    s = s₀.run before ∧ s₀.errors before = error.toList ∧ .close ∉ before := by
  cases begins with
  | built ok => exact ⟨s, [], ok, rfl, rfl, List.not_mem_nil⟩
  | restored state around reply ok =>
    unfold Builder.restore at ok
    cases decoded : Snapshot.decode state with
    | error e => simp [decoded] at ok
    | ok elements =>
      cases built : b.build now with
      | error e => simp [decoded, built] at ok
      | ok s₀ =>
        simp only [decoded, built, Restoration.built.injEq] at ok
        obtain ⟨rfl, rfl⟩ := ok
        obtain ⟨before, same, errors, all⟩ := s₀.putAll_eq_run (elements.zipIdx.map fun x => (x.1, around x.2))
        refine ⟨s₀, before, rfl, same, errors, fun closes => ?_⟩
        obtain ⟨e, i, close⟩ := all _ closes
        cases e <;> cases close

theorem kept (begins : b.Begins now s error) : s.Kept := by
  obtain ⟨s₀, before, built, rfl, -, -⟩ := begins.exists_run
  exact .run built before

/-- What a stage was built from never changes. -/
theorem fixed (begins : b.Begins now s error) {t : Stage} (steps : Stage.Steps s t) :
    ∃ retry, Stage.Fixed (Stage.start b retry now) t := by
  obtain ⟨s₀, before, built, rfl, -, -⟩ := begins.exists_run
  have fixed := Stage.fixed_of_steps ((Stage.run_steps (Stage.build_sound built) before).trans steps)
  obtain ⟨retry, rfl⟩ := Stage.build_eq built
  exact ⟨retry, fixed⟩

theorem setup (begins : b.Begins now s error) (actions : List Action) :
    ∃ retry, (s.run actions).setup = (Stage.start b retry now).setup := by
  obtain ⟨retry, fixed⟩ := begins.fixed (Stage.run_steps begins.kept.sound actions)
  exact ⟨retry, fixed.setup⟩

theorem capacity (begins : b.Begins now s error) {t : Stage} (steps : Stage.Steps s t) :
    t.queue.capacity = b.config.capacity.toNat := by
  obtain ⟨retry, fixed⟩ := begins.fixed steps
  exact fixed.capacity

theorem mode (begins : b.Begins now s error) {t : Stage} (steps : Stage.Steps s t) :
    t.queue.mode = b.config.mode := by
  obtain ⟨retry, fixed⟩ := begins.fixed steps
  exact fixed.mode.trans (Queue.mode_empty _ _)

theorem stepId (begins : b.Begins now s error) (actions : List Action) : (s.run actions).stepId = b.config.stepId := by
  obtain ⟨retry, setup⟩ := begins.setup actions
  rw [Stage.stepId, setup]
  rfl

end Builder.Begins

end AsyncStage
