import AsyncStage.Proofs.Scenario.Alike
import AsyncStage.Proofs.Stage.Stale

/-!
# One stage after another

Entries are numbered from zero and attempts from one in every stage, so a call of a stage that is
gone may look exactly like one of the stage that has followed it. Completing it changes nothing
all the same: every stage has a mailbox of its own, and an outcome is sent to the mailbox that the
call has named.
-/

namespace AsyncStage.Scenario

namespace Scene

variable {s t left : Scene} {since : Nat} {p : CallPattern} {c : Call}

/-- What can be seen of a scene from some point within a step on: the stage after further actions of
other threads, and the reports of further steps and the stage after them. -/
def prospect (s : Scene) (actions : List Action) (after : List Step) :
    Option (Option Stage × List StepReport × Option Stage) :=
  (actions.foldlM act? s).map fun s => (s.stage, (s.steps after).1, (s.steps after).2.stage)

/-- **Alike scenes have the same prospects.** -/
theorem Alike.prospect_eq (a : Alike since s t) (owned : s.Owned) (owned' : t.Owned) (actions : List Action)
    (after : List Step) : t.prospect actions after = s.prospect actions after := by
  have acted := a.acts actions
  unfold prospect
  generalize done : actions.foldlM Scene.act? s = x at acted ⊢
  generalize done' : actions.foldlM Scene.act? t = y at acted ⊢
  cases acted with
  | none => rfl
  | some alike =>
    obtain ⟨reports, last⟩ := alike.steps (owned.acts done) (owned'.acts done') after
    simp only [Option.map_some, alike.stage_eq, reports, last.stage_eq]

/-! ## Scenes that are reached -/

/-- The scene is reached from the opening one by steps, and by actions of other threads within another step. -/
def Reached (scenario : Scenario) (s : Scene) : Prop :=
  ∃ (before : List Step) (actions : List Action), actions.foldlM act? ((opening scenario).2.steps before).2 = some s

theorem Reached.owned {scenario : Scenario} (reached : Reached scenario s) : s.Owned := by
  obtain ⟨before, actions, reached⟩ := reached
  exact ((opening_owned scenario).steps before).acts reached

/-- The call can still be answered: it is held, or its outcome is on its way. -/
def Pends (s : Scene) (c : Call) : Prop := c ∈ s.held ∨ ∃ d ∈ s.deliveries, d.call = c

theorem Owned.of_pends (h : s.Owned) (pends : s.Pends c) : c.Owned s.stageNumber := by
  rcases pends with held | ⟨d, sent, rfl⟩
  · exact h.held c held
  · exact h.sent d sent

/-! ## Calls of stages that are gone -/

/-- Completing a call of a stage that is gone leaves the stage as it is, and the scene is like one in
which the call is never completed. -/
theorem completeCall?_gone (owned : s.Owned) (taken : s.takeCall? p = some (c, left)) (gone : s.Gone (c.stage + 1))
    (outcome : Outcome) : ∃ s', s.completeCall? p outcome = some s' ∧ Alike (c.stage + 1) left s' := by
  obtain ⟨own, rest⟩ := owned.takeCall? taken
  obtain ⟨i, -, rfl⟩ := of_takeCall? taken
  unfold completeCall?
  rw [taken]
  simp only [Option.bind_eq_bind, Option.bind_some]
  cases s.scenario.function with
  | immediate =>
    have kept : Owned { s with
        held := s.held.eraseIdx i
        completed := if c.cancelled then s.completed else s.completed ++ [c] } := ⟨rest.stage, rest.held, rest.sent⟩
    refine ⟨_, congrArg some (post_of_gone kept gone own (Nat.lt_succ_self c.stage) outcome), .mk ?_ rfl gone⟩
    cases cancelled : c.cancelled with
    | true => rfl
    | false => simp [Call.matters, cancelled]
  | deferred => exact ⟨_, rfl, .mk rfl (by simp [Delivery.matters]) gone⟩

/-! ## Stale completions -/

/-- A scenario in which outcomes are only posted by hand. -/
def byHand : Scenario := { config := some {}, start := .epoch, steps := [] }

/-- A stage has a record in flight when it is replaced, and so has the next one. -/
def replaced : List Step := [.snapshot, .offer ⟨"a", none⟩, .restore none none {}, .offer ⟨"b", none⟩]

/-- A record is answered once. -/
def answered : List AsyncStage.Action :=
  [.offer ⟨"a", none⟩ [], .undergo (.completes ⟨0, 1, .values ["x"]⟩), .poll]

/-- What a call of the scene can do to the stage that is there. -/
structure Separates (s : Scene) : Prop where
  /-- A call names the mailbox of this stage exactly if the stage has made it. -/
  mailbox : ∀ c, s.Pends c → ∀ stage, s.stage = some stage →
    (c.mailbox = stage.setup.mailbox ↔ c.stage = s.stageNumber)
  /-- The outcome of a call of another stage is for nobody. -/
  unreceived : ∀ c, s.Pends c → c.stage ≠ s.stageNumber ∨ s.stage = none → ∀ outcome, s.post c outcome = s
  /-- Completing such a call changes neither the stage nor anything that can be seen later. -/
  inert : ∀ p c left, s.takeCall? p = some (c, left) → c.stage ≠ s.stageNumber ∨ s.stage = none → ∀ outcome,
    ∃ s', s.completeCall? p outcome = some s' ∧ s'.stage = s.stage ∧
      ∀ actions after, s'.prospect actions after = left.prospect actions after

theorem Owned.separates (h : s.Owned) : s.Separates := by
  refine ⟨fun c pends stage here => h.mailbox_iff (h.of_pends pends) here,
    fun c pends absent outcome => h.post_of_absent (h.of_pends pends) absent outcome, ?_⟩
  intro p c left taken absent outcome
  obtain ⟨own, rest⟩ := h.takeCall? taken
  obtain ⟨i, here, same⟩ := of_takeCall? taken
  have gone : s.Gone (c.stage + 1) := by
    rcases Nat.lt_or_eq_of_le own.begun with earlier | current
    · exact .inl earlier
    · exact .inr ⟨absent.resolve_left (· current), congrArg (· + 1) current⟩
  obtain ⟨s', completed, alike⟩ := completeCall?_gone h taken gone outcome
  exact ⟨s', completed, by rw [alike.stage_eq, same], fun actions after =>
    alike.prospect_eq rest (h.completeCall? completed) actions after⟩

/-- **Completions that are not expected change nothing, in this stage and in later ones.** Within a
stage, taking up a completion changes nothing unless it answers the current attempt of a record
without a result that awaits no retry. Among stages that follow each other, a call names the mailbox
of the stage that has made it, and an outcome that arrives when this stage is gone is for nobody. A
call of a stage that is gone can be completed whenever it is held, and neither the stage nor anything
that can be seen later is different from what it would be if the call were never completed. -/
theorem stale_completions_inert :
    (∀ (b : Builder) (now : Instant) (first s : Stage), b.build now = .ok first → Stage.Steps first s → s.Discerns) ∧
    ∀ (scenario : Scenario) (s : Scene), Reached scenario s → s.Separates :=
  ⟨fun _ _ _ _ built steps => Stage.discerns built steps, fun _ _ reached => reached.owned.separates⟩

/-- The next stage expects a completion of the very same number and attempt. -/
theorem stale_completions_inert_replaced :
    (∃ first, (byHand.builder 1 {}).build .epoch = .ok first ∧ (first.run answered).Discerns) ∧
    ∃ s c left s', Reached byHand s ∧ s.takeCall? ⟨"a", none⟩ = some (c, left) ∧
      (s.stage.bind fun stage => stage.queue.find? c.entry).any (·.accepts c.attempt) = true ∧
      (∀ stage, s.stage = some stage → c.mailbox ≠ stage.setup.mailbox) ∧ s.post c (.values ["x"]) = s ∧
      s.completeCall? ⟨"a", none⟩ (.values ["x"]) = some s' ∧ s'.stage = s.stage ∧
      ∀ actions after, s'.prospect actions after = left.prospect actions after := by
  have built : (byHand.builder 1 {}).build .epoch = .ok (Stage.start (byHand.builder 1 {}) .never .epoch) := rfl
  have reached : Reached byHand ((opening byHand).2.steps replaced).2 := ⟨replaced, [], rfl⟩
  have looks : (((opening byHand).2.steps replaced).2.takeCall? ⟨"a", none⟩).map
      (fun x => (x.1.stage, x.1.entry, x.1.attempt)) = some (1, 0, 1) := by decide +kernel
  obtain ⟨⟨c, left⟩, taken, same⟩ := Option.map_eq_some_iff.1 looks
  obtain ⟨old, rest⟩ := Prod.mk.inj same
  obtain ⟨entry, attempt⟩ := Prod.mk.inj rest
  have current : ((opening byHand).2.steps replaced).2.stageNumber = 2 := by decide +kernel
  have earlier : c.stage ≠ ((opening byHand).2.steps replaced).2.stageNumber := by
    rw [current, old]
    decide
  obtain ⟨i, here, -⟩ := of_takeCall? taken
  have pends : Pends _ c := .inl (List.mem_of_getElem? here)
  obtain ⟨discerns, separates⟩ := stale_completions_inert
  obtain ⟨mailbox, unreceived, inert⟩ := separates byHand _ reached
  obtain ⟨s', completed, unchanged, unseen⟩ := inert _ c left taken (.inl earlier) (.values ["x"])
  refine ⟨⟨_, built, discerns _ _ _ _ built (Stage.run_steps (Stage.build_sound built) answered)⟩,
    _, c, left, s', reached, taken, ?_, fun stage there same => earlier ((mailbox c pends stage there).1 same),
    unreceived c pends (.inl earlier) _, completed, unchanged, unseen⟩
  rw [entry, attempt]
  decide +kernel

end Scene

end AsyncStage.Scenario
