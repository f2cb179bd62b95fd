import AsyncStage.Proofs.Stage.Addressed
import AsyncStage.Proofs.Stage.Restart
import AsyncStage.Scenario.Scene

/-!
# Whose call it is

Many stages can follow each other in a scene. Each one is built with the mailbox of its own number, and a call that
is held, or whose outcome is on its way, names the mailbox of the stage that has made it. Every step of a scene keeps
it so, whatever becomes of the stages.
-/

namespace AsyncStage.Scenario

/-- The call is of a stage that has begun, and names the mailbox of this stage. -/
structure Call.Owned (last : Nat) (c : Call) : Prop where
  begun : c.stage ≤ last
  mailbox : c.mailbox = c.stage

/-- An operation that keeps a stage to its mailbox. -/
def Faithful {α : Type} (operation : Stage → Stage × α) : Prop :=
  ∀ {stage box}, stage.Addressed box → (operation stage).1.Addressed box

/-- A stage that is restored so begins in one of the ways in which stages begin. -/
def Begets (restore : Builder → Instant → (Nat → Interference) → Restoration) : Prop :=
  ∀ {b now around stage reply}, restore b now around = .built stage reply → ∃ error, b.Begins now stage error

namespace Call.Owned

variable {last n : Nat} {c : Call}

theorem succ (h : c.Owned last) : c.Owned (last + 1) := ⟨Nat.le_succ_of_le h.begun, h.mailbox⟩

theorem cancelIf (h : c.Owned last) (n : Nat) (entry : EntryId) (attempt : Nat) :
    (c.cancelIf n entry attempt).Owned last := by
  unfold Call.cancelIf
  split
  · exact ⟨h.begun, h.mailbox⟩
  · exact h

end Call.Owned

theorem begets_restore (state : Snapshot.Bytes) : Begets fun b now around => b.restore now state around :=
  fun built => ⟨_, .restored state _ _ built⟩

theorem begets_restoreFrom (store : Store) : Begets fun b now around => b.restoreFrom now store around := by
  intro b now around stage reply built
  simp only [Builder.restoreFrom] at built
  split at built
  next state latest => exact ⟨_, .restored state _ _ built⟩
  next =>
    split at built
    · cases built
    next ok =>
      cases built
      exact ⟨none, .built ok⟩

namespace Scene

variable {s s' left : Scene} {stage : Stage} {p : CallPattern} {c : Call} {outcome : Outcome}

/-- The stage has the mailbox of its number, and so has the stage of each call that can still be answered. -/
structure Owned (s : Scene) : Prop where
  stage : ∀ stage, s.stage = some stage → stage.Addressed s.stageNumber
  held : ∀ c ∈ s.held, c.Owned s.stageNumber
  sent : ∀ d ∈ s.deliveries, d.call.Owned s.stageNumber

/-! ## Calls that are followed -/

theorem stageNumber_followEvent (s : Scene) (v : Event) : (s.followEvent v).stageNumber = s.stageNumber := by
  cases v with
  | invoked call =>
    simp only [followEvent, followCall]
    generalize (s.scenario.script.outcome? _ _) = outcome?
    generalize (s.scenario.function == .deferred) = deferred
    cases outcome? <;> cases deferred <;> rfl
  | _ => rfl

theorem stageNumber_follow (s : Scene) (stage : Stage) : (s.follow stage).stageNumber = s.stageNumber := by
  have kept : ∀ (events : List Event) (s : Scene), (events.foldl followEvent s).stageNumber = s.stageNumber := by
    intro events
    induction events with
    | nil => exact fun _ => rfl
    | cons v events ih => exact fun s => (ih _).trans (stageNumber_followEvent s v)
  exact kept _ s

theorem stage_dropStage (s : Scene) : s.dropStage.stage = none := by
  unfold dropStage
  cases here : s.stage with
  | none => exact here
  | some stage => rfl

namespace Owned

/-- A new call is of the current stage. -/
theorem followCall (h : s.Owned) {call : Invocation} (named : call.mailbox = s.stageNumber) :
    (s.followCall call).Owned := by
  have new : ∀ label, Call.Owned s.stageNumber ⟨call.value, label, s.stageNumber, call.entry, call.attempt,
      call.mailbox, false, false⟩ := fun _ => ⟨Nat.le_refl _, named⟩
  simp only [Scene.followCall]
  generalize (s.scenario.function == .deferred) = deferred
  generalize (if deferred = true then (s.counts.get? call.value).getD 0 + 1 else call.attempt) = number
  cases s.scenario.script.outcome? call.value number with
  | none => exact ⟨h.stage, List.forall_mem_append.2 ⟨h.held, List.forall_mem_singleton.2 (new number)⟩, h.sent⟩
  | some outcome =>
    cases deferred with
    | false => exact ⟨h.stage, h.held, h.sent⟩
    | true => exact ⟨h.stage, h.held, List.forall_mem_append.2 ⟨h.sent, List.forall_mem_singleton.2 (new number)⟩⟩

theorem followEvent (h : s.Owned) {v : Event} (named : ∀ call, v = .invoked call → call.mailbox = s.stageNumber) :
    (s.followEvent v).Owned := by
  cases v with
  | invoked call => exact h.followCall (named call rfl)
  | cancelled entry attempt =>
    exact ⟨h.stage, List.forall_mem_map.2 fun c held => (h.held c held).cancelIf _ entry attempt,
      List.forall_mem_map.2 fun d sent => (h.sent d sent).cancelIf _ entry attempt⟩
  | substituted notice => exact ⟨h.stage, h.held, h.sent⟩
  | _ => exact h

theorem follow (h : s.Owned) (calls : stage.CallsName s.stageNumber) : (s.follow stage).Owned := by
  have followed : ∀ (events : List Event) (s : Scene), s.Owned →
      (∀ call, .invoked call ∈ events → call.mailbox = s.stageNumber) → (events.foldl Scene.followEvent s).Owned := by
    intro events
    induction events with
    | nil => exact fun s h _ => h
    | cons v events ih =>
      intro s h named
      refine ih _ (h.followEvent fun call same => named call (same ▸ List.mem_cons_self)) fun call later => ?_
      rw [stageNumber_followEvent]
      exact named call (List.mem_cons_of_mem _ later)
  have all := followed _ s h fun call listed => calls call (List.mem_filterMap.2 ⟨.invoked call, listed, rfl⟩)
  exact ⟨all.stage, all.held, all.sent⟩

theorem withStage (h : s.Owned) (addressed : stage.Addressed s.stageNumber) : (s.withStage stage).Owned := by
  have followed := h.follow addressed.calls
  refine ⟨?_, followed.held, followed.sent⟩
  rintro _ ⟨⟩
  exact (stageNumber_follow s stage).symm ▸ addressed.forgetHistory

/-- A stage is taken out of the scene when its history has been followed. -/
theorem withoutStage (h : s.Owned) (calls : stage.CallsName s.stageNumber) :
    Owned { s.follow stage with stage := none } := by
  have followed := h.follow calls
  exact ⟨fun _ here => (nomatch here), followed.held, followed.sent⟩

theorem dropStage (h : s.Owned) : s.dropStage.Owned := by
  unfold Scene.dropStage
  cases here : s.stage with
  | none => exact h
  | some stage => exact h.withoutStage (h.stage stage here).drop

/-- The next stage begins when the last one is gone. -/
theorem beginStage (h : s.Owned) (gone : s.stage = none) : s.beginStage.Owned := by
  refine ⟨fun stage here => ?_, fun c held => (h.held c held).succ, fun d sent => (h.sent d sent).succ⟩
  cases gone.symm.trans here

end Owned

/-! ## Calls that are completed -/

theorem of_takeCall? (taken : s.takeCall? p = some (c, left)) :
    ∃ i, s.held[i]? = some c ∧ left = { s with held := s.held.eraseIdx i } := by
  unfold takeCall? at taken
  cases found : s.findCall? p with
  | none => simp [found] at taken
  | some i =>
    cases here : s.held[i]? with
    | none => simp [found, here] at taken
    | some first =>
      simp only [found, here, Option.bind_eq_bind, Option.bind_some, Option.pure_def, Option.some.injEq,
        Prod.mk.injEq] at taken
      obtain ⟨rfl, rfl⟩ := taken
      exact ⟨i, here, rfl⟩

/-- One outcome on its way is delivered, unless its call was cancelled. -/
def deliverOne (s : Scene) (d : Delivery) : Scene := if d.call.cancelled then s else s.post d.call d.outcome

theorem deliver_eq (s : Scene) : s.deliver = s.deliveries.foldl deliverOne { s with deliveries := [] } := rfl

namespace Owned

theorem mapStage (h : s.Owned) {f : Stage → Stage}
    (faithful : ∀ {stage box}, Stage.Addressed stage box → (f stage).Addressed box) :
    Owned { s with stage := s.stage.map f } := by
  refine ⟨fun stage here => ?_, h.held, h.sent⟩
  obtain ⟨old, before, rfl⟩ := Option.map_eq_some_iff.1 here
  exact faithful (h.stage old before)

theorem setClock (h : s.Owned) (time : Instant) : (s.setClock time).Owned :=
  have kept := h.mapStage fun addressed => addressed.perform (.undergo (.clockReads time))
  ⟨kept.stage, kept.held, kept.sent⟩

theorem post (h : s.Owned) (c : Call) (outcome : Outcome) : (s.post c outcome).Owned :=
  h.mapStage fun addressed => addressed.receive _ _

theorem takeCall? (h : s.Owned) (taken : s.takeCall? p = some (c, left)) : c.Owned s.stageNumber ∧ left.Owned := by
  obtain ⟨i, here, rfl⟩ := of_takeCall? taken
  exact ⟨h.held c (List.mem_of_getElem? here), h.stage, fun c held => h.held c (List.mem_of_mem_eraseIdx held), h.sent⟩

theorem completeCall? (h : s.Owned) (done : s.completeCall? p outcome = some s') : s'.Owned := by
  unfold Scene.completeCall? at done
  cases taken : s.takeCall? p with
  | none => simp [taken] at done
  | some x =>
    obtain ⟨c, left⟩ := x
    obtain ⟨own, rest⟩ := h.takeCall? taken
    obtain ⟨_, -, rfl⟩ := of_takeCall? taken
    simp only [taken, Option.bind_eq_bind, Option.bind_some] at done
    cases function : s.scenario.function with
    | immediate =>
      simp only [function, Option.pure_def, Option.some.injEq] at done
      subst done
      refine Owned.post ?_ c outcome
      exact ⟨rest.stage, rest.held, rest.sent⟩
    | deferred =>
      simp only [function, Option.pure_def, Option.some.injEq] at done
      subst done
      exact ⟨rest.stage, rest.held, List.forall_mem_append.2 ⟨rest.sent, List.forall_mem_singleton.2 own⟩⟩

theorem act? (h : s.Owned) {action : Action} (done : s.act? action = some s') : s'.Owned := by
  cases action with
  | complete p outcome => exact h.completeCall? done
  | advance nanos =>
    obtain rfl := Option.some.inj done
    cases s.clock.shift? nanos with
    | none => exact h
    | some time => exact h.setClock time

theorem acts (h : s.Owned) {actions : List Action} (done : actions.foldlM Scene.act? s = some s') : s'.Owned := by
  induction actions generalizing s with
  | nil => exact Option.some.inj done ▸ h
  | cons action actions ih =>
    rw [List.foldlM_cons] at done
    obtain ⟨t, first, rest⟩ := Option.bind_eq_some_iff.1 done
    exact ih (h.act? first) rest

theorem deliverOne (h : s.Owned) (d : Delivery) : (s.deliverOne d).Owned := by
  unfold Scene.deliverOne
  split
  · exact h
  · exact h.post d.call d.outcome

theorem emptied (h : s.Owned) : Owned { s with deliveries := [] } := ⟨h.stage, h.held, fun _ none => (nomatch none)⟩

theorem deliver (h : s.Owned) : s.deliver.Owned := by
  have each : ∀ (ds : List Delivery) (s : Scene), s.Owned → (ds.foldl Scene.deliverOne s).Owned := by
    intro ds
    induction ds with
    | nil => exact fun s h => h
    | cons d ds ih => exact fun s h => ih _ (h.deliverOne d)
  exact each _ _ h.emptied

/-- A call names the mailbox of the stage that is there exactly if this stage has made it. -/
theorem mailbox_iff (h : s.Owned) (own : c.Owned s.stageNumber) (here : s.stage = some stage) :
    c.mailbox = stage.setup.mailbox ↔ c.stage = s.stageNumber := by
  rw [own.mailbox, (h.stage stage here).mailbox]

/-- **An outcome is for nobody** if the stage that has made the call is not there. -/
theorem post_of_absent (h : s.Owned) (own : c.Owned s.stageNumber)
    (absent : c.stage ≠ s.stageNumber ∨ s.stage = none) (outcome : Outcome) : s.post c outcome = s := by
  have stays : s.stage.map (fun stage => stage.receive c.mailbox ⟨c.entry, c.attempt, outcome⟩) = s.stage := by
    cases here : s.stage with
    | none => rfl
    | some stage =>
      have other := absent.resolve_right (by simp [here])
      exact congrArg some (Stage.receive_of_ne (mt (h.mailbox_iff own here).1 other))
  rw [Scene.post, stays]

/-! ## Steps -/

theorem onStage (h : s.Owned) {operation : Stage → Stage × Answer} (faithful : Faithful operation) :
    (s.onStage operation).2.Owned := by
  unfold Scene.onStage
  cases here : s.stage with
  | none => exact h
  | some stage => exact h.withStage (faithful (h.stage stage here))

end Owned

/-- Whatever is made patiently is made with some number of wakings. -/
theorem patiently_eq {α : Type} (goesOn : α → Bool) (call : Nat → α) (wakes doublings : Nat) :
    ∃ n, patiently goesOn call wakes doublings = call n := by
  induction doublings generalizing wakes with
  | zero => exact ⟨wakes, rfl⟩
  | succ doublings ih =>
    unfold patiently
    dsimp only
    split
    · exact ih (2 * wakes)
    · exact ⟨wakes, rfl⟩

namespace Owned

theorem onStageBlocking (h : s.Owned) (b : Blocking) {operation : Stage → Interference → Stage × Reply Unit}
    (faithful : ∀ i, Faithful (operation · i)) : (s.onStageBlocking b operation).2.Owned := by
  unfold Scene.onStageBlocking
  cases s.stage with
  | none => exact h
  | some stage =>
    dsimp only
    cases acted : b.actions.foldlM Scene.act? s with
    | none => exact h
    | some t =>
      refine (h.acts acted).onStage fun {stage box} addressed => ?_
      obtain ⟨n, made⟩ := patiently_eq (fun r : Stage × Reply Unit => goesOn r.1 r.2)
        (fun wakes => operation stage (interference b wakes)) 16 patience
      dsimp only
      rw [made]
      exact faithful _ addressed

theorem rebuild (h : s.Owned) (config : GivenConfig) (b : Blocking)
    {restore : Builder → Instant → (Nat → Interference) → Restoration} (begets : Begets restore) :
    (s.rebuild config b restore).2.Owned := by
  unfold Scene.rebuild
  cases acted : b.actions.foldlM Scene.act? s with
  | none => exact h
  | some t =>
    have dropped := (h.acts acted).dropStage
    cases config with
    | none => exact dropped
    | some config =>
      have begins := dropped.beginStage (stage_dropStage t)
      dsimp only
      generalize t.dropStage.beginStage = t at begins ⊢
      obtain ⟨n, made⟩ := patiently_eq Restoration.goesOn
        (fun wakes => restore (t.scenario.builder t.stageNumber config) t.clock fun _ => interference b wakes) 16
        patience
      rw [made]
      cases restored : restore (t.scenario.builder t.stageNumber config) t.clock fun _ => interference b n with
      | refused e => exact begins
      | built stage reply =>
        obtain ⟨error, begun⟩ := begets restored
        have built := begins.withStage begun.addressed
        cases reply with
        | done => exact built
        | failed e => exact built.dropStage
        | blocked => exact built.dropStage

theorem perform (h : s.Owned) (step : Step) : (s.perform step).2.Owned := by
  cases step with
  | offer r => exact h.onStage fun addressed => addressed.perform (.offer r [])
  | put r b => exact h.onStageBlocking b fun i _ _ addressed => addressed.perform (.put r i)
  | watermark time b => exact h.onStageBlocking b fun i _ _ addressed => addressed.perform (.putWatermark time i)
  | finish b => exact h.onStageBlocking b fun i _ _ addressed => addressed.perform (.finish i)
  | status status => exact h.onStage fun addressed => addressed.perform (.forwardStatus status)
  | poll => exact h.onStage fun addressed => addressed.perform .poll
  | close => exact h.onStage fun addressed => addressed.perform .close
  | drop => exact h.dropStage
  | intoOutput =>
    simp only [Scene.perform, Scene.intoOutput]
    cases here : s.stage with
    | none => exact h
    | some stage => exact h.withoutStage ((h.stage stage here).perform .close).calls
  | takeOutput =>
    simp only [Scene.perform, Scene.takeOutput]
    cases here : s.stage with
    | none => exact h
    | some stage =>
      refine ⟨?_, h.held, h.sent⟩
      rintro _ ⟨⟩
      exact (h.stage stage here).takeOutput
  | advance nanos =>
    simp only [Scene.perform]
    cases s.clock.shift? nanos with
    | none => exact h
    | some time => exact h.setClock time
  | setClock time => exact h.setClock time
  | complete p outcome =>
    simp only [Scene.perform]
    cases done : s.completeCall? p outcome with
    | none => exact h
    | some t => exact h.completeCall? done
  | abandon p =>
    simp only [Scene.perform]
    cases taken : s.takeCall? p with
    | none => exact h
    | some x => exact (h.takeCall? taken).2
  | calls => exact h
  | inspect => exact h.onStage id
  | pendingElements => exact h.onStage id
  | snapshot =>
    simp only [Scene.perform, Scene.takeSnapshot]
    cases here : s.stage with
    | none => exact h
    | some stage =>
      have kept := h.withStage ((h.stage stage here).perform .snapshot)
      exact ⟨kept.stage, kept.held, kept.sent⟩
  | checkpoint id name =>
    simp only [Scene.perform, Scene.checkpoint]
    cases here : s.stage with
    | none => exact h
    | some stage =>
      cases s.stores.get? name with
      | none => exact h
      | some store =>
        have kept := h.withStage ((h.stage stage here).perform (.checkpoint id store))
        exact ⟨kept.stage, kept.held, kept.sent⟩
  | store name call =>
    simp only [Scene.perform, Scene.callStore]
    cases s.stores.get? name with
    | none => exact h
    | some store => exact ⟨h.stage, h.held, h.sent⟩
  | restore state config b => exact h.rebuild _ b (begets_restore _)
  | restoreFrom name config b =>
    simp only [Scene.perform]
    cases s.stores.get? name with
    | none => exact h
    | some store => exact h.rebuild _ b (begets_restoreFrom store)
  | metrics => exact h
  | unknown => exact h

theorem report (h : s.Owned) (answer : Answer) : (s.report answer).2.Owned := by
  have delivered := h.deliver
  refine ⟨delivered.stage, List.forall_mem_map.2 fun c held => ?_, delivered.sent⟩
  exact ⟨(delivered.held c held).begun, (delivered.held c held).mailbox⟩

theorem step (h : s.Owned) (step : Step) : (s.step step).2.Owned := (h.perform step).report _

/-- **Whatever the steps are**, calls stay with the stages that have made them. -/
theorem steps (h : s.Owned) (steps : List Step) : (s.steps steps).2.Owned := by
  induction steps generalizing s with
  | nil => exact h
  | cons first rest ih => exact ih (h.step first)

end Owned

theorem opening_owned (scenario : Scenario) : (opening scenario).2.Owned := by
  have empty : ∀ s : Scene, s.stage = none → s.held = [] → s.deliveries = [] → s.Owned := by
    intro s gone held sent
    refine ⟨fun stage here => (nomatch gone.symm.trans here), ?_, ?_⟩
    · simp [held]
    · simp [sent]
  unfold opening
  cases scenario.config with
  | none => exact empty _ rfl rfl rfl
  | some config =>
    dsimp only
    split
    · exact empty _ rfl rfl rfl
    next ok => exact (empty _ rfl rfl rfl).withStage (Builder.Begins.built ok).addressed

end Scene

end AsyncStage.Scenario
