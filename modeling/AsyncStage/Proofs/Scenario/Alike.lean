import AsyncStage.Proofs.Scenario.Owned

/-!
# What a scene no longer looks at

A scene keeps calls that have been completed, because a cancel signal given to them later is to be
reported, and outcomes that are on their way. Of the calls of a stage that is gone nothing more is
to be expected: no signal is given to them, and their outcomes reach no mailbox. Two scenes are
`Alike` if they differ in such calls at most. Alike scenes answer every step alike and stay alike,
however many stages follow each other.
-/

namespace AsyncStage.Scenario

/-- Whether a completed call has been given a cancel signal, or may be given one by a stage that is
not numbered below `since`. -/
def Call.matters (since : Nat) (c : Call) : Bool := since ≤ c.stage || c.cancelled

/-- Whether an outcome on its way may reach the mailbox of a stage that is not numbered below `since`. -/
def Delivery.matters (since : Nat) (d : Delivery) : Bool := since ≤ d.call.stage

namespace Scene

/-- The stages numbered below `since` are gone. -/
def Gone (since : Nat) (s : Scene) : Prop :=
  since ≤ s.stageNumber ∨ s.stage = none ∧ since = s.stageNumber + 1

/-- The scenes differ at most in completed calls of stages that are gone. -/
inductive Alike (since : Nat) (s : Scene) : Scene → Prop where
  | mk {completed : List Call} {deliveries : List Delivery}
      (calls : completed.filter (Call.matters since) = s.completed.filter (Call.matters since))
      (mail : deliveries.filter (Delivery.matters since) = s.deliveries.filter (Delivery.matters since))
      (gone : s.Gone since) :
      Alike since s { s with completed := completed, deliveries := deliveries }

/-- Steps that were answered alike and left alike scenes. -/
structure AlikeAfter {α : Type} (since : Nat) (p q : α × Scene) : Prop where
  answer : q.1 = p.1
  scene : Alike since p.2 q.2

end Scene

variable {s t : Scene} {since n : Nat}

/-! ## Signals -/

theorem Call.stage_cancelIf (n : Nat) (entry : EntryId) (attempt : Nat) (c : Call) :
    (c.cancelIf n entry attempt).stage = c.stage := by
  unfold Call.cancelIf
  split <;> rfl

/-- A signal is given to calls that matter anyway. -/
theorem Call.matters_cancelIf (begun : since ≤ n) (entry : EntryId) (attempt : Nat) (c : Call) :
    (c.cancelIf n entry attempt).matters since = c.matters since := by
  unfold Call.cancelIf
  split
  next own =>
    simp only [Call.isFor, Bool.and_eq_true, beq_iff_eq] at own
    simp [Call.matters, own.1.1, begun]
  · rfl

theorem filter_matters_cancelIf (begun : since ≤ n) (entry : EntryId) (attempt : Nat) (cs : List Call) :
    (cs.map (Call.cancelIf n entry attempt)).filter (Call.matters since) =
      (cs.filter (Call.matters since)).map (Call.cancelIf n entry attempt) := by
  rw [List.filter_map]
  exact congrArg _ (List.filter_congr fun c _ => Call.matters_cancelIf begun entry attempt c)

theorem filter_delivery_cancelIf (entry : EntryId) (attempt : Nat) (ds : List Delivery) :
    (ds.map fun d => { d with call := d.call.cancelIf n entry attempt }).filter (Delivery.matters since) =
      (ds.filter (Delivery.matters since)).map fun d => { d with call := d.call.cancelIf n entry attempt } := by
  rw [List.filter_map]
  refine congrArg _ (List.filter_congr fun d _ => ?_)
  simp only [Function.comp, Delivery.matters, Call.stage_cancelIf]

namespace Scene

/-! ## Following the history -/

namespace Alike

theorem refl (gone : s.Gone since) : Alike since s s := .mk rfl rfl gone

theorem symm (a : Alike since s t) : Alike since t s := by
  obtain ⟨calls, mail, gone⟩ := a
  exact .mk calls.symm mail.symm gone

theorem gone (a : Alike since s t) : s.Gone since := by
  cases a
  assumption

theorem stage_eq (a : Alike since s t) : t.stage = s.stage := by
  cases a
  rfl

theorem scenario_eq (a : Alike since s t) : t.scenario = s.scenario := by
  cases a
  rfl

theorem clock_eq (a : Alike since s t) : t.clock = s.clock := by
  cases a
  rfl

theorem stageNumber_eq (a : Alike since s t) : t.stageNumber = s.stageNumber := by
  cases a
  rfl

theorem stores_eq (a : Alike since s t) : t.stores = s.stores := by
  cases a
  rfl

/-- A stage that is there is not one of those that are gone. -/
theorem begun (a : Alike since s t) {stage : Stage} (here : s.stage = some stage) : since ≤ s.stageNumber := by
  obtain ⟨-, -, gone⟩ := a
  rcases gone with begun | ⟨none, -⟩
  · exact begun
  · rw [here] at none
    cases none

theorem followCall (a : Alike since s t) (begun : since ≤ s.stageNumber) (call : Invocation) :
    Alike since (s.followCall call) (t.followCall call) := by
  obtain ⟨calls, mail, -⟩ := a
  simp only [Scene.followCall]
  generalize (s.scenario.function == .deferred) = deferred
  generalize (if deferred = true then (s.counts.get? call.value).getD 0 + 1 else call.attempt) = number
  cases s.scenario.script.outcome? call.value number with
  | none =>
    exact .mk calls mail (.inl begun)
  | some outcome =>
    cases deferred with
    | false => exact .mk calls mail (.inl begun)
    | true => exact .mk calls (by simp only [↓reduceIte, List.filter_append, mail]) (.inl begun)

theorem followEvent (a : Alike since s t) (begun : since ≤ s.stageNumber) (v : Event) :
    Alike since (s.followEvent v) (t.followEvent v) := by
  cases v with
  | invoked call => exact a.followCall begun call
  | cancelled entry attempt =>
    obtain ⟨calls, mail, -⟩ := a
    refine .mk ?_ ?_ (.inl begun)
    · simp only [Scene.followEvent, filter_matters_cancelIf begun, calls]
    · simp only [Scene.followEvent, filter_delivery_cancelIf, mail]
  | substituted notice =>
    obtain ⟨calls, mail, -⟩ := a
    exact .mk calls mail (.inl begun)
  | _ => exact a

theorem followEvents (a : Alike since s t) (begun : since ≤ s.stageNumber) (events : List Event) :
    Alike since (events.foldl Scene.followEvent s) (events.foldl Scene.followEvent t) := by
  induction events generalizing s t with
  | nil => exact a
  | cons v events ih => exact ih (a.followEvent begun v) (by rwa [stageNumber_followEvent])

theorem follow (a : Alike since s t) (begun : since ≤ s.stageNumber) (stage : Stage) :
    Alike since (s.follow stage) (t.follow stage) := by
  have followed := a.followEvents begun (stage.history.toList.map Note.event)
  unfold Scene.follow
  dsimp only
  generalize List.foldl Scene.followEvent s _ = s' at followed ⊢
  generalize List.foldl Scene.followEvent t _ = t' at followed ⊢
  obtain ⟨calls, mail, gone⟩ := followed
  exact .mk calls mail gone

theorem withStage (a : Alike since s t) (begun : since ≤ s.stageNumber) (stage : Stage) :
    Alike since (s.withStage stage) (t.withStage stage) := by
  have followed := a.follow begun stage
  rw [← stageNumber_follow s stage] at begun
  unfold Scene.withStage
  generalize s.follow stage = s' at followed begun ⊢
  generalize t.follow stage = t' at followed ⊢
  obtain ⟨calls, mail, -⟩ := followed
  exact .mk calls mail (.inl begun)

/-- A stage is taken out of the scene when its history has been followed. -/
theorem withoutStage (a : Alike since s t) (begun : since ≤ s.stageNumber) (stage : Stage) :
    Alike since { s.follow stage with stage := none } { t.follow stage with stage := none } := by
  have followed := a.follow begun stage
  rw [← stageNumber_follow s stage] at begun
  generalize s.follow stage = s' at followed begun ⊢
  generalize t.follow stage = t' at followed ⊢
  obtain ⟨calls, mail, -⟩ := followed
  exact .mk calls mail (.inl begun)

theorem dropStage (a : Alike since s t) : Alike since s.dropStage t.dropStage := by
  unfold Scene.dropStage
  rw [a.stage_eq]
  cases here : s.stage with
  | none => exact a
  | some stage => exact a.withoutStage (a.begun here) stage.drop

/-- When the next stage begins, every stage that is gone has a smaller number. -/
theorem begun_beginStage (a : Alike since s t) : since ≤ s.beginStage.stageNumber := by
  obtain ⟨-, -, gone⟩ := a
  rcases gone with begun | ⟨-, next⟩
  · exact Nat.le_succ_of_le begun
  · exact Nat.le_of_eq next

theorem beginStage (a : Alike since s t) : Alike since s.beginStage t.beginStage := by
  have begun := a.begun_beginStage
  obtain ⟨calls, mail, -⟩ := a
  exact .mk calls mail (.inl begun)

end Alike

/-! ## Calls -/

theorem Gone.mapStage (gone : s.Gone since) (f : Stage → Stage) : Gone since { s with stage := s.stage.map f } :=
  gone.imp_right (And.imp_left fun none => by rw [none]; rfl)

theorem Gone.post (gone : s.Gone since) (c : Call) (outcome : Outcome) : (s.post c outcome).Gone since :=
  gone.mapStage _

theorem Gone.deliverOne (gone : s.Gone since) (d : Delivery) : (s.deliverOne d).Gone since := by
  unfold Scene.deliverOne
  split
  · exact gone
  · exact gone.post d.call d.outcome

theorem post_of_gone (owned : s.Owned) (gone : s.Gone since) {c : Call} (own : c.Owned s.stageNumber)
    (earlier : c.stage < since) (outcome : Outcome) : s.post c outcome = s := by
  refine owned.post_of_absent own ?_ outcome
  rcases gone with begun | ⟨none, -⟩
  · exact .inl (Nat.ne_of_lt (Nat.lt_of_lt_of_le earlier begun))
  · exact .inr none

theorem stageNumber_deliverOne (s : Scene) (d : Delivery) : (s.deliverOne d).stageNumber = s.stageNumber := by
  unfold deliverOne
  split <;> rfl

/-- It is enough to deliver the outcomes that may reach a mailbox. -/
theorem foldl_deliverOne_filter (owned : s.Owned) (gone : s.Gone since) {ds : List Delivery}
    (sent : ∀ d ∈ ds, d.call.Owned s.stageNumber) :
    ds.foldl deliverOne s = (ds.filter (Delivery.matters since)).foldl deliverOne s := by
  induction ds generalizing s with
  | nil => rfl
  | cons d ds ih =>
    obtain ⟨own, rest⟩ := List.forall_mem_cons.1 sent
    rw [List.foldl_cons, List.filter_cons]
    split
    · exact ih (owned.deliverOne d) (gone.deliverOne d) (by rwa [stageNumber_deliverOne])
    next idle =>
      have stays : s.deliverOne d = s := by
        unfold deliverOne
        split
        · rfl
        · exact post_of_gone owned gone own (Nat.lt_of_not_le fun late => idle (decide_eq_true late)) d.outcome
      rw [stays]
      exact ih owned gone rest

namespace Alike

theorem post (a : Alike since s t) (c : Call) (outcome : Outcome) :
    Alike since (s.post c outcome) (t.post c outcome) := by
  obtain ⟨calls, mail, gone⟩ := a
  exact .mk calls mail (gone.mapStage _)

theorem setClock (a : Alike since s t) (time : Instant) : Alike since (s.setClock time) (t.setClock time) := by
  obtain ⟨calls, mail, gone⟩ := a
  exact .mk calls mail (gone.mapStage _)

theorem deliverOne (a : Alike since s t) (d : Delivery) : Alike since (s.deliverOne d) (t.deliverOne d) := by
  unfold Scene.deliverOne
  split
  · exact a
  · exact a.post d.call d.outcome

theorem deliverAll (a : Alike since s t) (ds : List Delivery) :
    Alike since (ds.foldl Scene.deliverOne s) (ds.foldl Scene.deliverOne t) := by
  induction ds generalizing s t with
  | nil => exact a
  | cons d ds ih => exact ih (a.deliverOne d)

theorem deliver (a : Alike since s t) (owned : s.Owned) (owned' : t.Owned) : Alike since s.deliver t.deliver := by
  have mail : t.deliveries.filter (Delivery.matters since) = s.deliveries.filter (Delivery.matters since) := by
    cases a
    assumption
  have emptied : Alike since { s with deliveries := [] } { t with deliveries := [] } := by
    obtain ⟨calls, -, gone⟩ := a
    exact .mk calls rfl gone
  have all := foldl_deliverOne_filter owned.emptied emptied.gone owned.sent
  have all' := foldl_deliverOne_filter owned'.emptied emptied.symm.gone owned'.sent
  rw [deliver_eq, deliver_eq, all, all', mail]
  exact emptied.deliverAll _

theorem takeCall? (a : Alike since s t) (p : CallPattern) :
    Option.Rel (AlikeAfter since) (s.takeCall? p) (t.takeCall? p) := by
  obtain ⟨calls, mail, gone⟩ := a
  unfold Scene.takeCall?
  change Option.Rel _ (s.findCall? p >>= _) (s.findCall? p >>= _)
  cases s.findCall? p with
  | none => exact .none
  | some i =>
    change Option.Rel _ (s.held[i]? >>= _) (s.held[i]? >>= _)
    cases s.held[i]? with
    | none => exact .none
    | some c => exact .some ⟨rfl, .mk calls mail gone⟩

/-- The scenes that keep a call among those that have been completed are alike as well. -/
theorem complete (a : Alike since s t) (c : Call) :
    Alike since { s with completed := if c.cancelled then s.completed else s.completed ++ [c] }
      { t with completed := if c.cancelled then t.completed else t.completed ++ [c] } := by
  obtain ⟨calls, mail, gone⟩ := a
  refine .mk ?_ mail gone
  cases c.cancelled with
  | true => exact calls
  | false => simp [List.filter_append, calls]

theorem completeCall? (a : Alike since s t) (p : CallPattern) (outcome : Outcome) :
    Option.Rel (Alike since) (s.completeCall? p outcome) (t.completeCall? p outcome) := by
  have taken := a.takeCall? p
  unfold Scene.completeCall?
  generalize s.takeCall? p = x at taken ⊢
  generalize t.takeCall? p = y at taken ⊢
  cases taken with
  | none => exact .none
  | @some x y after =>
    obtain ⟨c, s⟩ := x
    obtain ⟨c', t⟩ := y
    obtain ⟨rfl, alike⟩ := after
    change Alike since s t at alike
    have finished := (alike.complete c').post c' outcome
    obtain ⟨calls, mail, gone⟩ := alike
    dsimp only [bind, Option.bind] at finished ⊢
    cases s.scenario.function with
    | immediate => exact .some finished
    | deferred => exact .some (.mk calls (by simp only [List.filter_append, mail]) gone)

theorem act? (a : Alike since s t) (action : Action) : Option.Rel (Alike since) (s.act? action) (t.act? action) := by
  cases action with
  | complete p outcome => exact a.completeCall? p outcome
  | advance nanos =>
    simp only [Scene.act?, a.clock_eq]
    cases s.clock.shift? nanos with
    | none => exact .some a
    | some time => exact .some (a.setClock time)

theorem acts (a : Alike since s t) (actions : List Action) :
    Option.Rel (Alike since) (actions.foldlM Scene.act? s) (actions.foldlM Scene.act? t) := by
  induction actions generalizing s t with
  | nil => exact .some a
  | cons action actions ih =>
    have first := a.act? action
    rw [List.foldlM_cons, List.foldlM_cons]
    generalize s.act? action = x at first ⊢
    generalize t.act? action = y at first ⊢
    cases first with
    | none => exact .none
    | some alike => exact ih alike

/-! ## Steps -/

theorem onStage (a : Alike since s t) (operation : Stage → Stage × Answer) :
    AlikeAfter since (s.onStage operation) (t.onStage operation) := by
  unfold Scene.onStage
  rw [a.stage_eq]
  cases here : s.stage with
  | none => exact ⟨rfl, a⟩
  | some stage => exact ⟨rfl, a.withStage (a.begun here) _⟩

theorem onStageBlocking (a : Alike since s t) (b : Blocking)
    (operation : Stage → Interference → Stage × Reply Unit) :
    AlikeAfter since (s.onStageBlocking b operation) (t.onStageBlocking b operation) := by
  unfold Scene.onStageBlocking
  rw [a.stage_eq]
  cases s.stage with
  | none => exact ⟨rfl, a⟩
  | some stage =>
    have acted := a.acts b.actions
    dsimp only
    generalize b.actions.foldlM Scene.act? s = x at acted ⊢
    generalize b.actions.foldlM Scene.act? t = y at acted ⊢
    cases acted with
    | none => exact ⟨rfl, a⟩
    | some alike => exact alike.onStage _

theorem rebuild (a : Alike since s t) (config : GivenConfig) (b : Blocking)
    (restore : Builder → Instant → (Nat → Interference) → Restoration) :
    AlikeAfter since (s.rebuild config b restore) (t.rebuild config b restore) := by
  have acted := a.acts b.actions
  unfold Scene.rebuild
  generalize b.actions.foldlM Scene.act? s = x at acted ⊢
  generalize b.actions.foldlM Scene.act? t = y at acted ⊢
  cases acted with
  | none => exact ⟨rfl, a⟩
  | some alike =>
    cases config with
    | none => exact ⟨rfl, alike.dropStage⟩
    | some config =>
      have begins := alike.dropStage.beginStage
      have begun := alike.dropStage.begun_beginStage
      dsimp only
      generalize (Scene.dropStage _).beginStage = s' at begins begun ⊢
      generalize (Scene.dropStage _).beginStage = t' at begins ⊢
      rw [begins.scenario_eq, begins.clock_eq, begins.stageNumber_eq]
      generalize patiently Restoration.goesOn _ 16 patience = restored
      cases restored with
      | refused e => exact ⟨rfl, begins⟩
      | built stage reply =>
        have built := begins.withStage begun stage
        cases reply with
        | done => exact ⟨rfl, built⟩
        | failed e => exact ⟨rfl, built.dropStage⟩
        | blocked => exact ⟨rfl, built.dropStage⟩

theorem intoOutput (a : Alike since s t) : AlikeAfter since s.intoOutput t.intoOutput := by
  unfold Scene.intoOutput
  rw [a.stage_eq]
  cases here : s.stage with
  | none => exact ⟨rfl, a⟩
  | some stage => exact ⟨rfl, a.withoutStage (a.begun here) stage.close⟩

theorem takeOutput (a : Alike since s t) : AlikeAfter since s.takeOutput t.takeOutput := by
  unfold Scene.takeOutput
  rw [a.stage_eq]
  cases here : s.stage with
  | none => exact ⟨rfl, a⟩
  | some stage =>
    have begun := a.begun here
    obtain ⟨calls, mail, -⟩ := a
    exact ⟨rfl, .mk calls mail (.inl begun)⟩

theorem takeSnapshot (a : Alike since s t) : AlikeAfter since s.takeSnapshot t.takeSnapshot := by
  unfold Scene.takeSnapshot
  rw [a.stage_eq]
  cases here : s.stage with
  | none => exact ⟨rfl, a⟩
  | some stage =>
    have kept := a.withStage (a.begun here) stage.snapshot.1
    dsimp only
    generalize s.withStage _ = s' at kept ⊢
    generalize t.withStage _ = t' at kept ⊢
    obtain ⟨calls, mail, gone⟩ := kept
    exact ⟨rfl, .mk calls mail gone⟩

theorem withStores (a : Alike since s t) (stores : Table String Store) :
    Alike since { s with stores := stores } { t with stores := stores } := by
  obtain ⟨calls, mail, gone⟩ := a
  exact .mk calls mail gone

theorem checkpoint (a : Alike since s t) (id : CheckpointId) (name : String) :
    AlikeAfter since (s.checkpoint id name) (t.checkpoint id name) := by
  unfold Scene.checkpoint
  rw [a.stage_eq, a.stores_eq]
  cases here : s.stage with
  | none => exact ⟨rfl, a⟩
  | some stage =>
    cases s.stores.get? name with
    | none => exact ⟨rfl, a⟩
    | some store => exact ⟨rfl, (a.withStage (a.begun here) _).withStores _⟩

theorem callStore (a : Alike since s t) (name : String) (call : StoreCall) :
    AlikeAfter since (s.callStore name call) (t.callStore name call) := by
  unfold Scene.callStore
  rw [a.stores_eq]
  cases s.stores.get? name with
  | none => exact ⟨rfl, a⟩
  | some store => exact ⟨rfl, a.withStores _⟩

theorem perform (a : Alike since s t) (step : Step) : AlikeAfter since (s.perform step) (t.perform step) := by
  cases step with
  | offer r =>
    simp only [Scene.perform]
    exact a.onStage _
  | put r b => exact a.onStageBlocking b _
  | watermark time b => exact a.onStageBlocking b _
  | finish b => exact a.onStageBlocking b _
  | status status =>
    simp only [Scene.perform]
    exact a.onStage _
  | poll =>
    simp only [Scene.perform]
    exact a.onStage _
  | close =>
    simp only [Scene.perform]
    exact a.onStage _
  | drop => exact ⟨rfl, a.dropStage⟩
  | intoOutput => exact a.intoOutput
  | takeOutput => exact a.takeOutput
  | advance nanos =>
    simp only [Scene.perform, a.clock_eq]
    cases s.clock.shift? nanos with
    | none => exact ⟨rfl, a⟩
    | some time => exact ⟨rfl, a.setClock time⟩
  | setClock time => exact ⟨rfl, a.setClock time⟩
  | complete p outcome =>
    have completed := a.completeCall? p outcome
    simp only [Scene.perform]
    generalize s.completeCall? p outcome = x at completed ⊢
    generalize t.completeCall? p outcome = y at completed ⊢
    cases completed with
    | none => exact ⟨rfl, a⟩
    | some alike => exact ⟨rfl, alike⟩
  | abandon p =>
    have taken := a.takeCall? p
    simp only [Scene.perform]
    generalize s.takeCall? p = x at taken ⊢
    generalize t.takeCall? p = y at taken ⊢
    cases taken with
    | none => exact ⟨rfl, a⟩
    | some after => exact ⟨rfl, after.scene⟩
  | calls =>
    refine ⟨?_, a⟩
    cases a
    rfl
  | inspect =>
    simp only [Scene.perform]
    exact a.onStage _
  | pendingElements =>
    simp only [Scene.perform]
    exact a.onStage _
  | snapshot => exact a.takeSnapshot
  | checkpoint id name => exact a.checkpoint id name
  | store name call => exact a.callStore name call
  | restore state config b =>
    have lastSnapshot : t.lastSnapshot = s.lastSnapshot := by
      cases a
      rfl
    simp only [Scene.perform, a.scenario_eq, lastSnapshot]
    exact a.rebuild _ b _
  | restoreFrom name config b =>
    simp only [Scene.perform, a.scenario_eq, a.stores_eq]
    cases s.stores.get? name with
    | none => exact ⟨rfl, a⟩
    | some store => exact a.rebuild _ b _
  | metrics =>
    refine ⟨?_, a⟩
    cases a
    rfl
  | unknown => exact ⟨rfl, a⟩

end Alike

/-! ## Reports -/

/-- What is reported of completed calls is of calls that matter. -/
theorem freshCancellations_filter (since : Nat) (cs : List Call) :
    freshCancellations (cs.filter (Call.matters since)) = freshCancellations cs := by
  unfold freshCancellations
  rw [List.filter_filter]
  refine congrArg _ (List.filter_congr fun c _ => ?_)
  cases cancelled : c.cancelled <;> simp [Call.matters, cancelled]

theorem filter_markReported (since : Nat) (cs : List Call) :
    (markReported cs).filter (Call.matters since) = markReported (cs.filter (Call.matters since)) := by
  unfold markReported
  rw [List.filter_map]
  rfl

namespace Alike

theorem report (a : Alike since s t) (owned : s.Owned) (owned' : t.Owned) (answer : Answer) :
    AlikeAfter since (s.report answer) (t.report answer) := by
  have delivered := a.deliver owned owned'
  unfold Scene.report
  dsimp only
  generalize s.deliver = s' at delivered ⊢
  generalize t.deliver = t' at delivered ⊢
  obtain @⟨completed, deliveries, calls, mail, gone⟩ := delivered
  have watched : freshCancellations completed = freshCancellations s'.completed := by
    rw [← freshCancellations_filter since, calls, freshCancellations_filter]
  refine ⟨?_, .mk ?_ mail gone⟩
  · simp only [apply_ite freshCancellations, watched]
  · simp only [filter_markReported, calls]

theorem step (a : Alike since s t) (owned : s.Owned) (owned' : t.Owned) (step : Step) :
    AlikeAfter since (s.step step) (t.step step) := by
  obtain ⟨answer, scene⟩ := a.perform step
  unfold Scene.step
  dsimp only
  rw [answer]
  exact scene.report (owned.perform step) (owned'.perform step) _

/-- **Alike scenes are told apart by no steps.** -/
theorem steps (a : Alike since s t) (owned : s.Owned) (owned' : t.Owned) (steps : List Step) :
    AlikeAfter since (s.steps steps) (t.steps steps) := by
  induction steps generalizing s t with
  | nil => exact ⟨rfl, a⟩
  | cons first rest ih =>
    obtain ⟨report, scene⟩ := a.step owned owned' first
    obtain ⟨reports, last⟩ := ih scene (owned.step first) (owned'.step first)
    unfold Scene.steps
    refine ⟨?_, last⟩
    dsimp only
    rw [report, reports]

end Alike

end Scene

end AsyncStage.Scenario
