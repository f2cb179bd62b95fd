import AsyncStage.Proofs.Stage.Admission
import AsyncStage.Proofs.Stage.FailStop

/-!
# What operations have taken in

The answer of an operation says whether its element was taken: an offer is accepted, a call that may wait is done.
What is admitted in a run is what its operations have taken in, in their order. Only one element more can have
been admitted: that of the operation that ended the stage, because an entry failed for good afterwards.
-/

namespace AsyncStage.Stage

variable {s s' : Stage} {a : Action} {actions : List Action}

/-- The element that an action has admitted, if its answer says so. -/
def tookIn? (s : Stage) : Action → Option Element
  | .offer r meanwhile => if foundRoom Admission.isAccepted (s.offer r meanwhile).2 then some (.record r) else none
  | .put r i => if (s.put r i).2 = .done () then some (.record r) else none
  | .putWatermark t i => if (s.putWatermark t i).2 = .done () then some (.watermark t) else none
  | _ => none

/-- The elements that actions have admitted, one after the other, if their answers say so. -/
def tookIn (s : Stage) : List Action → List Element
  | [] => []
  | a :: actions => (s.tookIn? a).toList ++ (s.perform a).1.tookIn actions

/-- In going from `s` to `s'` these elements were admitted, and at most one more, if the stage ended. -/
inductive Enters (s s' : Stage) (elements : List Element) : Prop where
  | all (same : s'.admittedElements = s.admittedElements ++ elements)
  | oneMore (e : Element) (stopped : s'.isRunning = false)
      (same : s'.admittedElements = s.admittedElements ++ elements ++ [e])

theorem Enters.still (same : s'.admitted = s.admitted) : Enters s s' [] :=
  .all (by rw [admittedElements, same, List.append_nil, admittedElements])

theorem TakesIn.enters {e : Element} {p : Prop} [Decidable p] (a : TakesIn s s' e (decide p)) :
    Enters s s' (if p then some e else none).toList := by
  by_cases took : p
  · rw [decide_eq_true took] at a
    rw [if_pos took]
    exact .all a.admitted
  · rw [decide_eq_false took] at a
    rw [if_neg took]
    cases a with
    | refused same => exact .all (same.trans (List.append_nil _).symm)
    | lost running stopped added => exact .oneMore e stopped (by simpa using added)

/-! ## Operations that admit nothing -/

theorem GivesUp.admitted {ids : List EntryId} (gives : GivesUp s ids s') : s'.admitted = s.admitted := by
  induction gives with
  | nil s => rfl
  | passed id stopped later ih => exact ih
  | cutShort e here ended at' resolves later ih => exact ih.trans (resolves.admitted ⟨rfl, rfl⟩)

theorem admitted_poll (h : s.Sound) : s.poll.1.admitted = s.admitted := by
  rw [poll_eq]
  split
  · split <;> exact admitted_turn h
  · rfl

theorem untilEmpty_fst (s : Stage) : s.untilEmpty.1 = s.turn := by
  rw [untilEmpty, unlessFailed]
  split <;> rfl

theorem admitted_finish (h : s.Sound) (i : Interference) : (s.finish i).1.admitted = s.admitted := by
  cases running : s.isRunning with
  | false => rw [finish_of_stopped running]
  | true =>
    have given : s.withoutRetries.admitted = s.admitted := (waiting_givesUp h running).admitted
    have sound := h.steps (withoutRetries_steps h running)
    rw [finish_of_running running]
    generalize s.withoutRetries = t at given sound ⊢
    cases failed : t.failure? with
    | some error => exact given
    | none =>
      have start : (t.undergoAll i.meanwhile).Sound ∧ (t.undergoAll i.meanwhile).admitted = s.admitted :=
        ⟨sound.steps (undergoAll_steps i.meanwhile t), (quiet_undergoAll i.meanwhile t).admitted.trans given⟩
      have turned : ∀ u : Stage, u.Sound ∧ u.admitted = s.admitted →
          u.untilEmpty.1.Sound ∧ u.untilEmpty.1.admitted = s.admitted := by
        rintro u ⟨sound, same⟩
        rw [untilEmpty_fst]
        exact ⟨sound.steps (turn_steps sound), (admitted_turn sound).trans same⟩
      have waits : Waits untilEmpty (fun u => u.Sound ∧ u.admitted = s.admitted)
          fun u _ => u.admitted = s.admitted := by
        refine ⟨fun u h _ => turned u h, ?_, fun u h _ _ => (turned u h).2, fun u h _ _ => (turned u h).2,
          fun _ h _ => h.2, fun _ h => h.2⟩
        rintro u w ⟨sound, same⟩
        exact ⟨sound.steps (Moves.steps (sleep_goes sound w).1), (admitted_sleep sound w).trans same⟩
      exact waits.waitFor _ start

theorem admitted_snapshot (s : Stage) : s.snapshot.1.admitted = s.admitted := (quiet_measure s .snapshotTimed).admitted

theorem admitted_checkpoint (h : s.Sound) (id : CheckpointId) (store : Store) :
    (s.checkpoint id store).1.admitted = s.admitted := by
  rcases checkpoint_cases s id store with ⟨error, -, same⟩ | ⟨-, store', answer, same, -⟩
  · rw [same]
    exact admitted_poll h
  · rw [same]
    exact (admitted_snapshot _).trans (admitted_poll h)

theorem admitted_close (s : Stage) : s.close.admitted = s.admitted := by
  unfold close
  split
  · exact (teardown_ends s .closed).admitted
  · rfl

/-! ## Runs -/

/-- **An action** admits what its answer says that it has taken. -/
theorem perform_enters (h : s.Sound) (a : Action) : Enters s (s.perform a).1 (s.tookIn? a).toList := by
  cases a with
  | offer r meanwhile => exact TakesIn.enters (by simpa [perform] using takesIn_offer h r meanwhile)
  | put r i => exact (takesIn_putElement h (.record r) i).enters
  | putWatermark t i => exact (takesIn_putElement h (.watermark t) i).enters
  | forwardStatus status =>
    refine .still ?_
    simp only [perform, forwardStatus, whileRunning]
    split <;> rfl
  | poll => exact .still (admitted_poll h)
  | finish i => exact .still (admitted_finish h i)
  | snapshot => exact .still (admitted_snapshot s)
  | checkpoint id store => exact .still (admitted_checkpoint h id store)
  | close => exact .still (admitted_close s)
  | undergo o => exact .still (quiet_undergo s o).admitted

/-- An operation that answers with an error has taken nothing. -/
theorem tookIn?_of_error {error : StageError} (failed : (s.perform a).2 = some error) : s.tookIn? a = none := by
  have refused : ∀ (reply : Reply Unit) (e : Element), reply.error? = some error →
      (if reply = .done () then some e else none) = none := by
    intro reply e failed
    refine if_neg fun done => ?_
    rw [done] at failed
    cases failed
  cases a with
  | offer r meanwhile =>
    change errorOf (s.offer r meanwhile).2 = some error at failed
    cases told : (s.offer r meanwhile).2 with
    | ok answer =>
      rw [told] at failed
      cases failed
    | error error => simp [tookIn?, told, foundRoom]
  | put r i => exact refused _ _ failed
  | putWatermark t i => exact refused _ _ failed
  | _ => rfl

/-- A stage that has ended takes nothing. -/
theorem tookIn_of_stopped (stopped : s.isRunning = false) (actions : List Action) : s.tookIn actions = [] := by
  induction actions generalizing s with
  | nil => rfl
  | cons a actions ih =>
    have nothing : s.tookIn? a = none := by
      cases needs : a.needsRunning with
      | true => exact tookIn?_of_error (congrArg Prod.snd (perform_stopped stopped needs))
      | false => cases a <;> first | rfl | cases needs
    rw [tookIn, nothing, ih ((perform_rests stopped a).isRunning stopped)]
    rfl

theorem Rests.admitted (r : Rests s s') : s'.admitted = s.admitted := by
  obtain ⟨new, same, idle⟩ := r.events
  have silent : new.filterMap Event.admitted? = [] := by
    refine List.filterMap_eq_nil_iff.2 fun v hv => ?_
    have := idle v hv
    cases v <;> first | rfl | cases this
  rw [Stage.admitted, same, List.filterMap_append, silent, List.append_nil, Stage.admitted]

/-- **What is admitted in a run** is what its operations have taken in. -/
theorem run_enters (h : s.Sound) (actions : List Action) : Enters s (s.run actions) (s.tookIn actions) := by
  induction actions generalizing s with
  | nil => exact .still rfl
  | cons a actions ih =>
    cases perform_enters h a with
    | all first =>
      rw [tookIn]
      cases ih (h.steps (perform_steps h a)) with
      | all rest => exact .all (by rw [← List.append_assoc, ← first]; exact rest)
      | oneMore e stopped rest => exact .oneMore e stopped (by rw [← List.append_assoc, ← first]; exact rest)
    | oneMore e stopped first =>
      have rests := run_rests stopped actions
      have same : (s.run (a :: actions)).admittedElements = (s.perform a).1.admittedElements :=
        congrArg (List.map Prod.snd) rests.admitted
      refine .oneMore e (rests.isRunning stopped) ?_
      rw [same, first, tookIn, tookIn_of_stopped stopped, List.append_nil]

end AsyncStage.Stage
