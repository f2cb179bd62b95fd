import AsyncStage.Proofs.Stage.Awaited

/-!
# Stale completions

A stage expects a completion while its attempt is the current one of a record that has no result
and awaits no retry. Taking up any other completion changes nothing at all. The history tells which
completions are expected: the function has been called for the record so often and not more, the
attempt has not been answered, and the record has no result. A completion that is taken up answers
a call that was made for the record of its number, and numbers are given out once.
-/

namespace AsyncStage.Stage

variable {s s' : Stage} {id : EntryId} {r : Record} {c : Completion}

/-- The completion answers the current attempt of a record without a result, and no retry is awaited. -/
def Expects (s : Stage) (c : Completion) : Prop :=
  ∃ e, .record e ∈ s.entries ∧ e.id = c.entry ∧ e.isDone = false ∧ e.retry.isWaiting = false ∧
    e.retry.attempts = c.attempt

theorem expects_of_accepts {e : RecordEntry} (here : .record e ∈ s.entries) (names : e.id = c.entry)
    (accepted : e.accepts c.attempt = true) : s.Expects c := by
  simp only [RecordEntry.accepts, Bool.and_eq_true, Bool.not_eq_true', beq_iff_eq] at accepted
  exact ⟨e, here, names, accepted.1.1, accepted.1.2, accepted.2⟩

/-- **A completion that is not expected changes nothing.** -/
theorem Sound.apply_stale (h : s.Sound) (stale : ¬ s.Expects c) : s.apply c = s := by
  cases apply_applies h.queue h.timers c with
  | ignored same => exact same
  | scheduled e here names accepted => exact absurd (expects_of_accepts here names accepted) stale
  | resolved e here names accepted => exact absurd (expects_of_accepts here names accepted) stale

/-! ## What the history says -/

theorem mem_applied : c ∈ s.applied ↔ ∃ t, ⟨t, .applied c⟩ ∈ s.told := by
  refine ⟨fun taken => ?_, fun ⟨t, told⟩ => applied_of_told told⟩
  rw [applied, events_filterMap fun e silent => by cases e <;> first | rfl | cases silent] at taken
  obtain ⟨⟨t, event⟩, told, shown⟩ := List.mem_filterMap.1 taken
  cases event <;> cases shown
  exact ⟨t, told⟩

/-- The last attempt of a record has not been answered, and the record has no result. -/
structure Unanswered (s : Stage) (c : Completion) (r : Record) : Prop where
  running : s.isRunning = true
  admitted : (c.entry, Element.record r) ∈ s.admitted
  started : 0 < c.attempt
  called : s.invoked.filter (fun call => call.entry = c.entry) = callsOf s.setup c.entry r c.attempt
  unanswered : ∀ outcome, ⟨c.entry, c.attempt, outcome⟩ ∉ s.applied
  unresolved : c.entry ∉ s.resolvedIds

namespace Kept

/-- A record without a result is in flight while the stage runs. -/
theorem in_flight (h : s.Kept) (running : s.isRunning = true) (admitted : (id, Element.record r) ∈ s.admitted)
    (unresolved : id ∉ s.resolvedIds) : ∃ e, .record e ∈ s.entries ∧ e.id = id ∧ e.record = r := by
  obtain ⟨lost, none, perm, -⟩ := h.lined.line
  rw [none running, List.append_nil] at perm
  obtain ⟨a, ha, label⟩ := List.mem_map.1 (perm.mem_iff.2 admitted)
  cases a with
  | watermark => cases label
  | record e =>
    cases label
    refine ⟨e, (List.mem_append.1 ha).resolve_left fun released => unresolved ?_, rfl, rfl⟩
    obtain ⟨result, _, resolved, -⟩ := h.released_result released
    exact List.mem_map_of_mem resolved

/-- An open entry has no result. -/
theorem unresolved_of_open (h : s.Kept) {e : RecordEntry} (here : .record e ∈ s.entries) (opened : e.isDone = false) :
    e.id ∉ s.resolvedIds := by
  intro listed
  obtain ⟨⟨id, result⟩, told, rfl⟩ := List.mem_map.1 listed
  obtain ⟨progress, at'⟩ := h.sound.standing e here
  have none := (h.told.attempts here at' opened).results_eq
  rw [← results_toldOf, none] at told
  cases told

/-- What is expected has not been answered. -/
theorem unanswered_of_expects (h : s.Kept) (expected : s.Expects c) : ∃ r, s.Unanswered c r := by
  obtain ⟨e, here, names, opened, awake, current⟩ := expected
  obtain ⟨progress, at'⟩ := h.sound.standing e here
  have attempts := h.told.attempts here at' opened
  have unresolved := h.unresolved_of_open here opened
  rw [names] at attempts unresolved
  cases at' with
  | waiting _ _ _ timer set => simp [RetryContext.isWaiting, set] at awake
  | done slot => simp [RecordEntry.isDone, slot, Slot.isFinal] at opened
  | outstanding slot counted =>
    rw [← counted, current] at attempts
    refine ⟨e.record, h.sound.isRunning_of_mem here, names ▸ h.lined.mem_admitted here, attempts.pos rfl, ?_, ?_,
      unresolved⟩
    · rw [invoked_filter, attempts.invocations_eq rfl]
    · intro outcome taken
      obtain ⟨t, told⟩ := mem_applied.1 taken
      have listed : c.attempt ∈ answers (s.toldOf c.entry) := List.mem_filterMap.2 ⟨_, mem_toldOf told rfl, rfl⟩
      rw [attempts.answers_eq, List.mem_range'_1] at listed
      simp only [Progress.answered] at listed
      omega

/-- The last attempt of a record without a result is expected to be answered, until it is. -/
theorem expects_of_unanswered (h : s.Kept) (u : s.Unanswered c r) : s.Expects c := by
  obtain ⟨e, here, names, -⟩ := h.in_flight u.running u.admitted u.unresolved
  cases h.told.standing e here with
  | resolved at' resolved final =>
    have told : (e.id, _) ∈ results (s.toldOf e.id) := resolved.results_eq ▸ List.mem_singleton_self _
    exact absurd (names ▸ List.mem_map_of_mem (results_toldOf.1 told)) u.unresolved
  | unresolved at' attempts =>
    -- The calls of the record are counted by its last attempt.
    have current : ∀ {attempt first}, _ = some (attempt, first) → attempt = c.attempt := fun counts => by
      have same := attempts.invocations_eq counts
      rw [← invoked_filter, names, u.called] at same
      have length := congrArg List.length same
      rw [length_callsOf, length_callsOf] at length
      exact length.symm
    cases at' with
    | done => exact absurd attempts Attempts.not_done
    | outstanding slot counted started timer =>
      refine ⟨e, here, names, ?_, ?_, counted.trans (current rfl)⟩
      · simp [RecordEntry.isDone, slot, Slot.isFinal]
      · simp [RetryContext.isWaiting, timer]
    | waiting slot counted =>
      obtain ⟨t, told⟩ := attempts.applied_of_waiting
      rw [names, current rfl] at told
      exact absurd (mem_applied.2 ⟨t, told_of_toldOf told⟩) (u.unanswered _)

/-- **The history tells which completions are expected.** -/
theorem expects_iff (h : s.Kept) : s.Expects c ↔ ∃ r, s.Unanswered c r :=
  ⟨h.unanswered_of_expects, fun ⟨_, u⟩ => h.expects_of_unanswered u⟩

end Kept

/-! ## Nothing is credited to another record -/

/-- A completion that was taken up answers a call that was made for the record of its number. -/
def Credits (s : Stage) : Prop :=
  ∀ t c, ⟨t, .applied c⟩ ∈ s.told → ∃ r, (c.entry, Element.record r) ∈ s.admitted ∧
    ∃ t', ⟨t', .invoked (s.setup.call c.entry c.attempt r.value)⟩ ∈ s.told

theorem Credits.step (credits : s.Credits) (h : s.Kept) (step : Step s s') : s'.Credits := by
  intro t c told
  have admitted := (admitted_extends (.single step)).subset
  have notes := (told_extends (.single step)).subset
  rw [step.fixed.setup]
  by_cases old : ⟨t, .applied c⟩ ∈ s.told
  · obtain ⟨r, known, t', called⟩ := credits t c old
    exact ⟨r, admitted known, t', notes called⟩
  · obtain ⟨-, e, here, names, first, at', -⟩ := step.answers h.sound told old
    have attempts := h.told.attempts here at' at'.opened
    have listed : s.setup.call e.id c.attempt e.record.value ∈ invocations (s.toldOf e.id) := by
      obtain ⟨n, same⟩ := Nat.exists_eq_add_of_lt (attempts.pos rfl)
      rw [attempts.invocations_eq rfl, same, Nat.zero_add]
      exact Course.mem_calls.2 (Nat.lt_succ_self n)
    obtain ⟨⟨t', event⟩, called, shown⟩ := List.mem_filterMap.1 listed
    cases event <;> cases shown
    rw [← names]
    exact ⟨e.record, admitted (h.lined.mem_admitted here), t', notes (told_of_toldOf called)⟩

theorem credits_of_steps {b : Builder} {now : Instant} (built : b.build now = .ok s) (steps : Steps s s') :
    s'.Credits := by
  have kept := Kept.build built
  induction steps with
  | refl =>
    obtain ⟨retry, rfl⟩ := build_eq built
    intro t c told
    cases told
  | tail before last ih => exact ih.step (kept.steps before) last

/-- What completions can do to a stage. -/
structure Discerns (s : Stage) : Prop where
  /-- A completion that is not expected changes nothing, whatever else is in the mailbox. -/
  inert : ∀ mail c, ¬ s.Expects c → apply { s with mailbox := mail } c = { s with mailbox := mail }
  expected : ∀ c, s.Expects c ↔ ∃ r, s.Unanswered c r
  /-- Numbers are given out once. -/
  numbered : s.admitted.map (·.1) = List.range s.nextId
  credited : ∀ c ∈ s.applied, ∃ r, (c.entry, Element.record r) ∈ s.admitted ∧
    s.setup.call c.entry c.attempt r.value ∈ s.invoked

theorem discerns {b : Builder} {now : Instant} (built : b.build now = .ok s) (steps : Steps s s') : s'.Discerns := by
  have kept := (Kept.build built).steps steps
  refine ⟨fun mail c stale => ?_, fun c => kept.expects_iff, kept.lined.numbered, fun c taken => ?_⟩
  · exact (apply_withMail s' mail c).trans (congrArg (withMail · mail) (kept.sound.apply_stale stale))
  · obtain ⟨t, told⟩ := mem_applied.1 taken
    obtain ⟨r, admitted, t', called⟩ := credits_of_steps built steps t c told
    have listed : s'.setup.call c.entry c.attempt r.value ∈ invocations (s'.toldOf c.entry) :=
      List.mem_filterMap.2 ⟨_, mem_toldOf called rfl, rfl⟩
    rw [← invoked_filter] at listed
    exact ⟨r, admitted, List.mem_of_mem_filter listed⟩

end AsyncStage.Stage
