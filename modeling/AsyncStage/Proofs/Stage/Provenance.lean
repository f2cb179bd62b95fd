import AsyncStage.Proofs.Stage.Results

/-!
# Where results come from

Every result is the outcome of the last attempt that was made for the record, or a timeout that
was raised for it. The values that are emitted are those of the outcome, or those that the
fallback makes of the error. Without a fallback an error ends the stage, and the operation
during which this happens answers with it.
-/

namespace AsyncStage.Stage

/-- The calls of the function. -/
def invoked (s : Stage) : List Invocation := s.events.filterMap Event.invocation?

/-- The error was raised for this record, whose function was called so often. -/
inductive Raised (s : Stage) (id : EntryId) (r : Record) (attempts : Nat) : EntryError → Prop where
  /-- The last attempt failed. -/
  | invocation (error : InvocationError) (posted : ⟨id, attempts, .failure error⟩ ∈ s.posted)
      (taken : ⟨id, attempts, .failure error⟩ ∈ s.applied) : Raised s id r attempts (.invocation error)
  /-- The time since the first call was up. -/
  | timeout (first t : Instant) (span : Duration) (limit : s.setup.timeout = some span)
      (began : ⟨first, .invoked (s.setup.call id 1 r.value)⟩ ∈ s.told) (late : first.after span.span ≤ t)
      (ended : ⟨t, .resolved id (.error (.timeout (t.elapsed first) attempts))⟩ ∈ s.told) :
      Raised s id r attempts (.timeout (t.elapsed first) attempts)

/-- How a record came to its result, and to its values, if there are any. -/
inductive Comes (s : Stage) (id : EntryId) (r : Record) (attempts : Nat) :
    Resolution → Option (List String) → Prop where
  /-- The values are those of the last attempt. -/
  | answered (values : List String) (posted : ⟨id, attempts, .values values⟩ ∈ s.posted)
      (taken : ⟨id, attempts, .values values⟩ ∈ s.applied) :
      Comes s id r attempts (.values values) (some values)
  /-- The values are those that the fallback makes of the record and the error. -/
  | substituted (error : EntryError) (raised : Raised s id r attempts error)
      (fallback : String → EntryError → List String) (set : s.setup.fallback = some fallback) :
      Comes s id r attempts (.error error) (some (fallback r.value error))
  /-- There are no values, and the error has ended the stage. -/
  | fatal (error : EntryError) (raised : Raised s id r attempts error) (unset : s.setup.fallback = none)
      (failed : s.status = .failed ⟨s.stepId, r.value, error⟩) : Comes s id r attempts (.error error) none

/-- Everything there is to know about a result. -/
structure Provenance (s : Stage) (id : EntryId) (r : Record) (attempts : Nat) (result : Resolution)
    (values? : Option (List String)) : Prop where
  admitted : (id, Element.record r) ∈ s.admitted
  once : s.resolved.filter (fun p => p.1 = id) = [(id, result)]
  called : s.invoked.filter (fun call => call.entry = id) = callsOf s.setup id r attempts
  comes : s.Comes id r attempts result values?
  /-- What is emitted for the record are these values. -/
  emitted : ∀ e, .record e ∈ s.released → e.id = id → ∃ values, values? = some values ∧
    (Entry.record e).rendering = values.map fun v => .record ⟨v, r.timestamp⟩

variable {s : Stage} {id : EntryId} {r : Record} {attempts : Nat} {result : Resolution}

/-- The calls for a record are those told of it. -/
theorem invoked_filter (s : Stage) (id : EntryId) :
    s.invoked.filter (fun call => call.entry = id) = invocations (s.toldOf id) :=
  events_filter (fun v call shown => by cases v <;> cases shown; rfl) s id

theorem told_of_toldOf {n : Note} (told : n ∈ s.toldOf id) : n ∈ s.told := List.mem_of_mem_filter told

theorem mem_toldOf {n : Note} (told : n ∈ s.told) (about : n.event.entry? = some id) : n ∈ s.toldOf id :=
  List.mem_filter.2 ⟨told, decide_eq_true about⟩

theorem applied_of_told {t : Instant} {c : Completion} (told : ⟨t, .applied c⟩ ∈ s.told) : c ∈ s.applied := by
  rw [applied, events_filterMap fun e silent => by cases e <;> first | rfl | cases silent]
  exact List.mem_filterMap.2 ⟨_, told, rfl⟩

namespace Kept

/-- The first attempt for an outstanding entry began when the entry says. -/
theorem began (h : s.Kept) {e : RecordEntry} (here : .record e ∈ s.entries) {attempt : Nat} {first : Instant}
    (at' : e.At (.outstanding attempt first)) : ⟨first, .invoked (s.setup.call e.id 1 e.record.value)⟩ ∈ s.told := by
  have start := (h.told.attempts here at' at'.opened).begins rfl
  exact told_of_toldOf (start.subset (List.mem_cons_of_mem _ (List.mem_singleton_self _)))

theorem posted_of_applied (h : s.Kept) {c : Completion} (taken : c ∈ s.applied) : c ∈ s.posted := by
  obtain ⟨read, posted, order⟩ := h.mailed
  rw [posted]
  exact List.mem_append_left _ (order.subset taken)

/-- The story of a record that has a result. -/
theorem resolved_story (h : s.Kept) (admitted : (id, Element.record r) ∈ s.admitted)
    (told : (id, result) ∈ s.resolved) :
    ∃ attempts, invocations (s.toldOf id) = callsOf s.setup id r attempts ∧
      Origin s.setup id r attempts (s.toldOf id) result := by
  obtain ⟨before, resolved, -, notes⟩ :=
    (h.told.recorded.stories id r admitted).of_result (results_toldOf.2 told)
  obtain ⟨attempts, called, origin⟩ := resolved.origin
  rcases notes with same | ⟨t, e, values, same, -⟩
  · exact ⟨attempts, same ▸ called, same ▸ origin⟩
  · refine ⟨attempts, ?_, origin.mono (same ▸ List.subset_append_left _ _)⟩
    rw [same, invocations_append, called]
    exact List.append_nil _

/-- An error ends the stage, or the fallback makes values of it. -/
theorem comes_of_raised (h : s.Kept) (admitted : (id, Element.record r) ∈ s.admitted) {error : EntryError}
    (told : (id, .error error) ∈ s.resolved) (raised : s.Raised id r attempts error) :
    s.Comes id r attempts (.error error) (s.setup.final? r (.error error)) := by
  cases fallback : s.setup.fallback with
  | some f =>
    rw [show s.setup.final? r (.error error) = some (f r.value error) by simp [Setup.final?, fallback]]
    exact .substituted error raised f fallback
  | none =>
    have none : s.setup.final? r (.error error) = none := by simp [Setup.final?, fallback]
    obtain ⟨_, same, failed⟩ := h.told.fatal id r _ admitted told none
    cases same
    rw [none]
    exact .fatal error raised fallback failed

theorem comes (h : s.Kept) (admitted : (id, Element.record r) ∈ s.admitted) (told : (id, result) ∈ s.resolved)
    (origin : Origin s.setup id r attempts (s.toldOf id) result) :
    s.Comes id r attempts result (s.setup.final? r result) := by
  cases origin with
  | outcome t outcome taken =>
    have applied := applied_of_told (told_of_toldOf taken)
    have posted := h.posted_of_applied applied
    cases outcome with
    | values values => exact .answered values posted applied
    | failure error => exact h.comes_of_raised admitted told (.invocation error posted applied)
  | timeout first t span limit began late ended =>
    exact h.comes_of_raised admitted told
      (.timeout first t span limit (told_of_toldOf began) late (told_of_toldOf ended))

theorem provenance (h : s.Kept) (told : (id, result) ∈ s.resolved) :
    ∃ r attempts values?, s.Provenance id r attempts result values? := by
  obtain ⟨r, admitted⟩ := h.record_of_result told
  obtain ⟨attempts, called, origin⟩ := h.resolved_story admitted told
  refine ⟨r, attempts, s.setup.final? r result, admitted, h.resolved_once told, ?_, h.comes admitted told origin, ?_⟩
  · rw [invoked_filter, called]
  · rintro e released rfl
    obtain ⟨result', values, told', final, slot⟩ := h.released_result released
    have same : (e.id, result') ∈ s.resolved.filter fun p => p.1 = e.id :=
      List.mem_filter.2 ⟨told', decide_eq_true rfl⟩
    rw [h.resolved_once told, List.mem_singleton] at same
    cases same
    cases h.lined.admitted_eq admitted (h.lined.released_admitted released) rfl
    exact ⟨values, final, by simp only [Entry.rendering, slot, Record.replace]⟩

end Kept

/-! ## Answers -/

theorem stepId_build {b : Builder} {now : Instant} (built : b.build now = .ok s) : s.stepId = b.config.stepId := by
  obtain ⟨retry, rfl⟩ := build_eq built
  rfl

/-- A stage whose function fails at once, except for one value. -/
def oneGood : Builder where
  function call :=
    [⟨call.entry, call.attempt, if call.value = "good" then .values ["fine"] else .failure ⟨"down"⟩⟩]

def good : Action := .offer ⟨"good", none⟩ []

def bad : Action := .offer ⟨"bad", none⟩ []

/-- **Results come from the last attempt or the timeout.** Whatever is done with a stage, each
record that gets a result gets it once, from the attempt that was the last, or from a timeout,
and is emitted with the values of this result. The operation during which a result ends the
stage answers with the error and names the step and the record. -/
theorem results_provenance {b : Builder} {now : Instant} (built : b.build now = .ok s) (actions : List Action) :
    (∀ p ∈ (s.run actions).resolved, ∃ r attempts values?,
      (s.run actions).Provenance p.1 r attempts p.2 values?) ∧
    ∀ a, (s.run actions).isRunning = true → ∀ id r attempts result,
      ((s.run actions).perform a).1.Provenance id r attempts result none → ∃ error answer,
        result = .error error ∧ ((s.run actions).perform a).2 = some answer ∧
        answer = .entryFailed ⟨b.config.stepId, r.value, error⟩ ∧
        answer.message? = some ("step " ++ b.config.stepId ++ " failed processing input " ++
          Text.quoted r.value ++ ": " ++ error.message) := by
  have kept := Kept.run built actions
  refine ⟨fun p told => kept.provenance told, ?_⟩
  intro a running id r attempts result origin
  have steps := (run_steps (build_sound built) actions).trans (perform_steps kept.sound a)
  have stepId : ((s.run actions).perform a).1.stepId = b.config.stepId :=
    (congrArg Setup.stepId (fixed_of_steps steps).setup).trans (stepId_build built)
  cases origin.comes with
  | fatal error raised unset failed =>
    rw [stepId] at failed
    exact ⟨error, _, rfl, perform_reports kept.sound running a failed, rfl, rfl⟩

/-- A record gets its values, and the next one ends the stage. -/
theorem results_provenance_oneGood : ∃ s, oneGood.build .epoch = .ok s ∧
    (∃ r attempts values?, (s.run [good]).Provenance 0 r attempts (.values ["fine"]) values?) ∧
    ∃ r attempts error, (s.run [good, bad]).Provenance 1 r attempts (.error error) none ∧
      ((s.run [good]).perform bad).2 = some (.entryFailed ⟨"async_wait", r.value, error⟩) := by
  have built : oneGood.build .epoch = .ok (start oneGood .never .epoch) := rfl
  have first : ((start oneGood .never .epoch).run [good]).resolved = [(0, .values ["fine"])] := by decide +kernel
  have second : ((start oneGood .never .epoch).run [good, bad]).resolved =
    [(0, .values ["fine"]), (1, .error (.invocation ⟨"down"⟩))] := by decide +kernel
  have unset : ((start oneGood .never .epoch).run [good, bad]).setup.fallback = none :=
    congrArg Setup.fallback (fixed_of_steps (run_steps (build_sound built) _)).setup
  obtain ⟨results, answers⟩ := results_provenance built [good]
  obtain ⟨r, attempts, values?, origin⟩ :=
    (results_provenance built [good, bad]).1 (1, .error (.invocation ⟨"down"⟩)) (by simp [second])
  have none : values? = none := by
    cases origin.comes with
    | substituted error raised fallback set => cases unset.symm.trans set
    | fatal => rfl
  subst none
  obtain ⟨error, answer, cause, told, same, -⟩ := answers bad (by decide +kernel) 1 r attempts _ origin
  exact ⟨_, built, results (0, .values ["fine"]) (by simp [first]), r, attempts, error, cause ▸ origin, same ▸ told⟩

end AsyncStage.Stage
