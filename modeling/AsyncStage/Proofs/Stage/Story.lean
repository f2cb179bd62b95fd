import AsyncStage.Proofs.Stage.Sound

/-!
# The story of a record

The notes about one record follow a pattern: it is admitted and attempted at once, an attempt
may end with an outcome that a retry is to replace, the retry starts, and so on, until the
record is resolved; then it is emitted, unless its result was an error that ended the stage.
`Attempts`, `Resolved` and `Story` give this pattern case by case. What can be asked about the
result of a record is answered by induction on it: how often the function was called, which
attempt gave the result, and that there is one result only.
-/

namespace AsyncStage

namespace Progress

/-- How many attempts have been started, and when the first one was, while there is no result. -/
def counts : Progress → Option (Nat × Instant)
  | .outstanding attempt first => some (attempt, first)
  | .waiting attempt first _ _ => some (attempt, first)
  | .done _ => none

/-- The cancel signals that are given when the record is given up. -/
def cancels (id : EntryId) : Progress → List Event
  | .outstanding attempt _ => [.cancelled id attempt]
  | .waiting _ _ _ _ => []
  | .done _ => []

end Progress

variable {setup : Setup} {id : EntryId} {record : Record} {notes : List Note} {progress : Progress}
  {result : Resolution} {attempt : Nat} {first : Instant}

/-- The notes about a record that has no result yet. -/
inductive Attempts (setup : Setup) (id : EntryId) (record : Record) : List Note → Progress → Prop where
  | started (t : Instant) :
      Attempts setup id record [⟨t, .admitted id (.record record)⟩, ⟨t, .invoked (setup.call id 1 record.value)⟩]
        (.outstanding 1 t)
  | scheduled {notes : List Note} {attempt : Nat} {first : Instant}
      (before : Attempts setup id record notes (.outstanding attempt first)) (t : Instant) (outcome : Outcome)
      (wanted : setup.retry.shouldRetry attempt outcome = true)
      (time : Stage.timeAllows setup.timeout first t (setup.retry.backoffBefore attempt) = true) :
      Attempts setup id record
        (notes ++ [⟨t, .applied ⟨id, attempt, outcome⟩⟩,
          ⟨t, .scheduled id attempt (t.after (setup.retry.backoffBefore attempt).span)⟩])
        (.waiting attempt first outcome (t.after (setup.retry.backoffBefore attempt).span))
  | retried {notes : List Note} {attempt : Nat} {first retryAt : Instant} {outcome : Outcome}
      (before : Attempts setup id record notes (.waiting attempt first outcome retryAt)) (t : Instant)
      (due : retryAt ≤ t) :
      Attempts setup id record (notes ++ [⟨t, .invoked (setup.call id (attempt + 1) record.value)⟩])
        (.outstanding (attempt + 1) first)

/-- The notes about a record up to its result. -/
inductive Resolved (setup : Setup) (id : EntryId) (record : Record) : List Note → Resolution → Prop where
  /-- The outstanding attempt ended, and no retry follows. -/
  | answered {notes : List Note} {attempt : Nat} {first : Instant}
      (before : Attempts setup id record notes (.outstanding attempt first)) (t : Instant) (outcome : Outcome) :
      Resolved setup id record
        (notes ++ [⟨t, .applied ⟨id, attempt, outcome⟩⟩, ⟨t, .resolved id (.ofOutcome outcome)⟩])
        (.ofOutcome outcome)
  /-- The input ended while a retry was awaited. -/
  | cutShort {notes : List Note} {attempt : Nat} {first retryAt : Instant} {outcome : Outcome}
      (before : Attempts setup id record notes (.waiting attempt first outcome retryAt)) (t : Instant) :
      Resolved setup id record (notes ++ [⟨t, .resolved id (.ofOutcome outcome)⟩]) (.ofOutcome outcome)
  /-- The time was up. -/
  | expired {notes : List Note} {progress : Progress} {attempt : Nat} {first : Instant} {span : Duration}
      (before : Attempts setup id record notes progress) (counts : progress.counts = some (attempt, first))
      (timeout : setup.timeout = some span) (t : Instant) (late : first.after span.span ≤ t) :
      Resolved setup id record
        (notes ++ (progress.cancels id ++ [Event.resolved id (.error (.timeout (t.elapsed first) attempt))]).map
          (Note.mk t))
        (.error (.timeout (t.elapsed first) attempt))

/-- The notes about a record. -/
inductive Story (setup : Setup) (id : EntryId) (record : Record) : List Note → Prop where
  | unresolved {notes : List Note} {progress : Progress} (attempts : Attempts setup id record notes progress) :
      Story setup id record notes
  | resolved {notes : List Note} {result : Resolution} (resolved : Resolved setup id record notes result) :
      Story setup id record notes
  /-- The record was emitted with the values that its result stands for. -/
  | emitted {notes : List Note} {result : Resolution} {values : List String} {e : RecordEntry}
      (resolved : Resolved setup id record notes result) (final : setup.final? record result = some values)
      (slot : e.slot = .completed values) (t : Instant) :
      Story setup id record (notes ++ [⟨t, .released (.record e)⟩])
  /-- The stage ended before there was a result. -/
  | dropped {notes : List Note} {progress : Progress} (attempts : Attempts setup id record notes progress)
      (t : Instant) : Story setup id record (notes ++ (progress.cancels id).map (Note.mk t))

/-! ## While there is no result -/

/-- The calls of the function for a record, up to this attempt. -/
def callsOf (setup : Setup) (id : EntryId) (record : Record) (attempts : Nat) : List Invocation :=
  (List.range attempts).map fun n => setup.call id (n + 1) record.value

theorem callsOf_succ (setup : Setup) (id : EntryId) (record : Record) (n : Nat) :
    callsOf setup id record (n + 1) = callsOf setup id record n ++ [setup.call id (n + 1) record.value] := by
  simp [callsOf, List.range_succ]

/-- The calls that some notes tell of. -/
def invocations (notes : List Note) : List Invocation := notes.filterMap fun n => n.event.invocation?

@[simp] theorem invocations_append (notes notes' : List Note) :
    invocations (notes ++ notes') = invocations notes ++ invocations notes' := List.filterMap_append

namespace Attempts

/-- Attempts are counted from one without gaps. -/
theorem invocations_eq (h : Attempts setup id record notes progress)
    (counts : progress.counts = some (attempt, first)) : invocations notes = callsOf setup id record attempt := by
  induction h generalizing attempt first with
  | started t =>
    cases counts
    rfl
  | scheduled before t outcome wanted time ih =>
    cases counts
    rw [invocations_append, ih rfl]
    exact List.append_nil _
  | retried before t due ih =>
    cases counts
    rw [invocations_append, ih rfl, callsOf_succ]
    rfl

/-- It begins with the admission and the first attempt at the same time. -/
theorem begins (h : Attempts setup id record notes progress) (counts : progress.counts = some (attempt, first)) :
    [⟨first, .admitted id (.record record)⟩, ⟨first, .invoked (setup.call id 1 record.value)⟩] <+: notes := by
  induction h generalizing attempt first with
  | started t =>
    cases counts
    exact List.prefix_rfl
  | scheduled before t outcome wanted time ih =>
    cases counts
    exact (ih rfl).trans (List.prefix_append _ _)
  | retried before t due ih =>
    cases counts
    exact (ih rfl).trans (List.prefix_append _ _)

theorem not_done {values : List String} : ¬ Attempts setup id record notes (.done values) := nofun

/-- The outcome that is kept is that of the last attempt. -/
theorem applied_of_waiting {outcome : Outcome} {retryAt : Instant}
    (h : Attempts setup id record notes (.waiting attempt first outcome retryAt)) :
    ∃ t, ⟨t, .applied ⟨id, attempt, outcome⟩⟩ ∈ notes := by
  cases h with
  | scheduled before t => exact ⟨t, by simp⟩

/-- Nothing is resolved or emitted yet. -/
theorem unresolved (h : Attempts setup id record notes progress) :
    ∀ n ∈ notes, n.event.resolved? = none ∧ n.event.released? = none := by
  induction h with
  | started t => simp [Event.resolved?, Event.released?]
  | scheduled before t outcome wanted time ih =>
    simpa [or_imp, forall_and, Event.resolved?, Event.released?] using ih
  | retried before t due ih =>
    simpa [or_imp, forall_and, Event.resolved?, Event.released?] using ih

end Attempts

/-! ## The result -/

/-- The results that some notes tell of. -/
def results (notes : List Note) : List (EntryId × Resolution) := notes.filterMap fun n => n.event.resolved?

@[simp] theorem results_append (notes notes' : List Note) :
    results (notes ++ notes') = results notes ++ results notes' := List.filterMap_append

theorem Attempts.results_eq (h : Attempts setup id record notes progress) : results notes = [] :=
  List.filterMap_eq_nil_iff.2 fun n hn => (h.unresolved n hn).1

theorem results_cancels (id : EntryId) (progress : Progress) (t : Instant) :
    results ((progress.cancels id).map (Note.mk t)) = [] := by
  cases progress <;> rfl

theorem invocations_cancels (id : EntryId) (progress : Progress) (t : Instant) :
    invocations ((progress.cancels id).map (Note.mk t)) = [] := by
  cases progress <;> rfl

theorem released_cancels {t : Instant} :
    ∀ n ∈ (progress.cancels id).map (Note.mk t), n.event.released? = none := by
  cases progress <;> simp [Progress.cancels, Event.released?]

namespace Resolved

/-- The notes up to the result tell of one result. -/
theorem results_eq (h : Resolved setup id record notes result) : results notes = [(id, result)] := by
  cases h with
  | answered before => exact (results_append _ _).trans (by rw [before.results_eq]; rfl)
  | cutShort before => exact (results_append _ _).trans (by rw [before.results_eq]; rfl)
  | expired before counts timeout t late =>
    rw [List.map_append, results_append, results_append, before.results_eq, results_cancels]
    rfl

/-- Nothing has been emitted when the record is resolved. -/
theorem unreleased (h : Resolved setup id record notes result) : ∀ n ∈ notes, n.event.released? = none := by
  cases h with
  | answered before =>
    simpa [or_imp, forall_and, Event.released?] using fun n hn => (before.unresolved n hn).2
  | cutShort before =>
    simpa [or_imp, forall_and, Event.released?] using fun n hn => (before.unresolved n hn).2
  | expired before =>
    intro n hn
    rw [List.map_append, List.mem_append, List.mem_append] at hn
    rcases hn with old | given | ended
    · exact (before.unresolved n old).2
    · exact released_cancels n given
    · rw [List.map_singleton, List.mem_singleton] at ended
      subst ended
      rfl

end Resolved

/-- Where the result of a record comes from whose function was called so often. -/
inductive Origin (setup : Setup) (id : EntryId) (record : Record) (attempts : Nat) (notes : List Note) :
    Resolution → Prop where
  /-- It is the outcome of the last attempt. -/
  | outcome (t : Instant) (outcome : Outcome) (taken : ⟨t, .applied ⟨id, attempts, outcome⟩⟩ ∈ notes) :
      Origin setup id record attempts notes (.ofOutcome outcome)
  /-- The time since the first attempt was up. -/
  | timeout (first t : Instant) (span : Duration) (limit : setup.timeout = some span)
      (began : ⟨first, .invoked (setup.call id 1 record.value)⟩ ∈ notes) (late : first.after span.span ≤ t)
      (ended : ⟨t, .resolved id (.error (.timeout (t.elapsed first) attempts))⟩ ∈ notes) :
      Origin setup id record attempts notes (.error (.timeout (t.elapsed first) attempts))

theorem Origin.mono {notes' : List Note} (h : Origin setup id record attempt notes result)
    (sub : notes ⊆ notes') : Origin setup id record attempt notes' result := by
  cases h with
  | outcome t outcome taken => exact .outcome t outcome (sub taken)
  | timeout first t span limit began late ended => exact .timeout first t span limit (sub began) late (sub ended)

/-- **A result comes from the last attempt or from the timeout.** -/
theorem Resolved.origin (h : Resolved setup id record notes result) : ∃ attempts,
    invocations notes = callsOf setup id record attempts ∧ Origin setup id record attempts notes result := by
  cases h with
  | @answered notes attempt first before t outcome =>
    refine ⟨attempt, ?_, .outcome t outcome (by simp)⟩
    rw [invocations_append, before.invocations_eq rfl]
    exact List.append_nil _
  | @cutShort notes attempt first retryAt outcome before t =>
    obtain ⟨t', taken⟩ := before.applied_of_waiting
    refine ⟨attempt, ?_, .outcome t' outcome (List.mem_append_left _ taken)⟩
    rw [invocations_append, before.invocations_eq rfl]
    exact List.append_nil _
  | @expired notes progress attempt first span before counts timeout t late =>
    refine ⟨attempt, ?_, .timeout first t span timeout (List.mem_append_left _ ?_) late (by simp)⟩
    · rw [List.map_append, invocations_append, invocations_append, before.invocations_eq counts,
        invocations_cancels]
      exact List.append_nil _
    · exact (before.begins counts).subset (by simp)

/-- What is told of a record that has been resolved. -/
theorem Story.of_result (h : Story setup id record notes) {p : EntryId × Resolution} (told : p ∈ results notes) :
    ∃ before, Resolved setup id record before p.2 ∧ p.1 = id ∧ (notes = before ∨
      ∃ t e values, notes = before ++ [⟨t, .released (.record e)⟩] ∧
        setup.final? record p.2 = some values ∧ e.slot = .completed values) := by
  cases h with
  | unresolved attempts =>
    rw [attempts.results_eq] at told
    cases told
  | resolved resolved =>
    rw [resolved.results_eq, List.mem_singleton] at told
    subst told
    exact ⟨notes, resolved, rfl, .inl rfl⟩
  | @emitted before result values e resolved final slot t =>
    rw [results_append, resolved.results_eq] at told
    obtain rfl : p = (id, result) := List.mem_singleton.1 told
    exact ⟨before, resolved, rfl, .inr ⟨t, e, values, rfl, final, slot⟩⟩
  | dropped attempts t =>
    rw [results_append, attempts.results_eq, results_cancels] at told
    cases told

/-- A record has at most one result. -/
theorem Story.results_eq (h : Story setup id record notes) {p : EntryId × Resolution} (told : p ∈ results notes) :
    results notes = [p] := by
  obtain ⟨before, resolved, rfl, rfl | ⟨t, e, values, rfl, -⟩⟩ := h.of_result told
  · exact resolved.results_eq
  · exact (results_append _ _).trans (by rw [resolved.results_eq]; rfl)

/-- An emitted record has the values that its result stands for. -/
theorem Story.of_released (h : Story setup id record notes) {n : Note} {e : RecordEntry} (told : n ∈ notes)
    (released : n.event = .released (.record e)) : ∃ result values, (id, result) ∈ results notes ∧
      setup.final? record result = some values ∧ e.slot = .completed values := by
  have some' : n.event.released? = some (.record e) := by rw [released]; rfl
  cases h with
  | unresolved attempts => simp [(attempts.unresolved n told).2] at some'
  | resolved resolved => simp [resolved.unreleased n told] at some'
  | @emitted before result values e' resolved final slot t =>
    refine ⟨result, values, ?_, final, ?_⟩
    · rw [results_append, resolved.results_eq]
      exact List.mem_append_left _ List.mem_cons_self
    · rcases List.mem_append.1 told with old | last
      · simp [resolved.unreleased n old] at some'
      · rw [List.mem_singleton] at last
        subst last
        cases released
        exact slot
  | dropped attempts t =>
    rcases List.mem_append.1 told with old | given
    · simp [(attempts.unresolved n old).2] at some'
    · simp [released_cancels n given] at some'

end AsyncStage
