import AsyncStage.Proofs.Stage.Story
import AsyncStage.Proofs.Time.Instant

/-!
# The attempts of a record

What the story of a record says of its attempts: they are counted from one, an attempt is
answered before the next one starts, and what lets the next one start is an answer that is to be
retried, early enough, and the end of the backoff. `Follows` is this condition.
-/

namespace AsyncStage

/-- Timers allow for a retry if the time since the first attempt and the backoff are shorter than
the timeout. -/
theorem Stage.timeAllows_iff {timeout : Option Duration} {first now : Instant} {backoff : Duration} :
    timeAllows timeout first now backoff = true ↔
      ∃ span, timeout = some span ∧ now.since first + backoff.span < span.span := by
  cases timeout with
  | none => simp [timeAllows]
  | some span =>
    have late := first.le_latest
    have early := now.earliest_le
    have short := span.span_le_maxSpan
    have bound := Duration.maxSpan_eq
    simp only [timeAllows, Bool.and_eq_true, decide_eq_true_eq, Option.some.injEq, exists_eq_left']
    rw [and_iff_right_iff_imp]
    intro less
    simp only [Instant.since] at less ⊢
    omega

/-- An attempt was answered with an outcome that is to be retried, so early that there is time for
its backoff. -/
structure Allows (setup : Setup) (id : EntryId) (first : Instant) (attempt : Nat) (answered : Instant)
    (outcome : Outcome) (notes : List Note) : Prop where
  taken : ⟨answered, .applied ⟨id, attempt, outcome⟩⟩ ∈ notes
  wanted : setup.retry.shouldRetry attempt outcome = true
  time : ∃ span, setup.timeout = some span ∧
    answered.since first + (setup.retry.backoffBefore attempt).span < span.span

/-- The answer of an attempt allows another one, and the backoff is over at `t`. -/
structure Follows (setup : Setup) (id : EntryId) (first : Instant) (attempt : Nat) (answered : Instant)
    (outcome : Outcome) (t : Instant) (notes : List Note) : Prop
    extends Allows setup id first attempt answered outcome notes where
  due : answered.after (setup.retry.backoffBefore attempt).span ≤ t

/-- The numbers of the attempts that were answered. -/
def answers (notes : List Note) : List Nat := notes.filterMap fun n => n.event.applied?.map Completion.attempt

@[simp] theorem answers_append (notes notes' : List Note) :
    answers (notes ++ notes') = answers notes ++ answers notes' := List.filterMap_append

variable {setup : Setup} {id : EntryId} {record : Record} {notes notes' : List Note} {progress : Progress}
  {result : Resolution} {attempt : Nat} {first t : Instant} {outcome : Outcome}

theorem Follows.mono {answered : Instant} (h : Follows setup id first attempt answered outcome t notes)
    (sub : notes ⊆ notes') : Follows setup id first attempt answered outcome t notes' :=
  { h with taken := sub h.taken }

/-- Notes that tell of no attempt. -/
def Aside (notes : List Note) : Prop := ∀ n ∈ notes, n.event.invocation? = none ∧ n.event.applied? = none

theorem aside_singleton {n : Note} (uncalled : n.event.invocation? = none) (unanswered : n.event.applied? = none) :
    Aside [n] :=
  List.forall_mem_singleton.2 ⟨uncalled, unanswered⟩

/-- The answer of an attempt comes behind those of the attempts before. -/
theorem answers_concat (pos : 0 < attempt) (before : answers notes = List.range' 1 (attempt - 1)) (t : Instant)
    (outcome : Outcome) : answers (notes ++ [⟨t, .applied ⟨id, attempt, outcome⟩⟩]) = List.range' 1 attempt := by
  obtain ⟨n, rfl⟩ := Nat.exists_eq_add_of_lt pos
  rw [answers_append, before, Nat.zero_add, Nat.add_sub_cancel, List.range'_concat, Nat.one_mul, Nat.add_comm 1]
  rfl

theorem length_callsOf (setup : Setup) (id : EntryId) (record : Record) (attempts : Nat) :
    (callsOf setup id record attempts).length = attempts := by
  simp [callsOf]

/-- The attempts that were started are counted without gaps, each of them was answered but the
last one perhaps, and so it was at any time. -/
def Counted (setup : Setup) (id : EntryId) (record : Record) (notes : List Note) : Prop :=
  ∀ l, l <+: notes → ∃ started answered, invocations l = callsOf setup id record started ∧
    answers l = List.range' 1 answered ∧ answered ≤ started ∧ started ≤ answered + 1

theorem Counted.concat (h : Counted setup id record notes) {n : Note} {started answered : Nat}
    (calls : invocations (notes ++ [n]) = callsOf setup id record started)
    (answers' : answers (notes ++ [n]) = List.range' 1 answered) (most : answered ≤ started)
    (least : started ≤ answered + 1) : Counted setup id record (notes ++ [n]) := by
  intro l before
  rcases List.prefix_concat_iff.1 before with rfl | earlier
  · exact ⟨started, answered, calls, answers', most, least⟩
  · exact h l earlier

theorem Counted.append (h : Counted setup id record notes) (aside : Aside notes') :
    Counted setup id record (notes ++ notes') := by
  induction notes' generalizing notes with
  | nil => rwa [List.append_nil]
  | cons n rest ih =>
    obtain ⟨⟨uncalled, unanswered⟩, aside⟩ := List.forall_mem_cons.1 aside
    obtain ⟨started, answered, calls, answers', most, least⟩ := h notes List.prefix_rfl
    have none : invocations [n] = [] := by simp [invocations, uncalled]
    have none' : answers [n] = [] := by simp [answers, unanswered]
    rw [List.append_cons]
    refine ih (h.concat ?_ ?_ most least) aside
    · rw [invocations_append, calls, none, List.append_nil]
    · rw [answers_append, answers', none', List.append_nil]

namespace Progress

/-- How many attempts have been answered. -/
def answered : Progress → Nat
  | .outstanding attempt _ => attempt - 1
  | .waiting attempt _ _ _ => attempt
  | .done _ => 0

end Progress

namespace Attempts

theorem pos (h : Attempts setup id record notes progress) (counts : progress.counts = some (attempt, first)) :
    0 < attempt := by
  induction h generalizing attempt first with
  | started t => cases counts; exact Nat.one_pos
  | scheduled before t outcome wanted time ih => cases counts; exact ih rfl
  | retried before t due ih => cases counts; exact Nat.succ_pos _

/-- All attempts that were followed by others have been answered. -/
theorem answers_eq (h : Attempts setup id record notes progress) :
    answers notes = List.range' 1 progress.answered := by
  induction h with
  | started t => rfl
  | @scheduled notes attempt first before t outcome wanted time ih =>
    rw [List.append_cons, answers_append, answers_concat (before.pos rfl) ih]
    exact List.append_nil _
  | retried before t due ih =>
    rw [answers_append, ih]
    exact List.append_nil _

/-- An answer that an attempt followed, or that is to be followed, allowed it. -/
theorem allowed (h : Attempts setup id record notes progress) (counts : progress.counts = some (attempt, first))
    {a : Nat} (taken : ⟨t, .applied ⟨id, a, outcome⟩⟩ ∈ notes) :
    setup.retry.shouldRetry a outcome = true ∧
      Stage.timeAllows setup.timeout first t (setup.retry.backoffBefore a) = true := by
  induction h generalizing attempt first with
  | started t => simp at taken
  | scheduled before t outcome wanted time ih =>
    cases counts
    rcases List.mem_append.1 taken with old | now
    · exact ih rfl old
    · simp only [List.mem_cons, Note.mk.injEq, Event.applied.injEq, Completion.mk.injEq, reduceCtorEq,
        and_false, List.not_mem_nil, or_false] at now
      obtain ⟨rfl, -, rfl, rfl⟩ := now
      exact ⟨wanted, time⟩
  | retried before t due ih =>
    cases counts
    rcases List.mem_append.1 taken with old | now
    · exact ih rfl old
    · simp at now

/-- An attempt after the first one follows an answer. -/
theorem follows (h : Attempts setup id record notes progress) (counts : progress.counts = some (attempt, first))
    {n : Nat} {value : String} {mailbox : MailboxId} (later : 0 < n)
    (called : ⟨t, .invoked ⟨id, n + 1, value, mailbox⟩⟩ ∈ notes) :
    ∃ answered outcome, Follows setup id first n answered outcome t notes := by
  induction h generalizing attempt first with
  | started t =>
    simp only [List.mem_cons, Note.mk.injEq, Event.invoked.injEq, Setup.call, Invocation.mk.injEq, reduceCtorEq,
      and_false, List.not_mem_nil, or_false, false_or] at called
    omega
  | scheduled before t outcome wanted time ih =>
    cases counts
    obtain ⟨answered, outcome, follows⟩ := ih rfl (by simpa using called)
    exact ⟨answered, outcome, follows.mono (List.subset_append_left _ _)⟩
  | @retried notes attempt first retryAt outcome before t due ih =>
    cases counts
    rcases List.mem_append.1 called with old | now
    · obtain ⟨answered, outcome, follows⟩ := ih rfl old
      exact ⟨answered, outcome, follows.mono (List.subset_append_left _ _)⟩
    · simp only [List.mem_singleton, Note.mk.injEq, Event.invoked.injEq, Setup.call, Invocation.mk.injEq] at now
      obtain ⟨rfl, -, same, -⟩ := now
      obtain rfl := Nat.succ.inj same
      cases before with
      | scheduled before answered outcome wanted time =>
        exact ⟨answered, outcome, ⟨by simp, wanted, Stage.timeAllows_iff.1 time⟩, due⟩

theorem counted (h : Attempts setup id record notes progress) : Counted setup id record notes := by
  induction h with
  | started t =>
    have none : Counted setup id record [] := by
      intro l before
      rw [List.prefix_nil.1 before]
      exact ⟨0, 0, rfl, rfl, Nat.le_refl _, Nat.zero_le _⟩
    have admitted : Counted setup id record [⟨t, .admitted id (.record record)⟩] :=
      none.append (aside_singleton rfl rfl)
    have calls : invocations [⟨t, .admitted id (.record record)⟩, ⟨t, .invoked (setup.call id 1 record.value)⟩] =
        callsOf setup id record 1 := rfl
    exact admitted.concat calls (show _ = List.range' 1 0 from rfl) (Nat.zero_le _) (Nat.le_refl _)
  | @scheduled notes attempt first before t outcome wanted time ih =>
    have calls := before.invocations_eq rfl
    rw [List.append_cons]
    have answered : Counted setup id record (notes ++ [⟨t, .applied ⟨id, attempt, outcome⟩⟩]) := by
      refine ih.concat ?_ (answers_concat (before.pos rfl) before.answers_eq t outcome) (Nat.le_refl _)
        (Nat.le_succ _)
      rw [invocations_append, calls]
      exact List.append_nil _
    exact answered.append (aside_singleton rfl rfl)
  | @retried notes attempt first retryAt outcome before t due ih =>
    have again := before.retried t due
    exact ih.concat (again.invocations_eq rfl) again.answers_eq (Nat.sub_le _ _) (by simp [Progress.answered])

theorem counts (h : Attempts setup id record notes progress) :
    ∃ attempt first, progress.counts = some (attempt, first) := by
  cases h <;> exact ⟨_, _, rfl⟩

end Attempts

/-! ## The whole story -/

theorem aside_cancels (id : EntryId) (progress : Progress) (t : Instant) :
    Aside ((progress.cancels id).map (Note.mk t)) := by
  cases progress <;> simp [Aside, Progress.cancels, Event.invocation?, Event.applied?]

/-- What comes behind the attempts: the answer of the last one perhaps, and nothing else about them. -/
inductive Closes (id : EntryId) : Progress → List Note → Prop where
  | aside (progress : Progress) {after : List Note} (aside : Aside after) : Closes id progress after
  | answered (attempt : Nat) (first t : Instant) (outcome : Outcome) {after : List Note} (aside : Aside after) :
      Closes id (.outstanding attempt first) (⟨t, .applied ⟨id, attempt, outcome⟩⟩ :: after)

theorem Closes.append {after : List Note} (h : Closes id progress after) (aside : Aside notes) :
    Closes id progress (after ++ notes) := by
  cases h with
  | aside _ aside' => exact .aside _ (List.forall_mem_append.2 ⟨aside', aside⟩)
  | answered attempt first t outcome aside' =>
    exact .answered attempt first t outcome (List.forall_mem_append.2 ⟨aside', aside⟩)

theorem Resolved.attempts (h : Resolved setup id record notes result) : ∃ before progress after,
    Attempts setup id record before progress ∧ Closes id progress after ∧ notes = before ++ after := by
  cases h with
  | answered before t outcome =>
    exact ⟨_, _, _, before, .answered _ _ t outcome (aside_singleton rfl rfl), rfl⟩
  | cutShort before t => exact ⟨_, _, _, before, .aside _ (aside_singleton rfl rfl), rfl⟩
  | expired before counts timeout t late =>
    refine ⟨_, _, _, before, ?_, rfl⟩
    rw [List.map_append]
    exact (Closes.aside _ (aside_cancels id _ t)).append (aside_singleton rfl rfl)

/-- A story is made of attempts and what closes them. -/
theorem Story.attempts (h : Story setup id record notes) : ∃ before progress after,
    Attempts setup id record before progress ∧ Closes id progress after ∧ notes = before ++ after := by
  cases h with
  | unresolved attempts => exact ⟨_, _, [], attempts, .aside _ (List.forall_mem_nil _), (List.append_nil _).symm⟩
  | resolved resolved => exact resolved.attempts
  | emitted resolved final slot t =>
    obtain ⟨before, progress, after, attempts, closes, rfl⟩ := resolved.attempts
    exact ⟨before, progress, _, attempts, closes.append (aside_singleton rfl rfl),
      List.append_assoc _ _ _⟩
  | dropped attempts t => exact ⟨_, _, _, attempts, .aside _ (aside_cancels id _ t), rfl⟩

/-- What the attempts of a record go by: they are counted, and each of them but the first one
follows an answer. -/
structure Course (setup : Setup) (id : EntryId) (record : Record) (attempts : Nat) (first : Instant)
    (notes : List Note) : Prop where
  began : ⟨first, .invoked (setup.call id 1 record.value)⟩ ∈ notes
  calls : invocations notes = callsOf setup id record attempts
  counted : Counted setup id record notes
  follows : ∀ t n value mailbox, 0 < n → ⟨t, .invoked ⟨id, n + 1, value, mailbox⟩⟩ ∈ notes →
    ∃ answered outcome, Follows setup id first n answered outcome t notes

/-- **The attempts of a record take their course.** -/
theorem Story.course (h : Story setup id record notes) :
    ∃ attempts first, Course setup id record attempts first notes := by
  obtain ⟨before, progress, after, attempts, closes, rfl⟩ := h.attempts
  obtain ⟨attempt, first, counts⟩ := attempts.counts
  have uncalled : ∀ n ∈ after, n.event.invocation? = none := by
    cases closes with
    | aside _ aside => exact fun n hn => (aside n hn).1
    | answered _ _ t outcome aside => exact List.forall_mem_cons.2 ⟨rfl, fun n hn => (aside n hn).1⟩
  have calls := attempts.invocations_eq counts
  refine ⟨attempt, first, List.mem_append_left _ ((attempts.begins counts).subset (by simp)), ?_, ?_, ?_⟩
  · rw [invocations_append, calls, invocations, List.filterMap_eq_nil_iff.2 uncalled, List.append_nil]
  · cases closes with
    | aside _ aside => exact attempts.counted.append aside
    | @answered last first' t outcome rest aside =>
      cases counts
      have told : Counted setup id record (before ++ [⟨t, .applied ⟨id, attempt, outcome⟩⟩]) := by
        refine attempts.counted.concat ?_ (answers_concat (attempts.pos rfl) attempts.answers_eq t outcome)
          (Nat.le_refl _) (Nat.le_succ _)
        rw [invocations_append, calls]
        exact List.append_nil _
      rw [List.append_cons]
      exact told.append aside
  · intro t n value mailbox later called
    have old : ⟨t, .invoked ⟨id, n + 1, value, mailbox⟩⟩ ∈ before := by
      refine (List.mem_append.1 called).resolve_right fun late => ?_
      cases uncalled _ late
    obtain ⟨answered, outcome, follows⟩ := attempts.follows counts later old
    exact ⟨answered, outcome, follows.mono (List.subset_append_left _ _)⟩

/-! ## One note for each attempt -/

theorem eq_of_filterMap {α β : Type} {f : α → Option β} {l : List α} (nodup : (l.filterMap f).Nodup) {a a' : α}
    {b : β} (ha : a ∈ l) (ha' : a' ∈ l) (shown : f a = some b) (shown' : f a' = some b) : a = a' := by
  by_contra other
  have : Std.Symm fun a a' => ∀ b, f a = some b → ∀ b', f a' = some b' → b ≠ b' :=
    ⟨fun _ _ apart b hb b' hb' => (apart b' hb' b hb).symm⟩
  exact (List.pairwise_filterMap.1 nodup).forall ha ha' other b shown b shown' rfl

namespace Course

variable {attempts : Nat}

theorem le_attempts (h : Course setup id record attempts first notes)
    (taken : ⟨t, .applied ⟨id, attempt, outcome⟩⟩ ∈ notes) : 0 < attempt ∧ attempt ≤ attempts := by
  obtain ⟨started, answered, calls, answers', most, -⟩ := h.counted notes List.prefix_rfl
  have listed : attempt ∈ answers notes := List.mem_filterMap.2 ⟨_, taken, rfl⟩
  have same : started = attempts := by
    have length := congrArg List.length (calls.symm.trans h.calls)
    rwa [length_callsOf, length_callsOf] at length
  rw [answers', List.mem_range'_1] at listed
  omega

/-- An attempt is answered once. -/
theorem taken_once (h : Course setup id record attempts first notes) {t' : Instant} {outcome' : Outcome}
    (taken : ⟨t, .applied ⟨id, attempt, outcome⟩⟩ ∈ notes) (taken' : ⟨t', .applied ⟨id, attempt, outcome'⟩⟩ ∈ notes) :
    t = t' ∧ outcome = outcome' := by
  obtain ⟨started, answered, -, answers', -⟩ := h.counted notes List.prefix_rfl
  have nodup : (answers notes).Nodup := answers' ▸ List.nodup_range'
  have same := eq_of_filterMap nodup taken taken' rfl rfl
  cases same
  exact ⟨rfl, rfl⟩

theorem mem_calls {n : Nat} :
    setup.call id (n + 1) record.value ∈ callsOf setup id record attempts ↔ n < attempts := by
  simp [callsOf, Setup.call]

/-- An attempt is started once. -/
theorem called_once (h : Course setup id record attempts first notes) {t' : Instant} {call : Invocation}
    (called : ⟨t, .invoked call⟩ ∈ notes) (called' : ⟨t', .invoked call⟩ ∈ notes) : t = t' := by
  have nodup : (invocations notes).Nodup := by
    rw [h.calls]
    refine List.Nodup.map (fun a b same => ?_) List.nodup_range
    exact Nat.succ.inj (congrArg Invocation.attempt same)
  cases eq_of_filterMap nodup called called' rfl rfl
  rfl

/-- The call that starts an attempt. -/
theorem exists_called (h : Course setup id record attempts first notes) {n : Nat} (started : n < attempts) :
    ∃ t, ⟨t, .invoked (setup.call id (n + 1) record.value)⟩ ∈ notes := by
  have listed : setup.call id (n + 1) record.value ∈ invocations notes := h.calls ▸ mem_calls.2 started
  obtain ⟨⟨t, event⟩, hn, shown⟩ := List.mem_filterMap.1 listed
  cases event <;> cases shown
  exact ⟨t, hn⟩

/-- **An outcome that is not to be retried is the last one.** -/
theorem last (h : Course setup id record attempts first notes)
    (taken : ⟨t, .applied ⟨id, attempt, outcome⟩⟩ ∈ notes) (final : setup.retry.shouldRetry attempt outcome = false) :
    attempts = attempt := by
  obtain ⟨pos, most⟩ := h.le_attempts taken
  refine Nat.le_antisymm (Nat.le_of_not_lt fun further => ?_) most
  obtain ⟨t', called⟩ := h.exists_called further
  obtain ⟨answered, outcome', follows⟩ := h.follows t' attempt record.value setup.mailbox pos called
  obtain ⟨-, rfl⟩ := h.taken_once taken follows.taken
  rw [follows.wanted] at final
  cases final

/-- The last attempt but one was to be retried. -/
theorem retried (h : Course setup id record attempts first notes) {n : Nat} (pos : 0 < n) (more : n < attempts) :
    ∃ outcome, setup.retry.shouldRetry n outcome = true := by
  obtain ⟨t, called⟩ := h.exists_called more
  obtain ⟨answered, outcome, follows⟩ := h.follows t n record.value setup.mailbox pos called
  exact ⟨outcome, follows.wanted⟩

end Course

end AsyncStage
