import AsyncStage.Proofs.Stage.Attempts
import AsyncStage.Proofs.Stage.Clock
import AsyncStage.Proofs.Stage.Provenance

/-!
# Timeouts

The time of a record begins to run with its first attempt. When it is up at a turn, the record is
resolved with a timeout by this turn, neither earlier nor later, unless the answer of its attempt
was in the mailbox when the turn began: mail comes before timers, and an answer that is to be
retried is so early that the retry leaves time.
-/

namespace AsyncStage

/-- How a record came to a timeout at `t`. -/
structure TimedOut (setup : Setup) (id : EntryId) (record : Record) (attempts : Nat) (elapsed : Duration)
    (first t : Instant) (span : Duration) (notes : List Note) : Prop where
  limit : setup.timeout = some span
  began : ⟨first, .invoked (setup.call id 1 record.value)⟩ ∈ notes
  calls : invocations notes = callsOf setup id record attempts
  late : first.after span.span ≤ t
  elapsed_eq : elapsed = t.elapsed first
  ended : ⟨t, .resolved id (.error (.timeout elapsed attempts))⟩ ∈ notes
  /-- All answers that were taken up left time for a retry. -/
  allowed : ∀ t' attempt outcome, ⟨t', .applied ⟨id, attempt, outcome⟩⟩ ∈ notes →
    Stage.timeAllows setup.timeout first t' (setup.retry.backoffBefore attempt) = true

section Story

variable {setup : Setup} {id : EntryId} {record : Record} {attempts : Nat} {elapsed : Duration} {notes : List Note}

theorem Resolved.timedOut (h : Resolved setup id record notes (.error (.timeout elapsed attempts))) :
    ∃ first t span, TimedOut setup id record attempts elapsed first t span notes := by
  generalize same : Resolution.error (.timeout elapsed attempts) = result at h
  cases h with
  | answered before t outcome => cases outcome <;> cases same
  | @cutShort _ _ _ _ outcome before t => cases outcome <;> cases same
  | @expired before progress attempt first span told counts timeout t late =>
    cases same
    have calls := told.invocations_eq counts
    refine ⟨first, t, span, timeout, ?_, ?_, late, rfl, by simp, fun t' attempt outcome taken => ?_⟩
    · exact List.mem_append_left _ ((told.begins counts).subset (by simp))
    · rw [List.map_append, invocations_append, invocations_append, calls, invocations_cancels]
      exact List.append_nil _
    · refine (told.allowed counts ((List.mem_append.1 taken).resolve_right fun closing => ?_)).2
      cases progress <;> simp [Progress.cancels] at closing

theorem Story.timedOut (h : Story setup id record notes)
    (told : (id, .error (.timeout elapsed attempts)) ∈ results notes) :
    ∃ first t span, TimedOut setup id record attempts elapsed first t span notes := by
  obtain ⟨before, resolved, -, same⟩ := h.of_result told
  obtain ⟨first, t, span, timedOut⟩ := resolved.timedOut
  rcases same with rfl | ⟨t', e, values, rfl, -⟩
  · exact ⟨first, t, span, timedOut⟩
  · refine ⟨first, t, span, timedOut.limit, List.mem_append_left _ timedOut.began, ?_, timedOut.late,
      timedOut.elapsed_eq, List.mem_append_left _ timedOut.ended, fun t' attempt outcome taken => ?_⟩
    · rw [invocations_append, timedOut.calls]
      exact List.append_nil _
    · exact timedOut.allowed t' attempt outcome (by simpa using taken)

end Story

/-- The attempt that a completion answers. -/
def Completion.call (c : Completion) : EntryId × Nat := (c.entry, c.attempt)

namespace Stage

variable {s s' : Stage} {e : RecordEntry} {c : Completion} {id : EntryId} {attempts : Nat} {elapsed span : Duration}
  {first : Instant}

/-! ## Answers in the mailbox -/

theorem mailbox_readMail (s : Stage) : s.readMail.mailbox = [] := by
  have all : ∀ (mail : List Completion) (s : Stage), (mail.foldl apply s).mailbox = s.mailbox := by
    intro mail
    induction mail with
    | nil => exact fun _ => rfl
    | cons c mail ih => exact fun s => (ih (s.apply c)).trans (mailbox_apply s c)
  exact all s.mailbox { s with mailbox := [] }

/-- A completion that is taken up is noted. -/
theorem Applies.applied (r : Applies s s' c) {e' : RecordEntry} (here : .record e' ∈ s.entries)
    (names : e'.id = c.entry) (accepted : e'.accepts c.attempt = true) : ⟨s.now, .applied c⟩ ∈ s'.told := by
  cases r with
  | ignored same unwanted =>
    rw [unwanted e' here names] at accepted
    cases accepted
  | scheduled e here names accepted wanted works =>
    rw [works.told]
    simp
  | resolved e here names accepted unwanted resolves => exact resolves.noted List.mem_cons_self

theorem Reads.isRunning (reads : Reads s s') (stopped : s.isRunning = false) : s'.isRunning = false :=
  (Reads.lasts reads).stopped stopped

/-- **Mail is not passed over**: an entry that awaits a completion in the mailbox has it taken up
when the mailbox is emptied, unless the stage ends before. -/
theorem Reads.takesUp (reads : Reads s s') (h : s.Sound) (mail : c ∈ s.mailbox) (here : .record e ∈ s.entries)
    (names : e.id = c.entry) (accepted : e.accepts c.attempt = true) (empty : s'.mailbox = []) :
    s'.isRunning = false ∨ ∃ outcome, ⟨s.now, .applied ⟨c.entry, c.attempt, outcome⟩⟩ ∈ s'.told := by
  induction reads using Relation.ReflTransGen.head_induction_on with
  | refl =>
    rw [empty] at mail
    cases mail
  | @head s t first later ih =>
    obtain ⟨c', rest, takes⟩ := first
    have sound := h.quiet (quiet_mailbox s rest)
    have now : t.now = s.now := takes.notes.now
    by_cases own : e.id = c'.entry ∧ e.accepts c'.attempt = true
    · obtain ⟨names', accepted'⟩ := own
      have same : c'.attempt = c.attempt := by
        simp only [RecordEntry.accepts, Bool.and_eq_true, beq_iff_eq] at accepted accepted'
        exact accepted'.2.symm.trans accepted.2
      have told := (told_extends (steps_of_reads later)).subset (takes.applies.applied here names' accepted')
      refine .inr ⟨c'.outcome, ?_⟩
      rw [← same, ← names, names']
      exact told
    · have other : ∀ e', .record e' ∈ s.entries → e'.id = c'.entry → e'.accepts c'.attempt = true → e.id ≠ e'.id := by
        intro e' here' names' accepted' same
        rw [← h.record_eq here here' same] at names' accepted'
        exact own ⟨names', accepted'⟩
      rcases takes.applies.others sound here other with stopped | here'
      · exact .inl (Reads.isRunning later stopped)
      · rw [takes.mail] at mail
        have left : t.mailbox = rest := takes.resolves.1
        have mail' : c ∈ t.mailbox := by
          rw [left]
          refine (List.mem_cons.1 mail).resolve_left fun oldest => own ?_
          exact oldest ▸ ⟨names, accepted⟩
        rw [← now]
        exact ih (h.step (.took takes)) mail' here'

/-- No timer fires once a stage has ended. -/
theorem Expires.of_stopped (expires : Expires s s') (h : s.Sound) (stopped : s.isRunning = false) : s' = s := by
  rcases expires.cases_head with same | ⟨t, ⟨key, target, rest, pops⟩, -⟩
  · exact same.symm
  · obtain ⟨e, here, -⟩ := (h.owned (key, target)).1 (pops.first ▸ List.mem_cons_self)
    rw [h.ended stopped] at here
    cases here

namespace Kept

/-- What is told of a timeout. -/
theorem timedOut (h : s.Kept) (told : (id, .error (.timeout elapsed attempts)) ∈ s.resolved) :
    ∃ r first t span, (id, Element.record r) ∈ s.admitted ∧
      TimedOut s.setup id r attempts elapsed first t span (s.toldOf id) := by
  obtain ⟨r, admitted⟩ := h.record_of_result told
  obtain ⟨first, t, span, timedOut⟩ := (h.told.recorded.stories id r admitted).timedOut (results_toldOf.2 told)
  exact ⟨r, first, t, span, admitted, timedOut⟩

/-- A record is resolved at one time. -/
theorem resolved_at (h : s.Kept) {r : Record} (admitted : (id, Element.record r) ∈ s.admitted) {result : Resolution}
    {t t' : Instant} (told : ⟨t, .resolved id result⟩ ∈ s.told) (told' : ⟨t', .resolved id result⟩ ∈ s.told) :
    t = t' := by
  have mine := mem_toldOf told rfl
  have listed : (id, result) ∈ results (s.toldOf id) := List.mem_filterMap.2 ⟨_, mine, rfl⟩
  have once : (results (s.toldOf id)).Nodup := by
    rw [(h.told.recorded.stories id r admitted).results_eq listed]
    exact List.nodup_singleton _
  cases eq_of_filterMap once mine (mem_toldOf told' rfl) rfl rfl
  rfl

/-- If every attempt is answered once, an entry does not await a retry while an answer of its last
attempt is in the mailbox. -/
theorem accepts_of_once (h : s.Kept) (here : .record e ∈ s.entries) (opened : e.isDone = false)
    (mail : c ∈ s.mailbox) (names : e.id = c.entry) (current : e.retry.attempts = c.attempt)
    (once : (s.posted.map Completion.call).Nodup) : e.accepts c.attempt = true := by
  have awake : e.retry.isWaiting = false := by
    by_contra waits
    obtain ⟨progress, at'⟩ := h.sound.standing e here
    have attempts := h.told.attempts here at' opened
    cases at' with
    | outstanding _ _ _ timer => simp [RetryContext.isWaiting, timer] at waits
    | done slot => simp [RecordEntry.isDone, slot, Slot.isFinal] at opened
    | @waiting attempt first outcome retryAt _ counted =>
      obtain ⟨t, taken⟩ := attempts.applied_of_waiting
      obtain ⟨read, posted, order⟩ := h.mailed
      have looked := order.subset (applied_of_told (told_of_toldOf taken))
      rw [posted, List.map_append, List.nodup_append] at once
      refine once.2.2 _ (List.mem_map_of_mem looked) _ (List.mem_map_of_mem mail) ?_
      rw [Completion.call, Completion.call, names, ← current, counted]
  simp [RecordEntry.accepts, opened, awake, current]

/-- **Mail comes before timers.** A turn raises no timeout for an entry that awaits a completion
in the mailbox. -/
theorem not_timedOut (h : s.Kept) (here : .record e ∈ s.entries) (mail : c ∈ s.mailbox) (names : e.id = c.entry)
    (accepted : e.accepts c.attempt = true) (started : e.retry.firstAttempt = some first)
    (timeout : s.setup.timeout = some span) (fits : first.nanos + span.nanos ≤ Instant.latest.nanos) :
    (e.id, .error (.timeout elapsed attempts)) ∉ s.turn.resolved := by
  intro told
  have same := (fixed_of_steps (turn_steps h.sound)).setup
  obtain ⟨reads, expires, drained, emits⟩ := turn_parts h.sound
  have sound := h.sound.steps (steps_of_reads reads)
  have kept := h.steps (turn_steps h.sound)
  obtain ⟨r, first', t, span', admitted, timedOut⟩ := kept.timedOut told
  obtain ⟨first₀, at'⟩ := h.sound.at_of_accepts here accepted
  have open' := h.told.attempts here at' at'.opened
  -- The note is new: nothing was resolved for the entry when the turn began.
  have fresh : ⟨t, .resolved e.id (.error (.timeout elapsed attempts))⟩ ∉ s.told := by
    intro old
    cases (open'.unresolved _ (mem_toldOf old rfl)).1
  have ended := told_of_toldOf timedOut.ended
  obtain rfl : t = s.now := ((turn_notes h.sound).of_mem ended fresh).1
  rcases Reads.takesUp reads h.sound mail here names accepted (mailbox_readMail s) with stopped | ⟨outcome, taken⟩
  · -- Once the stage has ended, no timer fires.
    have rest : s.readMail.fireDue = s.readMail := Expires.of_stopped expires sound stopped
    have silent := (Reads.notes reads).trans (rest ▸ emits.notes fun _ => rfl)
    cases (silent.of_mem ended fresh).2
  · -- The answer was taken up so early that the time is not up yet.
    have rest := (steps_of_expires expires).tail (.emitted drained emits)
    rw [← names] at taken
    have answered := mem_toldOf ((told_extends rest).subset taken) rfl
    obtain ⟨span₁, limit₁, time⟩ := timeAllows_iff.1 (timedOut.allowed _ _ _ answered)
    have known := (admitted_extends (turn_steps h.sound)).subset (h.lined.mem_admitted here)
    cases kept.lined.admitted_eq admitted known rfl
    obtain ⟨_, _, course⟩ := (kept.told.recorded.stories e.id _ admitted).course
    have old := (told_extends (turn_steps h.sound)).subset (h.began here at')
    rw [← same] at old
    obtain rfl : first₀ = first' := course.called_once (mem_toldOf old rfl) timedOut.began
    obtain rfl : first₀ = first := by
      cases at' with
      | outstanding _ _ started' => exact Option.some.inj (started'.symm.trans started)
    have limit := timedOut.limit
    rw [same, timeout, Option.some.injEq] at limit limit₁
    subst limit limit₁
    have late := Instant.nanos_after_span fits ▸ Instant.le_iff.1 timedOut.late
    have short := span.span_le_nanos
    simp only [Instant.since] at time
    omega

end Kept

/-- The turn that begins at `u`, on the way from `s` to `f`, raises a timeout for a record, and not
before its time is up. -/
structure RaisesTimeout (s u f : Stage) (id : EntryId) (r : Record) (attempts : Nat) (elapsed : Duration)
    (first : Instant) (span : Duration) : Prop where
  turn : TurnNotes s u f ⟨u.now, .resolved id (.error (.timeout elapsed attempts))⟩
  admitted : (id, Element.record r) ∈ u.turn.admitted
  began : ⟨first, .invoked (u.setup.call id 1 r.value)⟩ ∈ u.turn.told
  /-- The error tells how often the function has been called. -/
  called : u.turn.invoked.filter (fun call => call.entry = id) = callsOf u.setup id r attempts
  due : first.nanos + span.nanos ≤ Instant.latest.nanos → first.nanos + span.nanos ≤ u.now.nanos
  /-- The error tells how long it has been since the first attempt. -/
  exact_elapsed : first.nanos + span.nanos ≤ Instant.latest.nanos →
    (elapsed.nanos : Int) = u.now.since first ∧ span ≤ elapsed

/-- What a turn leaves undone about timeouts: nothing. -/
structure OnTime (u : Stage) (span : Duration) : Prop where
  /-- The time of a record that the turn leaves without a result is not up. -/
  open_early : ∀ e, .record e ∈ u.turn.entries → e.isDone = false → ∃ first, e.retry.firstAttempt = some first ∧
    u.turn.now.nanos < first.nanos + span.nanos
  /-- A record whose current attempt has been answered in the mailbox is not resolved with a timeout. -/
  mail_first : ∀ c ∈ u.mailbox, ∀ e, .record e ∈ u.entries → e.isDone = false → e.id = c.entry →
    e.retry.attempts = c.attempt → (e.accepts c.attempt = true ∨ (u.posted.map Completion.call).Nodup) →
    ∀ first, e.retry.firstAttempt = some first → first.nanos + span.nanos ≤ Instant.latest.nanos →
    ∀ elapsed attempts, (e.id, .error (.timeout elapsed attempts)) ∉ u.turn.resolved

theorem Kept.raisesTimeout {f : Stage} (h : s.Kept) (new : s.told = []) (moves : Moves s f)
    (timeout : s.setup.timeout = some span) (told : (id, .error (.timeout elapsed attempts)) ∈ f.resolved) :
    ∃ u r first, RaisesTimeout s u f id r attempts elapsed first span := by
  obtain ⟨_, _, t, _, -, before⟩ := (h.steps (Moves.steps moves)).timedOut told
  obtain ⟨u, turn⟩ := Moves.timed moves (n := ⟨t, .resolved id (.error (.timeout elapsed attempts))⟩) rfl
    (told_of_toldOf before.ended) (by simp [new])
  obtain rfl : t = u.now := turn.time
  have kept := h.steps (Moves.steps turn.before)
  have kept' := kept.steps (turn_steps kept.sound)
  have raised := mem_toldOf turn.told rfl
  have result : (id, .error (.timeout elapsed attempts)) ∈ results (u.turn.toldOf id) :=
    List.mem_filterMap.2 ⟨_, raised, rfl⟩
  obtain ⟨r, first, t, span', admitted, timedOut⟩ := kept'.timedOut (results_toldOf.1 result)
  rw [(fixed_of_steps (turn_steps kept.sound)).setup] at timedOut
  -- A record has one result, so this is the note of the turn.
  obtain rfl : t = u.now := kept'.resolved_at admitted (told_of_toldOf timedOut.ended) turn.told
  obtain rfl : span' = span := by
    have same := (fixed_of_steps (Moves.steps turn.before)).setup
    have limit := timedOut.limit
    rw [same, timeout] at limit
    exact (Option.some.inj limit).symm
  have due : first.nanos + span'.nanos ≤ Instant.latest.nanos → first.nanos + span'.nanos ≤ u.now.nanos :=
    fun fits => Instant.nanos_after_span fits ▸ Instant.le_iff.1 timedOut.late
  refine ⟨u, r, first, turn, admitted, told_of_toldOf timedOut.began, ?_, due, fun fits => ?_⟩
  · rw [invoked_filter, timedOut.calls]
  · have late := due fits
    have passed : (elapsed.nanos : Int) = u.now.since first := by
      rw [timedOut.elapsed_eq]
      exact Instant.nanos_elapsed (show first.nanos ≤ u.now.nanos by omega)
    refine ⟨passed, ?_⟩
    change span'.nanos ≤ elapsed.nanos
    rw [Instant.since] at passed
    omega

theorem Kept.onTime (h : s.Kept) (timeout : s.setup.timeout = some span) : s.OnTime span where
  open_early e here opened := by
    obtain ⟨first, started, early⟩ := turn_early h.sound here opened timeout
    refine ⟨first, started, ?_⟩
    have bound := first.nanos_after_le span.span
    have short := span.span_le_nanos
    have early := Instant.lt_iff.1 early
    rw [now_turn h.sound]
    omega
  mail_first c mail e here opened names current answered first started fits elapsed attempts := by
    have accepted : e.accepts c.attempt = true :=
      answered.elim id fun once => h.accepts_of_once here opened mail names current once
    exact h.not_timedOut here mail names accepted started timeout fits

/-- A stage that gives each record a second and leaves the answers to others. -/
def oneSecond : Builder where
  config := { timeout := some (.ofMillis 1000) }
  fallback := some fun value _ => [value]
  function _ := []

/-- The record has been in flight for a second and a half. -/
def overdueRecord : List Action := [.offer ⟨"a", none⟩ [], .undergo (.clockReads { nanos := 1500000000 })]

/-- **Timeouts are exact.** A record is resolved with a timeout only by a turn at which its time is
up, and the error tells how long this took and how often the function was called. After a turn no
record is left without a result whose time is up, and an answer that is in the mailbox when a turn
begins comes before the timeout. -/
theorem timeouts_exact {b : Builder} {now : Instant} (built : b.build now = .ok s)
    (timeout : b.config.effectiveTimeout = some span) :
    (∀ actions id elapsed attempts, (id, .error (.timeout elapsed attempts)) ∈ (s.run actions).resolved →
      ∃ u r first, RaisesTimeout s u (s.run actions) id r attempts elapsed first span) ∧
    ∀ u, Steps s u → u.OnTime span := by
  have kept := Kept.build built
  have set : s.setup.timeout = some span := by
    obtain ⟨retry, rfl⟩ := build_eq built
    exact timeout
  have new : s.told = [] := by
    obtain ⟨retry, rfl⟩ := build_eq built
    rfl
  constructor
  · intro actions id elapsed attempts told
    exact kept.raisesTimeout new (run_moves kept.sound actions) set told
  · intro u steps
    exact (kept.steps steps).onTime ((congrArg Setup.timeout (fixed_of_steps steps).setup).trans set)

/-- The next turn raises the timeout; if an answer has come in before this turn, it counts. -/
theorem timeouts_exact_overdueRecord : ∃ s, oneSecond.build .epoch = .ok s ∧
    (∃ u r first, RaisesTimeout s u (s.run (overdueRecord ++ [.poll])) 0 r 1 (.ofMillis 1500) first (.ofMillis 1000)) ∧
    (s.run overdueRecord).OnTime (.ofMillis 1000) ∧
    (s.run (overdueRecord ++ [.undergo (.completes ⟨0, 1, .values ["b"]⟩), .poll])).resolved =
      [(0, .values ["b"])] := by
  have built : oneSecond.build .epoch = .ok (start oneSecond .never .epoch) := rfl
  have timeout : oneSecond.config.effectiveTimeout = some (.ofMillis 1000) := by decide
  obtain ⟨raised, onTime⟩ := timeouts_exact built timeout
  refine ⟨_, built, raised _ 0 (.ofMillis 1500) 1 (by decide +kernel), onTime _ ?_, by decide +kernel⟩
  exact run_steps (build_sound built) overdueRecord

end Stage

end AsyncStage
