import AsyncStage.Proofs.Stage.Timers
import AsyncStage.Proofs.Time.Span
import AsyncStage.Proofs.Timer.Commute

/-!
# The time left for a retry

Whether there is time for a retry is found out with spans, and the timers are set at instants. Spans and
instants are cut at different limits. Still the two agree: a retry that is planned is to fire before the deadline
of its record, unless both are put off to the last instant, and there the deadline comes first. If neither duration
is cut, a retry is planned exactly when it would start before the time is up.
-/

namespace AsyncStage

/-- Whether there is time for a retry after `backoff`, found out span by span: `none` if a step leaves its
range and nobody catches it. A sum that is not a span is caught, and counts as too late. -/
def inTime? (first now : Instant) (timeout backoff : Duration) : Option Bool :=
  (now.minus? first).map fun elapsed =>
    (elapsed.plus? backoff.toSpan).any fun total => total.nanos < timeout.toSpan.nanos

/-- No step of finding out the time left for a retry goes wrong, and what is found out agrees with the
instants at which the timers are set. -/
structure WindowAgrees (first now : Instant) (timeout backoff : Duration) : Prop where
  decided : inTime? first now timeout backoff = some (Stage.timeAllows (some timeout) first now backoff)
  retryAt : now.plus backoff.toSpan = now.after backoff.span
  deadline : first.plus timeout.toSpan = first.after timeout.span
  before : Stage.timeAllows (some timeout) first now backoff = true →
    now.after backoff.span < first.after timeout.span ∨
      now.after backoff.span = .latest ∧ first.after timeout.span = .latest
  sharp : timeout.nanos ≤ Duration.maxSpan → backoff.nanos ≤ Duration.maxSpan →
    (Stage.timeAllows (some timeout) first now backoff = true ↔
      now.nanos + backoff.nanos < first.nanos + timeout.nanos)

section Window

variable (first now : Instant) (timeout backoff : Duration)

theorem inTime?_eq_some :
    inTime? first now timeout backoff = some (Stage.timeAllows (some timeout) first now backoff) := by
  obtain ⟨elapsed, difference, value⟩ := now.minus?_eq_some first
  rw [inTime?, difference, Option.map_some, Span.plus?, Span.ofNanos?, value, backoff.nanos_toSpan,
    timeout.nanos_toSpan, Stage.timeAllows]
  by_cases fits : (now.since first + backoff.span).natAbs ≤ Duration.maxSpan
  · simp [fits]
  · simp [fits]

theorem timeAllows_some_iff : Stage.timeAllows (some timeout) first now backoff = true ↔
    now.nanos + backoff.span < first.nanos + timeout.span := by
  rw [Stage.timeAllows_iff]
  simp only [Option.some.injEq, exists_eq_left', Instant.since]
  omega

theorem windowAgrees : WindowAgrees first now timeout backoff where
  decided := inTime?_eq_some first now timeout backoff
  retryAt := now.plus_toSpan backoff
  deadline := first.plus_toSpan timeout
  before allowed := Instant.after_lt_or_latest ((timeAllows_some_iff first now timeout backoff).1 allowed)
  sharp fits fits' := by
    rw [timeAllows_some_iff, Duration.span_of_fits fits, Duration.span_of_fits fits']

end Window

namespace TimerQueue

variable {q rest : TimerQueue} {p p' : TimerKey × TimerTarget} {now : Instant} {target : TimerTarget}

/-- Of two pending timers the later one is still pending after anything has fired. -/
theorem mem_of_popDue_of_before (h : q.Sound) (hp : p ∈ q.toList) (hp' : p' ∈ q.toList) (before : p.1.Before p'.1)
    (popped : q.popDue now = some (target, rest)) : p' ∈ rest.toList := by
  obtain ⟨key, here, first, -, rfl⟩ := popDue_eq_some h popped
  refine (mem_cancel h).2 ⟨hp', fun same => ?_⟩
  obtain rfl := h.eq_of_id_eq hp' here same
  rcases first p hp with eq | later
  · exact before.asymm (eq ▸ before)
  · exact before.asymm later

end TimerQueue

namespace Stage

/-- The retry of a record is planned before its deadline, or at the last instant behind it. -/
structure PlansRetry (timers : TimerQueue) (id : EntryId) (retryAt deadline : Instant) (retry expiry : TimerId) :
    Prop where
  retryPending : (⟨retryAt, retry⟩, .retry id) ∈ timers.toList
  expiryPending : (⟨deadline, expiry⟩, .deadline id) ∈ timers.toList
  order : retryAt < deadline ∨ retryAt = .latest ∧ deadline = .latest
  set : expiry < retry
  /-- Timers of one instant: whatever fires while the deadline is pending, it is not the retry. -/
  tied : retryAt = deadline → ∀ q : TimerQueue, q.Sound → (⟨deadline, expiry⟩, .deadline id) ∈ q.toList →
    (⟨retryAt, retry⟩, .retry id) ∈ q.toList → ∀ t target rest, q.popDue t = some (target, rest) →
      (⟨retryAt, retry⟩, .retry id) ∈ rest.toList

variable {s s' : Stage} {e : RecordEntry} {c : Completion} {timeout : Duration}

/-- A record with its final result has no timer. -/
theorem Sound.not_pending_of_resolves (h : s.Sound) (here : .record e ∈ s.entries) {result : Resolution}
    {new : List Event} (r : Resolves s s' e result new) {p : TimerKey × TimerTarget} (hp : p ∈ s'.timers.toList) :
    p.2.entry ≠ e.id := by
  intro same
  cases r with
  | completed values final works timers left =>
    have spared := (left p).1 hp
    obtain ⟨a, ha, owns⟩ := (h.owned p).1 spared.1
    obtain rfl := h.record_eq ha here (owns.entry.symm.trans same)
    exact ((h.spared_iff here).1 spared).2 owns
  | failed error s₁ e₁ final cause works silent ends =>
    rw [ends.timers, TimerQueue.toList_clear] at hp
    cases hp

/-- A record whose attempt is answered has started its first one, and its deadline is pending. -/
theorem Sound.deadline_of_accepts (h : s.Sound) (here : .record e ∈ s.entries) {attempt : Nat}
    (accepted : e.accepts attempt = true) (limit : s.setup.timeout = some timeout) :
    ∃ first expiry, e.retry.firstAttempt = some first ∧
      (⟨first.after timeout.span, expiry⟩, .deadline e.id) ∈ s.timers.toList := by
  have set := h.armed e here (RecordEntry.isDone_of_accepts accepted)
  rw [limit, Option.isSome_some, Option.isSome_iff_exists] at set
  obtain ⟨expiry, set⟩ := set
  obtain ⟨first, span, started, limit', pending⟩ := h.deadline_pending here set
  obtain rfl := Option.some.inj (limit.symm.trans limit')
  exact ⟨first, expiry, started, pending⟩

/-- A retry for which there is time is planned before the deadline of its record. -/
theorem Sound.plansRetry (h : s.Sound) {first fireAt : Instant} {id : EntryId} {expiry : TimerId}
    (pending : (⟨first.after timeout.span, expiry⟩, .deadline id) ∈ s.timers.toList)
    (order : fireAt < first.after timeout.span ∨ fireAt = .latest ∧ first.after timeout.span = .latest) :
    PlansRetry (s.timers.schedule fireAt (.retry id)).2 id fireAt (first.after timeout.span) s.timers.nextId
      expiry where
  retryPending := (TimerQueue.mem_schedule h.timers).2 (.inl rfl)
  expiryPending := (TimerQueue.mem_schedule h.timers).2 (.inr pending)
  order := order
  set := h.timers.fresh _ pending
  tied same _ sound deadline retry _ _ _ popped :=
    TimerQueue.mem_of_popDue_of_before sound deadline retry (.inr ⟨same.symm, h.timers.fresh _ pending⟩) popped

/-- Taking up the answer of a record either plans a retry or leaves the record without timers. -/
theorem Sound.plans_or_not (h : s.Sound) (here : .record e ∈ s.entries) (names : e.id = c.entry)
    (accepted : e.accepts c.attempt = true) :
    (∃ backoff, s.retryBackoff? e c = some backoff ∧
      (s.apply c).timers = (s.timers.schedule (s.now.after backoff.span) (.retry c.entry)).2) ∨
      s.retryBackoff? e c = none ∧ ∀ p ∈ (s.apply c).timers.toList, p.2.entry ≠ c.entry := by
  cases apply_applies h.queue h.timers c with
  | ignored same unwanted =>
    rw [unwanted e here names] at accepted
    cases accepted
  | scheduled e' here' names' accepted' wanted works timers =>
    obtain rfl := h.record_eq here here' (names.trans names'.symm)
    exact .inl ⟨_, wanted, timers⟩
  | resolved e' here' names' accepted' unwanted resolves =>
    obtain rfl := h.record_eq here here' (names.trans names'.symm)
    exact .inr ⟨unwanted, fun p hp => names ▸ h.not_pending_of_resolves here resolves hp⟩

/-- If the outcome is to be retried, a retry follows exactly if there is time for it. -/
theorem retryBackoff?_eq {first : Instant} (asked : s.retrying = true)
    (wanted : s.setup.retry.shouldRetry c.attempt c.outcome = true) (limit : s.setup.timeout = some timeout)
    (started : e.retry.firstAttempt = some first) :
    let backoff := s.setup.retry.backoffBefore c.attempt
    s.retryBackoff? e c = if timeAllows (some timeout) first s.now backoff then some backoff else none := by
  rw [retryBackoff?, asked, wanted, limit, started]
  rfl

/-- After the answer a retry is pending exactly if one is to follow. -/
theorem Sound.planned_iff (h : s.Sound) (here : .record e ∈ s.entries) (names : e.id = c.entry)
    (accepted : e.accepts c.attempt = true) :
    (∃ key, (key, .retry c.entry) ∈ (s.apply c).timers.toList) ↔ ∃ backoff, s.retryBackoff? e c = some backoff := by
  rcases h.plans_or_not here names accepted with ⟨backoff, wanted, set⟩ | ⟨unwanted, none⟩
  · exact iff_of_true ⟨_, set ▸ (TimerQueue.mem_schedule h.timers).2 (.inl rfl)⟩ ⟨backoff, wanted⟩
  · refine iff_of_false ?_ (by simp [unwanted])
    rintro ⟨key, pending⟩
    exact none _ pending rfl

/-- A retry that is to follow, and for which there is time, is planned before the deadline of its record. -/
theorem Sound.plansRetry_of_wanted (h : s.Sound) (here : .record e ∈ s.entries) (names : e.id = c.entry)
    (accepted : e.accepts c.attempt = true) {backoff : Duration} (wanted : s.retryBackoff? e c = some backoff)
    {first : Instant} {expiry : TimerId}
    (pending : (⟨first.after timeout.span, expiry⟩, .deadline e.id) ∈ s.timers.toList)
    (order : s.now.after backoff.span < first.after timeout.span ∨
      s.now.after backoff.span = .latest ∧ first.after timeout.span = .latest) :
    PlansRetry (s.apply c).timers c.entry (s.now.after backoff.span) (first.after timeout.span) s.timers.nextId
      expiry := by
  rcases h.plans_or_not here names accepted with ⟨backoff', wanted', set⟩ | ⟨unwanted, -⟩
  · obtain rfl := Option.some.inj (wanted.symm.trans wanted')
    rw [set]
    exact h.plansRetry (names ▸ pending) order
  · cases unwanted.symm.trans wanted

/-- **The time left for a retry agrees with the timers.** For all instants and durations, no step of finding out
whether there is time goes wrong, and the retry would fire before the deadline if there is, unless both are put off
to the last instant. In every reachable state, let the answer of a record be taken up that is to be
retried. If there is time the retry is planned before the deadline, or at the last instant behind it, and otherwise
no retry is. If neither duration is cut, a retry is planned exactly when it would start before the time is up. -/
theorem retry_window :
    (∀ first now timeout backoff, WindowAgrees first now timeout backoff) ∧
      ∀ {b : Builder} {now : Instant} {begun s : Stage} {error : Option StageError} {e : RecordEntry}
        {c : Completion} {timeout : Duration}, b.Begins now begun error → Steps begun s → ∀ mail : List Completion,
        s.queue.find? c.entry = some e → e.accepts c.attempt = true → s.retrying = true →
        s.setup.retry.shouldRetry c.attempt c.outcome = true → s.setup.timeout = some timeout →
        let backoff := s.setup.retry.backoffBefore c.attempt
        let timers := ({ s with mailbox := mail }.apply c).timers
        let planned := ∃ key, (key, .retry c.entry) ∈ timers.toList
        ∃ first, e.retry.firstAttempt = some first ∧
          (planned ↔ timeAllows (some timeout) first s.now backoff = true) ∧
          (planned → ∃ retry expiry,
            PlansRetry timers c.entry (s.now.after backoff.span) (first.after timeout.span) retry expiry) ∧
          (timeout.nanos ≤ Duration.maxSpan → backoff.nanos ≤ Duration.maxSpan →
            (planned ↔ s.now.nanos + backoff.nanos < first.nanos + timeout.nanos)) := by
  refine ⟨windowAgrees, ?_⟩
  intro b now begun s error e c timeout begins steps mail found accepted asked wanted limit backoff timers planned
  have h := (begins.kept.steps steps).sound
  have reading := h.quiet (quiet_mailbox s mail)
  obtain ⟨here, names⟩ := (Queue.find?_eq_some_iff h.queue).1 found
  obtain ⟨first, expiry, started, pending⟩ := h.deadline_of_accepts here accepted limit
  have decided : s.retryBackoff? e c = if timeAllows (some timeout) first s.now backoff then some backoff else none :=
    retryBackoff?_eq asked wanted limit started
  have agrees := windowAgrees first s.now timeout backoff
  have iff : planned ↔ timeAllows (some timeout) first s.now backoff = true := by
    refine (reading.planned_iff here names accepted).trans ?_
    change (∃ backoff, s.retryBackoff? e c = some backoff) ↔ _
    simp [decided]
  refine ⟨first, started, iff, fun plan => ?_, fun fits fits' => iff.trans (agrees.sharp fits fits')⟩
  have allowed := iff.1 plan
  exact ⟨s.timers.nextId, expiry,
    reading.plansRetry_of_wanted here names accepted (decided.trans (if_pos allowed)) pending (agrees.before allowed)⟩

/-- The last nanosecond but one. -/
def eve : Instant where nanos := 8210266876799999999998

/-- The first attempt of a record is outstanding a nanosecond before the last instant. -/
def onEve : Stage := (start patient tenths eve).run [.offer ⟨"a", none⟩ []]

/-- Then the retry and the deadline are both set for the last instant, and the deadline comes first. -/
theorem retry_window_onEve : ∃ retry expiry,
    PlansRetry (onEve.apply ⟨0, 1, .failure ⟨"down"⟩⟩).timers 0 .latest .latest retry expiry := by
  have built : patient.build eve = .ok (start patient tenths eve) := rfl
  have begins := Builder.Begins.built built
  have found : onEve.queue.find? 0 = some ((start patient tenths eve).startedEntry ⟨"a", none⟩) := by
    decide +kernel
  have fireAt : onEve.now.after (onEve.setup.retry.backoffBefore 1).span = .latest := by decide +kernel
  have deadline : eve.after (Duration.ofMillis 1000).span = .latest := by decide +kernel
  have limit : onEve.setup.timeout = some (.ofMillis 1000) := by decide +kernel
  obtain ⟨first, started, iff, plans, -⟩ := retry_window.2 (s := onEve) (c := ⟨0, 1, .failure ⟨"down"⟩⟩) begins
    (run_steps begins.kept.sound _) onEve.mailbox found (by decide +kernel) (by decide +kernel) (by decide +kernel)
    limit
  obtain rfl : first = eve := Option.some.inj (started.symm.trans rfl)
  have planned := plans (iff.2 (by decide +kernel))
  rw [fireAt, deadline] at planned
  exact planned

end Stage

end AsyncStage
