import AsyncStage.Proofs.Stage.Agree

/-!
# What is done for one entry, exactly

Taking up a completion and starting a retry each change one entry, replace the timers and note what
they did, and a `Revision` says with what. Emitting takes entries out of the queue. These are equations,
so that two pieces of work can be exchanged: revisions of two entries, and a revision of an entry that
is still open with an emission before it.
-/

namespace AsyncStage

/-- The timers without this one. -/
def TimerQueue.without (q : TimerQueue) (timer : Option TimerId) : TimerQueue :=
  match timer with
  | some id => (q.cancel id).2
  | none => q

/-- A change of one record entry, with the timers as they are afterwards and what is noted. -/
structure Revision where
  id : EntryId
  change : RecordEntry → RecordEntry
  /-- Whether the entry gets its final result by it. -/
  final : Bool
  timers : TimerQueue
  events : List Event

/-- A revision after something else was done to the same entry. -/
def Revision.after (r : Revision) (f : RecordEntry → RecordEntry) (events : List Event) : Revision :=
  { r with change := fun e => r.change (f e), events := events ++ r.events }

namespace Stage

variable {s t : Stage} {e : RecordEntry} {c : Completion} {r r' : Revision} {rest : TimerQueue}

def revise (s : Stage) (r : Revision) : Stage :=
  { s with queue := s.queue.revise r.id r.change r.final, timers := r.timers }.log r.events

/-! ## Completions -/

/-- What is noted first when a completion is taken up. -/
def taking (s : Stage) (e : RecordEntry) (c : Completion) : List Event :=
  .applied c :: (e.retry.attemptStarted.map fun start => .measured (.attemptTook (s.now.elapsed start))).toList

/-- Scheduling the retry after an attempt. -/
def awaitingRetry (s : Stage) (c : Completion) (backoff : Duration) : Revision where
  id := c.entry
  change e := e.awaiting s.timers.nextId (s.now.after backoff.span) c.outcome
  final := false
  timers := (s.timers.schedule (s.now.after backoff.span) (.retry c.entry)).2
  events := [.measured (.added .retries 1), .scheduled c.entry c.attempt (s.now.after backoff.span)]

/-- What is told of an error that the fallback takes the place of. -/
def substituting (s : Stage) (e : RecordEntry) : Resolution → List Event
  | .values _ => []
  | .error error =>
    (if s.setup.listening then [.substituted ⟨s.stepId, e.record.value, error, e.retry.attempts⟩] else []) ++
      [.measured (.added .fallbacks 1)]

/-- Giving an entry its result. -/
def settling (s : Stage) (e : RecordEntry) (result : Resolution) (values : List String) : Revision where
  id := e.id
  change e := { e with slot := .completed values, retry := e.retry.withoutWaiting, deadlineTimer := none }
  final := true
  timers := (s.timers.without e.deadlineTimer).without e.retry.retryTimer
  events := .resolved e.id result :: s.substituting e result

/-- Taking up the completion of an attempt that is outstanding. -/
def answering (s : Stage) (e : RecordEntry) (c : Completion) : Revision :=
  let result := .ofOutcome c.outcome
  let outcome :=
    match s.retryBackoff? e c with
    | some backoff => s.awaitingRetry c backoff
    | none => s.settling e result ((s.setup.final? e.record result).getD [])
  outcome.after (fun e => { e with signal := none }) (s.taking e c)

theorem id_answering (s : Stage) (names : e.id = c.entry) : (s.answering e c).id = e.id := by
  unfold answering
  split
  · exact names.symm
  · rfl

theorem id_change_answering (s : Stage) (e r : RecordEntry) (c : Completion) :
    ((s.answering e c).change r).id = r.id := by
  unfold answering
  split <;> rfl

theorem phased_substituting (s : Stage) (e : RecordEntry) (result : Resolution) :
    Phased .answers (s.substituting e result) := by
  cases result with
  | values values => exact phased_nil _
  | error error =>
    simp only [substituting]
    split <;> simp [Event.phase?, Measurement.phase, Counter.phase]

theorem phased_answering (s : Stage) (e : RecordEntry) (c : Completion) : Phased .answers (s.answering e c).events := by
  have taking : Phased .answers (s.taking e c) := by
    unfold Stage.taking
    cases e.retry.attemptStarted <;> simp [Event.phase?, Measurement.phase]
  refine phased_append.2 ⟨taking, ?_⟩
  split
  · simp [awaitingRetry, Event.phase?, Measurement.phase, Counter.phase]
  · exact phased_cons.2 ⟨rfl, phased_substituting s e _⟩

/-! What is done depends on these of the stage only. -/

section Congruence

variable (setup : s.setup = t.setup) (now : s.now = t.now) (timers : s.timers = t.timers)

include setup timers

theorem settling_congr (e : RecordEntry) (result : Resolution) (values : List String) :
    s.settling e result values = t.settling e result values := by
  cases result <;> simp only [settling, substituting, stepId, setup, timers]

include now

omit setup in
theorem awaitingRetry_congr (c : Completion) (backoff : Duration) :
    s.awaitingRetry c backoff = t.awaitingRetry c backoff := by
  simp only [awaitingRetry, now, timers]

theorem answering_congr (retrying : s.retrying = t.retrying) (e : RecordEntry) (c : Completion) :
    s.answering e c = t.answering e c := by
  have taking : s.taking e c = t.taking e c := by simp only [Stage.taking, now]
  simp only [answering, retryBackoff?_congr setup now retrying, taking, awaitingRetry_congr now timers,
    settling_congr setup timers, setup]

end Congruence

theorem cancelTimer_eq (s : Stage) (timer : Option TimerId) :
    s.cancelTimer timer = { s with timers := s.timers.without timer } := by
  cases timer <;> rfl

theorem measureAttempt_eq (s : Stage) (e : RecordEntry) : s.measureAttempt e =
    s.log (e.retry.attemptStarted.map fun start => .measured (.attemptTook (s.now.elapsed start))).toList := by
  unfold measureAttempt
  cases e.retry.attemptStarted with
  | none => simp [log]
  | some started => exact note_eq_log s _

theorem scheduleRetry_eq (s : Stage) (c : Completion) (backoff : Duration) :
    s.scheduleRetry c backoff = s.revise (s.awaitingRetry c backoff) := by
  simp only [scheduleRetry, measure, note_eq_log, log_log]
  rfl

theorem tellListener_eq (s : Stage) (e : RecordEntry) (error : EntryError) :
    (s.tellListener e error).measure (.added .fallbacks 1) = s.log (s.substituting e (.error error)) := by
  unfold tellListener substituting measure
  split
  · rw [note_eq_log, note_eq_log, log_log]
  · rw [note_eq_log, List.nil_append]

/-- A revision that comes after a change of the same entry. -/
theorem revise_after (h : s.queue.Sound) {f : RecordEntry → RecordEntry} (hid : ∀ e, (f e).id = e.id)
    (events : List Event) {id : EntryId} (same : r.id = id) :
    ((s.update id f).log events).revise r = s.revise (r.after f events) := by
  subst same
  have queue : (s.queue.update r.id f).revise r.id r.change r.final =
      s.queue.revise r.id (fun e => r.change (f e)) r.final := Queue.revise_update h hid
  simp only [revise, Revision.after, update, log, queue, List.map_append, Array.append_assoc,
    List.append_toArray]

/-- Giving an entry a result with which the stage can go on. -/
theorem resolve_eq (h : s.queue.Sound) (here : .record e ∈ s.entries) {result : Resolution} {values : List String}
    (final : s.setup.final? e.record result = some values) :
    s.resolve e.id result = s.revise (s.settling e result values) := by
  have found : s.queue.find? e.id = some e := Queue.find?_of_mem h here
  let timers := (s.timers.without e.deadlineTimer).without e.retry.retryTimer
  let closed := { s with timers := timers }.update e.id fun r =>
    { r with deadlineTimer := none, retry := r.retry.withoutWaiting }
  have queue : (closed.queue.update e.id fun r => { r with slot := .completed values }).markCompleted e.id =
      s.queue.revise e.id (s.settling e result values).change true := by
    change (s.queue.update e.id _).revise e.id _ true = _
    exact Queue.revise_update h fun _ => rfl
  have completed : ∀ events : List Event, (closed.log events).complete e.id values =
      { s with queue := s.queue.revise e.id (s.settling e result values).change true, timers := timers }.log events :=
    fun events => congrArg (fun q => { s with queue := q, timers := timers }.log events) queue
  simp only [resolve, found, cancelTimer_eq, note_eq_log]
  cases result with
  | values values' =>
    obtain rfl : values' = values := Option.some.inj final
    exact completed [.resolved e.id (.values values')]
  | error error =>
    have fallback : ∃ f, s.setup.fallback = some f ∧ f e.record.value error = values := by
      simpa [Setup.final?] using final
    obtain ⟨f, set, rfl⟩ := fallback
    dsimp only
    split
    next f' set' =>
      obtain rfl : f' = f := Option.some.inj (set'.symm.trans set)
      simp only [tellListener_eq, log_log]
      exact completed _
    next none => cases none.symm.trans set

/-- Taking up the completion of this entry's attempt does not end the stage. -/
def Harmless (s : Stage) (e : RecordEntry) (c : Completion) : Prop :=
  (s.retryBackoff? e c).isSome = true ∨ (s.setup.final? e.record (.ofOutcome c.outcome)).isSome = true

instance (s : Stage) (e : RecordEntry) (c : Completion) : Decidable (s.Harmless e c) :=
  inferInstanceAs (Decidable (_ ∨ _))

/-- **Taking up a completion** of an outstanding attempt, unless it ends the stage. -/
theorem apply_eq (h : s.Sound) (here : .record e ∈ s.entries) (names : e.id = c.entry)
    (accepted : e.accepts c.attempt = true) (harmless : s.Harmless e c) :
    s.apply c = s.revise (s.answering e c) := by
  have found : s.queue.find? c.entry = some e := names ▸ Queue.find?_of_mem h.queue here
  let silenced : RecordEntry → RecordEntry := fun e => { e with signal := none }
  obtain ⟨taken, hup⟩ : ∃ taken, taken = (s.update c.entry silenced).log (s.taking e c) := ⟨_, rfl⟩
  have start : ((s.update c.entry fun e => { e with signal := none }).note (.applied c)).measureAttempt e = taken := by
    rw [note_eq_log, measureAttempt_eq, log_log, hup]
    rfl
  have works := take_works h.queue here names
  have timers : taken.timers = s.timers := hup ▸ rfl
  rw [start] at works
  have asks : taken.retryBackoff? e c = s.retryBackoff? e c :=
    retryBackoff?_congr works.setup works.now works.retrying e c
  have first : ∀ r : Revision, r.id = c.entry →
      taken.revise r = s.revise (r.after silenced (s.taking e c)) := by
    intro r same
    have kept : ∀ e, (silenced e).id = e.id := fun _ => rfl
    rw [hup]
    exact revise_after h.queue kept _ same
  have opened : s.apply c =
      match taken.retryBackoff? e c with
      | some backoff => taken.scheduleRetry c backoff
      | none => taken.resolve c.entry (.ofOutcome c.outcome) := by
    rw [← start, Stage.apply, found]
    exact if_pos accepted
  rw [opened, asks, answering]
  clear opened start hup
  cases wanted : s.retryBackoff? e c with
  | some backoff =>
    simp only [scheduleRetry_eq, awaitingRetry_congr works.now timers]
    exact first _ rfl
  | none =>
    obtain ⟨values, final⟩ := Option.isSome_iff_exists.1 (harmless.resolve_left (by simp [wanted]))
    have settled := resolve_eq works.queue.sound (works.there h.queue) (works.setup.symm ▸ final)
    rw [settling_congr works.setup timers, first _ names] at settled
    simp only [final, Option.getD_some, ← names]
    exact settled

/-! ## Retries -/

/-- Starting another attempt of an entry. -/
def calling (s : Stage) (e : RecordEntry) : Revision where
  id := e.id
  change r :=
    { r with
      signal := some (e.retry.attempts + 1)
      retry := { r.retry with attempts := e.retry.attempts + 1, attemptStarted := some s.now } }
  final := false
  timers := s.timers
  events := [.measured (.added .invocations 1), .invoked (s.nextCall e)]

/-- Starting the retry of an entry. -/
def recalling (s : Stage) (e : RecordEntry) : Revision :=
  (s.calling e).after (fun r => { r with retry := r.retry.withoutWaiting }) []

theorem phased_recalling (s : Stage) (e : RecordEntry) : Phased .calls (s.recalling e).events := by
  simp [recalling, Revision.after, calling, Event.phase?, Measurement.phase, Counter.phase]

theorem recalling_congr (setup : s.setup = t.setup) (now : s.now = t.now) (timers : s.timers = t.timers)
    (e : RecordEntry) : s.recalling e = t.recalling e := by
  simp only [recalling, calling, nextCall, setup, now, timers]

/-- Starting an attempt that is not the first one, if the function does not answer at once. -/
theorem startAttempt_eq (h : s.queue.Sound) (here : .record e ∈ s.entries) {first : Instant}
    (started : e.retry.firstAttempt = some first) (silent : s.setup.function (s.nextCall e) = []) :
    s.startAttempt e.id = s.revise (s.calling e) := by
  have found : s.queue.find? e.id = some e := Queue.find?_of_mem h here
  have again : e.retry.firstAttempt.isNone = false := by rw [started]; rfl
  rw [nextCall] at silent
  simp only [startAttempt, found, again, Bool.false_eq_true, if_false, measure, note_eq_log, log_log]
  exact (congrArg (List.foldl post _) silent :)

/-- **Starting a retry**, if the function does not answer at once. -/
theorem startRetry_eq (h : s.queue.Sound) (here : .record e ∈ s.entries) {first : Instant}
    (started : e.retry.firstAttempt = some first) (silent : s.setup.function (s.nextCall e) = []) :
    s.startRetry e.id = s.revise (s.recalling e) := by
  have found : s.queue.find? e.id = some e := Queue.find?_of_mem h here
  let awake : RecordEntry → RecordEntry := fun e => { e with retry := e.retry.withoutWaiting }
  have kept : ∀ e, (awake e).id = e.id := fun _ => rfl
  have woken := (Works.refl h here).update h kept (fun _ => rfl) (fun _ => rfl)
  have begun := startAttempt_eq (e := awake e) woken.queue.sound (woken.there h) started silent
  simp only [startRetry, found]
  exact begun.trans (revise_after h kept [] rfl)

/-! ## Emission -/

/-- What is noted when an entry is emitted. -/
def departure (e : Entry) : List Event :=
  [.measured (.added .inFlight (-1)), .released e] ++
    match e with
    | .watermark _ _ => []
    | .record r =>
      match r.slot with
      | .completed values => [.measured (.added .itemsOut values.length)]
      | .pending => []
      | .failed _ => []

/-- These entries are emitted, and this queue is left. -/
def emitting (s : Stage) (drained : List Entry × Queue) : Stage :=
  { s with
    queue := drained.2
    output := (drained.1.flatMap Entry.rendering).foldl Output.emit s.output }.log (drained.1.flatMap departure)

theorem release_eq (s : Stage) (e : Entry) : s.release e = s.emitting ([e], s.queue) := by
  have rendering : [e].flatMap Entry.rendering = e.rendering := List.flatMap_singleton ..
  have departs : [e].flatMap departure = departure e := List.flatMap_singleton ..
  rw [emitting, rendering, departs]
  simp only [release, departure, measure, note_eq_log, log_log]
  cases e with
  | watermark => rfl
  | record r =>
    obtain ⟨id, record, enqueuedAt, slot, retry, timer, signal⟩ := r
    cases slot <;> rfl

theorem emitting_emitting (s : Stage) (first later : List Entry × Queue) :
    (s.emitting first).emitting later = s.emitting (first.1 ++ later.1, later.2) := by
  simp [emitting, log]

theorem foldl_release_eq (drained : List Entry) (s : Stage) :
    drained.foldl release s = s.emitting (drained, s.queue) := by
  induction drained generalizing s with
  | nil => rfl
  | cons e drained ih => rw [List.foldl_cons, ih, release_eq, emitting_emitting, List.singleton_append]; rfl

/-- **Emitting everything that may leave the queue.** -/
theorem emitReady_eq (h : s.queue.Sound) : s.emitReady = s.emitting s.queue.drain := by
  unfold emitReady
  split
  next => exact foldl_release_eq _ _
  next calm =>
    rw [Queue.drain_eq_self h (Bool.not_eq_true _ ▸ calm)]
    rfl

/-! ## Exchanging pieces of work -/

variable {p q : Phase} {a b : List Event} {drained : List Entry × Queue}

/-- What does not look at the history does the same to stages that agree. -/
theorem Agree.alter (h : Agree s t) {f : Stage → Stage} (blind : ∀ u, (f u).forgetHistory = f u.forgetHistory)
    (still : ∀ u, (f u).history = u.history) : Agree (f s) (f t) where
  same := by rw [blind, blind, h.same]
  notes phase := by simpa only [notesOf, still] using h.notes phase

theorem Agree.revise (h : Agree s t) (r : Revision) : Agree (s.revise r) (t.revise r) := by
  have changed : Agree { s with queue := s.queue.revise r.id r.change r.final, timers := r.timers } _ :=
    h.alter (f := fun u => { u with queue := u.queue.revise r.id r.change r.final, timers := r.timers })
      (fun _ => rfl) fun _ => rfl
  exact changed.log r.events

/-- Notes of different kinds of work may be exchanged. -/
theorem agree_exchange (s : Stage) (first : Phased p a) (second : Phased q b) (apart : p ≠ q) :
    Agree (s.log (a ++ b)) (s.log (b ++ a)) where
  same := rfl
  notes phase := by
    rw [notesOf_log, notesOf_log, List.filter_append, List.filter_append, first.filter, second.filter]
    by_cases here : p = phase
    · rw [if_neg (here ▸ apart.symm : ¬ q = phase), List.append_nil, List.nil_append]
    · rw [if_neg here, List.append_nil, List.nil_append]

theorem revise_revise (s : Stage) (r r' : Revision) : (s.revise r).revise r' =
    { s with
      queue := (s.queue.revise r.id r.change r.final).revise r'.id r'.change r'.final
      timers := r'.timers }.log (r.events ++ r'.events) := by
  simp [revise, log]

/-- **Revisions of two entries** may be made in either order, if one of them gives no result. -/
theorem revise_exchange (h : s.queue.Sound) (ne : r.id ≠ r'.id) (kept : ∀ e, (r.change e).id = e.id)
    (kept' : ∀ e, (r'.change e).id = e.id) (passing : r'.final = false) (noted : Phased p r.events)
    (noted' : Phased q r'.events) (apart : p ≠ q) (timers : TimerQueue) :
    Agree ((s.revise r).revise { r' with timers := timers }) ((s.revise r').revise { r with timers := timers }) := by
  have queue : (s.queue.revise r.id r.change r.final).revise r'.id r'.change r'.final =
      (s.queue.revise r'.id r'.change r'.final).revise r.id r.change r.final := by
    rw [passing]
    exact (Queue.revise_comm h ne kept kept').symm
  rw [revise_revise, revise_revise, queue]
  exact agree_exchange _ noted noted' apart

theorem phased_departure (e : Entry) : Phased .moves (departure e) := by
  cases e with
  | watermark => simp [departure, Event.phase?, Measurement.phase, Counter.phase]
  | record r =>
    obtain ⟨id, record, enqueuedAt, slot, retry, timer, signal⟩ := r
    cases slot <;> simp [departure, Event.phase?, Measurement.phase, Counter.phase]

theorem phased_departures (drained : List Entry) : Phased .moves (drained.flatMap departure) := by
  intro v hv
  obtain ⟨e, -, departs⟩ := List.mem_flatMap.1 hv
  exact phased_departure e v departs

/-- **Emitting before the revision of an open entry**, and once more after it, is emitting once after it. -/
theorem emitReady_revise (h : s.queue.Sound) (emitted : (s.emitReady.revise r).queue.Sound)
    (revised : (s.revise r).queue.Sound) (here : .record e ∈ s.entries) (opened : e.isDone = false)
    (names : r.id = e.id) (noted : Phased p r.events) (apart : p ≠ .moves) :
    Agree (s.emitReady.revise r).emitReady (s.revise r).emitReady := by
  let later := (s.queue.drain.2.revise r.id r.change r.final).drain
  let after (s : Stage) : Stage :=
    { s with
      queue := later.2
      timers := r.timers
      output := ((s.queue.drain.1 ++ later.1).flatMap Entry.rendering).foldl Output.emit s.output }
  have whole : (s.revise r).queue.drain = (s.queue.drain.1 ++ later.1, later.2) := by
    change (s.queue.revise r.id r.change r.final).drain = _
    simp only [later, names]
    exact Queue.drain_revise h here opened
  have early : (s.emitReady.revise r).emitReady =
      ((after s).log (s.queue.drain.1.flatMap departure ++ r.events)).log (later.1.flatMap departure) := by
    have queue : (s.emitReady.revise r).queue.drain = later := by rw [emitReady_eq h]; rfl
    rw [emitReady_eq emitted, queue, emitReady_eq h]
    simp [emitting, revise, log, after]
  have late : (s.revise r).emitReady =
      ((after s).log (r.events ++ s.queue.drain.1.flatMap departure)).log (later.1.flatMap departure) := by
    rw [emitReady_eq revised, whole]
    simp [emitting, revise, log, after]
  rw [early, late]
  exact (agree_exchange _ (phased_departures _) noted apart.symm).log _

end Stage

end AsyncStage
