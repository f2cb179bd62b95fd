import AsyncStage.Proofs.Stage.Works
import AsyncStage.Stage.Operations

/-!
# What each handler does

One description for each way in which a stage works on an entry: a completion is taken up, a
retry starts, a deadline passes, an awaited retry is given up, an entry is admitted, entries
are emitted. The descriptions say what becomes of the entry, of the timers and of the history,
and nothing later unfolds a handler again.
-/

namespace AsyncStage

/-- The entry once it has its result: nothing is awaited or outstanding any more. -/
def RecordEntry.withResult (e : RecordEntry) (values : List String) : RecordEntry :=
  { e with
    slot := .completed values
    retry := e.retry.withoutWaiting
    deadlineTimer := none
    signal := none }

/-- The entry while it awaits the retry that `timer` will start at `fireAt`. -/
def RecordEntry.awaiting (e : RecordEntry) (timer : TimerId) (fireAt : Instant) (outcome : Outcome) :
    RecordEntry :=
  { e with
    retry :=
      { e.retry with
        nextRetryAt := some fireAt
        retryTimer := some timer
        lastOutcome := some outcome } }

/-- The entry once its next attempt has been started. -/
def RecordEntry.calling (e : RecordEntry) (now : Instant) : RecordEntry :=
  { e with
    signal := some (e.retry.attempts + 1)
    retry :=
      { e.retry with
        attempts := e.retry.attempts + 1
        attemptStarted := some now
        firstAttempt := some (e.retry.firstAttempt.getD now) } }

theorem RecordEntry.isDone_of_accepts {e : RecordEntry} {attempt : Nat} (accepted : e.accepts attempt = true) :
    e.isDone = false := by
  simp only [RecordEntry.accepts, Bool.and_eq_true, Bool.not_eq_true'] at accepted
  exact accepted.1.1

/-- The values that a result stands for, if the stage can go on with it. -/
def Setup.final? (setup : Setup) (record : Record) : Resolution → Option (List String)
  | .values values => some values
  | .error error => setup.fallback.map fun fallback => fallback record.value error

namespace Stage

variable {s s' s₁ : Stage} {e e₁ : RecordEntry} {id : EntryId}

/-! ## Timers -/

/-- A pending timer that is none of the entry's. -/
def Spared (s : Stage) (e : RecordEntry) (p : TimerKey × TimerTarget) : Prop :=
  p ∈ s.timers.toList ∧ e.deadlineTimer ≠ some p.1.id ∧ e.retry.retryTimer ≠ some p.1.id

theorem mem_cancelTimer (sound : s.timers.Sound) {timer : Option TimerId} {p : TimerKey × TimerTarget} :
    p ∈ (s.cancelTimer timer).timers.toList ↔ p ∈ s.timers.toList ∧ timer ≠ some p.1.id := by
  cases timer with
  | none => simp [cancelTimer]
  | some id => simp [cancelTimer, TimerQueue.mem_cancel sound, eq_comm]

theorem sound_cancelTimer (sound : s.timers.Sound) (timer : Option TimerId) :
    (s.cancelTimer timer).timers.Sound := by
  cases timer with
  | none => exact sound
  | some id => exact sound.cancel id

/-! ## Results -/

/-- The entry `e` gets its final result, and `new` is noted: it is completed with the values
that the result stands for, or it ends the stage. -/
inductive Resolves (s s' : Stage) (e : RecordEntry) (result : Resolution) (new : List Event) : Prop where
  | completed (values : List String) (final : s.setup.final? e.record result = some values)
      (works : Works s s' e (e.withResult values) new) (timers : s'.timers.Sound)
      (left : ∀ p, p ∈ s'.timers.toList ↔ s.Spared e p)
  | failed (error : EntryError) (s₁ : Stage) (e₁ : RecordEntry) (final : s.setup.final? e.record result = none)
      (cause : result = .error error) (works : Works s s₁ e e₁ new) (silent : e₁.signal = none)
      (ends : Ends s₁ s' (.failed ⟨s.stepId, e.record.value, error⟩))

/-- A result that comes after other work on the entry. -/
theorem Resolves.after {result : Resolution} {pre new : List Event} (w : Works s s₁ e e₁ pre)
    (sound : s.queue.Sound) (r : Resolves s₁ s' e₁ result new)
    (same : ∀ values, e₁.withResult values = e.withResult values)
    (left : ∀ p, s₁.Spared e₁ p ↔ s.Spared e p) : Resolves s s' e result (pre ++ new) := by
  cases r with
  | completed values final works timers left' =>
    rw [w.setup, w.queue.record] at final
    refine .completed values final ?_ timers fun p => (left' p).trans (left p)
    rw [← same]
    exact w.trans sound works
  | failed error s₂ e₂ final cause works silent ends =>
    rw [w.setup, w.queue.record] at final
    rw [stepId, w.setup, w.queue.record] at ends
    exact .failed error s₂ e₂ final cause (w.trans sound works) silent ends

theorem ends_update (sound : s.queue.Sound) {f : RecordEntry → RecordEntry}
    (hid : ∀ r, (f r).id = r.id) (hsignal : ∀ r, (f r).signal = r.signal) (status : Status) :
    s.Ends ((s.update id f).teardown status) status := by
  have ends := (s.update id f).teardown_ends status
  have cleared : (s.update id f).queue.clear = s.queue.clear := Queue.clear_update
  have same : (s.update id f).cancellations = s.cancellations := by
    simp only [cancellations, entries, Stage.update, Queue.toList_update sound, List.filterMap_map,
      List.filterMap_filterMap]
    apply List.filterMap_congr
    intro a _
    cases a with
    | watermark => simp [Entry.record?]
    | record r =>
      simp only [Function.comp, Entry.modify_record, Entry.record?, Option.bind_some]
      split <;> simp [hid, hsignal]
  have told := ends.told
  rw [same] at told
  exact ⟨ends.setup, ends.now, ends.retrying, ends.nextId, ends.status, ends.output,
    ends.queue.trans cleared, ends.timers, told, ends.mailbox⟩

theorem timers_tellListener {error : EntryError} : (s.tellListener e error).timers = s.timers := by
  unfold tellListener
  split <;> rfl

theorem Works.tellListener {pre : List Event} (w : Works s s₁ e e₁ pre) (r : RecordEntry) (error : EntryError) :
    Works s (s₁.tellListener r error) e e₁ pre := by
  unfold Stage.tellListener
  split
  · exact w.noteSilent rfl
  · exact w

/-- Giving an open entry its result. -/
theorem resolve_resolves (sound : s.queue.Sound) (timers : s.timers.Sound) (here : .record e ∈ s.entries)
    (opened : e.isDone = false) (silent : e.signal = none) (result : Resolution) :
    Resolves s (s.resolve e.id result) e result [.resolved e.id result] := by
  have found : s.queue.find? e.id = some e := Queue.find?_of_mem sound here
  let closed : RecordEntry := { e with deadlineTimer := none, retry := e.retry.withoutWaiting }
  obtain ⟨s₁, hs₁⟩ : ∃ s₁, s₁ = (((s.cancelTimer e.deadlineTimer).cancelTimer e.retry.retryTimer).update
      e.id fun e => { e with deadlineTimer := none, retry := e.retry.withoutWaiting }).note
        (.resolved e.id result) := ⟨_, rfl⟩
  have w : Works s s₁ e closed [.resolved e.id result] := by
    have start := ((Works.refl sound here).cancelTimer e.deadlineTimer).cancelTimer e.retry.retryTimer
    rw [hs₁]
    exact (start.update sound (f := fun e => { e with deadlineTimer := none, retry := e.retry.withoutWaiting })
      (fun _ => rfl) (fun _ => rfl) (fun _ => rfl)).note (.resolved e.id result) rfl rfl
  have complete : ∀ values, closed.withResult values = { closed with slot := .completed values } := by
    intro values
    simp [closed, RecordEntry.withResult, RetryContext.withoutWaiting, silent]
  have sound₁ : s₁.timers.Sound := by
    rw [hs₁]
    exact sound_cancelTimer (sound_cancelTimer timers _) _
  have left : ∀ p, p ∈ s₁.timers.toList ↔ s.Spared e p := by
    intro p
    rw [hs₁]
    apply (mem_cancelTimer (sound_cancelTimer timers e.deadlineTimer)).trans
    rw [mem_cancelTimer timers, and_assoc]
    rfl
  simp only [resolve, found]
  rw [← hs₁]
  cases result with
  | values values =>
    refine .completed values rfl ?_ sound₁ left
    exact complete values ▸ w.complete sound opened values
  | error error =>
    cases fallback : s₁.setup.fallback with
    | some f =>
      have final : s.setup.final? e.record (.error error) = some (f e.record.value error) := by
        simp [Setup.final?, ← w.setup, fallback]
      have told := ((w.tellListener e error).measure (.added .fallbacks 1)).complete sound opened
        (f e.record.value error)
      have same : (((s₁.tellListener e error).measure (.added .fallbacks 1)).complete e.id
          (f e.record.value error)).timers = s₁.timers := timers_tellListener
      rw [← complete] at told
      exact .completed _ final told (same ▸ sound₁) (same ▸ left)
    | none =>
      refine .failed error s₁ closed (by simp [Setup.final?, ← w.setup, fallback]) rfl w silent ?_
      have step : s₁.stepId = s.stepId := congrArg Setup.stepId w.setup
      rw [← step]
      exact ends_update w.queue.sound (f := fun e => { e with slot := .failed error })
        (fun _ => rfl) (fun _ => rfl) (.failed ⟨s₁.stepId, e.record.value, error⟩)

/-! ## Completions -/

/-- What it takes for an outcome to be followed by another attempt. -/
theorem retryBackoff?_eq_some_iff {c : Completion} {backoff : Duration} :
    s.retryBackoff? e c = some backoff ↔
      s.retrying = true ∧ s.setup.retry.shouldRetry c.attempt c.outcome = true ∧
        s.setup.retry.backoffBefore c.attempt = backoff ∧
        timeAllows s.setup.timeout (e.retry.firstAttempt.getD s.now) s.now backoff = true := by
  rw [retryBackoff?, ← and_assoc, ← Bool.and_eq_true]
  split
  next wanted => grind
  next unwanted => simp [unwanted]

/-- Whether another attempt follows depends on these of the stage only. -/
theorem retryBackoff?_congr {t : Stage} (setup : s.setup = t.setup) (now : s.now = t.now)
    (retrying : s.retrying = t.retrying) (e : RecordEntry) (c : Completion) :
    s.retryBackoff? e c = t.retryBackoff? e c := by
  simp only [retryBackoff?, setup, now, retrying]

/-- What becomes of a completion that is taken up. -/
inductive Applies (s s' : Stage) (c : Completion) : Prop where
  | ignored (same : s' = s)
      (unwanted : ∀ e, .record e ∈ s.entries → e.id = c.entry → e.accepts c.attempt = false)
  | scheduled (e : RecordEntry) (here : .record e ∈ s.entries) (names : e.id = c.entry)
      (accepted : e.accepts c.attempt = true) {backoff : Duration} (wanted : s.retryBackoff? e c = some backoff)
      (works : Works s s' e
        ({ e with signal := none }.awaiting s.timers.nextId (s.now.after backoff.span) c.outcome)
        [.applied c, .scheduled c.entry c.attempt (s.now.after backoff.span)])
      (timers : s'.timers = (s.timers.schedule (s.now.after backoff.span) (.retry c.entry)).2)
  | resolved (e : RecordEntry) (here : .record e ∈ s.entries) (names : e.id = c.entry)
      (accepted : e.accepts c.attempt = true) (unwanted : s.retryBackoff? e c = none)
      (resolves : Resolves s s' e (.ofOutcome c.outcome) [.applied c, .resolved c.entry (.ofOutcome c.outcome)])

theorem timers_scheduleRetry {c : Completion} {backoff : Duration} : (s.scheduleRetry c backoff).timers =
    (s.timers.schedule (s.now.after backoff.span) (.retry c.entry)).2 := rfl

/-- Keeping an outcome until its retry. -/
theorem scheduleRetry_works (sound : s.queue.Sound) (here : .record e ∈ s.entries) {c : Completion}
    (names : e.id = c.entry) (backoff : Duration) :
    Works s (s.scheduleRetry c backoff) e
      (e.awaiting s.timers.nextId (s.now.after backoff.span) c.outcome)
      [.scheduled c.entry c.attempt (s.now.after backoff.span)] := by
  let retryAt := s.now.after backoff.span
  have start := (Works.refl sound here).setTimers (s.timers.schedule retryAt (.retry c.entry)).2
  have set := start.update sound (f := fun r => r.awaiting s.timers.nextId retryAt c.outcome)
    (fun _ => rfl) (fun _ => rfl) (fun _ => rfl)
  rw [names] at set
  exact (set.measure (.added .retries 1)).note (.scheduled c.entry c.attempt retryAt) rfl rfl

theorem timers_measureAttempt : (s.measureAttempt e).timers = s.timers := by
  unfold measureAttempt
  split <;> rfl

theorem Works.measureAttempt {pre : List Event} (w : Works s s₁ e e₁ pre) (r : RecordEntry) :
    Works s (s₁.measureAttempt r) e e₁ pre := by
  unfold Stage.measureAttempt
  split
  · exact w.measure _
  · exact w

/-- The first thing that happens when the completion of an outstanding attempt is taken up. -/
theorem take_works (sound : s.queue.Sound) (here : .record e ∈ s.entries) {c : Completion}
    (names : e.id = c.entry) :
    Works s (((s.update c.entry fun e => { e with signal := none }).note (.applied c)).measureAttempt e) e
      { e with signal := none } [.applied c] := by
  have open' := (Works.refl sound here).update sound (f := fun e => { e with signal := none })
    (fun _ => rfl) (fun _ => rfl) (fun _ => rfl)
  rw [← names]
  exact (open'.note (.applied c) rfl rfl).measureAttempt e

/-- **Taking up a completion.** -/
theorem apply_applies (sound : s.queue.Sound) (timers : s.timers.Sound) (c : Completion) :
    Applies s (s.apply c) c := by
  unfold Stage.apply
  cases found : s.queue.find? c.entry with
  | none => exact .ignored rfl fun e here names => ((Queue.find?_eq_none_iff sound).1 found e here names).elim
  | some e =>
    obtain ⟨here, names⟩ := (Queue.find?_eq_some_iff sound).1 found
    cases accepted : e.accepts c.attempt with
    | false =>
      refine .ignored (if_neg (by simp [accepted])) fun e' here' names' => ?_
      rw [sound.increasing.record_eq here' here (names'.trans names.symm), accepted]
    | true =>
      have w := take_works sound here names
      have same : (((s.update c.entry fun e => { e with signal := none }).note (.applied c)).measureAttempt
        e).timers = s.timers := timers_measureAttempt
      simp only [accepted, if_true]
      generalize ((s.update c.entry fun e => { e with signal := none }).note (.applied c)).measureAttempt e
        = s₁ at w same
      rw [retryBackoff?_congr w.setup w.now w.retrying]
      cases wanted : s.retryBackoff? e c with
      | some backoff =>
        have set := w.trans sound (scheduleRetry_works w.queue.sound (w.there sound) names backoff)
        rw [w.now, same] at set
        exact .scheduled e here names accepted wanted set (by rw [timers_scheduleRetry, w.now, same])
      | none =>
        have result := resolve_resolves w.queue.sound (same ▸ timers) (w.there sound)
          (RecordEntry.isDone_of_accepts accepted) rfl (.ofOutcome c.outcome)
        refine .resolved e here names accepted wanted ?_
        rw [← names]
        exact result.after w sound (fun _ => rfl) fun p => by rw [Spared, Spared, same]

/-! ## Attempts -/

/-- The call with which the next attempt of an entry starts. -/
def nextCall (s : Stage) (e : RecordEntry) : Invocation :=
  s.setup.call e.id (e.retry.attempts + 1) e.record.value

/-- What is noted when an attempt starts: the call, and what the function posts at once. -/
def calls (s : Stage) (call : Invocation) : List Event := .invoked call :: (s.setup.function call).map .posted

theorem timers_postAll (cs : List Completion) : (cs.foldl post s).timers = s.timers := by
  induction cs generalizing s with
  | nil => rfl
  | cons c cs ih => exact ih

/-- Calling the function for the next attempt. -/
theorem Works.call (w : Works s s₁ e e₁ []) :
    Works s ((s₁.setup.function (s₁.nextCall e)).foldl Stage.post
        ((s₁.measure (.added .invocations 1)).note (.invoked (s₁.nextCall e)))) e e₁ (s.calls (s.nextCall e)) := by
  have same : s₁.nextCall e = s.nextCall e := by rw [nextCall, w.setup, nextCall]
  have noted := (w.measure (.added .invocations 1)).note (.invoked (s.nextCall e)) rfl rfl
  rw [same, calls, ← w.setup]
  exact noted.postAll _

/-- The first thing that happens when an attempt starts. -/
theorem begin_works (sound : s.queue.Sound) (here : .record e ∈ s.entries) :
    Works s (s.update e.id fun r =>
      { r with
        signal := some (e.retry.attempts + 1)
        retry :=
          { r.retry with
            attempts := e.retry.attempts + 1
            attemptStarted := some s.now
            firstAttempt := if e.retry.firstAttempt.isNone then some s.now else r.retry.firstAttempt } })
      e (e.calling s.now) [] := by
  have first : (if e.retry.firstAttempt.isNone then some s.now else e.retry.firstAttempt) =
      some (e.retry.firstAttempt.getD s.now) := by
    cases e.retry.firstAttempt <;> rfl
  rw [RecordEntry.calling, ← first]
  exact (Works.refl sound here).update sound (fun _ => rfl) (fun _ => rfl) (fun _ => rfl)

/-- A further attempt. -/
theorem startAttempt_again (sound : s.queue.Sound) (here : .record e ∈ s.entries) {first : Instant}
    (started : e.retry.firstAttempt = some first) :
    Works s (s.startAttempt e.id) e (e.calling s.now) (s.calls (s.nextCall e)) ∧
      (s.startAttempt e.id).timers = s.timers := by
  have begun := begin_works sound here
  simp only [startAttempt, Queue.find?_of_mem sound here]
  rw [if_neg (by simp [started])]
  exact ⟨begun.call, timers_postAll _⟩

/-- The timers once the time of an entry has begun to run. -/
def armed (s : Stage) (id : EntryId) : TimerQueue :=
  match s.setup.timeout with
  | none => s.timers
  | some timeout => (s.timers.schedule (s.now.after timeout.span) (.deadline id)).2

theorem Works.setDeadline {pre : List Event} (w : Works s s₁ e e₁ pre) (sound : s.queue.Sound)
    (unset : e₁.deadlineTimer = none) :
    Works s (s₁.setDeadline e.id) e
      { e₁ with deadlineTimer := s.setup.timeout.map fun _ => s₁.timers.nextId } pre := by
  unfold Stage.setDeadline
  rw [← w.setup]
  cases s₁.setup.timeout with
  | none =>
    have same : { e₁ with deadlineTimer := none } = e₁ := by rw [← unset]
    rw [Option.map_none, same]
    exact w
  | some timeout =>
    exact (w.setTimers _).update sound (f := fun e => { e with deadlineTimer := some s₁.timers.nextId })
      (fun _ => rfl) (fun _ => rfl) (fun _ => rfl)

theorem timers_setDeadline : (s.setDeadline id).timers = s.armed id := by
  unfold setDeadline armed
  cases s.setup.timeout <;> rfl

/-- The first attempt, with which the time of the entry begins to run. -/
theorem startAttempt_first (sound : s.queue.Sound) (here : .record e ∈ s.entries)
    (new : e.retry.firstAttempt = none) (unset : e.deadlineTimer = none) :
    Works s (s.startAttempt e.id) e
        { e.calling s.now with deadlineTimer := s.setup.timeout.map fun _ => s.timers.nextId }
        (s.calls (s.nextCall e)) ∧
      (s.startAttempt e.id).timers = s.armed e.id := by
  have begun := (begin_works sound here).setDeadline sound unset
  simp only [startAttempt, Queue.find?_of_mem sound here]
  rw [if_pos (by simp [new])]
  exact ⟨begun.call, (timers_postAll _).trans timers_setDeadline⟩

/-! ## Timers that fire -/

/-- The backoff of an entry is over. -/
theorem startRetry_works (sound : s.queue.Sound) (here : .record e ∈ s.entries) {first : Instant}
    (started : e.retry.firstAttempt = some first) :
    Works s (s.startRetry e.id) e ({ e with retry := e.retry.withoutWaiting }.calling s.now)
        (s.calls (s.nextCall e)) ∧
      (s.startRetry e.id).timers = s.timers := by
  have found : s.queue.find? e.id = some e := Queue.find?_of_mem sound here
  have woken := (Works.refl sound here).update sound
    (f := fun e => { e with retry := e.retry.withoutWaiting }) (fun _ => rfl) (fun _ => rfl) (fun _ => rfl)
  have again := startAttempt_again woken.queue.sound (woken.there sound) started
  simp only [startRetry, found]
  exact ⟨woken.trans sound again.1, again.2⟩

theorem timers_cancelAttempt : (s.cancelAttempt e).timers = s.timers := by
  unfold cancelAttempt
  split <;> rfl

/-- What the expiry of an entry's time notes. -/
def expiry (s : Stage) (e : RecordEntry) (first : Instant) : List Event :=
  (e.signal.map (Event.cancelled e.id)).toList ++
    [.resolved e.id (.error (.timeout (s.now.elapsed first) e.retry.attempts))]

/-- The time of an open entry is up. -/
theorem expire_resolves (sound : s.queue.Sound) (timers : s.timers.Sound) (here : .record e ∈ s.entries)
    (opened : e.isDone = false) {first : Instant} (started : e.retry.firstAttempt = some first)
    (gone : ∀ p ∈ s.timers.toList, e.deadlineTimer ≠ some p.1.id) :
    Resolves s (s.expire e.id) e (.error (.timeout (s.now.elapsed first) e.retry.attempts))
      (s.expiry e first) := by
  have found : s.queue.find? e.id = some e := Queue.find?_of_mem sound here
  have unset := (Works.refl sound here).update sound (f := fun e => { e with deadlineTimer := none })
    (fun _ => rfl) (fun _ => rfl) (fun _ => rfl)
  have w : Works s _ e { e with deadlineTimer := none, signal := none } _ :=
    (unset.cancelAttempt e).update sound (f := fun e => { e with signal := none })
      (fun _ => rfl) (fun _ => rfl) (fun _ => rfl)
  have same : (((s.update e.id fun e => { e with deadlineTimer := none }).cancelAttempt e).update e.id
      fun e => { e with signal := none }).timers = s.timers := timers_cancelAttempt
  simp only [expire, found, opened, started, Bool.false_eq_true, if_false]
  generalize ((s.update e.id fun e => { e with deadlineTimer := none }).cancelAttempt e).update e.id
    (fun e => { e with signal := none }) = s₁ at w same
  rw [w.now]
  have result := resolve_resolves (s := s₁.measure (.added .timeouts 1)) w.queue.sound (same ▸ timers)
    (w.there sound) opened rfl (.error (.timeout (s.now.elapsed first) e.retry.attempts))
  apply result.after (w.measure _) sound (fun _ => rfl)
  intro p
  change p ∈ s₁.timers.toList ∧ none ≠ some p.1.id ∧ e.retry.retryTimer ≠ some p.1.id ↔ _
  rw [same]
  exact and_congr_right fun hp => and_congr_left fun _ => iff_of_true nofun (gone p hp)

/-! ## The end of the input -/

/-- An entry that awaits a retry takes the outcome of its last attempt. -/
theorem cutShort_resolves (sound : s.queue.Sound) (timers : s.timers.Sound) (here : .record e ∈ s.entries)
    (opened : e.isDone = false) (silent : e.signal = none) {outcome : Outcome}
    (kept : e.retry.lastOutcome = some outcome) :
    Resolves s (s.cutShort e.id) e (.ofOutcome outcome) [.resolved e.id (.ofOutcome outcome)] := by
  have found : s.queue.find? e.id = some e := Queue.find?_of_mem sound here
  have w : Works s _ e { e with retry := e.retry.withoutWaiting } _ :=
    ((Works.refl sound here).cancelTimer e.retry.retryTimer).update sound
      (f := fun e => { e with retry := e.retry.withoutWaiting }) (fun _ => rfl) (fun _ => rfl) (fun _ => rfl)
  have result := resolve_resolves w.queue.sound (sound_cancelTimer timers e.retry.retryTimer) (w.there sound)
    opened silent (.ofOutcome outcome)
  simp only [cutShort, found, kept, Option.getD_some]
  apply result.after w sound (fun _ => rfl)
  intro p
  change p ∈ (s.cancelTimer e.retry.retryTimer).timers.toList ∧ e.deadlineTimer ≠ some p.1.id ∧
    none ≠ some p.1.id ↔ _
  rw [mem_cancelTimer timers, and_assoc]
  refine and_congr_right fun _ => and_comm.trans ?_
  constructor
  · rintro ⟨⟨other, -⟩, later⟩
    exact ⟨other, later⟩
  · rintro ⟨other, later⟩
    exact ⟨⟨other, nofun⟩, later⟩

/-! ## Admission -/

/-- The entry `e` is admitted under the next number, and `new` is noted after that. -/
structure Admits (s s' : Stage) (e : Entry) (new : List Event) : Prop where
  setup : s'.setup = s.setup
  now : s'.now = s.now
  retrying : s'.retrying = s.retrying
  status : s'.status = s.status
  output : s'.output = s.output
  nextId : s'.nextId = s.nextId + 1
  id : e.id = s.nextId
  mode : s'.queue.mode = s.queue.mode
  capacity : s'.queue.capacity = s.queue.capacity
  sound : s'.queue.Sound
  entries : s'.entries = s.entries ++ [e]
  marked : s.queue.mode = .unordered → ∀ lo hi, Unbroken lo hi s'.entries →
    s'.queue.readyIds.filter (within lo hi) = s.queue.readyIds.filter (within lo hi)
  told : s'.told = s.told ++ (.admitted e.id e.element :: new).map (Note.mk s.now)
  mailbox : s'.mailbox = s.mailbox ++ new.filterMap Event.posted?

namespace Admits

variable {a b : Entry} {new : List Event}

theorem mem_entries (m : Admits s s' a new) : b ∈ s'.entries ↔ b ∈ s.entries ∨ b = a := by
  rw [m.entries, List.mem_append, List.mem_singleton]

theorem there (m : Admits s s' a new) : a ∈ s'.entries := m.mem_entries.2 (.inr rfl)

theorem isRunning (m : Admits s s' a new) : s'.isRunning = s.isRunning := congrArg Status.isRunning m.status

/-- Numbers that are given out stay below the next one. -/
theorem below (m : Admits s s' a new) (below : ∀ b ∈ s.entries, b.id < s.nextId) :
    ∀ b ∈ s'.entries, b.id < s'.nextId := by
  intro b hb
  rw [m.nextId]
  rcases m.mem_entries.1 hb with old | rfl
  · exact Nat.lt_succ_of_lt (below b old)
  · exact m.id ▸ Nat.lt_succ_self _

end Admits

theorem enqueue?_admits (sound : s.queue.Sound) (below : ∀ e ∈ s.entries, e.id < s.nextId) {entry : Entry}
    (id : entry.id = s.nextId) (pending : ∀ r, entry = .record r → r.isDone = false)
    (room : s.enqueue? entry = some s') : Admits s s' entry [] ∧ s'.timers = s.timers := by
  obtain ⟨queue, put, rfl⟩ := Option.map_eq_some_iff.1 room
  obtain ⟨size, rfl⟩ := Queue.put?_eq_some_iff.1 put
  have new : s.queue.New entry := ⟨fun e he => id ▸ below e he, pending⟩
  refine ⟨{
    setup := rfl
    now := rfl
    retrying := rfl
    status := rfl
    output := rfl
    nextId := rfl
    id := id
    mode := Queue.mode_push entry
    capacity := Queue.capacity_push entry
    sound := sound.push new size
    entries := Queue.toList_push sound new
    marked := fun _ lo hi _ => congrArg _ (Queue.readyIds_push new)
    told := ?_
    mailbox := (List.append_nil _).symm }, rfl⟩
  rw [told_note rfl, told_measure]
  rfl

/-- The entry under which a record is admitted. -/
def newEntry (s : Stage) (r : Record) : RecordEntry := { id := s.nextId, record := r, enqueuedAt := s.now }

/-- This entry once its first attempt has been started. -/
def startedEntry (s : Stage) (r : Record) : RecordEntry :=
  { (s.newEntry r).calling s.now with deadlineTimer := s.setup.timeout.map fun _ => s.timers.nextId }

/-- Admitting a record and starting its first attempt. -/
theorem admitRecord_admits (sound : s.queue.Sound) (below : ∀ e ∈ s.entries, e.id < s.nextId) {r : Record}
    (room : s.enqueue? (.record (s.newEntry r)) = some s₁) :
    Admits s (s₁.startAttempt s.nextId) (.record (s.startedEntry r)) (s.calls (s.setup.call s.nextId 1 r.value)) ∧
      (s₁.startAttempt s.nextId).timers = s.armed s.nextId := by
  have pending : ∀ r', Entry.record (s.newEntry r) = .record r' → r'.isDone = false := by rintro r' ⟨⟩; rfl
  obtain ⟨admits, timers⟩ := enqueue?_admits sound below rfl pending room
  have here : .record (s.newEntry r) ∈ s₁.entries := admits.there
  obtain ⟨works, timers'⟩ := startAttempt_first admits.sound here rfl rfl
  simp only [admits.now, admits.setup, timers, calls, nextCall, armed] at works timers'
  change Works s₁ (s₁.startAttempt s.nextId) (s.newEntry r) (s.startedEntry r)
    (s.calls (s.setup.call s.nextId 1 r.value)) at works
  refine ⟨{
    setup := works.setup.trans admits.setup
    now := works.now.trans admits.now
    retrying := works.retrying.trans admits.retrying
    status := works.status.trans admits.status
    output := works.output.trans admits.output
    nextId := works.nextId.trans admits.nextId
    id := rfl
    mode := works.queue.mode.trans admits.mode
    capacity := works.queue.capacity.trans admits.capacity
    sound := works.queue.sound
    entries := ?_
    marked := fun mode lo hi unbroken => ?_
    told := ?_
    mailbox := by rw [works.mailbox, admits.mailbox, List.filterMap_nil, List.append_nil] }, timers'⟩
  · refine works.queue.toList.trans ((congrArg _ admits.entries).trans ?_)
    rw [List.map_append, List.map_singleton, Entry.modify_record, if_pos rfl]
    refine congrArg (· ++ _) ((List.map_congr_left fun a ha => ?_).trans (List.map_id _))
    exact Entry.modify_of_ne (Nat.ne_of_lt (below a ha))
  · have unbroken₁ := unbroken_congr (works.queue.labels admits.sound).symm unbroken
    have marked := works.queue.marked (admits.mode.trans mode) lo hi unbroken₁
    have open' : (s.newEntry r).newlyDone (s.startedEntry r) = [] := if_pos rfl
    rw [open', List.append_nil] at marked
    exact marked.trans (admits.marked mode lo hi unbroken₁)
  · rw [works.told, admits.told, admits.now, List.append_assoc]
    rfl

/-! ## Emission -/

/-- The entries `drained` leave the queue and are emitted. -/
structure Emits (s s' : Stage) (drained : List Entry) : Prop where
  setup : s'.setup = s.setup
  now : s'.now = s.now
  retrying : s'.retrying = s.retrying
  nextId : s'.nextId = s.nextId
  status : s'.status = s.status
  timers : s'.timers = s.timers
  mailbox : s'.mailbox = s.mailbox
  mode : s'.queue.mode = s.queue.mode
  capacity : s'.queue.capacity = s.queue.capacity
  queue : s.queue.Drains drained s'.queue
  output : s'.output.elements.toList = s.output.elements.toList ++ drained.flatMap Entry.rendering
  told : s'.told = s.told ++ (drained.map Event.released).map (Note.mk s.now)

theorem elements_foldl_emit (es : List Element) (o : Output) :
    (es.foldl Output.emit o).elements.toList = o.elements.toList ++ es := by
  induction es generalizing o with
  | nil => simp
  | cons e es ih => simp [ih, Output.emit]

/-- Emitting one entry notes it and adds its rendering to the output. -/
theorem release_emits (s : Stage) (e : Entry) :
    ∃ history output, s.release e = { s with history := history, output := output } ∧
      (s.release e).told = s.told ++ [⟨s.now, .released e⟩] ∧
      output.elements.toList = s.output.elements.toList ++ e.rendering := by
  have told : ((s.measure (.added .inFlight (-1))).note (.released e)).told =
      s.told ++ [⟨s.now, .released e⟩] := by
    rw [told_note rfl, told_measure]
    rfl
  unfold release
  cases e with
  | watermark id t => exact ⟨_, _, rfl, told, elements_foldl_emit _ _⟩
  | record r =>
    obtain ⟨id, record, enqueuedAt, slot, retry, timer, signal⟩ := r
    cases slot with
    | pending => exact ⟨_, _, rfl, told, elements_foldl_emit _ _⟩
    | failed error => exact ⟨_, _, rfl, told, elements_foldl_emit _ _⟩
    | completed values => exact ⟨_, _, rfl, (told_measure _ _).trans told, elements_foldl_emit _ _⟩

theorem foldl_release (drained : List Entry) (s : Stage) :
    ∃ history output, drained.foldl release s = { s with history := history, output := output } ∧
      (drained.foldl release s).told = s.told ++ (drained.map Event.released).map (Note.mk s.now) ∧
      output.elements.toList = s.output.elements.toList ++ drained.flatMap Entry.rendering := by
  induction drained generalizing s with
  | nil => exact ⟨s.history, s.output, rfl, by simp, by simp⟩
  | cons e drained ih =>
    obtain ⟨history, output, same, told, elements⟩ := release_emits s e
    obtain ⟨history', output', same', told', elements'⟩ := ih (s.release e)
    refine ⟨history', output', same'.trans (by rw [same]), ?_, ?_⟩
    · rw [List.foldl_cons, told', told, same]
      simp
    · rw [elements', same, elements]
      simp

theorem emitReady_emits (sound : s.queue.Sound) : ∃ drained, Emits s s.emitReady drained := by
  unfold emitReady
  split
  · obtain ⟨history, output, same, told, elements⟩ :=
      foldl_release s.queue.drain.1 { s with queue := s.queue.drain.2 }
    refine ⟨s.queue.drain.1, ?_⟩
    rw [same] at told
    simp only [same]
    exact ⟨rfl, rfl, rfl, rfl, rfl, rfl, rfl, Queue.mode_drain, Queue.capacity_drain, Queue.drain_drains sound,
      elements, told⟩
  · have none : s.queue.Drains [] s.queue :=
      ⟨.refl _, .refl _, sound.increasing.imp fun lt => Entry.before_of_lt lt, by simp, fun _ => rfl, sound⟩
    exact ⟨[], rfl, rfl, rfl, rfl, rfl, rfl, rfl, rfl, rfl, none, by simp, by simp⟩

end Stage

end AsyncStage
