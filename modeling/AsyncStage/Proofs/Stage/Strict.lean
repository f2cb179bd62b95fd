import AsyncStage.Proofs.Stage.Balance

/-!
# Turns without defaults

The handlers of a stage have an answer for everything: a number without an entry is passed over, an entry without
a result is dropped when it is emitted, an outcome or an instant that was not recorded is replaced. Here they
are once more, but strict: a handler that would need such an answer has none, and neither has what calls it.
A turn of a stage never needs one.
-/

namespace AsyncStage.Stage.Strict

/-! ## Strict handlers -/

/-- The record entry of this number, if it is in the queue and has no result. -/
def openEntry (s : Stage) (id : EntryId) : Option RecordEntry := (s.queue.find? id).filter (!·.isDone)

/-- Gives a result to an entry that has none. -/
def resolve (s : Stage) (id : EntryId) (result : Resolution) : Option Stage := do
  let _ ← openEntry s id
  return s.resolve id result

/-- Starts an attempt of an entry without a result. -/
def startAttempt (s : Stage) (id : EntryId) : Option Stage := do
  let _ ← openEntry s id
  return s.startAttempt id

/-- How long to wait before the next attempt, if this outcome is to be followed by one. It is known when the first
attempt started. -/
def retryBackoff? (s : Stage) (e : RecordEntry) (c : Completion) : Option (Option Duration) := do
  let first ← e.retry.firstAttempt
  let backoff := s.setup.retry.backoffBefore c.attempt
  return if s.retrying && s.setup.retry.shouldRetry c.attempt c.outcome then
      if timeAllows s.setup.timeout first s.now backoff then some backoff else none
    else
      none

/-- Takes up a completion. If the attempt is outstanding, it is known when it started. -/
def apply (s : Stage) (c : Completion) : Option Stage :=
  match s.queue.find? c.entry with
  | none => some s
  | some e =>
    if e.accepts c.attempt then do
      let started ← e.retry.attemptStarted
      let s := (s.update c.entry fun e => { e with signal := none }).note (.applied c)
      let s := s.measure (.attemptTook (s.now.elapsed started))
      match ← retryBackoff? s e c with
      | some backoff => some (s.scheduleRetry c backoff)
      | none => resolve s c.entry (.ofOutcome c.outcome)
    else
      some s

/-- Starts the next attempt of an entry without a result. -/
def startRetry (s : Stage) (id : EntryId) : Option Stage := do
  let _ ← openEntry s id
  startAttempt (s.update id fun e => { e with retry := e.retry.withoutWaiting }) id

/-- Ends an entry without a result, whose first attempt has started. -/
def expire (s : Stage) (id : EntryId) : Option Stage := do
  let e ← openEntry s id
  let first ← e.retry.firstAttempt
  let s := s.update id fun e => { e with deadlineTimer := none }
  let s := (s.cancelAttempt e).update id fun e => { e with signal := none }
  resolve (s.measure (.added .timeouts 1)) id (.error (.timeout (s.now.elapsed first) e.retry.attempts))

def fireTimer (s : Stage) : TimerTarget → Option Stage
  | .retry id => startRetry s id
  | .deadline id => expire s id

/-- Fires the timers that are due, at most `n` of them. -/
def fireUpTo : Nat → Stage → Option Stage
  | 0, s => some s
  | n + 1, s =>
    match s.timers.popDue s.now with
    | none => some s
    | some (target, timers) => do fireUpTo n (← fireTimer { s with timers := timers } target)

/-- Emits a watermark, or a record that has its final values. -/
def release (s : Stage) : Entry → Option Stage
  | .watermark id t => some (s.release (.watermark id t))
  | .record r =>
    match r.slot with
    | .completed _ => some (s.release (.record r))
    | .pending => none
    | .failed _ => none

/-- Emits every entry that may leave the queue. -/
def emitReady (s : Stage) : Option Stage :=
  if s.queue.hasReady then s.queue.drain.1.foldlM release { s with queue := s.queue.drain.2 } else some s

/-- Takes up every completion in the mailbox. -/
def readMail (s : Stage) : Option Stage := s.mailbox.foldlM apply { s with mailbox := [] }

/-- One turn: mail, timers, emission. -/
def turn (s : Stage) : Option Stage := do
  let s ← readMail s
  let s ← fireUpTo s.timers.size s
  emitReady s

/-- Resolves an entry that awaits a retry with the outcome of its last attempt, which is known. Once the stage has
ended nothing is resolved any more. -/
def cutShort (s : Stage) (id : EntryId) : Option Stage :=
  if s.isRunning then do
    let e ← openEntry s id
    let outcome ← e.retry.lastOutcome
    let s := (s.cancelTimer e.retry.retryTimer).update id fun e => { e with retry := e.retry.withoutWaiting }
    resolve s id (.ofOutcome outcome)
  else
    some s

/-! ## What the handlers need is there -/

variable {s s₁ : Stage} {e e₁ : RecordEntry} {pre : List Event}

/-- Folding over a list with a step that has an answer as long as `P` holds. -/
theorem foldlM_eq_some {σ β : Type} {f : σ → β → σ} {f? : σ → β → Option σ} {P : σ → Prop} {l : List β} {a : σ}
    (keeps : ∀ a b, P a → P (f a b)) (same : ∀ a, P a → ∀ b ∈ l, f? a b = some (f a b)) (start : P a) :
    l.foldlM f? a = some (l.foldl f a) := by
  induction l generalizing a with
  | nil => rfl
  | cons b l ih =>
    rw [List.foldlM_cons, same a start b List.mem_cons_self, List.foldl_cons]
    exact ih (fun a p b' hb => same a p b' (List.mem_cons_of_mem _ hb)) (keeps a b start)

theorem openEntry_eq_some (sound : s.queue.Sound) (here : .record e ∈ s.entries) (opened : e.isDone = false) :
    openEntry s e.id = some e := by
  rw [openEntry, Queue.find?_of_mem sound here, Option.filter_some, if_pos (by simp [opened])]

theorem resolve_eq_some (sound : s.queue.Sound) (here : .record e ∈ s.entries) (opened : e.isDone = false)
    (result : Resolution) : resolve s e.id result = some (s.resolve e.id result) := by
  rw [resolve, openEntry_eq_some sound here opened]
  rfl

theorem startAttempt_eq_some (sound : s.queue.Sound) (here : .record e ∈ s.entries) (opened : e.isDone = false) :
    startAttempt s e.id = some (s.startAttempt e.id) := by
  rw [startAttempt, openEntry_eq_some sound here opened]
  rfl

/-- After work on an entry that keeps its number and gives it no result, it can still be resolved. -/
theorem resolve_of_works (w : Works s s₁ e e₁ pre) (sound : s.queue.Sound) (opened : e₁.isDone = false)
    (result : Resolution) : resolve s₁ e.id result = some (s₁.resolve e.id result) :=
  w.queue.id ▸ resolve_eq_some w.queue.sound (w.there sound) opened result

theorem retryBackoff?_eq_some {first : Instant} (started : e.retry.firstAttempt = some first) (c : Completion) :
    retryBackoff? s e c = some (s.retryBackoff? e c) := by
  rw [retryBackoff?, Stage.retryBackoff?, started]
  rfl

/-- Taking up a completion needs no default. -/
theorem apply_eq_some (h : s.Sound) (begun : s.Begun) (c : Completion) : apply s c = some (s.apply c) := by
  unfold apply Stage.apply
  cases found : s.queue.find? c.entry with
  | none => rfl
  | some e =>
    obtain ⟨here, names⟩ := (Queue.find?_eq_some_iff h.queue).1 found
    cases accepted : e.accepts c.attempt with
    | false => simp only [accepted, Bool.false_eq_true, if_false]
    | true =>
      obtain ⟨first, at'⟩ := h.at_of_accepts here accepted
      obtain ⟨started, began⟩ := Option.isSome_iff_exists.1 (begun e here)
      have firstAttempt : e.retry.firstAttempt = some first := by cases at'; assumption
      have w := take_works h.queue here names
      simp only [measureAttempt, began] at w
      simp only [accepted, if_true, began, measureAttempt, Option.bind_eq_bind, Option.bind_some]
      generalize Stage.measure _ _ = s₁ at w ⊢
      rw [retryBackoff?_eq_some firstAttempt, Option.bind_some]
      cases s₁.retryBackoff? e c with
      | some backoff => rfl
      | none =>
        rw [← names]
        exact resolve_of_works w h.queue (RecordEntry.isDone_of_accepts accepted) _

/-- **Reading the mail** needs no default. -/
theorem readMail_eq_some (b : s.Balanced) : readMail s = some s.readMail :=
  foldlM_eq_some (P := Balanced) (fun _ c b => b.apply c) (fun _ b c _ => apply_eq_some b.sound b.begun c)
    (b.quiet (quiet_mailbox s []) fun _ => rfl)

/-- A retry that starts finds its entry, which has no result. -/
theorem startRetry_eq_some (sound : s.queue.Sound) (here : .record e ∈ s.entries) (opened : e.isDone = false) :
    startRetry s e.id = some (s.startRetry e.id) := by
  have found := Queue.find?_of_mem sound here
  have w := (Works.refl sound here).update sound (f := fun e => { e with retry := e.retry.withoutWaiting })
    (fun _ => rfl) (fun _ => rfl) (fun _ => rfl)
  rw [startRetry, openEntry_eq_some sound here opened, Stage.startRetry, found]
  exact startAttempt_eq_some (e := { e with retry := e.retry.withoutWaiting }) w.queue.sound (w.there sound) opened

/-- A deadline that passes finds its entry, which has no result and has started its first attempt. -/
theorem expire_eq_some (sound : s.queue.Sound) (here : .record e ∈ s.entries) (opened : e.isDone = false)
    {first : Instant} (started : e.retry.firstAttempt = some first) : expire s e.id = some (s.expire e.id) := by
  have found := Queue.find?_of_mem sound here
  have unset := (Works.refl sound here).update sound (f := fun e => { e with deadlineTimer := none })
    (fun _ => rfl) (fun _ => rfl) (fun _ => rfl)
  have w := ((unset.cancelAttempt e).update sound (f := fun e => { e with signal := none })
    (fun _ => rfl) (fun _ => rfl) (fun _ => rfl)).measure (.added .timeouts 1)
  rw [expire, openEntry_eq_some sound here opened, Stage.expire, found]
  simp only [opened, started, bind, Option.bind, Bool.false_eq_true, if_false]
  exact resolve_of_works w sound opened _

/-- A timer that fires finds its entry. -/
theorem fireTimer_eq_some (h : s.Sound) {target : TimerTarget} {rest : TimerQueue}
    (popped : s.timers.popDue s.now = some (target, rest)) :
    fireTimer { s with timers := rest } target = some ({ s with timers := rest }.fireTimer target) := by
  obtain ⟨key, pops⟩ := h.fires popped
  cases pops.fires with
  | retried e here at' => exact startRetry_eq_some (s := { s with timers := rest }) h.queue here at'.waits.1
  | expired e here opened started =>
    exact expire_eq_some (s := { s with timers := rest }) h.queue here opened started

/-- **Firing the timers** needs no default. -/
theorem fireUpTo_eq_some (b : s.Balanced) (n : Nat) : fireUpTo n s = some (Stage.fireUpTo n s) := by
  induction n generalizing s with
  | zero => rfl
  | succ n ih =>
    unfold fireUpTo Stage.fireUpTo
    cases popped : s.timers.popDue s.now with
    | none => rfl
    | some p =>
      obtain ⟨target, rest⟩ := p
      simp only [fireTimer_eq_some b.sound popped]
      exact ih (b.fireTimer popped)

/-- A record that has its final values is not dropped when it is emitted. -/
theorem release_eq_some (s : Stage) {a : Entry}
    (completed : ∀ e, a = .record e → ∃ values, e.slot = .completed values) : release s a = some (s.release a) := by
  cases a with
  | watermark id t => rfl
  | record r =>
    obtain ⟨values, slot⟩ := completed r rfl
    simp only [release, slot]

/-- **Emission** needs no default: what leaves the queue has its final values. -/
theorem emitReady_eq_some (h : s.Sound) : emitReady s = some s.emitReady := by
  unfold emitReady Stage.emitReady
  split
  · have drains := Queue.drain_drains h.queue
    refine foldlM_eq_some (P := fun _ => True) (fun _ _ _ => trivial) (fun t _ a ha => ?_) trivial
    refine release_eq_some t fun e same => ?_
    subst same
    have here : .record e ∈ s.entries := drains.perm.subset (List.mem_append_left _ ha)
    obtain ⟨progress, at'⟩ := h.standing e here
    obtain ⟨values, rfl⟩ := at'.of_isDone (drains.done _ ha)
    cases at' with
    | done slot => exact ⟨values, slot⟩
  · rfl

/-- **A turn needs no default.** -/
theorem turn_eq_some (b : s.Balanced) : turn s = some s.turn := by
  have fired := b.readMail.fireUpTo s.readMail.timers.size
  simp only [turn, readMail_eq_some b, bind, Option.bind, fireUpTo_eq_some b.readMail]
  exact emitReady_eq_some fired.sound

/-- **Giving up a retry** needs no default: the outcome of its last attempt is known. -/
theorem cutShort_eq_some (h : s.Sound) (here : .record e ∈ s.entries) (waits : e.retry.isWaiting = true) :
    cutShort s e.id = some (s.cutShort e.id) := by
  obtain ⟨_, _, outcome, _, at', -⟩ := h.cutsShort here waits
  have found := Queue.find?_of_mem h.queue here
  have kept : e.retry.lastOutcome = some outcome := by cases at'; assumption
  have w := ((Works.refl h.queue here).cancelTimer e.retry.retryTimer).update h.queue
    (f := fun e => { e with retry := e.retry.withoutWaiting }) (fun _ => rfl) (fun _ => rfl) (fun _ => rfl)
  rw [cutShort, if_pos (h.isRunning_of_mem here), openEntry_eq_some h.queue here at'.waits.1, Stage.cutShort, found]
  simp only [kept, bind, Option.bind, Option.getD_some]
  exact resolve_of_works w h.queue at'.waits.1 _

/-- The end of the input gives up every awaited retry without a default. -/
theorem foldlM_cutShort (h : s.Sound) (running : s.isRunning = true) :
    s.waitingIds.foldlM cutShort { s with retrying := false } = some s.withoutRetries := by
  refine cutShorts_induction (P := fun s ids => ids.foldlM cutShort s = some (ids.foldl Stage.cutShort s))
    (fun _ => rfl) ?_ ?_ s.waitingIds (h.step (.inputEnded running rfl)) rfl (waitingIds_nodup h)
    fun _ hid _ => mem_waitingIds.1 hid
  · intro s id ids h stopped later
    have passed : cutShort s id = some s := if_neg (by simp [stopped])
    rw [List.foldlM_cons, passed, List.foldl_cons, cutShort_of_ended h stopped]
    exact later
  · intro s e ids h ended here waits later
    rw [List.foldlM_cons, cutShort_eq_some h here waits, List.foldl_cons]
    exact later

end AsyncStage.Stage.Strict
