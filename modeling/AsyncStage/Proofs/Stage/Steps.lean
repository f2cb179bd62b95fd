import AsyncStage.Proofs.Stage.Sound
import AsyncStage.Checkpoint.Publish
import Mathlib.Logic.Relation

/-!
# Operations as steps

Between two points at which a stage is sound it takes one `Step`: a completion arrives or is
taken up, a timer fires, entries are emitted, an element is admitted, an awaited retry is given
up, or the stage is closed. Every operation, with whatever happens while it is under way, is a
sequence of such steps. So an invariant has to be shown for a step only.
-/

namespace AsyncStage.Stage

variable {s s' s₁ : Stage} {e e' : RecordEntry} {new : List Event}

/-- What a timer does that fires, `rest` being the timers behind it. -/
inductive Fires (s s' : Stage) (key : TimerKey) (rest : TimerQueue) : TimerTarget → Prop where
  | retried (e : RecordEntry) (here : .record e ∈ s.entries) {attempt : Nat} {first : Instant}
      {outcome : Outcome} (at' : e.At (.waiting attempt first outcome key.fireAt))
      (set : e.retry.retryTimer = some key.id)
      (works : Works s s' e ({ e with retry := e.retry.withoutWaiting }.calling s.now) (s.calls (s.nextCall e)))
      (timers : s'.timers = rest) : Fires s s' key rest (.retry e.id)
  | expired (e : RecordEntry) (here : .record e ∈ s.entries) (opened : e.isDone = false) {first : Instant}
      {span : Duration} (started : e.retry.firstAttempt = some first) (timeout : s.setup.timeout = some span)
      (deadline : key.fireAt = first.after span.span)
      (resolves : Resolves s s' e (.error (.timeout (s.now.elapsed first) e.retry.attempts)) (s.expiry e first)) :
      Fires s s' key rest (.deadline e.id)

/-- The oldest completion is taken up. -/
structure Takes (s s' : Stage) (c : Completion) (rest : List Completion) : Prop where
  mail : s.mailbox = c :: rest
  applies : Applies { s with mailbox := rest } s' c

/-- The first timer fires, and it is due. -/
structure Pops (s s' : Stage) (key : TimerKey) (target : TimerTarget) (rest : TimerQueue) : Prop where
  first : s.timers.toList = (key, target) :: rest.toList
  due : key.fireAt ≤ s.now
  sound : rest.Sound
  fires : Fires s s' key rest target

/-- One step of a stage. -/
inductive Step (s s' : Stage) : Prop where
  | posted (c : Completion) (same : s' = s.post c)
  | clock (time : Instant) (same : s' = { s with now := time })
  | took {c : Completion} {rest : List Completion} (takes : Takes s s' c rest)
  | fired {key : TimerKey} {target : TimerTarget} {rest : TimerQueue} (pops : Pops s s' key target rest)
  | emitted (drained : List Entry) (emits : Emits s s' drained)
  | admittedRecord (r : Record) (running : s.isRunning = true)
      (admits : Admits s s' (.record (s.startedEntry r)) (s.calls (s.setup.call s.nextId 1 r.value)))
      (timers : s'.timers = s.armed s.nextId)
  | admittedWatermark (t : Timestamp) (running : s.isRunning = true)
      (admits : Admits s s' (.watermark s.nextId t) []) (timers : s'.timers = s.timers)
  | inputEnded (running : s.isRunning = true) (same : s' = { s with retrying := false })
  | cutShort (e : RecordEntry) (here : .record e ∈ s.entries) (ended : s.retrying = false) {attempt : Nat}
      {first : Instant} {outcome : Outcome} {retryAt : Instant}
      (at' : e.At (.waiting attempt first outcome retryAt))
      (resolves : Resolves s s' e (.ofOutcome outcome) [.resolved e.id (.ofOutcome outcome)])
  | forwarded (status : StreamStatus) (same : s' = { s with output := s.output.emitStatus status })
  | measured (m : Measurement) (same : s' = s.measure m)
  | closed (running : s.isRunning = true) (ends : Ends s s' .closed)

/-- Any number of steps. -/
abbrev Steps : Stage → Stage → Prop := Relation.ReflTransGen Step

/-- Completions are taken up, one after the other. -/
abbrev Reads : Stage → Stage → Prop := Relation.ReflTransGen fun s s' => ∃ c rest, Takes s s' c rest

/-- Timers fire, one after the other. -/
abbrev Expires : Stage → Stage → Prop :=
  Relation.ReflTransGen fun s s' => ∃ key target rest, Pops s s' key target rest

theorem steps_of_reads (reads : Reads s s') : Steps s s' :=
  Relation.ReflTransGen.mono (fun _ _ ⟨_, _, takes⟩ => .took takes) _ _ reads

theorem steps_of_expires (expires : Expires s s') : Steps s s' :=
  Relation.ReflTransGen.mono (fun _ _ ⟨_, _, _, pops⟩ => .fired pops) _ _ expires

section Between

variable (rel : Stage → Stage → Prop) (refl : ∀ s, rel s s) (trans : ∀ {s t u}, rel s t → rel t u → rel s u)

include refl trans

/-- What holds between the stages before and after each completion holds between those before and after
the mail. -/
theorem Reads.between (reads : Reads s s')
    (takes : ∀ {s t c rest}, Takes s t c rest → rel s t) : rel s s' := by
  induction reads with
  | refl => exact refl s
  | tail _ last ih =>
    obtain ⟨c, rest, last⟩ := last
    exact trans ih (takes last)

/-- What holds between the stages before and after each timer holds between those before and after all of
them. -/
theorem Expires.between (expires : Expires s s')
    (pops : ∀ {s t key target rest}, Pops s t key target rest → rel s t) : rel s s' := by
  induction expires with
  | refl => exact refl s
  | tail _ last ih =>
    obtain ⟨key, target, rest, last⟩ := last
    exact trans ih (pops last)

end Between

namespace Sound

/-- The timer that fires first. -/
theorem fires (h : s.Sound) {target : TimerTarget} {rest : TimerQueue}
    (popped : s.timers.popDue s.now = some (target, rest)) :
    ∃ key, Pops s ({ s with timers := rest }.fireTimer target) key target rest := by
  obtain ⟨key, due, list, sound⟩ := TimerQueue.toList_of_popDue h.timers popped
  obtain ⟨e, here, owns⟩ := (h.owned (key, target)).1 (list ▸ List.mem_cons_self)
  refine ⟨key, list, due, sound, ?_⟩
  obtain ⟨progress, at'⟩ := h.standing e here
  have start := (Works.refl h.queue here).setTimers rest
  rcases owns with ⟨rfl, set, first, span, started, timeout, deadline⟩ | ⟨rfl, set, fires⟩
  · have opened := (at'.of_deadline set).1
    have nodup := s.timers.toList_nodup
    rw [list, List.nodup_cons] at nodup
    have gone : ∀ p ∈ rest.toList, e.deadlineTimer ≠ some p.1.id := by
      intro p hp same
      have first' := h.timers.eq_of_id_eq (list ▸ List.mem_cons_of_mem _ hp) (list ▸ List.mem_cons_self)
        (Option.some.inj (same.symm.trans set))
      exact nodup.1 (first' ▸ hp)
    have left : ∀ p, Spared { s with timers := rest } e p ↔ s.Spared e p := by
      intro p
      change p ∈ rest.toList ∧ _ ↔ p ∈ s.timers.toList ∧ _
      rw [list, List.mem_cons]
      constructor
      · rintro ⟨hp, other⟩
        exact ⟨.inr hp, other⟩
      · rintro ⟨rfl | hp, other⟩
        · exact absurd set other.1
        · exact ⟨hp, other⟩
    have expired : Resolves s _ e _ ([] ++ s.expiry e first) :=
      (expire_resolves (s := { s with timers := rest }) h.queue sound here opened started gone).after
        start h.queue (fun _ => rfl) left
    exact .expired e here opened started timeout deadline expired
  · cases at' with
    | outstanding _ _ _ timer => simp [timer] at set
    | done _ timer => simp [timer] at set
    | waiting slot attempts started timer set' fires' kept signal =>
      obtain rfl := Option.some.inj (fires.symm.trans fires')
      obtain ⟨works, timers⟩ := startRetry_works (s := { s with timers := rest }) h.queue here started
      exact .retried e here (.waiting slot attempts started timer set' fires' kept signal) set
        (start.trans h.queue works) timers

/-- An awaited retry that is given up. -/
theorem cutsShort (h : s.Sound) (here : .record e ∈ s.entries) (waits : e.retry.isWaiting = true) :
    ∃ attempt first outcome retryAt, e.At (.waiting attempt first outcome retryAt) ∧
      Resolves s (s.cutShort e.id) e (.ofOutcome outcome) [.resolved e.id (.ofOutcome outcome)] := by
  obtain ⟨progress, at'⟩ := h.standing e here
  cases at' with
  | outstanding _ _ _ timer => simp [RetryContext.isWaiting, timer] at waits
  | done _ timer => simp [RetryContext.isWaiting, timer] at waits
  | waiting slot attempts started timer set fires kept signal =>
    have opened : e.isDone = false := by simp [RecordEntry.isDone, slot, Slot.isFinal]
    exact ⟨_, _, _, _, .waiting slot attempts started timer set fires kept signal,
      cutShort_resolves h.queue h.timers here opened signal kept⟩

/-- A retry that starts: its timer is gone, and the deadline stays. -/
theorem retries (h : s.Sound) (here : .record e ∈ s.entries) {key : TimerKey} {rest : TimerQueue}
    (list : s.timers.toList = (key, .retry e.id) :: rest.toList) (sound : rest.Sound) {attempt : Nat}
    {first : Instant} {outcome : Outcome} (at' : e.At (.waiting attempt first outcome key.fireAt))
    (set : e.retry.retryTimer = some key.id)
    (works : Works s s' e ({ e with retry := e.retry.withoutWaiting }.calling s.now) new)
    (timers : s'.timers = rest) : s'.Sound := by
  obtain ⟨slot, started⟩ : e.slot = .pending ∧ e.retry.firstAttempt = some first := by
    cases at' with
    | waiting slot _ started => exact ⟨slot, started⟩
  have nodup := s.timers.toList_nodup
  rw [list, List.nodup_cons] at nodup
  have own : ∀ p, e.Owns s.setup.timeout p → p ∈ s.timers.toList := fun p owns => (h.owned p).2 ⟨e, here, owns⟩
  refine h.works works (timers ▸ sound) ⟨.outstanding (e.retry.attempts + 1) first, ?_⟩ (h.armed e here) fun p => ?_
  · exact .outstanding slot rfl (by simp [RecordEntry.calling, RetryContext.withoutWaiting, started]) rfl rfl
  · have deadline : ({ e with retry := e.retry.withoutWaiting }.calling s.now).Owns s.setup.timeout p ↔
        e.Owns s.setup.timeout p ∧ p.2 = .deadline e.id := by
      simp only [RecordEntry.Owns, RecordEntry.calling, RetryContext.withoutWaiting, started,
        Option.getD_some, reduceCtorEq, and_false, or_false]
      constructor
      · exact fun owns => ⟨.inl owns, owns.1⟩
      · rintro ⟨owns | ⟨target, -⟩, deadline⟩
        · exact owns
        · rw [deadline] at target
          cases target
    rw [timers, deadline]
    constructor
    · intro hp
      have old : p ∈ s.timers.toList := list ▸ List.mem_cons_of_mem _ hp
      by_cases owns : e.Owns s.setup.timeout p
      · rcases owns with owns | ⟨target, set', fires⟩
        · exact .inr ⟨.inl owns, owns.1⟩
        · have popped := h.timers.eq_of_id_eq old (list ▸ List.mem_cons_self)
            (Option.some.inj (set'.symm.trans set))
          exact absurd (popped ▸ hp) nodup.1
      · exact .inl ⟨old, owns⟩
    · rintro (⟨old, foreign⟩ | ⟨owns, target⟩)
      · rw [list, List.mem_cons] at old
        refine old.resolve_left fun popped => foreign ?_
        subst popped
        exact h.owns_of_retry here (list ▸ List.mem_cons_self) set
      · have old := own p owns
        rw [list, List.mem_cons] at old
        apply old.resolve_left
        intro popped
        subst popped
        cases target

/-- **Every step keeps a stage sound.** -/
theorem step (h : s.Sound) (step : Step s s') : s'.Sound := by
  cases step with
  | posted c same => exact same ▸ h.quiet (quiet_post s c)
  | clock time same => exact same ▸ h.quiet (quiet_clock s time)
  | @took c rest takes => exact (h.quiet (quiet_mailbox s rest)).applies takes.applies
  | fired pops =>
    obtain ⟨list, due, sound, fires⟩ := pops
    cases fires with
    | retried e here at' set works timers => exact h.retries here list sound at' set works timers
    | expired e here opened started timeout deadline resolves => exact h.resolves here resolves
  | emitted drained emits => exact h.emits emits
  | admittedRecord r running admits timers => exact h.admitRecord running admits timers
  | admittedWatermark t running admits timers => exact h.admitWatermark running admits timers
  | inputEnded running same => exact same ▸ h.quiet (quiet_inputEnded s)
  | cutShort e here ended at' resolves => exact h.resolves here resolves
  | forwarded status same => exact same ▸ h.quiet (quiet_forwarded s status)
  | measured m same => exact same ▸ h.quiet (quiet_measure s m)
  | closed running stopped => exact ends stopped

theorem steps (h : s.Sound) (steps : Steps s s') : s'.Sound := by
  induction steps with
  | refl => exact h
  | tail _ last ih => exact ih.step last

end Sound

end AsyncStage.Stage
