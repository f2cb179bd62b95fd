import AsyncStage.Proofs.Stage.Retries
import AsyncStage.Proofs.Stage.Timeouts

/-!
# Late retries

A retry is planned only if it is to start before the time of its record is up. But timers fire in
turns, and a turn may come late, so that both the retry and the deadline are overdue. Then the
retry fires first: the attempt is started after the time is up, and the same turn ends it with the
timeout.
-/

namespace AsyncStage.Stage

variable {s s' f : Stage} {e : RecordEntry} {id : EntryId} {attempt n : Nat} {first : Instant} {span : Duration}
  {value : String} {box : MailboxId}

/-- What becomes of a record whose attempt has been started while timers fire. -/
inductive AfterStart (s : Stage) (id : EntryId) (n : Nat) (now : Instant) : Prop where
  | stopped (ended : s.isRunning = false)
  | outstanding (e : RecordEntry) (here : .record e ∈ s.entries) (names : e.id = id) (first : Instant)
      (at' : e.At (.outstanding n first))
  /-- The time of the record was up. -/
  | expired (elapsed : Duration) (told : ⟨now, .resolved id (.error (.timeout elapsed n))⟩ ∈ s.told)

theorem AfterStart.pops (a : AfterStart s id n s.now) (h : s.Sound) {key : TimerKey} {target : TimerTarget}
    {rest : TimerQueue} (pops : Pops s s' key target rest) : AfterStart s' id n s.now := by
  cases a with
  | stopped ended => exact .stopped (pops.lasts.stopped ended)
  | expired elapsed told => exact .expired elapsed ((told_extends (.single (.fired pops))).subset told)
  | outstanding e here names first at' =>
    cases running : s'.isRunning with
    | false => exact .stopped running
    | true =>
      cases pops.fires with
      | retried a ha at'' set works =>
        refine .outstanding e ((works.queue.mem_iff h.queue).2 (.inr ⟨here, fun same => ?_⟩)) names first at'
        obtain rfl := h.record_eq here ha same
        cases at'.unique at''
      | @expired a ha opened first' span started timeout deadline resolves =>
        by_cases same : e.id = a.id
        · obtain rfl := h.record_eq here ha same
          cases at' with
          | outstanding slot counted =>
            rw [← names, ← counted]
            exact .expired _ (resolves.noted (List.mem_append_right _ (List.mem_singleton_self _)))
        · exact .outstanding e (resolves.others h running here same) names first at'

/-- A timer starts an attempt, which is outstanding then. -/
theorem Pops.started {key : TimerKey} {target : TimerTarget} {rest : TimerQueue} (p : Pops s s' key target rest)
    (h : s.Sound) {t : Instant} (told : ⟨t, .invoked ⟨id, n, value, box⟩⟩ ∈ s'.told)
    (fresh : ⟨t, .invoked ⟨id, n, value, box⟩⟩ ∉ s.told) : AfterStart s' id n s.now := by
  obtain ⟨-, cause⟩ := (Step.fired p).cause h told fresh
  cases cause with
  | invoked e there signal =>
    obtain ⟨progress, at'⟩ := (h.step (.fired p)).standing e there
    obtain ⟨first, rfl⟩ := at'.of_signal signal
    exact .outstanding e there rfl first at'

theorem Expires.started (expires : Expires s s') (h : s.Sound) {t : Instant}
    (told : ⟨t, .invoked ⟨id, n, value, box⟩⟩ ∈ s'.told) (fresh : ⟨t, .invoked ⟨id, n, value, box⟩⟩ ∉ s.told) :
    AfterStart s' id n s.now := by
  induction expires with
  | refl => exact absurd told fresh
  | @tail v s' before last ih =>
    obtain ⟨key, target, rest, pops⟩ := last
    have sound := h.steps (steps_of_expires before)
    rw [← (Expires.notes before).now] at ih ⊢
    by_cases old : ⟨t, .invoked ⟨id, n, value, box⟩⟩ ∈ v.told
    · exact (ih old).pops sound pops
    · exact pops.started sound told old

/-- **A retry that is late is in vain.** The turn that starts it when the time of its record is up
resolves the record with a timeout, unless the stage ends in it. -/
theorem Kept.late_start (h : s.Kept) {r : Record} (admitted : (id, Element.record r) ∈ s.turn.admitted)
    (began : ⟨first, .invoked (s.setup.call id 1 r.value)⟩ ∈ s.turn.told) (timeout : s.setup.timeout = some span)
    (late : first.after span.span ≤ s.now) (later : 0 < attempt) {t : Instant}
    (told : ⟨t, .invoked ⟨id, attempt + 1, value, box⟩⟩ ∈ s.turn.told)
    (fresh : ⟨t, .invoked ⟨id, attempt + 1, value, box⟩⟩ ∉ s.told) :
    s.turn.isRunning = false ∨ (id, .error (.timeout (s.now.elapsed first) (attempt + 1))) ∈ s.turn.resolved := by
  obtain ⟨reads, expires, drained, emits⟩ := turn_parts h.sound
  have kept := h.steps (turn_steps h.sound)
  rw [← (fixed_of_steps (turn_steps h.sound)).setup] at began
  have read := h.steps (steps_of_reads reads)
  have fired := read.steps (steps_of_expires expires)
  have again := isRetry_invoked id later value box
  have unread : ⟨t, .invoked ⟨id, attempt + 1, value, box⟩⟩ ∉ s.readMail.told := fun old => by
    have silent := Event.not_isRetry_of_not_isTimed ((Reads.notes reads).of_mem old fresh).2
    exact Bool.noConfusion (again.symm.trans silent)
  have started : ⟨t, .invoked ⟨id, attempt + 1, value, box⟩⟩ ∈ s.readMail.fireDue.told := by
    by_contra new
    cases ((emits.notes (P := fun v => v.invocation? = none) fun _ => rfl).of_mem told new).2
  have emission : Steps s.readMail.fireDue s.turn := .single (.emitted drained emits)
  have after := Expires.started expires read.sound started unread
  rw [(Reads.notes reads).now] at after
  cases after with
  | stopped ended =>
    rw [isRunning, emits.status]
    exact .inl ended
  | expired elapsed told =>
    have ended := (told_extends emission).subset told
    have result := results_toldOf.1 (List.mem_filterMap.2 ⟨_, mem_toldOf ended rfl, rfl⟩)
    obtain ⟨r', first', t', span', admitted', timedOut⟩ := kept.timedOut result
    cases kept.lined.admitted_eq admitted admitted' rfl
    obtain rfl := kept.first_eq admitted began (told_of_toldOf timedOut.began)
    obtain rfl := kept.resolved_at admitted ended (told_of_toldOf timedOut.ended)
    exact .inr (timedOut.elapsed_eq ▸ result)
  | outstanding e here names first' at' =>
    -- Its deadline is overdue, so it would have been resolved in the turn.
    have stays : .record e ∈ s.turn.entries := by
      refine (List.mem_append.1 (emits.queue.perm.mem_iff.2 here)).resolve_left fun leaves => ?_
      have done : e.isDone = true := emits.queue.done _ leaves
      rw [at'.opened] at done
      cases done
    subst names
    cases kept.lined.admitted_eq admitted (kept.lined.mem_admitted stays) rfl
    obtain rfl := kept.first_eq admitted began (kept.began stays at')
    obtain ⟨first', started', early⟩ := turn_early h.sound stays at'.opened timeout
    cases at' with
    | outstanding slot counted started =>
      obtain rfl := Option.some.inj (started.symm.trans started')
      exact absurd late (Int.not_le.2 early)

/-- The turn that begins at `u` starts another attempt of a record: it was planned before the time of
the record was up, and if the turn comes later than that, the turn ends it. -/
structure StartsPlanned (s : Stage) (actions : List Action) (u : Stage) (id : EntryId) (first : Instant)
    (attempt : Nat) (value : String) (box : MailboxId) (span : Duration) : Prop where
  planned : ∃ answered outcome, StartsAfter s actions u id first attempt value box answered outcome ∧
    answered.since first + (s.setup.retry.backoffBefore attempt).span < span.span
  late : first.nanos + span.nanos ≤ u.now.nanos → u.turn.isRunning = false ∨
    (id, .error (.timeout (u.now.elapsed first) (attempt + 1))) ∈ u.turn.resolved

/-- The turn comes a millisecond after the time of the record is up, long after its backoff. -/
def overdueRetry : List Action :=
  [.offer ⟨"a", none⟩ [], .undergo (.completes ⟨0, 1, .failure ⟨"down"⟩⟩), .poll,
    .undergo (.clockReads { nanos := 1001000000 }), .poll]

/-- **Retries are planned in time**, and when a turn comes so late that the time of the record is up,
the retry that it starts still is ended by the turn itself. -/
theorem late_retries {s : Stage} {b : Builder} {now : Instant} (built : b.build now = .ok s)
    (timeout : b.config.effectiveTimeout = some span) (actions : List Action) {r : Record}
    (admitted : (id, Element.record r) ∈ (s.run actions).admitted)
    (began : ⟨first, .invoked (s.setup.call id 1 r.value)⟩ ∈ (s.run actions).told) {t : Instant}
    (later : 0 < attempt) (called : ⟨t, .invoked ⟨id, attempt + 1, value, box⟩⟩ ∈ (s.run actions).told) :
    ∃ u, u.now = t ∧ StartsPlanned s actions u id first attempt value box span := by
  obtain ⟨u, answered, outcome, rfl, starts⟩ := startsAfter built admitted began later called
  have kept := (Kept.build built).steps (Moves.steps starts.turn.before)
  have ended := kept.steps (turn_steps kept.sound)
  have final := Kept.run built actions
  have onward := Moves.steps starts.turn.after
  have set : s.setup.timeout = some span := by
    obtain ⟨retry, rfl⟩ := build_eq built
    exact timeout
  obtain ⟨span', limit, time⟩ := starts.follows.time
  obtain rfl := Option.some.inj (set.symm.trans limit)
  refine ⟨u, rfl, ⟨answered, outcome, starts, time⟩, fun late => ?_⟩
  have same := (fixed_of_steps (Moves.steps starts.turn.before)).setup
  have first' := began
  rw [← (fixed_of_steps (run_steps (build_sound built) actions)).setup] at first'
  obtain ⟨known, _, course⟩ := ended.course final onward admitted first' (mem_toldOf starts.turn.told rfl)
  have overdue : first.after span.span ≤ u.now := by
    have bound := first.nanos_after_le span.span
    have short := span.span_le_nanos
    rw [Instant.le_iff]
    omega
  have called' := told_of_toldOf course.began
  rw [(fixed_of_steps (turn_steps kept.sound)).setup] at called'
  exact kept.late_start known called' (same ▸ set) overdue later starts.turn.told starts.turn.fresh

/-- The second attempt is started when the second is over, and ended at once. -/
theorem late_retries_overdueRetry : ∃ s, patient.build .epoch = .ok s ∧
    ∃ u, u.now = { nanos := 1001000000 } ∧ StartsPlanned s overdueRetry u 0 .epoch 1 "a" 0 (.ofMillis 1000) := by
  have built : patient.build .epoch = .ok (start patient tenths .epoch) := rfl
  exact ⟨_, built, late_retries built (by decide) overdueRetry (r := ⟨"a", none⟩) (by decide +kernel)
    (by decide +kernel) Nat.one_pos (by decide +kernel)⟩

/-- So not every attempt is started before the time of its record is up. -/
theorem not_all_started_in_time : ¬ ∀ (b : Builder) (now : Instant) (s : Stage) (span : Duration),
    b.build now = .ok s → b.config.effectiveTimeout = some span → s.setup.retry.enabled = true →
    ∀ actions id r (first t : Instant) attempt value box, (id, Element.record r) ∈ (s.run actions).admitted →
      ⟨first, .invoked (s.setup.call id 1 r.value)⟩ ∈ (s.run actions).told →
      first.nanos + span.nanos ≤ Instant.latest.nanos → 0 < attempt →
      ⟨t, .invoked ⟨id, attempt + 1, value, box⟩⟩ ∈ (s.run actions).told →
      t.nanos < first.nanos + span.nanos := by
  intro all
  have built : patient.build .epoch = .ok (start patient tenths .epoch) := rfl
  have early := all patient .epoch _ (.ofMillis 1000) built (by decide) rfl overdueRetry 0 ⟨"a", none⟩ .epoch
    { nanos := 1001000000 } 1 "a" 0 (by decide +kernel) (by decide +kernel) (by decide) Nat.one_pos
    (by decide +kernel)
  exact absurd early (by decide)

end AsyncStage.Stage
