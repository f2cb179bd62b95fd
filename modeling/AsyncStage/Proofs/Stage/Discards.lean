import AsyncStage.Proofs.Stage.FailStop
import AsyncStage.Proofs.Stage.Finish

/-!
# Scheduled retries

A retry that was scheduled is awaited until it starts, or until it is discarded: the time of its record
is up, the input ends, or the stage does. What is discarded stays so. The attempts that were started
are the first attempts of the records that were admitted, and the retries that were started. So the
number of attempts tells how many retries were scheduled, but for those that are awaited and those that
were discarded.
-/

namespace AsyncStage

/-- The attempt that a retry was scheduled for. -/
def Event.scheduled? : Event → Option (EntryId × Nat)
  | .scheduled id attempt _ => some (id, attempt + 1)
  | _ => none

/-! ## What the story of a record says of retries -/

section Story

variable {setup : Setup} {id : EntryId} {record : Record} {notes notes' : List Note} {progress : Progress}
  {result : Resolution} {attempts retries : Nat}

/-- The retries that some notes tell of. -/
def schedules (notes : List Note) : List (EntryId × Nat) := notes.filterMap fun n => n.event.scheduled?

@[simp] theorem schedules_append (notes notes' : List Note) :
    schedules (notes ++ notes') = schedules notes ++ schedules notes' := List.filterMap_append

/-- So many attempts were started for a record, and so many retries were scheduled, which is one less
unless the last one has not been started. -/
structure Rescheduled (setup : Setup) (id : EntryId) (record : Record) (attempts retries : Nat)
    (notes : List Note) : Prop where
  pos : 0 < attempts
  calls : invocations notes = callsOf setup id record attempts
  schedules : schedules notes = (List.range' 1 retries).map fun n => (id, n + 1)
  least : attempts ≤ retries + 1
  most : retries ≤ attempts

theorem Rescheduled.append (h : Rescheduled setup id record attempts retries notes) (uncalled : invocations notes' = [])
    (unscheduled : AsyncStage.schedules notes' = []) : Rescheduled setup id record attempts retries (notes ++ notes') :=
  { h with
    calls := by rw [invocations_append, uncalled, List.append_nil, h.calls]
    schedules := by rw [schedules_append, unscheduled, List.append_nil, h.schedules] }

/-- A retry is scheduled for each answer. -/
theorem Attempts.schedules_eq (h : Attempts setup id record notes progress) :
    schedules notes = (answers notes).map fun n => (id, n + 1) := by
  induction h with
  | started t => rfl
  | scheduled before t outcome wanted time ih =>
    rw [schedules_append, answers_append, List.map_append, ih]
    rfl
  | retried before t due ih =>
    rw [schedules_append, answers_append, List.map_append, ih]
    rfl

theorem Attempts.rescheduled (h : Attempts setup id record notes progress) {first : Instant}
    (counts : progress.counts = some (attempts, first)) :
    Rescheduled setup id record attempts progress.answered notes := by
  have pos := h.pos counts
  have last : attempts ≤ progress.answered + 1 ∧ progress.answered ≤ attempts := by
    cases progress <;> cases counts <;> simp [Progress.answered]
    omega
  exact ⟨pos, h.invocations_eq counts, by rw [h.schedules_eq, h.answers_eq], last.1, last.2⟩

theorem schedules_cancels (id : EntryId) (progress : Progress) (t : Instant) :
    schedules ((progress.cancels id).map (Note.mk t)) = [] := by
  cases progress <;> rfl

theorem Resolved.rescheduled (h : Resolved setup id record notes result) :
    ∃ attempts retries, Rescheduled setup id record attempts retries notes := by
  cases h with
  | answered before => exact ⟨_, _, (before.rescheduled rfl).append rfl rfl⟩
  | cutShort before => exact ⟨_, _, (before.rescheduled rfl).append rfl rfl⟩
  | expired before counts timeout t late =>
    rw [List.map_append, ← List.append_assoc]
    exact ⟨_, _, ((before.rescheduled counts).append (invocations_cancels id _ t) (schedules_cancels id _ t)).append
      rfl rfl⟩

/-- **All retries of a record have been started**, but the last one perhaps. -/
theorem Story.rescheduled (h : Story setup id record notes) :
    ∃ attempts retries, Rescheduled setup id record attempts retries notes := by
  cases h with
  | unresolved attempts =>
    obtain ⟨attempt, first, counts⟩ := attempts.counts
    exact ⟨_, _, attempts.rescheduled counts⟩
  | resolved resolved => exact resolved.rescheduled
  | emitted resolved final slot t =>
    obtain ⟨attempts, retries, rescheduled⟩ := resolved.rescheduled
    exact ⟨_, _, rescheduled.append rfl rfl⟩
  | dropped attempts t =>
    obtain ⟨attempt, first, counts⟩ := attempts.counts
    exact ⟨_, _, (attempts.rescheduled counts).append (invocations_cancels id _ t) (schedules_cancels id _ t)⟩

end Story

namespace Stage

variable {s s' t u v : Stage} {e : RecordEntry} {id : EntryId} {p : EntryId × Nat}

/-! ## Where a retry stands -/

/-- The retries that were scheduled. -/
def scheduled (s : Stage) : List (EntryId × Nat) := s.events.filterMap Event.scheduled?

/-- The retries that are awaited. -/
def awaited (s : Stage) : List (EntryId × Nat) := s.waiting.map fun e => (e.id, e.retry.attempts + 1)

/-- The retries that were scheduled, that have not been started, and that nobody awaits any more. -/
def discarded (s : Stage) : List (EntryId × Nat) := s.scheduled.filter fun p => p ∉ s.started ∧ p ∉ s.awaited

/-- The records that were admitted, with their numbers. -/
def admittedRecords (s : Stage) : List (EntryId × Element) := s.admitted.filter fun p => p.2.isRecord

/-- The first attempts of these records. -/
def firstAttempts (s : Stage) : List (EntryId × Nat) := s.admittedRecords.map fun x => (x.1, 1)

theorem mem_firstAttempts : p ∈ s.firstAttempts ↔ p.2 = 1 ∧ ∃ r, (p.1, Element.record r) ∈ s.admitted := by
  simp only [firstAttempts, admittedRecords, List.mem_map, List.mem_filter, Prod.exists]
  constructor
  · rintro ⟨id, x, ⟨admitted, record⟩, rfl⟩
    cases x with
    | record r => exact ⟨rfl, r, admitted⟩
    | watermark t => cases record
  · rintro ⟨one, r, admitted⟩
    exact ⟨p.1, .record r, ⟨admitted, rfl⟩, Prod.ext rfl one.symm⟩

theorem mem_awaited : p ∈ s.awaited ↔
    ∃ e, .record e ∈ s.entries ∧ e.retry.isWaiting = true ∧ p = (e.id, e.retry.attempts + 1) := by
  simp only [awaited, List.mem_map, mem_waiting, and_assoc, eq_comm]

theorem mem_discarded : p ∈ s.discarded ↔ p ∈ s.scheduled ∧ p ∉ s.started ∧ p ∉ s.awaited := by
  simp [discarded]

theorem scheduled_filter (s : Stage) (id : EntryId) :
    s.scheduled.filter (fun p => p.1 = id) = schedules (s.toldOf id) :=
  events_filter (fun v p shown => by cases v <;> cases shown; rfl) s id

theorem mem_scheduled : p ∈ s.scheduled ↔ ∃ n ∈ s.told, n.event.scheduled? = some p := by
  rw [scheduled, events_filterMap (fun v silent => by cases v <;> first | rfl | cases silent), List.mem_filterMap]

theorem scheduled_extends (steps : Steps s s') : s.scheduled ⊆ s'.scheduled := by
  obtain ⟨new, told⟩ := told_extends steps
  have grows : s'.scheduled = s.scheduled ++ _ :=
    events_filterMap_append (fun e silent => by cases e <;> first | rfl | cases silent) told.symm
  rw [grows]
  exact List.subset_append_left _ _

section Numbers

variable {r : Record} {attempts retries n : Nat} (h : Rescheduled s.setup id r attempts retries (s.toldOf id))

include h

theorem started_iff : (id, n) ∈ s.started ↔ 0 < n ∧ n ≤ attempts := by
  have listed : (id, n) ∈ s.started ↔ (id, n) ∈ s.started.filter fun p => p.1 = id := by simp
  rw [listed, started_filter, h.calls, callsOf, List.map_map]
  simp only [List.mem_map, List.mem_range, Function.comp_apply, Setup.entry_call, Setup.attempt_call,
    Prod.mk.injEq, true_and]
  constructor
  · rintro ⟨m, less, rfl⟩
    omega
  · rintro ⟨pos, most⟩
    exact ⟨n - 1, by omega, by omega⟩

theorem scheduled_iff : (id, n) ∈ s.scheduled ↔ 1 < n ∧ n ≤ retries + 1 := by
  have listed : (id, n) ∈ s.scheduled ↔ (id, n) ∈ s.scheduled.filter fun p => p.1 = id := by simp
  rw [listed, scheduled_filter, h.schedules]
  simp only [List.mem_map, List.mem_range'_1, Prod.mk.injEq, true_and]
  constructor
  · rintro ⟨m, range, rfl⟩
    omega
  · rintro ⟨pos, most⟩
    exact ⟨n - 1, by omega, by omega⟩

end Numbers

/-- An awaited retry was scheduled, and it has not been started. -/
theorem Kept.of_awaited (h : s.Kept) (awaited : p ∈ s.awaited) : p ∈ s.scheduled ∧ p ∉ s.started := by
  obtain ⟨e, here, waits, rfl⟩ := mem_awaited.1 awaited
  obtain ⟨attempt, first, outcome, retryAt, at', -⟩ := h.sound.cutsShort here waits
  have numbers := (h.told.attempts here at' at'.waits.1).rescheduled rfl
  have current : e.retry.attempts = attempt := by
    cases at' with
    | waiting slot counted => exact counted
  rw [current, scheduled_iff numbers, started_iff numbers, Progress.answered]
  have pos := numbers.pos
  omega

/-! ## What a step does to a retry -/

/-- A retry that a step schedules is awaited then. -/
theorem Step.schedules (step : Step s s') (h : s.Sound) (listed : p ∈ s'.scheduled) :
    p ∈ s.scheduled ∨ p ∈ s'.awaited := by
  obtain ⟨n, told, shown⟩ := mem_scheduled.1 listed
  by_cases old : n ∈ s.told
  · exact .inl (mem_scheduled.2 ⟨n, old, shown⟩)
  · obtain ⟨-, cause⟩ := step.cause h told old
    generalize n.event = v at cause shown
    cases cause with
    | scheduled e timer retryAt outcome there =>
      cases shown
      exact .inr (mem_awaited.2 ⟨_, there, rfl, rfl⟩)
    | _ => cases shown

theorem mem_resolved {result : Resolution} : (id, result) ∈ s.resolved ↔ ∃ time, ⟨time, .resolved id result⟩ ∈ s.told :=
  mem_events_filterMap rfl fun v => by cases v <;> simp [Event.resolved?]

theorem started_extends (steps : Steps s s') (called : p ∈ s.started) : p ∈ s'.started := by
  obtain ⟨value, box, called⟩ := mem_started.1 called
  obtain ⟨time, told⟩ := mem_invoked.1 called
  exact mem_started.2 ⟨value, box, mem_invoked.2 ⟨time, (told_extends steps).subset told⟩⟩

/-- Nothing more is done about the record of a number. -/
def Settled (s : Stage) (id : EntryId) : Prop := s.isRunning = false ∨ id ∈ s.resolvedIds

theorem settled_of_told {time : Instant} {result : Resolution} (told : ⟨time, .resolved id result⟩ ∈ s.told) :
    s.Settled id :=
  .inr (List.mem_map_of_mem (mem_resolved.2 ⟨time, told⟩))

theorem Settled.steps (settled : s.Settled id) (h : s.Sound) (steps : Steps s s') : s'.Settled id := by
  rcases settled with stopped | listed
  · exact .inl ((congrArg Status.isRunning (steps_idle h stopped steps).status).trans stopped)
  · obtain ⟨⟨_, result⟩, resolved, rfl⟩ := List.mem_map.1 listed
    obtain ⟨time, told⟩ := mem_resolved.1 resolved
    exact settled_of_told ((told_extends steps).subset told)

/-- An open entry is not settled. -/
theorem Kept.not_settled (h : s.Kept) (here : .record e ∈ s.entries) (opened : e.isDone = false) :
    ¬ s.Settled e.id := by
  rintro (stopped | listed)
  · cases stopped.symm.trans (h.sound.isRunning_of_mem here)
  · exact h.unresolved_of_open here opened listed

theorem Kept.not_awaited (h : s.Kept) (settled : s.Settled p.1) : p ∉ s.awaited := by
  intro awaited
  obtain ⟨e, here, waits, rfl⟩ := mem_awaited.1 awaited
  obtain ⟨_, _, _, _, at', -⟩ := h.sound.cutsShort here waits
  exact h.not_settled here at'.waits.1 settled

/-- No attempt is started any more for a record that is settled. -/
theorem Step.not_started (step : Step s s') (h : s.Kept) (fresh : p ∉ s.started) (settled : s'.Settled p.1) :
    p ∉ s'.started := by
  intro called
  obtain ⟨e, here, same, signal⟩ := (step.starts h.sound called).resolve_left fresh
  have kept := h.step step
  obtain ⟨progress, at'⟩ := kept.sound.standing e here
  obtain ⟨first, rfl⟩ := at'.of_signal signal
  exact kept.not_settled here at'.opened (same ▸ settled)

theorem Drops.settled (drops : Drops s s' e) : s'.Settled e.id := by
  cases drops with
  | expired pops =>
    obtain ⟨a, first, span, here, same, -, -, -, resolves⟩ := pops.expiry
    rw [← same]
    exact settled_of_told (resolves.noted (List.mem_append_right _ (List.mem_singleton_self _)))
  | inputEnded ended resolves => exact settled_of_told (resolves.noted (List.mem_singleton_self _))
  | stageEnded running stopped => exact .inl stopped

/-! ## Every retry stands somewhere -/

/-- On the way from `s` to `t`, the step from `u` to `v` discarded a retry that was awaited. -/
structure DiscardedIn (s u v t : Stage) (p : EntryId × Nat) : Prop where
  before : Steps s u
  step : Step u v
  after : Steps v t
  dropped : ∃ e, .record e ∈ u.entries ∧ e.retry.isWaiting = true ∧ p = (e.id, e.retry.attempts + 1) ∧ Drops u v e

theorem Kept.of_discardedIn (h : s.Kept) (d : DiscardedIn s u v t p) : p ∈ t.discarded := by
  obtain ⟨before, step, after, e, here, waits, same, drops⟩ := d
  have keptU := h.steps before
  have keptV := keptU.step step
  obtain ⟨listed, fresh⟩ := keptU.of_awaited (mem_awaited.2 ⟨e, here, waits, same⟩)
  have settled : v.Settled p.1 := same ▸ drops.settled
  -- What is settled stays so, and therefore no step starts the attempt.
  have later : ∀ w, Steps v w → w.Settled p.1 ∧ p ∉ w.started := by
    intro w steps
    induction steps with
    | refl => exact ⟨settled, step.not_started keptU fresh settled⟩
    | tail early last ih =>
      have settled' := settled.steps keptV.sound (early.tail last)
      exact ⟨settled', last.not_started (keptV.steps early) ih.2 settled'⟩
  obtain ⟨settled', unstarted⟩ := later t after
  exact mem_discarded.2 ⟨scheduled_extends (.head step after) listed, unstarted,
    (keptV.steps after).not_awaited settled'⟩

section Built

variable {b : Builder} {now : Instant} (built : b.build now = .ok s) (steps : Steps s t)

include built steps

/-- **A retry that was scheduled** has been started, or is awaited, or was discarded. -/
theorem scheduled_cases (listed : p ∈ t.scheduled) :
    p ∈ t.started ∨ p ∈ t.awaited ∨ ∃ u v, DiscardedIn s u v t p := by
  have sound := build_sound built
  induction steps with
  | refl =>
    obtain ⟨retry, rfl⟩ := build_eq built
    cases listed
  | @tail u v before last ih =>
    have soundU := sound.steps before
    rcases last.schedules soundU listed with old | awaited
    · rcases ih old with called | awaited | ⟨u', v', discarded⟩
      · exact .inl (started_extends (.single last) called)
      · obtain ⟨e, here, waits, rfl⟩ := mem_awaited.1 awaited
        rcases last.keeps soundU here waits with there | called | drops
        · exact .inr (.inl (mem_awaited.2 ⟨e, there, waits, rfl⟩))
        · exact .inl (mem_started.2 ⟨e.record.value, u.setup.mailbox, mem_invoked.2 ⟨_, called⟩⟩)
        · exact .inr (.inr ⟨u, v, before, last, .refl, e, here, waits, rfl, drops⟩)
      · exact .inr (.inr ⟨u', v', { discarded with after := discarded.after.tail last }⟩)
    · exact .inr (.inl awaited)

/-- **A retry was discarded by a step** for which there was a cause. -/
theorem mem_discarded_iff : p ∈ t.discarded ↔ ∃ u v, DiscardedIn s u v t p := by
  constructor
  · intro discarded
    obtain ⟨listed, fresh, gone⟩ := mem_discarded.1 discarded
    exact ((scheduled_cases built steps listed).resolve_left fresh).resolve_left gone
  · rintro ⟨u, v, discarded⟩
    exact (Kept.build built).of_discardedIn discarded

/-- Retries are scheduled for records that were admitted. -/
theorem rescheduled_of_scheduled (listed : p ∈ t.scheduled) :
    ∃ r attempts retries, Rescheduled t.setup p.1 r attempts retries (t.toldOf p.1) := by
  have kept := Kept.build built
  obtain ⟨r, admitted⟩ : ∃ r, (p.1, Element.record r) ∈ t.admitted := by
    rcases scheduled_cases built steps listed with called | awaited | ⟨u, v, before, step, after, e, here, -, rfl, -⟩
    · exact admitted_of_started built steps called
    · obtain ⟨e, here, -, rfl⟩ := mem_awaited.1 awaited
      exact ⟨e.record, (kept.steps steps).lined.mem_admitted here⟩
    · exact ⟨e.record, (admitted_extends (.head step after)).subset ((kept.steps before).lined.mem_admitted here)⟩
  exact ⟨r, ((kept.steps steps).told.recorded.stories _ _ admitted).rescheduled⟩

/-- A retry is scheduled once. -/
theorem nodup_scheduled : t.scheduled.Nodup := by
  refine nodup_of_filter Prod.fst fun p listed => ?_
  obtain ⟨r, attempts, retries, numbers⟩ := rescheduled_of_scheduled built steps listed
  rw [scheduled_filter, numbers.schedules]
  exact List.Nodup.map (fun n m same => by simpa using same) List.nodup_range'

theorem nodup_discarded : t.discarded.Nodup := (nodup_scheduled built steps).filter _

/-- **The attempts that were started** are the first ones of the records, and retries. -/
theorem started_perm : (t.firstAttempts ++ t.scheduled.filter (· ∈ t.started)).Perm t.started := by
  have kept := (Kept.build built).steps steps
  have first : t.firstAttempts.Nodup := by
    have numbered : (t.admitted.map (·.1)).Nodup := kept.lined.numbered ▸ List.nodup_range
    refine .of_map Prod.fst ?_
    rw [firstAttempts, List.map_map]
    exact numbered.sublist (List.filter_sublist.map _)
  have apart : ∀ p ∈ t.firstAttempts, ∀ q ∈ t.scheduled.filter (· ∈ t.started), p ≠ q := by
    rintro ⟨id, n⟩ hp _ hq rfl
    obtain rfl : n = 1 := (mem_firstAttempts.1 hp).1
    have listed := List.mem_of_mem_filter hq
    obtain ⟨r, attempts, retries, numbers⟩ := rescheduled_of_scheduled built steps listed
    exact absurd ((scheduled_iff numbers).1 listed).1 (Nat.lt_irrefl 1)
  refine (List.perm_ext_iff_of_nodup (List.nodup_append.2 ⟨first, (nodup_scheduled built steps).filter _, apart⟩)
    (accounted built steps).distinct).2 fun (id, n) => ?_
  rw [List.mem_append, mem_firstAttempts, List.mem_filter, decide_eq_true_eq]
  constructor
  · rintro (⟨rfl, r, admitted⟩ | ⟨-, called⟩)
    · obtain ⟨attempts, retries, numbers⟩ := (kept.told.recorded.stories _ _ admitted).rescheduled
      exact (started_iff numbers).2 ⟨Nat.one_pos, numbers.pos⟩
    · exact called
  · intro called
    obtain ⟨r, admitted⟩ := admitted_of_started built steps called
    obtain ⟨attempts, retries, numbers⟩ := (kept.told.recorded.stories _ _ admitted).rescheduled
    obtain ⟨pos, most⟩ := (started_iff numbers).1 called
    by_cases one : n = 1
    · exact .inl ⟨one, r, admitted⟩
    · exact .inr ⟨(scheduled_iff numbers).2 ⟨by omega, most.trans numbers.least⟩, called⟩

/-- **The retries that have not been started** are awaited or were discarded. -/
theorem unstarted_perm : (t.awaited ++ t.discarded).Perm (t.scheduled.filter (· ∉ t.started)) := by
  have kept := (Kept.build built).steps steps
  have awaited : t.awaited.Nodup := by
    refine .of_map Prod.fst ?_
    rw [Stage.awaited, List.map_map]
    exact waitingIds_eq t ▸ waitingIds_nodup kept.sound
  have apart : ∀ p ∈ t.awaited, ∀ q ∈ t.discarded, p ≠ q := by
    rintro p hp q hq rfl
    exact (mem_discarded.1 hq).2.2 hp
  refine (List.perm_ext_iff_of_nodup (List.nodup_append.2 ⟨awaited, nodup_discarded built steps, apart⟩)
    ((nodup_scheduled built steps).filter _)).2 fun p => ?_
  rw [List.mem_append, mem_discarded, List.mem_filter, decide_eq_true_eq]
  constructor
  · rintro (awaited | ⟨listed, fresh, -⟩)
    · exact kept.of_awaited awaited
    · exact ⟨listed, fresh⟩
  · rintro ⟨listed, fresh⟩
    by_cases awaited : p ∈ t.awaited
    · exact .inl awaited
    · exact .inr ⟨listed, fresh, awaited⟩

/-- **Attempts and retries are counted.** -/
theorem length_scheduled : t.scheduled.length + t.admittedRecords.length =
    t.started.length + (t.waiting.length + t.discarded.length) := by
  have first := (started_perm built steps).length_eq
  have rest := (unstarted_perm built steps).length_eq
  have parts := t.scheduled.length_eq_length_filter_add (· ∈ t.started)
  simp only [List.length_append, List.length_map, firstAttempts, awaited, decide_not] at first rest
  omega

end Built

end Stage

end AsyncStage
