import AsyncStage.Proofs.Stage.Beginnings
import AsyncStage.Proofs.Stage.Retries
import AsyncStage.Proofs.Time.Instant

/-!
# Timers and entries

The pending timers and the entries in flight refer to each other one to one. A record without a
result has the timer of its deadline, if there is a timeout, and one that awaits a retry has the
timer of this retry. The entry knows the number of its timer, and the timer names its entry. There
are no other timers.
-/

namespace AsyncStage

/-- The entry that a timer is set for. -/
def TimerTarget.entry : TimerTarget → EntryId
  | .deadline id => id
  | .retry id => id

theorem RecordEntry.Owns.entry {e : RecordEntry} {timeout : Option Duration} {p : TimerKey × TimerTarget}
    (owns : e.Owns timeout p) : p.2.entry = e.id := by
  rcases owns with ⟨target, -⟩ | ⟨target, -⟩ <;> rw [target] <;> rfl

/-- The numbers of timers that an entry has recorded. -/
def RecordEntry.timerIds (e : RecordEntry) : List TimerId := e.deadlineTimer.toList ++ e.retry.retryTimer.toList

namespace Stage

/-- The records in flight in the order of admission. -/
def records (s : Stage) : List RecordEntry := s.entries.filterMap Entry.record?

/-- The numbers of timers that the entries in flight have recorded. -/
def timerIds (s : Stage) : List TimerId := s.records.flatMap RecordEntry.timerIds

/-- The pending timers are those that the entries in flight have recorded. -/
structure TimersMatch (s : Stage) (timeout : Option Duration) : Prop where
  /-- A record without a result has one deadline, if there is a timeout. -/
  deadline : ∀ e span, .record e ∈ s.entries → e.isDone = false → timeout = some span →
    ∃ (first : Instant) (timer : TimerId) (fireAt : Instant), e.retry.firstAttempt = some first ∧
      e.deadlineTimer = some timer ∧ fireAt.nanos = min (first.nanos + span.nanos) Instant.latest.nanos ∧
      s.timers.toList.filter (fun p => p.2 = .deadline e.id) = [(⟨fireAt, timer⟩, .deadline e.id)]
  /-- A record that awaits a retry has one timer for it. -/
  retry : ∀ e, .record e ∈ s.entries → e.retry.isWaiting = true →
    ∃ timer fireAt, e.retry.retryTimer = some timer ∧ e.retry.nextRetryAt = some fireAt ∧
      s.timers.toList.filter (fun p => p.2 = .retry e.id) = [(⟨fireAt, timer⟩, .retry e.id)]
  /-- Every timer names a record in flight that has no result. -/
  target : ∀ p ∈ s.timers.toList, ∃ e, .record e ∈ s.entries ∧ e.isDone = false ∧
    (p.2 = .deadline e.id ∧ timeout.isSome = true ∨ p.2 = .retry e.id ∧ e.retry.isWaiting = true)
  /-- Both tables hold the same timers. -/
  listed : ∀ id t, (id, t) ∈ s.timers.fireAt.toList ↔ ∃ target, (⟨t, id⟩, target) ∈ s.timers.toList
  /-- The entries have recorded the pending timers and no others. -/
  recorded : (s.timers.toList.map (·.1.id)).Perm s.timerIds
  /-- No two fields hold the same number. -/
  distinct : s.timerIds.Nodup
  bound : s.timers.size ≤ 2 * s.entries.length
  empty : s.entries = [] → s.timers.size = 0

variable {s s' : Stage} {e : RecordEntry} {timer : TimerId} {p p' : TimerKey × TimerTarget}

theorem mem_records : e ∈ s.records ↔ .record e ∈ s.entries := by
  simp [records, Entry.record?_eq_some_iff]

theorem records_pairwise (queue : s.queue.Sound) : s.records.Pairwise fun a b => a.id ≠ b.id := by
  refine List.pairwise_filterMap.2 (queue.increasing.imp fun {a b} lt x hx y hy => ?_)
  rw [Entry.record?_eq_some_iff.1 hx, Entry.record?_eq_some_iff.1 hy] at lt
  exact Nat.ne_of_lt lt

theorem length_timerIds_le (s : Stage) : s.timerIds.length ≤ 2 * s.entries.length := by
  have each : ∀ e : RecordEntry, e.timerIds.length ≤ 2 := fun e => by
    rw [RecordEntry.timerIds, List.length_append]
    exact Nat.add_le_add Option.length_toList_le Option.length_toList_le
  unfold timerIds records
  induction s.entries with
  | nil => exact Nat.le_refl _
  | cons a rest ih =>
    rw [List.length_cons]
    cases a with
    | watermark =>
      rw [List.filterMap_cons_none rfl]
      omega
    | record e =>
      rw [List.filterMap_cons_some (f := Entry.record?) rfl, List.flatMap_cons, List.length_append]
      have := each e
      omega

namespace Sound

/-- A deadline that an entry has recorded is pending. -/
theorem deadline_pending (h : s.Sound) (here : .record e ∈ s.entries) (set : e.deadlineTimer = some timer) :
    ∃ first span, e.retry.firstAttempt = some first ∧ s.setup.timeout = some span ∧
      (⟨first.after span.span, timer⟩, .deadline e.id) ∈ s.timers.toList := by
  obtain ⟨first, span, started, timeout, own⟩ := h.deadline_eq here set
  exact ⟨first, span, started, timeout, (h.owned _).2 ⟨e, here, own⟩⟩

/-- A retry that an entry has recorded is pending, and the entry has no result. -/
theorem retry_pending (h : s.Sound) (here : .record e ∈ s.entries) (set : e.retry.retryTimer = some timer) :
    e.isDone = false ∧ ∃ fireAt, e.retry.nextRetryAt = some fireAt ∧
      (⟨fireAt, timer⟩, .retry e.id) ∈ s.timers.toList := by
  obtain ⟨progress, at'⟩ := h.standing e here
  cases at' with
  | outstanding _ _ _ none => simp [none] at set
  | done _ none => simp [none] at set
  | @waiting _ _ _ retryAt slot _ _ _ _ fires =>
    exact ⟨by simp [RecordEntry.isDone, slot, Slot.isFinal], retryAt, fires,
      (h.owned _).2 ⟨e, here, .inr ⟨rfl, set, fires⟩⟩⟩

/-- A timer is the only one that is set for its purpose. -/
theorem eq_of_target_eq (h : s.Sound) (hp : p ∈ s.timers.toList) (hp' : p' ∈ s.timers.toList)
    (same : p.2 = p'.2) : p = p' := by
  obtain ⟨e, here, owns⟩ := (h.owned p).1 hp
  obtain ⟨e', here', owns'⟩ := (h.owned p').1 hp'
  apply h.timers.eq_of_id_eq hp hp'
  rcases owns with ⟨target, set, -⟩ | ⟨target, set, -⟩ <;>
    rcases owns' with ⟨target', set', -⟩ | ⟨target', set', -⟩ <;> rw [target, target'] at same
  · obtain rfl := h.record_eq here here' (TimerTarget.deadline.inj same)
    exact Option.some.inj (set.symm.trans set')
  · cases same
  · cases same
  · obtain rfl := h.record_eq here here' (TimerTarget.retry.inj same)
    exact Option.some.inj (set.symm.trans set')

theorem targets_nodup (h : s.Sound) : (s.timers.toList.map (·.2)).Nodup :=
  s.timers.toList_nodup.map_on fun _ hp _ hp' same => h.eq_of_target_eq hp hp' same

/-- The number that an entry has recorded is that of a pending timer, which names the entry. -/
theorem mem_timerIds (h : s.Sound) (here : .record e ∈ s.entries) :
    timer ∈ e.timerIds ↔ ∃ p ∈ s.timers.toList, p.1.id = timer ∧ p.2.entry = e.id := by
  simp only [RecordEntry.timerIds, List.mem_append, Option.mem_toList]
  constructor
  · rintro (set | set)
    · obtain ⟨first, span, -, -, pending⟩ := h.deadline_pending here set
      exact ⟨_, pending, rfl, rfl⟩
    · obtain ⟨-, fireAt, -, pending⟩ := h.retry_pending here set
      exact ⟨_, pending, rfl, rfl⟩
  · rintro ⟨p, hp, rfl, target⟩
    obtain ⟨e', here', owns⟩ := (h.owned p).1 hp
    obtain rfl := h.record_eq here' here (owns.entry.symm.trans target)
    exact owns.imp (·.2.1) (·.2.1)

/-- An entry has recorded at most one timer of each kind, and they are different ones. -/
theorem nodup_timerIds (h : s.Sound) (here : .record e ∈ s.entries) : e.timerIds.Nodup := by
  refine List.nodup_append.2 ⟨?_, ?_, fun a ha b hb same => ?_⟩
  · cases e.deadlineTimer <;> simp
  · cases e.retry.retryTimer <;> simp
  · obtain ⟨first, span, -, -, pending⟩ := h.deadline_pending here (Option.mem_toList.1 ha)
    obtain ⟨-, fireAt, -, pending'⟩ := h.retry_pending here (Option.mem_toList.1 hb)
    cases h.timers.eq_of_id_eq pending pending' same

theorem timerIds_nodup (h : s.Sound) : s.timerIds.Nodup := by
  refine List.nodup_flatMap.2 ⟨fun e here => h.nodup_timerIds (mem_records.1 here), ?_⟩
  refine (records_pairwise h.queue).imp_of_mem fun {e e'} here here' other timer mine yours => ?_
  obtain ⟨p, hp, id, target⟩ := (h.mem_timerIds (mem_records.1 here)).1 mine
  obtain ⟨p', hp', id', target'⟩ := (h.mem_timerIds (mem_records.1 here')).1 yours
  -- One timer cannot name two entries.
  obtain rfl := h.timers.eq_of_id_eq hp hp' (id.trans id'.symm)
  exact other (target.symm.trans target')

/-- The entries in flight have recorded the pending timers. -/
theorem timerIds_perm (h : s.Sound) : (s.timers.toList.map (·.1.id)).Perm s.timerIds := by
  refine (List.perm_ext_iff_of_nodup h.timers.ids_nodup h.timerIds_nodup).2 fun timer => ?_
  simp only [timerIds, List.mem_flatMap, List.mem_map, mem_records]
  constructor
  · rintro ⟨p, hp, rfl⟩
    obtain ⟨e, here, owns⟩ := (h.owned p).1 hp
    exact ⟨e, here, (h.mem_timerIds here).2 ⟨p, hp, rfl, owns.entry⟩⟩
  · rintro ⟨e, here, mine⟩
    obtain ⟨p, hp, id, -⟩ := (h.mem_timerIds here).1 mine
    exact ⟨p, hp, id⟩

theorem size_timers (h : s.Sound) : s.timers.size = s.timerIds.length := by
  rw [← h.timerIds_perm.length_eq, List.length_map]
  rfl

/-- **Timers and entries match** in a sound stage. -/
theorem timersMatch (h : s.Sound) : s.TimersMatch s.setup.timeout where
  deadline e span here opened timeout := by
    obtain ⟨timer, set⟩ : ∃ timer, e.deadlineTimer = some timer := by
      rw [← Option.isSome_iff_exists, h.armed e here opened, timeout, Option.isSome_some]
    obtain ⟨first, span', started, timeout', pending⟩ := h.deadline_pending here set
    obtain rfl := Option.some.inj (timeout.symm.trans timeout')
    exact ⟨first, timer, _, started, set, first.nanos_after_eq_min span, filter_key h.targets_nodup pending⟩
  retry e here waits := by
    obtain ⟨timer, set⟩ := Option.isSome_iff_exists.1 waits
    obtain ⟨-, fireAt, fires, pending⟩ := h.retry_pending here set
    exact ⟨timer, fireAt, set, fires, filter_key h.targets_nodup pending⟩
  target p hp := by
    obtain ⟨e, here, ⟨target, set, first, span, started, timeout, -⟩ | ⟨target, set, -⟩⟩ := (h.owned p).1 hp
    · obtain ⟨progress, at'⟩ := h.standing e here
      exact ⟨e, here, (at'.of_deadline set).1, .inl ⟨target, timeout ▸ rfl⟩⟩
    · exact ⟨e, here, (h.retry_pending here set).1, .inr ⟨target, Option.isSome_of_eq_some set⟩⟩
  listed := h.timers.listed
  recorded := h.timerIds_perm
  distinct := h.timerIds_nodup
  bound := h.size_timers ▸ length_timerIds_le s
  empty none := congrArg List.length (h.timers_of_empty none)

end Sound

/-- **Timers and entries match** after every run of a stage, however it began: a record without a
result has the timer of its deadline, one that awaits a retry has the timer of this retry, and no
other timer is pending. -/
theorem timers_match {b : Builder} {now : Instant} {error : Option StageError} (begins : b.Begins now s error)
    (actions : List Action) : (s.run actions).TimersMatch b.config.effectiveTimeout := by
  have steps := run_steps begins.kept.sound actions
  obtain ⟨retry, setup⟩ := begins.setup actions
  have timeout : (s.run actions).setup.timeout = b.config.effectiveTimeout := congrArg Setup.timeout setup
  exact timeout ▸ (begins.kept.sound.steps steps).timersMatch

/-- A record whose first attempt has failed has a deadline and awaits its retry. -/
theorem timers_match_firstBad : ∃ s, patient.build .epoch = .ok s ∧
    (s.run firstBad).TimersMatch (some (.ofMillis 1000)) ∧
    (s.run firstBad).timers.toList =
      [(⟨.after .epoch 100000000, 1⟩, .retry 0), (⟨.after .epoch 1000000000, 0⟩, .deadline 0)] := by
  have built : patient.build .epoch = .ok (start patient tenths .epoch) := rfl
  have timeout : patient.config.effectiveTimeout = some (.ofMillis 1000) := by decide
  exact ⟨_, built, timeout ▸ timers_match (.built built) firstBad, by decide +kernel⟩

end Stage

end AsyncStage
