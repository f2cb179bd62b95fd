import AsyncStage.Proofs.Stage.Beginnings
import AsyncStage.Proofs.Stage.Retries
import AsyncStage.Proofs.Stage.Stale
import AsyncStage.Proofs.Stage.Timeouts

/-!
# Cancel signals

An attempt is outstanding from its start until its completion is taken up or its cancel signal is
given, and so long the entry of its record holds the signal. The signal is given when the time of
the record is up, and when the stage ends. So it is given for every attempt that is abandoned and
for no attempt that is answered.
-/

namespace AsyncStage

/-! ## What the story of a record says of signals -/

section Story

variable {setup : Setup} {id : EntryId} {record : Record} {notes notes' : List Note} {progress : Progress}
  {result : Resolution} {attempt : Nat}

/-- The attempts whose signals some notes tell of. -/
def signals (notes : List Note) : List (EntryId × Nat) := notes.filterMap fun n => n.event.cancelled?

@[simp] theorem signals_append (notes notes' : List Note) :
    signals (notes ++ notes') = signals notes ++ signals notes' := List.filterMap_append

/-- The signal of the last attempt was given, and it was not answered. -/
structure Abandoned (setup : Setup) (id : EntryId) (record : Record) (notes : List Note) (attempt : Nat) : Prop where
  pos : 0 < attempt
  calls : invocations notes = callsOf setup id record attempt
  unanswered : attempt ∉ answers notes
  given : signals notes = [(id, attempt)]

theorem Attempts.signals_eq (h : Attempts setup id record notes progress) : signals notes = [] := by
  induction h with
  | started t => rfl
  | scheduled before t outcome wanted time ih => rw [signals_append, ih]; rfl
  | retried before t due ih => rw [signals_append, ih]; rfl

theorem Attempts.unanswered {first : Instant} (h : Attempts setup id record notes (.outstanding attempt first)) :
    attempt ∉ answers notes := by
  have pos := h.pos rfl
  rw [h.answers_eq, List.mem_range'_1, Progress.answered]
  omega

/-- Giving up a record gives the signal of its outstanding attempt. -/
theorem Attempts.givenUp (h : Attempts setup id record notes progress) (t : Instant) :
    signals (notes ++ (progress.cancels id).map (Note.mk t)) = [] ∨
      ∃ attempt, Abandoned setup id record (notes ++ (progress.cancels id).map (Note.mk t)) attempt := by
  cases progress with
  | done values => exact absurd h Attempts.not_done
  | waiting attempt first outcome retryAt =>
    refine .inl ?_
    rw [signals_append, h.signals_eq]
    rfl
  | outstanding attempt first =>
    refine .inr ⟨attempt, h.pos rfl, ?_, ?_, ?_⟩
    · rw [invocations_append, h.invocations_eq rfl]
      exact List.append_nil _
    · rw [answers_append, show answers ((Progress.cancels id (.outstanding attempt first)).map (Note.mk t)) = []
        from rfl, List.append_nil]
      exact h.unanswered
    · rw [signals_append, h.signals_eq]
      rfl

theorem Abandoned.append (h : Abandoned setup id record notes attempt) (uncalled : invocations notes' = [])
    (unanswered : answers notes' = []) (none : signals notes' = []) :
    Abandoned setup id record (notes ++ notes') attempt where
  pos := h.pos
  calls := by rw [invocations_append, uncalled, List.append_nil, h.calls]
  unanswered := by
    rw [answers_append, unanswered, List.append_nil]
    exact h.unanswered
  given := by rw [signals_append, none, List.append_nil, h.given]

theorem Resolved.signals (h : Resolved setup id record notes result) :
    signals notes = [] ∨ ∃ attempt, Abandoned setup id record notes attempt := by
  cases h with
  | answered before => exact .inl (by rw [signals_append, before.signals_eq]; rfl)
  | cutShort before => exact .inl (by rw [signals_append, before.signals_eq]; rfl)
  | expired before counts timeout t late =>
    rw [List.map_append, ← List.append_assoc]
    refine (before.givenUp t).imp (fun none => ?_) fun ⟨attempt, abandoned⟩ => ⟨attempt, abandoned.append rfl rfl rfl⟩
    rw [signals_append, none]
    rfl

/-- **A signal is given once for a record**, and for its last attempt, which is not answered. -/
theorem Story.signals (h : Story setup id record notes) :
    signals notes = [] ∨ ∃ attempt, Abandoned setup id record notes attempt := by
  cases h with
  | unresolved attempts => exact .inl attempts.signals_eq
  | resolved resolved => exact resolved.signals
  | emitted resolved final slot t =>
    refine resolved.signals.imp (fun none => ?_) fun ⟨attempt, abandoned⟩ => ⟨attempt, abandoned.append rfl rfl rfl⟩
    rw [signals_append, none]
    rfl
  | dropped attempts t => exact attempts.givenUp t

end Story

namespace Stage

variable {s s' t : Stage} {id : EntryId} {attempt : Nat}

/-! ## Where an attempt stands -/

/-- The attempts whose cancel signals were given. -/
def cancelled (s : Stage) : List (EntryId × Nat) := s.events.filterMap Event.cancelled?

/-- The attempts that were started. -/
def started (s : Stage) : List (EntryId × Nat) := s.invoked.map fun call => (call.entry, call.attempt)

/-- The record of the attempt is in flight without a result, does not await a retry, and holds the
signal of the attempt, which is its last one. -/
def Outstanding (s : Stage) (id : EntryId) (attempt : Nat) : Prop :=
  ∃ e, .record e ∈ s.entries ∧ e.id = id ∧ e.isDone = false ∧ e.retry.isWaiting = false ∧
    e.retry.attempts = attempt ∧ e.signal = some attempt

/-- A completion of the attempt was taken up. -/
def Answered (s : Stage) (id : EntryId) (attempt : Nat) : Prop := ∃ outcome, ⟨id, attempt, outcome⟩ ∈ s.applied

/-- Where an attempt stands that was started. -/
inductive Situation (s : Stage) (id : EntryId) (attempt : Nat) : Prop where
  | outstanding (held : s.Outstanding id attempt) (unanswered : ¬ s.Answered id attempt)
      (spared : (id, attempt) ∉ s.cancelled)
  | answered (released : ¬ s.Outstanding id attempt) (taken : s.Answered id attempt)
      (spared : (id, attempt) ∉ s.cancelled)
  | cancelled (released : ¬ s.Outstanding id attempt) (unanswered : ¬ s.Answered id attempt)
      (given : (id, attempt) ∈ s.cancelled)

theorem Situation.congr (h : s.Situation id attempt)
    (outstanding : s'.Outstanding id attempt ↔ s.Outstanding id attempt)
    (answered : s'.Answered id attempt ↔ s.Answered id attempt)
    (given : (id, attempt) ∈ s'.cancelled ↔ (id, attempt) ∈ s.cancelled) : s'.Situation id attempt := by
  cases h with
  | outstanding held unanswered spared =>
    exact .outstanding (outstanding.2 held) (mt answered.1 unanswered) (mt given.1 spared)
  | answered released taken spared =>
    exact .answered (mt outstanding.1 released) (answered.2 taken) (mt given.1 spared)
  | cancelled released unanswered given' =>
    exact .cancelled (mt outstanding.1 released) (mt answered.1 unanswered) (given.2 given')

/-- What a list of events shows is told. -/
theorem mem_events_filterMap {α : Type} {f : Event → Option α} {v : Event} {x : α} (told : v.isTold = true)
    (shows' : ∀ v', f v' = some x ↔ v' = v) : x ∈ s.events.filterMap f ↔ ∃ t, ⟨t, v⟩ ∈ s.told := by
  simp only [events, List.mem_filterMap, List.mem_map, Stage.told, List.mem_filter]
  constructor
  · rintro ⟨v', ⟨n, hn, rfl⟩, shown⟩
    obtain ⟨t, v'⟩ := n
    obtain rfl := (shows' _).1 shown
    exact ⟨t, hn, told⟩
  · rintro ⟨t, hn, -⟩
    exact ⟨v, ⟨_, hn, rfl⟩, (shows' v).2 rfl⟩

theorem mem_cancelled : (id, attempt) ∈ s.cancelled ↔ ∃ t, ⟨t, .cancelled id attempt⟩ ∈ s.told :=
  mem_events_filterMap rfl fun v => by cases v <;> simp [Event.cancelled?]

theorem mem_invoked {call : Invocation} : call ∈ s.invoked ↔ ∃ t, ⟨t, .invoked call⟩ ∈ s.told :=
  mem_events_filterMap rfl fun v => by cases v <;> simp [Event.invocation?]

/-- The signals of a number are those told of it. -/
theorem cancelled_filter (s : Stage) (id : EntryId) : s.cancelled.filter (fun p => p.1 = id) = signals (s.toldOf id) :=
  events_filter (fun v p shown => by cases v <;> cases shown; rfl) s id

theorem mem_signals : (id, attempt) ∈ signals (s.toldOf id) ↔ (id, attempt) ∈ s.cancelled := by
  rw [← cancelled_filter, List.mem_filter]
  simp

theorem answered_iff : s.Answered id attempt ↔ attempt ∈ answers (s.toldOf id) := by
  constructor
  · rintro ⟨outcome, taken⟩
    obtain ⟨t, told⟩ := mem_applied.1 taken
    exact List.mem_filterMap.2 ⟨_, mem_toldOf told rfl, rfl⟩
  · intro listed
    obtain ⟨⟨t, v⟩, told, shown⟩ := List.mem_filterMap.1 listed
    obtain ⟨old, about⟩ := List.mem_filter.1 told
    cases v <;> cases shown
    obtain rfl : _ = id := Option.some.inj (of_decide_eq_true about)
    exact ⟨_, mem_applied.2 ⟨t, old⟩⟩

/-! ## Signals that entries hold -/

/-- An entry in flight holds the signal of the attempt. -/
def Holds (s : Stage) (id : EntryId) (attempt : Nat) : Prop :=
  ∃ e, .record e ∈ s.entries ∧ e.id = id ∧ e.signal = some attempt

/-- **An entry holds the signal of its outstanding attempt**, and no other one. -/
theorem Sound.outstanding_iff (h : s.Sound) : s.Outstanding id attempt ↔ s.Holds id attempt := by
  refine exists_congr fun e => and_congr_right fun here => and_congr_right fun _ => ?_
  refine ⟨fun ⟨_, _, _, signal⟩ => signal, fun signal => ?_⟩
  obtain ⟨progress, at'⟩ := h.standing e here
  obtain ⟨first, rfl⟩ := at'.of_signal signal
  cases at' with
  | outstanding slot counted started timer =>
    exact ⟨by simp [RecordEntry.isDone, slot, Slot.isFinal], by simp [RetryContext.isWaiting, timer], counted, signal⟩

theorem cancelled_noted {new : List Event} {time : Instant} (told : s'.told = s.told ++ new.map (Note.mk time)) :
    s'.cancelled = s.cancelled ++ new.filterMap Event.cancelled? :=
  events_filterMap_noted (fun e silent => by cases e <;> first | rfl | cases silent) told

theorem invoked_noted {new : List Event} {time : Instant} (told : s'.told = s.told ++ new.map (Note.mk time)) :
    s'.invoked = s.invoked ++ new.filterMap Event.invocation? :=
  events_filterMap_noted (fun e silent => by cases e <;> first | rfl | cases silent) told

theorem Notes.invoked_eq (notes : Notes (fun v => v.invocation? = none) s s') : s'.invoked = s.invoked := by
  obtain ⟨-, new, told, all⟩ := notes
  rw [invoked_noted told, List.filterMap_eq_nil_iff.2 all, List.append_nil]

/-- The end of a stage gives all signals that are held. -/
theorem Ends.mem_cancelled {status : Status} (w : Ends s s' status) :
    (id, attempt) ∈ s'.cancelled ↔ (id, attempt) ∈ s.cancelled ∨ s.Holds id attempt := by
  rw [cancelled_noted w.told, List.mem_append]
  refine or_congr_right ?_
  simp only [cancellations, Holds, List.mem_filterMap, Entry.record?_eq_some_iff, exists_eq_right,
    Option.map_eq_some_iff]
  constructor
  · rintro ⟨_, ⟨e, here, n, signal, rfl⟩, ⟨⟩⟩
    exact ⟨e, here, rfl, signal⟩
  · rintro ⟨e, here, rfl, signal⟩
    exact ⟨_, ⟨e, here, attempt, signal, rfl⟩, rfl⟩

/-! ## What a step does to an attempt -/

/-- Why a step gives the signal of a record: the time of the record is up, or the stage ends. -/
def Abandons (s s' : Stage) (id : EntryId) : Prop :=
  (∃ key rest, Pops s s' key (.deadline id) rest) ∨ s.isRunning = true ∧ s'.isRunning = false

theorem invocations_calls (s : Stage) (call : Invocation) : (s.calls call).filterMap Event.invocation? = [call] := by
  rw [calls, List.filterMap_cons_some (f := Event.invocation?) rfl, List.filterMap_map]
  exact congrArg _ (List.filterMap_eq_nil_iff.2 fun _ _ => rfl)

theorem mem_started : (id, attempt) ∈ s.started ↔ ∃ value box, ⟨id, attempt, value, box⟩ ∈ s.invoked := by
  simp only [started, List.mem_map, Prod.mk.injEq]
  constructor
  · rintro ⟨call, called, rfl, rfl⟩
    exact ⟨call.value, call.mailbox, called⟩
  · rintro ⟨value, box, called⟩
    exact ⟨_, called, rfl, rfl⟩

theorem started_of_calls {r : Record} (pos : 0 < attempt)
    (calls : invocations (s.toldOf id) = callsOf s.setup id r attempt) : (id, attempt) ∈ s.started := by
  obtain ⟨n, rfl⟩ := Nat.exists_eq_add_of_lt pos
  have listed : s.setup.call id (n + 1) r.value ∈ s.invoked.filter fun call => call.entry = id := by
    rw [invoked_filter, calls, Nat.zero_add]
    exact Course.mem_calls.2 (Nat.lt_succ_self n)
  rw [Nat.zero_add]
  exact mem_started.2 ⟨r.value, s.setup.mailbox, List.mem_of_mem_filter listed⟩

/-- An attempt that a step starts is outstanding then. -/
theorem Step.starts (step : Step s s') (h : s.Sound) (called : (id, attempt) ∈ s'.started) :
    (id, attempt) ∈ s.started ∨ s'.Holds id attempt := by
  obtain ⟨value, box, called⟩ := mem_started.1 called
  obtain ⟨t, told⟩ := mem_invoked.1 called
  by_cases old : ⟨t, .invoked ⟨id, attempt, value, box⟩⟩ ∈ s.told
  · exact .inl (mem_started.2 ⟨value, box, mem_invoked.2 ⟨t, old⟩⟩)
  · obtain ⟨-, cause⟩ := step.cause h told old
    cases cause with
    | invoked e there signal => exact .inr ⟨e, there, rfl, signal⟩

/-- **An outstanding attempt stays outstanding** until it is answered or its signal is given. -/
theorem Step.releases (step : Step s s') (h : s.Sound) (holds : s.Holds id attempt) :
    s'.Holds id attempt ∨ s'.Answered id attempt ∨ (id, attempt) ∈ s'.cancelled := by
  obtain ⟨a, ha, rfl, signal⟩ := holds
  obtain ⟨progress, at'⟩ := h.standing a ha
  obtain ⟨first, rfl⟩ := at'.of_signal signal
  have given : s.Cancels s' a → (a.id, attempt) ∈ s'.cancelled := fun cancels =>
    mem_cancelled.2 ⟨_, cancels attempt signal⟩
  cases step.fate h ha with
  | stays there => exact .inl ⟨a, there, rfl, signal⟩
  | @answered c rest takes names accepted =>
    obtain ⟨_, same⟩ := at'.of_accepts accepted
    cases same
    rw [names]
    exact .inr (.inl ⟨c.outcome, mem_applied.2 ⟨_, takes.applies.applied ha names accepted⟩⟩)
  | retried silent => cases silent.symm.trans signal
  | cutShort silent => cases silent.symm.trans signal
  | emitted done => cases done.symm.trans at'.opened
  | expired pops cancels => exact .inr (.inr (given cancels))
  | ended stopped cancels => exact .inr (.inr (given cancels))

/-- **A signal is given for an outstanding attempt**, when the time of its record is up or when the
stage ends. -/
theorem Step.gives (step : Step s s') (h : s.Sound) (given : (id, attempt) ∈ s'.cancelled)
    (fresh : (id, attempt) ∉ s.cancelled) : s.Holds id attempt ∧ Abandons s s' id := by
  obtain ⟨t, told⟩ := mem_cancelled.1 given
  obtain ⟨-, cause⟩ := step.cause h told fun old => fresh (mem_cancelled.2 ⟨t, old⟩)
  cases cause with
  | expired e pops here signal => exact ⟨⟨e, here, rfl, signal⟩, .inl ⟨_, _, pops⟩⟩
  | ended e here signal stopped => exact ⟨⟨e, here, rfl, signal⟩, .inr ⟨h.isRunning_of_mem here, stopped⟩⟩

/-! ## Every attempt stands somewhere -/

theorem answered_extends (steps : Steps s s') (taken : s.Answered id attempt) : s'.Answered id attempt := by
  obtain ⟨outcome, taken⟩ := taken
  obtain ⟨time, told⟩ := mem_applied.1 taken
  exact ⟨outcome, mem_applied.2 ⟨time, (told_extends steps).subset told⟩⟩

theorem cancelled_extends (steps : Steps s s') (given : (id, attempt) ∈ s.cancelled) :
    (id, attempt) ∈ s'.cancelled := by
  obtain ⟨time, told⟩ := mem_cancelled.1 given
  exact mem_cancelled.2 ⟨time, (told_extends steps).subset told⟩

/-- Every attempt that was started is outstanding, was answered, or its signal was given. -/
def Placed (s : Stage) : Prop :=
  ∀ id attempt, (id, attempt) ∈ s.started → s.Holds id attempt ∨ s.Answered id attempt ∨ (id, attempt) ∈ s.cancelled

theorem Placed.step (placed : s.Placed) (h : s.Sound) (step : Step s s') : s'.Placed := by
  intro id attempt called
  rcases step.starts h called with old | holds
  · rcases placed id attempt old with holds | taken | given
    · exact step.releases h holds
    · exact .inr (.inl (answered_extends (.single step) taken))
    · exact .inr (.inr (cancelled_extends (.single step) given))
  · exact .inl holds

/-- On the way from `s` to `t`, the step from `u` to `v` gave the signal of an attempt that was
outstanding. -/
structure GivenIn (s u v t : Stage) (id : EntryId) (attempt : Nat) : Prop where
  before : Steps s u
  step : Step u v
  after : Steps v t
  outstanding : u.Outstanding id attempt
  fresh : (id, attempt) ∉ u.cancelled
  given : (id, attempt) ∈ v.cancelled
  cause : Abandons u v id

/-! ## It stands in one place -/

/-- The story of a record whose entry holds a signal. -/
theorem Kept.attempts_of_holds (h : s.Kept) (holds : s.Holds id attempt) : ∃ r first,
    (id, Element.record r) ∈ s.admitted ∧ Attempts s.setup id r (s.toldOf id) (.outstanding attempt first) := by
  obtain ⟨e, here, rfl, signal⟩ := holds
  obtain ⟨progress, at'⟩ := h.sound.standing e here
  obtain ⟨first, rfl⟩ := at'.of_signal signal
  exact ⟨e.record, first, h.lined.mem_admitted here, h.told.attempts here at' at'.opened⟩

/-- A list is without repetitions if those of its parts are that have the same key. -/
theorem nodup_of_filter {α β : Type} [DecidableEq α] [DecidableEq β] (key : α → β) {l : List α}
    (each : ∀ a ∈ l, (l.filter fun b => key b = key a).Nodup) : l.Nodup := by
  refine List.nodup_iff_count_le_one.2 fun a => ?_
  by_cases ha : a ∈ l
  · rw [← List.count_filter (p := fun b => key b = key a) (decide_eq_true rfl)]
    exact List.nodup_iff_count_le_one.1 (each a ha) a
  · rw [List.count_eq_zero_of_not_mem ha]
    exact Nat.zero_le 1

/-- The attempts of a number are those told of it. -/
theorem started_filter (s : Stage) (id : EntryId) : s.started.filter (fun p => p.1 = id) =
    (invocations (s.toldOf id)).map fun call => (call.entry, call.attempt) := by
  rw [started, List.filter_map, ← invoked_filter]
  rfl

theorem nodup_callsOf (setup : Setup) (id : EntryId) (r : Record) (n : Nat) :
    ((callsOf setup id r n).map fun call => (call.entry, call.attempt)).Nodup := by
  rw [callsOf, List.map_map]
  refine List.nodup_range.map fun i j same => ?_
  simpa using same

/-- Where all attempts stand. -/
structure Accounted (s : Stage) : Prop where
  /-- An attempt is started once. -/
  distinct : s.started.Nodup
  /-- A signal is given once. -/
  once : s.cancelled.Nodup
  situation : ∀ id attempt, (id, attempt) ∈ s.started → s.Situation id attempt
  known : ∀ id attempt, s.Outstanding id attempt ∨ s.Answered id attempt ∨ (id, attempt) ∈ s.cancelled →
    (id, attempt) ∈ s.started

section Built

variable {b : Builder} {now : Instant} (built : b.build now = .ok s) (steps : Steps s t)

include built steps

theorem placed_of_steps : t.Placed := by
  have sound := build_sound built
  induction steps with
  | refl =>
    obtain ⟨retry, rfl⟩ := build_eq built
    intro id attempt called
    cases called
  | tail before last ih => exact ih.step (sound.steps before) last

/-- **A signal that was given was given by a step**, for which there was a cause. -/
theorem exists_givenIn (given : (id, attempt) ∈ t.cancelled) : ∃ u v, GivenIn s u v t id attempt := by
  have sound := build_sound built
  induction steps with
  | refl =>
    obtain ⟨retry, rfl⟩ := build_eq built
    cases given
  | @tail u v before last ih =>
    by_cases old : (id, attempt) ∈ u.cancelled
    · obtain ⟨u', v', givenIn⟩ := ih old
      exact ⟨u', v', { givenIn with after := givenIn.after.tail last }⟩
    · obtain ⟨holds, cause⟩ := last.gives (sound.steps before) given old
      exact ⟨u, v, before, last, .refl, (sound.steps before).outstanding_iff.2 holds, old, given, cause⟩

/-- An attempt whose signal was given was abandoned. -/
theorem abandoned_of_cancelled (given : (id, attempt) ∈ t.cancelled) :
    ∃ r, (id, Element.record r) ∈ t.admitted ∧ Abandoned t.setup id r (t.toldOf id) attempt := by
  have kept := Kept.build built
  obtain ⟨u, v, givenIn⟩ := exists_givenIn built steps given
  obtain ⟨e, here, rfl, -⟩ := givenIn.outstanding
  have admitted : (e.id, Element.record e.record) ∈ t.admitted :=
    (admitted_extends (.head givenIn.step givenIn.after)).subset
      ((kept.steps givenIn.before).lined.mem_admitted here)
  refine ⟨e.record, admitted, ?_⟩
  have listed := mem_signals.2 given
  rcases ((kept.steps steps).told.recorded.stories _ _ admitted).signals with none | ⟨last, abandoned⟩
  · rw [none] at listed
    cases listed
  · rw [abandoned.given, List.mem_singleton] at listed
    cases listed
    exact abandoned

theorem not_answered_of_cancelled (given : (id, attempt) ∈ t.cancelled) : ¬ t.Answered id attempt := by
  obtain ⟨r, -, abandoned⟩ := abandoned_of_cancelled built steps given
  exact fun taken => abandoned.unanswered (answered_iff.1 taken)

/-- Attempts are started for records that were admitted. -/
theorem admitted_of_started (called : (id, attempt) ∈ t.started) : ∃ r, (id, Element.record r) ∈ t.admitted := by
  rcases placed_of_steps built steps id attempt called with holds | ⟨outcome, taken⟩ | given
  · obtain ⟨r, -, admitted, -⟩ := ((Kept.build built).steps steps).attempts_of_holds holds
    exact ⟨r, admitted⟩
  · obtain ⟨time, told⟩ := mem_applied.1 taken
    obtain ⟨r, admitted, -⟩ := credits_of_steps built steps time _ told
    exact ⟨r, admitted⟩
  · obtain ⟨r, admitted, -⟩ := abandoned_of_cancelled built steps given
    exact ⟨r, admitted⟩

/-- **Every attempt stands in one place.** -/
theorem situation_of_started (called : (id, attempt) ∈ t.started) : t.Situation id attempt := by
  have kept := (Kept.build built).steps steps
  by_cases held : t.Outstanding id attempt
  · obtain ⟨r, first, -, attempts⟩ := kept.attempts_of_holds (kept.sound.outstanding_iff.1 held)
    refine .outstanding held (fun taken => attempts.unanswered (answered_iff.1 taken)) fun given => ?_
    rw [← mem_signals, attempts.signals_eq] at given
    cases given
  by_cases given : (id, attempt) ∈ t.cancelled
  · exact .cancelled held (not_answered_of_cancelled built steps given) given
  · rcases placed_of_steps built steps id attempt called with holds | taken | given'
    · exact absurd (kept.sound.outstanding_iff.2 holds) held
    · exact .answered held taken given
    · exact absurd given' given

theorem accounted : t.Accounted where
  distinct := nodup_of_filter Prod.fst fun (id, attempt) called => by
    obtain ⟨r, admitted⟩ := admitted_of_started built steps called
    obtain ⟨_, _, course⟩ := (((Kept.build built).steps steps).told.recorded.stories id r admitted).course
    rw [started_filter, course.calls]
    exact nodup_callsOf _ id r _
  once := nodup_of_filter Prod.fst fun (id, attempt) given => by
    obtain ⟨r, -, abandoned⟩ := abandoned_of_cancelled built steps given
    rw [cancelled_filter, abandoned.given]
    exact List.nodup_singleton _
  situation id attempt := situation_of_started built steps
  known := by
    have kept := (Kept.build built).steps steps
    rintro id attempt (held | ⟨outcome, taken⟩ | given)
    · obtain ⟨r, first, -, attempts⟩ := kept.attempts_of_holds (kept.sound.outstanding_iff.1 held)
      exact started_of_calls (attempts.pos rfl) (attempts.invocations_eq rfl)
    · obtain ⟨time, told⟩ := mem_applied.1 taken
      obtain ⟨r, -, time', called⟩ := credits_of_steps built steps time _ told
      exact mem_started.2 ⟨r.value, t.setup.mailbox, mem_invoked.2 ⟨time', called⟩⟩
    · obtain ⟨r, -, abandoned⟩ := abandoned_of_cancelled built steps given
      exact started_of_calls abandoned.pos abandoned.calls

end Built

/-! ## Dropping a stage -/

theorem drop_ends (s : Stage) : s.Ends s.drop s.status := by
  obtain ⟨told, history, same⟩ := told_foldl_cancelAttempt (s.entries.filterMap Entry.record?) s
  have all : s.drop = { s with history := history, timers := s.timers.clear, queue := s.queue.clear } := by
    rw [drop, discardAll]
    exact congrArg (fun t : Stage => { t with timers := s.timers.clear, queue := s.queue.clear }) same
  rw [same] at told
  rw [all]
  exact ⟨rfl, rfl, rfl, rfl, rfl, rfl, rfl, rfl, told, rfl⟩

/-- Dropping a stage leaves its attempts as closing it does. -/
theorem Sound.drop_eq (h : s.Sound) : ∃ t, Steps s t ∧ t.isRunning = false ∧ s.drop.told = t.told := by
  have dropped := drop_ends s
  cases running : s.isRunning with
  | true =>
    have closed := teardown_ends s .closed
    exact ⟨_, .single (.closed running closed), congrArg Status.isRunning closed.status,
      dropped.told.trans closed.told.symm⟩
  | false =>
    refine ⟨s, .refl, running, ?_⟩
    rw [dropped.told, cancellations, h.ended running]
    exact List.append_nil _

/-- What is said of attempts depends on what is told, and on what is in flight. -/
theorem Accounted.congr (accounted : s.Accounted) (told : s'.told = s.told) (entries : s'.entries = s.entries) :
    s'.Accounted := by
  have noted : s'.told = s.told ++ ([] : List Event).map (Note.mk s.now) := told.trans (List.append_nil _).symm
  have cancelled := (cancelled_noted noted).trans (List.append_nil _)
  have invoked := (invoked_noted noted).trans (List.append_nil _)
  have applied := (applied_noted noted).trans (List.append_nil _)
  have outstanding : ∀ {id attempt}, s'.Outstanding id attempt ↔ s.Outstanding id attempt := by
    simp only [Outstanding, entries, implies_true]
  have answered : ∀ {id attempt}, s'.Answered id attempt ↔ s.Answered id attempt := by
    simp only [Answered, applied, implies_true]
  obtain ⟨distinct, once, situation, known⟩ := accounted
  rw [started, ← invoked, ← started] at distinct situation known
  rw [← cancelled] at once known
  refine ⟨distinct, once, fun id attempt called => ?_, fun id attempt => ?_⟩
  · exact (situation id attempt called).congr outstanding answered (cancelled ▸ Iff.rfl)
  · rw [outstanding, answered]
    exact known id attempt

/-- What attempts came to. The stage began as `s₀`. -/
structure SignalsExact (s₀ t : Stage) : Prop where
  accounted : t.Accounted
  /-- A signal was given to an outstanding attempt, when the time of its record was up or when the
  stage ended. -/
  caused : ∀ id attempt, (id, attempt) ∈ t.cancelled → ∃ u v, GivenIn s₀ u v t id attempt
  /-- The signal of an attempt that was answered is never given. -/
  answered : ∀ id attempt, t.Answered id attempt → ∀ f, Steps t f →
    f.Answered id attempt ∧ (id, attempt) ∉ f.cancelled ∧ (id, attempt) ∉ f.drop.cancelled
  /-- An attempt whose signal was given is never answered. -/
  abandoned : ∀ id attempt, (id, attempt) ∈ t.cancelled → ∀ f, Steps t f →
    (id, attempt) ∈ f.cancelled ∧ ¬ f.Answered id attempt
  /-- Once the stage has ended no attempt is outstanding, whatever is left in the mailbox. -/
  ended : t.isRunning = false → ∀ id attempt, ¬ t.Outstanding id attempt
  /-- A stage that is dropped gives the signals of its outstanding attempts. -/
  dropped : t.drop.Accounted ∧ ∀ id attempt, ¬ t.drop.Outstanding id attempt ∧
    ((id, attempt) ∈ t.drop.cancelled ↔ (id, attempt) ∈ t.cancelled ∨ t.Outstanding id attempt)

theorem not_outstanding (empty : s.entries = []) : ¬ s.Outstanding id attempt := by
  rintro ⟨e, here, -⟩
  rw [empty] at here
  cases here

theorem signalsExact {b : Builder} {now : Instant} (built : b.build now = .ok s) (steps : Steps s t) :
    SignalsExact s t := by
  have kept := (Kept.build built).steps steps
  have spared : ∀ {id attempt f}, Steps t f → t.Answered id attempt → (id, attempt) ∉ f.cancelled :=
    fun later taken given =>
      not_answered_of_cancelled built (steps.trans later) given (answered_extends later taken)
  refine ⟨accounted built steps, fun id attempt => exists_givenIn built steps, ?_, ?_,
    fun stopped id attempt => not_outstanding (kept.sound.ended stopped), ?_, fun id attempt => ?_⟩
  · intro id attempt taken f later
    refine ⟨answered_extends later taken, spared later taken, fun given => ?_⟩
    obtain ⟨u, closing, -, told⟩ := (kept.sound.steps later).drop_eq
    obtain ⟨time, noted⟩ := mem_cancelled.1 given
    exact spared (later.trans closing) taken (mem_cancelled.2 ⟨time, told ▸ noted⟩)
  · intro id attempt given f later
    have given' := cancelled_extends later given
    exact ⟨given', not_answered_of_cancelled built (steps.trans later) given'⟩
  · obtain ⟨u, closing, stopped, told⟩ := kept.sound.drop_eq
    refine (accounted built (steps.trans closing)).congr told ?_
    rw [(drop_ends t).entries, (kept.sound.steps closing).ended stopped]
  · refine ⟨not_outstanding (drop_ends t).entries, ?_⟩
    rw [(drop_ends t).mem_cancelled, kept.sound.outstanding_iff]

/-- The first attempt has failed, and the values of the second one are left in the mailbox. -/
def unread : List Action := firstBad ++ [.poll, .undergo (.completes ⟨0, 2, .values ["b"]⟩)]

/-- **Cancel signals are exact.** However a stage began and whatever is done with it, each attempt that
was started is outstanding, or it was answered and its signal is never given, or its signal was
given while it was outstanding and it is never answered. A stage that has ended or is dropped has
no outstanding attempt. -/
theorem cancel_signals {b : Builder} {now : Instant} {error : Option StageError} (begins : b.Begins now s error) :
    ∃ s₀, b.build now = .ok s₀ ∧ ∀ actions t, Steps (s.run actions) t → SignalsExact s₀ t := by
  obtain ⟨s₀, before, built, rfl, -, -⟩ := begins.exists_run
  refine ⟨s₀, built, fun actions t later => ?_⟩
  rw [← run_append] at later
  exact signalsExact built ((run_steps (build_sound built) (before ++ actions)).trans later)

/-- A stage is closed while the completion of an attempt is unread. -/
theorem cancel_signals_unread : ∃ s, patient.build .epoch = .ok s ∧ SignalsExact s (s.run unread) ∧
    (s.run unread).started = [(0, 1), (0, 2)] ∧ (s.run unread).Answered 0 1 ∧ (s.run unread).Outstanding 0 2 ∧
    SignalsExact s (s.run (unread ++ [.close])) ∧ (s.run (unread ++ [.close])).cancelled = [(0, 2)] ∧
    (s.run (unread ++ [.close])).mailbox = [⟨0, 2, .values ["b"]⟩] := by
  have built : patient.build .epoch = .ok (start patient tenths .epoch) := rfl
  obtain ⟨s₀, built', all⟩ := cancel_signals (.built built)
  obtain rfl := Except.ok.inj (built.symm.trans built')
  have before := all unread _ .refl
  have started : ((start patient tenths .epoch).run unread).started = [(0, 1), (0, 2)] := by decide +kernel
  have taken : ((start patient tenths .epoch).run unread).applied = [⟨0, 1, .failure ⟨"down"⟩⟩] := by decide +kernel
  have silent : ((start patient tenths .epoch).run unread).cancelled = [] := by decide +kernel
  have outstanding : ((start patient tenths .epoch).run unread).Outstanding 0 2 := by
    cases before.accounted.situation 0 2 (by simp [started]) with
    | outstanding held => exact held
    | answered _ answered =>
      obtain ⟨outcome, answered⟩ := answered
      simp [taken] at answered
    | cancelled _ _ given => simp [silent] at given
  exact ⟨_, built, before, started, ⟨.failure ⟨"down"⟩, by simp [taken]⟩, outstanding,
    all (unread ++ [.close]) _ .refl, by decide +kernel, by decide +kernel⟩

end Stage

end AsyncStage
