import AsyncStage.Proofs.Stage.Admission
import AsyncStage.Proofs.Stage.Kept
import AsyncStage.Proofs.Time.Instant

/-!
# Turns and the clock

The clock stands still during a turn. Timers fire in turns only, and a turn fires all that are
due, so what timers bring about has its place in a turn: a further attempt, and a timeout, are
noted by a turn at the time that its clock shows, and after a turn nothing is overdue.
-/

namespace AsyncStage

namespace Event

/-- Whether the event is an attempt after the first one. -/
def isRetry : Event → Bool
  | .invoked call => 1 < call.attempt
  | _ => false

def isTimeout : Event → Bool
  | .resolved _ (.error (.timeout _ _)) => true
  | _ => false

/-- Whether the event is brought about by a timer. -/
def isTimed (v : Event) : Bool := v.isRetry || v.isTimeout

theorem not_isTimed_ofOutcome (id : EntryId) (outcome : Outcome) :
    (Event.resolved id (.ofOutcome outcome)).isTimed = false := by
  cases outcome <;> rfl

theorem not_isRetry_of_not_isTimed {v : Event} (untimed : v.isTimed = false) : v.isRetry = false :=
  (Bool.or_eq_false_iff.1 untimed).1

end Event

namespace Stage

variable {s s' s₁ f : Stage} {e e' : RecordEntry} {new : List Event} {P : Event → Prop}

/-! ## What is noted at one time -/

/-- What was noted in going from `s` to `s'` was noted at one time, and `P` is true of it. -/
structure Notes (P : Event → Prop) (s s' : Stage) : Prop where
  now : s'.now = s.now
  told : ∃ new : List Event, s'.told = s.told ++ new.map (Note.mk s.now) ∧ ∀ v ∈ new, P v

namespace Notes

theorem refl (s : Stage) : Notes P s s := ⟨rfl, [], by simp, by simp⟩

theorem trans (a : Notes P s s₁) (b : Notes P s₁ s') : Notes P s s' := by
  obtain ⟨now, new, told, all⟩ := a
  obtain ⟨now', new', told', all'⟩ := b
  refine ⟨now'.trans now, new ++ new', ?_, ?_⟩
  · rw [told', told, now, List.map_append, List.append_assoc]
  · intro v hv
    exact (List.mem_append.1 hv).elim (all v) (all' v)

theorem mono {Q : Event → Prop} (a : Notes P s s') (weaker : ∀ v, P v → Q v) : Notes Q s s' := by
  obtain ⟨now, new, told, all⟩ := a
  exact ⟨now, new, told, fun v hv => weaker v (all v hv)⟩

/-- A new note tells of such an event, and of the time. -/
theorem of_mem (a : Notes P s s') {n : Note} (told : n ∈ s'.told) (fresh : n ∉ s.told) :
    n.time = s.now ∧ P n.event := by
  obtain ⟨-, new, told', all⟩ := a
  rw [told'] at told
  obtain ⟨v, hv, rfl⟩ := List.mem_map.1 ((List.mem_append.1 told).resolve_left fresh)
  exact ⟨rfl, all v hv⟩

end Notes

theorem Works.notes (w : Works s s' e e' new) (all : ∀ v ∈ new, P v) : Notes P s s' := ⟨w.now, new, w.told, all⟩

/-- The end of an entry's time is told by a cancel signal at most, and by the result. -/
theorem forall_expiry {first : Instant}
    (cancelled : ∀ attempt, e.signal = some attempt → P (.cancelled e.id attempt))
    (resolved : P (.resolved e.id (.error (.timeout (s.now.elapsed first) e.retry.attempts)))) :
    ∀ v ∈ s.expiry e first, P v := by
  intro v hv
  rcases List.mem_append.1 hv with signal | result
  · obtain ⟨attempt, held, rfl⟩ := Option.map_eq_some_iff.1 (Option.mem_toList.1 signal)
    exact cancelled attempt held
  · exact List.mem_singleton.1 result ▸ resolved

theorem Ends.notes {status : Status} (w : Ends s s' status) (cancelled : ∀ id attempt, P (.cancelled id attempt)) :
    Notes P s s' := by
  refine ⟨w.now, s.cancellations, w.told, fun v hv => ?_⟩
  obtain ⟨e, -, attempt, -, rfl⟩ := mem_cancellations hv
  exact cancelled e.id attempt

theorem Resolves.notes {result : Resolution} (r : Resolves s s' e result new) (all : ∀ v ∈ new, P v)
    (cancelled : ∀ id attempt, P (.cancelled id attempt)) : Notes P s s' := by
  cases r with
  | completed values final works => exact works.notes all
  | failed error s₁ e₁ final cause works silent ends => exact (works.notes all).trans (ends.notes cancelled)

theorem Emits.notes {drained : List Entry} (m : Emits s s' drained) (released : ∀ a, P (.released a)) :
    Notes P s s' := by
  refine ⟨m.now, _, m.told, fun v hv => ?_⟩
  obtain ⟨a, -, rfl⟩ := List.mem_map.1 hv
  exact released a

theorem Admits.notes {a : Entry} (m : Admits s s' a new) (admitted : ∀ id x, P (.admitted id x))
    (all : ∀ v ∈ new, P v) : Notes P s s' := by
  refine ⟨m.now, _, m.told, fun v hv => ?_⟩
  rcases List.mem_cons.1 hv with rfl | later
  · exact admitted _ _
  · exact all v later

theorem Applies.notes {c : Completion} (r : Applies s s' c) : Notes (fun v => v.isTimed = false) s s' := by
  cases r with
  | ignored same => exact same ▸ .refl s'
  | scheduled e here names accepted wanted works =>
    apply works.notes
    simp [Event.isTimed, Event.isRetry, Event.isTimeout]
  | resolved e here names accepted unwanted resolves =>
    refine resolves.notes (List.forall_mem_cons.2 ⟨rfl, List.forall_mem_singleton.2 ?_⟩) fun _ _ => rfl
    exact Event.not_isTimed_ofOutcome _ _

/-- Taking up mail brings about nothing that needs a timer. -/
theorem Takes.notes {c : Completion} {rest : List Completion} (t : Takes s s' c rest) :
    Notes (fun v => v.isTimed = false) s s' := by
  obtain ⟨now, told⟩ := t.applies.notes
  exact ⟨now, told⟩

theorem Pops.notes {key : TimerKey} {target : TimerTarget} {rest : TimerQueue} (p : Pops s s' key target rest) :
    Notes (fun _ => True) s s' := by
  cases p.fires with
  | retried e here at' set works => exact works.notes fun _ _ => trivial
  | expired e here opened started timeout deadline resolves =>
    exact resolves.notes (fun _ _ => trivial) fun _ _ => trivial

theorem GivesUp.notes {ids : List EntryId} (gives : GivesUp s ids s') :
    Notes (fun v => v.isTimed = false) s s' := by
  induction gives with
  | nil s => exact .refl s
  | passed id stopped later ih => exact ih
  | cutShort e here ended at' resolves later ih =>
    refine (resolves.notes ?_ fun _ _ => rfl).trans ih
    simp [Event.not_isTimed_ofOutcome]

theorem Reads.notes (reads : Reads s s') : Notes (fun v => v.isTimed = false) s s' :=
  Reads.between (Notes _) .refl Notes.trans reads Takes.notes

theorem Expires.notes (expires : Expires s s') : Notes (fun _ => True) s s' :=
  Expires.between (Notes _) .refl Notes.trans expires Pops.notes

theorem turn_notes (h : s.Sound) : Notes (fun _ => True) s s.turn := by
  obtain ⟨reads, expires, drained, emits⟩ := turn_parts h
  have read := (Reads.notes reads).mono (Q := fun _ => True) fun _ _ => trivial
  exact (read.trans (Expires.notes expires)).trans (emits.notes fun _ => trivial)

theorem now_turn (h : s.Sound) : s.turn.now = s.now := (turn_notes h).now

/-! ## What happens in turns only -/

/-- On the way from `s` to `f` a turn began at `u`, and it noted `n`. -/
structure TurnNotes (s u f : Stage) (n : Note) : Prop where
  before : Moves s u
  after : Moves u.turn f
  fresh : n ∉ u.told
  told : n ∈ u.turn.told
  time : n.time = u.now

/-- Of all moves only a turn brings about what needs a timer. -/
theorem Move.timed (move : Move s s') {n : Note} (timed : n.event.isTimed = true) (told : n ∈ s'.told)
    (fresh : n ∉ s.told) : s' = s.turn ∧ n.time = s.now := by
  have never : Notes (fun v => v.isTimed = false) s s' → s' = s.turn ∧ n.time = s.now := by
    intro notes
    have silent := (notes.of_mem told fresh).2
    rw [timed] at silent
    cases silent
  cases move with
  | turned sound => exact ⟨rfl, ((turn_notes sound).of_mem told fresh).1⟩
  | underwent o =>
    cases o with
    | completes c =>
      exact never ⟨rfl, [.posted c], told_note rfl, by simp [Event.isTimed, Event.isRetry, Event.isTimeout]⟩
    | clockReads t => exact absurd told fresh
  | woke sound mail => exact never (woke_takes sound mail).notes
  | admittedRecord sound running room =>
    obtain ⟨admits, -⟩ := admitRecord_admits sound.queue sound.below room
    refine never (admits.notes (fun _ _ => rfl) ?_)
    simp [calls, Event.isTimed, Event.isRetry, Event.isTimeout]
  | admittedWatermark sound running room =>
    obtain ⟨admits, -⟩ := enqueue?_admits sound.queue sound.below rfl (fun _ other => by cases other) room
    exact never (admits.notes (fun _ _ => rfl) (by simp))
  | inputEnded sound running =>
    obtain ⟨now, told⟩ := GivesUp.notes (waiting_givesUp sound running)
    exact never ⟨now, told⟩
  | forwarded status => exact absurd told fresh
  | measured m => exact absurd (told_measure s m ▸ told) fresh
  | closed running => exact never ((teardown_ends s .closed).notes fun _ _ => rfl)

/-- **What timers bring about is noted by turns**, at the time that the clock shows. -/
theorem Moves.timed (moves : Moves s f) {n : Note} (timed : n.event.isTimed = true) (told : n ∈ f.told)
    (fresh : n ∉ s.told) : ∃ u, TurnNotes s u f n := by
  induction moves with
  | refl => exact absurd told fresh
  | @tail u v before last ih =>
    by_cases old : n ∈ u.told
    · obtain ⟨w, notes⟩ := ih old
      exact ⟨w, { notes with after := notes.after.tail last }⟩
    · obtain ⟨rfl, time⟩ := last.timed timed told old
      exact ⟨u, before, .refl, old, told, time⟩

/-! ## Nothing is overdue -/

/-- As many steps as there are timers fire all that are due. -/
theorem fireUpTo_due (h : s.Sound) (n : Nat) (enough : s.timers.toList.length ≤ n) :
    ∀ p ∈ (fireUpTo n s).timers.toList, (fireUpTo n s).now < p.1.fireAt := by
  induction n generalizing s with
  | zero =>
    intro p hp
    rw [show (fireUpTo 0 s).timers.toList = [] from List.eq_nil_of_length_eq_zero (Nat.le_zero.1 enough)] at hp
    cases hp
  | succ n ih =>
    unfold fireUpTo
    cases popped : s.timers.popDue s.now with
    | none =>
      intro p hp
      have first := TimerQueue.popDue_eq_none_iff.1 popped
      have order := s.timers.toList_pairwise
      generalize s.timers.toList = timers at first order hp
      cases hp with
      | head => exact first p rfl
      | tail head later =>
        have due := first _ rfl
        rcases (List.pairwise_cons.1 order).1 p later with earlier | ⟨same, -⟩
        · exact Int.lt_trans due earlier
        · exact same ▸ due
    | some p =>
      obtain ⟨key, pops⟩ := h.fires popped
      apply ih (h.step (.fired pops))
      have fewer := (pops.timers_sublist h).length_le
      rw [pops.first, List.length_cons] at enough
      omega

/-- **After a turn nothing is due.** -/
theorem turn_due (h : s.Sound) : ∀ p ∈ s.turn.timers.toList, s.now < p.1.fireAt := by
  obtain ⟨reads, expires, drained, emits⟩ := turn_parts h
  have due := fireUpTo_due (h.steps (steps_of_reads reads)) s.readMail.timers.size (Nat.le_refl _)
  rw [emits.timers, ← (Reads.notes reads).now, ← (Expires.notes expires).now]
  exact due

/-- The time of a record without a result is not up after a turn. -/
theorem turn_early (h : s.Sound) (here : .record e ∈ s.turn.entries) (opened : e.isDone = false) {span : Duration}
    (timeout : s.setup.timeout = some span) :
    ∃ first, e.retry.firstAttempt = some first ∧ s.now < first.after span.span := by
  have sound := h.steps (turn_steps h)
  have timeout' : s.turn.setup.timeout = some span :=
    (congrArg Setup.timeout (fixed_of_steps (turn_steps h)).setup).trans timeout
  obtain ⟨timer, set⟩ : ∃ timer, e.deadlineTimer = some timer := by
    rw [← Option.isSome_iff_exists, sound.armed e here opened, timeout', Option.isSome_some]
  obtain ⟨progress, at'⟩ := sound.standing e here
  obtain ⟨-, first, started⟩ := at'.of_deadline set
  have owns : e.Owns s.turn.setup.timeout (⟨first.after span.span, timer⟩, .deadline e.id) :=
    .inl ⟨rfl, set, first, span, started, timeout', rfl⟩
  exact ⟨first, started, turn_due h _ ((sound.owned _).2 ⟨e, here, owns⟩)⟩

/-- After a turn no retry is awaited that was to start by then. -/
theorem turn_awaits (h : s.Sound) (here : .record e ∈ s.turn.entries) {attempt : Nat} {first retryAt : Instant}
    {outcome : Outcome} (at' : e.At (.waiting attempt first outcome retryAt)) : s.now < retryAt := by
  have sound := h.steps (turn_steps h)
  cases at' with
  | waiting slot attempts started timer set fires =>
    have owns : e.Owns s.turn.setup.timeout (⟨retryAt, timer⟩, .retry e.id) := .inr ⟨rfl, set, fires⟩
    exact turn_due h _ ((sound.owned _).2 ⟨e, here, owns⟩)

end Stage

end AsyncStage
