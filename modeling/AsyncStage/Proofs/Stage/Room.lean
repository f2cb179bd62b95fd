import AsyncStage.Proofs.Stage.Restart
import AsyncStage.Proofs.Stage.Signals

/-!
# Room in the queue

A queue never holds more entries than it has room for, watermarks counted. An element is refused
exactly if the queue is full after the turn with which its admission begins, and then nothing else
has happened: the stage is left as a turn leaves it, and a turn gives out no number, adds no entry
and calls the function for further attempts only.
-/

namespace AsyncStage.Stage

variable {s s' s₁ : Stage} {e e' : RecordEntry} {new : List Event} {α : Type}

/-! ## What a turn leaves alone -/

/-- Nothing was admitted: no number was given out, no entry was added, and the function was called
for further attempts of records in flight only. -/
structure AdmitsNothing (s s' : Stage) : Prop where
  nextId : s'.nextId = s.nextId
  admitted : s'.admitted = s.admitted
  labels : (s'.entries.map Entry.label).Sublist (s.entries.map Entry.label)
  calls : ∃ more, s'.invoked = s.invoked ++ more ∧
    ∀ call ∈ more, 1 < call.attempt ∧ call.entry ∈ s.entries.map Entry.id

theorem map_label_fst (es : List Entry) : (es.map Entry.label).map (·.1) = es.map Entry.id := List.map_map

namespace AdmitsNothing

theorem refl (s : Stage) : AdmitsNothing s s := ⟨rfl, rfl, .refl _, [], (List.append_nil _).symm, nofun⟩

theorem trans (a : AdmitsNothing s s₁) (b : AdmitsNothing s₁ s') : AdmitsNothing s s' where
  nextId := b.nextId.trans a.nextId
  admitted := b.admitted.trans a.admitted
  labels := b.labels.trans a.labels
  calls := by
    obtain ⟨more, invoked, known⟩ := a.calls
    obtain ⟨more', invoked', known'⟩ := b.calls
    refine ⟨more ++ more', by rw [invoked', invoked, List.append_assoc], fun call called => ?_⟩
    rcases List.mem_append.1 called with early | late
    · exact known call early
    · have ids := (a.labels.map (·.1)).subset
      rw [map_label_fst, map_label_fst] at ids
      exact ⟨(known' call late).1, ids (known' call late).2⟩

end AdmitsNothing

theorem Works.admitsNothing (w : Works s s' e e' new) (h : s.Sound) (quiet : InFlight new)
    (calls : ∀ call ∈ new.filterMap Event.invocation?, 1 < call.attempt ∧ call.entry = e.id) :
    AdmitsNothing s s' where
  nextId := w.nextId
  admitted := w.admitted quiet
  labels := by
    rw [entries, w.queue.labels h.queue]
    exact .refl _
  calls := by
    refine ⟨_, invoked_noted w.told, fun call called => ⟨(calls call called).1, ?_⟩⟩
    rw [(calls call called).2]
    exact List.mem_map.2 ⟨_, w.queue.here, rfl⟩

theorem Ends.admitsNothing {status : Status} (w : Ends s s' status) : AdmitsNothing s s' where
  nextId := w.nextId
  admitted := w.admitted
  labels := by
    rw [w.entries]
    exact List.nil_sublist _
  calls := ⟨[], by rw [(w.notes fun _ _ => rfl).invoked_eq, List.append_nil], nofun⟩

theorem Resolves.admitsNothing {result : Resolution} (r : Resolves s s' e result new) (h : s.Sound)
    (quiet : InFlight new) (silent : ∀ v ∈ new, v.invocation? = none) : AdmitsNothing s s' := by
  have uncalled : new.filterMap Event.invocation? = [] := List.filterMap_eq_nil_iff.2 silent
  cases r with
  | completed values final works => exact works.admitsNothing h quiet (by simp [uncalled])
  | failed error s₁ e₁ final cause works mute ends =>
    exact (works.admitsNothing h quiet (by simp [uncalled])).trans ends.admitsNothing

theorem Takes.admitsNothing {c : Completion} {rest : List Completion} (t : Takes s s' c rest) (h : s.Sound) :
    AdmitsNothing s s' := by
  have start : AdmitsNothing s { s with mailbox := rest } := ⟨rfl, rfl, .refl _, [], (List.append_nil _).symm, nofun⟩
  have sound := h.quiet (quiet_mailbox s rest)
  refine start.trans ?_
  cases t.applies with
  | ignored same => exact same ▸ .refl _
  | scheduled e here names accepted wanted works =>
    exact works.admitsNothing sound ⟨rfl, rfl⟩ (by simp [Event.invocation?])
  | resolved e here names accepted unwanted resolves =>
    exact resolves.admitsNothing sound ⟨rfl, rfl⟩ (by simp [Event.invocation?])

/-- A retry is never the first attempt of its record. -/
theorem Pops.admitsNothing {key : TimerKey} {target : TimerTarget} {rest : TimerQueue}
    (p : Pops s s' key target rest) (h : s.Kept) : AdmitsNothing s s' := by
  cases p.fires with
  | retried e here at' set works =>
    refine works.admitsNothing h.sound (inFlight_calls s _) fun call called => ?_
    have pos := (h.told.attempts here at' at'.waits.1).pos rfl
    rw [invocations_calls, List.mem_singleton] at called
    subst called
    cases at' with
    | waiting slot counted => exact ⟨Nat.succ_lt_succ (counted ▸ pos), rfl⟩
  | expired e here opened started timeout deadline resolves =>
    exact resolves.admitsNothing h.sound (inFlight_expiry s e _) (forall_expiry (fun _ _ => rfl) rfl)

theorem Emits.admitsNothing {drained : List Entry} (m : Emits s s' drained) : AdmitsNothing s s' where
  nextId := m.nextId
  admitted := m.admitted
  labels := m.queue.stays.map _
  calls := ⟨[], by rw [(m.notes fun _ => rfl).invoked_eq, List.append_nil], nofun⟩

theorem Reads.admitsNothing (reads : Reads s s') (h : s.Kept) : s'.Kept ∧ AdmitsNothing s s' := by
  induction reads with
  | refl => exact ⟨h, .refl s⟩
  | tail _ last ih =>
    obtain ⟨kept, nothing⟩ := ih
    obtain ⟨c, rest, takes⟩ := last
    exact ⟨kept.step (.took takes), nothing.trans (takes.admitsNothing kept.sound)⟩

theorem Expires.admitsNothing (expires : Expires s s') (h : s.Kept) : s'.Kept ∧ AdmitsNothing s s' := by
  induction expires with
  | refl => exact ⟨h, .refl s⟩
  | tail _ last ih =>
    obtain ⟨kept, nothing⟩ := ih
    obtain ⟨key, target, rest, pops⟩ := last
    exact ⟨kept.step (.fired pops), nothing.trans (pops.admitsNothing kept)⟩

/-- **A turn admits nothing.** -/
theorem Kept.turn_admitsNothing (h : s.Kept) : AdmitsNothing s s.turn := by
  obtain ⟨reads, expires, drained, emits⟩ := turn_parts h.sound
  obtain ⟨kept, read⟩ := Reads.admitsNothing reads h
  exact (read.trans (Expires.admitsNothing expires kept).2).trans emits.admitsNothing

/-! ## One attempt at an admission -/

theorem enqueue?_eq_none_iff (sound : s.queue.Sound) {entry : Entry} :
    s.enqueue? entry = none ↔ s.queue.size = s.queue.capacity := by
  have fits := sound.fits
  rw [enqueue?, Option.map_eq_none_iff, Queue.put?, Queue.hasRoom]
  constructor
  · intro none
    by_contra other
    rw [if_pos (decide_eq_true (Nat.lt_of_le_of_ne fits other))] at none
    cases none
  · intro full
    rw [full, if_neg (by simp)]

theorem afterTurn_eq (running : s.isRunning = true) (fine : s.turn.failure? = none)
    (next : Stage → Stage × Except StageError α) : s.afterTurn next = next s.turn := by
  rw [afterTurn, whileRunning, if_pos running, unlessFailed, fine]

section Attempt

variable {entry : Stage → Entry} {start : Stage → Stage → Stage} {meanwhile : List Occurrence} {no yes answer : α}

/-- Without room an attempt leaves the stage as it is. -/
theorem admitIfRoom_full (sound : s.queue.Sound) (full : s.queue.size = s.queue.capacity) :
    admitIfRoom entry start meanwhile no yes s = (s, .ok no) := by
  rw [admitIfRoom, (enqueue?_eq_none_iff sound).2 full]

/-- With room an attempt admits the element, or the stage fails. -/
theorem admitIfRoom_room (sound : s.queue.Sound) (room : s.queue.size ≠ s.queue.capacity)
    (ok : (admitIfRoom entry start meanwhile no yes s).2 = .ok answer) : answer = yes := by
  unfold admitIfRoom at ok
  cases put : s.enqueue? (entry s) with
  | none => exact absurd ((enqueue?_eq_none_iff sound).1 put) room
  | some admitted =>
    simp only [put] at ok
    obtain ⟨-, same⟩ := unlessFailed_ok ok
    rw [same] at ok
    exact (Except.ok.inj ok).symm

/-- **An element is refused exactly if the queue is full after the turn.** -/
theorem refused_iff (h : s.Sound) (differ : no ≠ yes) (running : s.isRunning = true) (fine : s.turn.failure? = none) :
    (s.afterTurn (admitIfRoom entry start meanwhile no yes)).2 = .ok no ↔
      s.turn.queue.size = s.turn.queue.capacity := by
  have sound := (h.steps (turn_steps h)).queue
  rw [afterTurn_eq running fine]
  constructor
  · intro ok
    by_contra room
    exact differ (admitIfRoom_room sound room ok)
  · intro full
    rw [admitIfRoom_full sound full]

/-- What is answered when the stage has not failed. -/
theorem answer_eq_or (h : s.Sound) (ok : (s.afterTurn (admitIfRoom entry start meanwhile no yes)).2 = .ok answer) :
    answer = no ∨ answer = yes := by
  obtain ⟨running, fine, same⟩ := afterTurn_ok ok
  have sound := (h.steps (turn_steps h)).queue
  rw [same] at ok
  by_cases full : s.turn.queue.size = s.turn.queue.capacity
  · rw [admitIfRoom_full sound full] at ok
    exact .inl (Except.ok.inj ok).symm
  · exact .inr (admitIfRoom_room sound full ok)

/-- **A refused element leaves the stage as a turn leaves it.** -/
theorem poll_of_refused (h : s.Sound) (differ : no ≠ yes)
    (refused : (s.afterTurn (admitIfRoom entry start meanwhile no yes)).2 = .ok no) :
    s.poll = ((s.afterTurn (admitIfRoom entry start meanwhile no yes)).1, .ok ()) := by
  obtain ⟨running, fine, same⟩ := afterTurn_ok refused
  have full := (refused_iff h differ running fine).1 refused
  rw [poll, afterTurn_eq running fine, same, admitIfRoom_full (h.steps (turn_steps h)).queue full]

end Attempt

/-! ## Calls that must not block -/

theorem unlessFailed_error {next : Stage → Stage × Except StageError α} {error : StageError}
    (told : (s.unlessFailed next).2 = .error error) :
    (∃ f, error = .entryFailed f) ∨ (next s).2 = .error error := by
  unfold unlessFailed at told
  cases failed : s.failure? with
  | none =>
    rw [failed] at told
    exact .inr told
  | some error' =>
    rw [failed] at told
    cases told
    obtain ⟨f, -, same⟩ := failure?_eq_some failed
    exact .inl ⟨f, same⟩

/-- An attempt never answers that it cannot block: only waiting does. -/
theorem attempt_ne_cannotBlock {entry : Stage → Entry} {start : Stage → Stage → Stage}
    {meanwhile : List Occurrence} {no yes : α} :
    (s.afterTurn (admitIfRoom entry start meanwhile no yes)).2 ≠ .error .cannotBlock := by
  intro told
  unfold afterTurn whileRunning at told
  split at told
  · rcases unlessFailed_error told with ⟨f, failed⟩ | told
    · cases failed
    · unfold admitIfRoom at told
      split at told
      · cases told
      · rcases unlessFailed_error told with ⟨f, failed⟩ | told
        · cases failed
        · cases told
  · cases told

section Waiting

variable {attempt : Stage → Stage × Except StageError (Option α)}

theorem repeatUntil_ne_cannotBlock (never : ∀ t, (attempt t).2 ≠ .error .cannotBlock) (wakes : List Wake) (s : Stage) :
    (repeatUntil attempt .blocked wakes s).2 ≠ .failed .cannotBlock := by
  induction wakes generalizing s with
  | nil =>
    have first := never s
    unfold repeatUntil
    generalize attempt s = answered at first
    obtain ⟨t, error | (_ | answer)⟩ := answered
    · exact fun told => first (congrArg Except.error (Reply.failed.inj told))
    · exact fun told => by cases told
    · exact fun told => by cases told
  | cons w wakes ih =>
    have first := never s
    unfold repeatUntil
    generalize attempt s = answered at first
    obtain ⟨t, error | (_ | answer)⟩ := answered
    · exact fun told => first (congrArg Except.error (Reply.failed.inj told))
    · simp only [answerOr]
      cases failed : (t.sleep w).failure? with
      | none => exact ih _
      | some error =>
        obtain ⟨f, -, rfl⟩ := failure?_eq_some failed
        exact fun told => by cases told
    · exact fun told => by cases told

/-- **A call answers that it cannot block** exactly if it must not and its first attempt finds no
room, and then it has done nothing but this attempt. -/
theorem waitFor_cannotBlock (never : ∀ t, (attempt t).2 ≠ .error .cannotBlock) (waiting : Waiting) (s : Stage) :
    ((s.waitFor waiting attempt).2 = .failed .cannotBlock ↔ waiting = .forbidden ∧ (attempt s).2 = .ok none) ∧
      ((s.waitFor waiting attempt).2 = .failed .cannotBlock → (s.waitFor waiting attempt).1 = (attempt s).1) := by
  cases waiting with
  | wakes wakes =>
    have no := repeatUntil_ne_cannotBlock never wakes s
    exact ⟨⟨fun told => absurd told no, fun told => by cases told.1⟩, fun told => absurd told no⟩
  | forbidden =>
    have first := never s
    unfold waitFor repeatUntil
    generalize attempt s = answered at first
    obtain ⟨t, error | (_ | answer)⟩ := answered
    · refine ⟨⟨fun told => ?_, fun told => by cases told.2⟩, fun _ => rfl⟩
      exact absurd (congrArg Except.error (Reply.failed.inj told)) first
    · exact ⟨iff_of_true rfl ⟨rfl, rfl⟩, fun _ => rfl⟩
    · refine ⟨⟨fun told => ?_, fun told => by cases told.2⟩, fun told => ?_⟩ <;> cases told

end Waiting

/-! ## Refusals -/

section Refusal

variable {entry : Stage → Entry} {start : Stage → Stage → Stage} {meanwhile : List Occurrence} {no yes : α}
  {room : α → Bool}

theorem untilRoom_ne_cannotBlock :
    (untilRoom room (s.afterTurn (admitIfRoom entry start meanwhile no yes))).2 ≠ .error .cannotBlock := by
  intro told
  have error := congrArg errorOf told
  rw [errorOf_untilRoom] at error
  cases answer : (s.afterTurn (admitIfRoom entry start meanwhile no yes)).2 with
  | error error' =>
    rw [answer] at error
    cases error
    exact attempt_ne_cannotBlock answer
  | ok _ =>
    rw [answer] at error
    cases error

variable (room) (h : s.Sound) (refuses : room no = false) (admits : room yes = true)

include h refuses admits

/-- Whoever repeats an attempt until there is room repeats it exactly if it was refused. -/
theorem untilRoom_none_iff :
    (untilRoom room (s.afterTurn (admitIfRoom entry start meanwhile no yes))).2 = .ok none ↔
      (s.afterTurn (admitIfRoom entry start meanwhile no yes)).2 = .ok no := by
  constructor
  · intro none
    obtain ⟨answer, told, full⟩ := untilRoom_ok none
    rcases answer_eq_or h told with rfl | rfl
    · exact told
    · rw [admits] at full
      cases full
  · intro refused
    simp only [untilRoom, refused, Except.map, refuses]
    rfl

/-- **An admission that must not block** is refused exactly if the queue is full after the first
turn, and then this turn is all that has happened. -/
theorem waitFor_refuses {waiting : Waiting} {whole : Stage × Reply Unit}
    (same : whole = s.waitFor waiting fun s =>
      untilRoom room (s.afterTurn (admitIfRoom entry start meanwhile no yes))) :
    (s.isRunning = true → s.turn.failure? = none → (whole.2 = .failed .cannotBlock ↔
      waiting = .forbidden ∧ s.turn.queue.size = s.turn.queue.capacity)) ∧
    (whole.2 = .failed .cannotBlock → s.poll = (whole.1, .ok ())) := by
  subst same
  have differ : no ≠ yes := fun same => by rw [same, admits] at refuses; cases refuses
  have never : ∀ t : Stage, (untilRoom room (t.afterTurn (admitIfRoom entry start meanwhile no yes))).2 ≠
    .error .cannotBlock := fun t => untilRoom_ne_cannotBlock
  obtain ⟨told_iff, state⟩ := waitFor_cannotBlock never waiting s
  rw [untilRoom_none_iff room h refuses admits] at told_iff
  refine ⟨fun running fine => ?_, fun told => ?_⟩
  · rw [told_iff, refused_iff h differ running fine]
  · rw [state told]
    exact poll_of_refused h differ (told_iff.1 told).2

end Refusal

theorem putElement_refuses (h : s.Sound) (e : Element) (i : Interference) :
    (s.isRunning = true → s.turn.failure? = none → ((s.putElement e i).2 = .failed .cannotBlock ↔
      i.waiting = .forbidden ∧ s.turn.queue.size = s.turn.queue.capacity)) ∧
    ((s.putElement e i).2 = .failed .cannotBlock → s.poll = ((s.putElement e i).1, .ok ())) := by
  cases e with
  | record r => exact waitFor_refuses Admission.isAccepted h rfl rfl (put_eq s r i)
  | watermark t => exact waitFor_refuses id h rfl rfl (putWatermark_eq s t i)

/-- The entries in flight are counted, watermarks too, and there is room for them. -/
structure Bounded (s : Stage) (capacity : Nat) : Prop where
  room : s.queue.capacity = capacity
  counted : s.queue.size = s.entries.length
  fits : s.queue.size ≤ capacity

/-- When a running stage refuses an element, and what it has done then. -/
structure Refuses (s : Stage) : Prop where
  /-- A record is handed back exactly if the queue is full after the turn. -/
  full_iff : s.turn.failure? = none → ∀ r meanwhile,
    (∃ r', (s.offer r meanwhile).2 = .ok (.full r')) ↔ s.turn.queue.size = s.turn.queue.capacity
  /-- It is handed back as it is, and the stage is left as a turn leaves it. -/
  returned : ∀ r meanwhile r', (s.offer r meanwhile).2 = .ok (.full r') →
    r' = r ∧ s.poll = ((s.offer r meanwhile).1, .ok ()) ∧ AdmitsNothing s (s.offer r meanwhile).1
  /-- A call that must not block is refused under the same condition. -/
  blocks_iff : s.turn.failure? = none → ∀ e i, (s.putElement e i).2 = .failed .cannotBlock ↔
    i.waiting = .forbidden ∧ s.turn.queue.size = s.turn.queue.capacity
  unblocked : ∀ e i, (s.putElement e i).2 = .failed .cannotBlock →
    s.poll = ((s.putElement e i).1, .ok ()) ∧ AdmitsNothing s (s.putElement e i).1

/-- An operation that has done no more than a turn has admitted nothing. -/
theorem Kept.admitsNothing_of_poll (h : s.Kept) {answer : Except StageError Unit} (same : s.poll = (s', answer)) :
    AdmitsNothing s s' := by
  have all := h.turn_admitsNothing
  rw [show s' = s.poll.1 from (congrArg Prod.fst same).symm, poll_eq]
  split
  · cases s.turn.failure? <;> exact all
  · exact .refl s

theorem full_ne_accepted (r : Record) : Admission.full r ≠ .accepted := nofun

theorem Kept.refuses (h : s.Kept) (running : s.isRunning = true) : s.Refuses where
  full_iff fine r meanwhile := by
    rw [offer_eq, ← refused_iff h.sound (full_ne_accepted r) running fine]
    constructor
    · rintro ⟨r', full⟩
      rcases answer_eq_or h.sound full with same | same
      · exact same ▸ full
      · cases same
    · exact fun full => ⟨r, full⟩
  returned r meanwhile r' full := by
    rw [offer_eq] at full ⊢
    rcases answer_eq_or h.sound full with same | same
    · cases same
      have polled := poll_of_refused h.sound (full_ne_accepted r) full
      exact ⟨rfl, polled, h.admitsNothing_of_poll polled⟩
    · cases same
  blocks_iff fine e i := (putElement_refuses h.sound e i).1 running fine
  unblocked e i blocked := by
    have polled := (putElement_refuses h.sound e i).2 blocked
    exact ⟨polled, h.admitsNothing_of_poll polled⟩

def taken : Action := .offer ⟨"taken", none⟩ []

def answered : Action := .undergo (.completes ⟨0, 1, .values ["answered"]⟩)

/-- **Nothing is admitted that there is no room for.** Whatever is done with a stage, its queue holds
no more entries than its configuration allows, at any time. A running stage refuses an element
exactly if the queue is full after a turn, and then this turn is all that has happened. -/
theorem room_respected {b : Builder} {now : Instant} {s : Stage} {error : Option StageError}
    (begins : b.Begins now s error) (actions : List Action) :
    (∀ t, Steps (s.run actions) t → t.Bounded b.config.capacity.toNat) ∧
      ((s.run actions).isRunning = true → (s.run actions).Refuses) := by
  have kept := begins.kept.steps (run_steps begins.kept.sound actions)
  refine ⟨fun t steps => ?_, fun running => kept.refuses running⟩
  have sound := kept.sound.steps steps
  have capacity := begins.capacity ((run_steps begins.kept.sound actions).trans steps)
  exact ⟨capacity, sound.queue.size, capacity ▸ sound.queue.fits⟩

/-- The only place is taken, and the second record and a watermark are refused until the first record is
answered. -/
theorem room_respected_narrow : ∃ s, narrow.build .epoch = .ok s ∧ (s.run [taken]).Bounded 1 ∧
    ((s.run [taken]).offer ⟨"late", some noon⟩ []).2 = .ok (.full ⟨"late", some noon⟩) ∧
    ((s.run [taken]).putElement (.watermark noon) { waiting := .forbidden }).2 = .failed .cannotBlock ∧
    ¬ ∃ r, ((s.run [taken, answered]).offer ⟨"late", some noon⟩ []).2 = .ok (.full r) := by
  have built : narrow.build .epoch = .ok (start narrow .never .epoch) := rfl
  have full : ((start narrow .never .epoch).run [taken]).turn.queue.size = 1 := by decide +kernel
  have free : ((start narrow .never .epoch).run [taken, answered]).turn.queue.size = 0 := by decide +kernel
  obtain ⟨bounded, refuses⟩ := room_respected (.built built) [taken]
  have refuses := refuses (by decide +kernel)
  have refuses' := (room_respected (.built built) [taken, answered]).2 (by decide +kernel)
  obtain ⟨r, refused⟩ := (refuses.full_iff (by decide +kernel) ⟨"late", some noon⟩ []).2 full
  have blocked := (refuses.blocks_iff (by decide +kernel) (.watermark noon) { waiting := .forbidden }).2 ⟨rfl, full⟩
  refine ⟨_, built, bounded _ .refl, ?_, blocked, ?_⟩
  · rwa [(refuses.returned _ _ r refused).1] at refused
  · rw [refuses'.full_iff (by decide +kernel), free]
    decide

end AsyncStage.Stage
