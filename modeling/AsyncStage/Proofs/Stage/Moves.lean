import AsyncStage.Proofs.Stage.Mail

/-!
# Moves of a stage

Operations are made of a few moves: a turn, an element that is put into the queue, the end of
the input, a completion that wakes a blocked call. A move is any number of steps, but not every
sequence of steps is one: timers fire only in a turn, and all that are due fire in it. What is
true of turns is therefore said of moves.
-/

namespace AsyncStage.Stage

variable {s s' s₁ : Stage}

/-! ## A turn -/

theorem undergo_step (s : Stage) (o : Occurrence) : Step s (s.undergo o) := by
  cases o with
  | completes c => exact .posted c rfl
  | clockReads t => exact .clock t rfl

theorem undergoAll_steps (os : List Occurrence) (s : Stage) : Steps s (s.undergoAll os) := by
  induction os generalizing s with
  | nil => exact .refl
  | cons o os ih => exact .head (undergo_step s o) (ih _)

/-- Firing timers one after the other. -/
theorem fireUpTo_expires (h : s.Sound) (n : Nat) : Expires s (fireUpTo n s) := by
  induction n generalizing s with
  | zero => exact .refl
  | succ n ih =>
    unfold fireUpTo
    cases popped : s.timers.popDue s.now with
    | none => exact .refl
    | some p =>
      obtain ⟨key, pops⟩ := h.fires popped
      exact .head ⟨key, _, _, pops⟩ (ih (h.step (.fired pops)))

/-- **A turn** takes up mail, then fires timers, then emits. -/
theorem turn_parts (h : s.Sound) :
    Reads s s.readMail ∧ Expires s.readMail s.readMail.fireDue ∧
      ∃ drained, Emits s.readMail.fireDue s.turn drained := by
  have reads := readMail_reads h
  have sound := h.steps (steps_of_reads reads)
  have expires := fireUpTo_expires sound s.readMail.timers.size
  exact ⟨reads, expires, emitReady_emits (sound.steps (steps_of_expires expires)).queue⟩

theorem turn_steps (h : s.Sound) : Steps s s.turn := by
  obtain ⟨reads, expires, drained, emits⟩ := turn_parts h
  exact ((steps_of_reads reads).trans (steps_of_expires expires)).tail (.emitted drained emits)

/-! ## Other entries -/

theorem Resolves.retrying {e : RecordEntry} {result : Resolution} {new : List Event}
    (r : Resolves s s' e result new) : s'.retrying = s.retrying := by
  cases r with
  | completed values final works => exact works.retrying
  | failed error s₁ e₁ final cause works silent ends => exact ends.retrying.trans works.retrying

/-- Resolving one entry leaves the others as they are, or ends the stage. -/
theorem Resolves.others (h : s.Sound) {e a : RecordEntry} {result : Resolution} {new : List Event}
    (r : Resolves s s' e result new) (running : s'.isRunning = true) (ha : .record a ∈ s.entries)
    (other : a.id ≠ e.id) : .record a ∈ s'.entries := by
  cases r with
  | completed values final works => exact (works.queue.mem_iff h.queue).2 (.inr ⟨ha, other⟩)
  | failed error s₁ e₁ final cause works silent ends =>
    rw [isRunning, ends.status] at running
    cases running

/-- An entry other than the one whose completion is taken up stays as it is, unless the stage ends. -/
theorem Applies.others (h : s.Sound) {c : Completion} {e : RecordEntry} (r : Applies s s' c)
    (here : .record e ∈ s.entries)
    (other : ∀ e', .record e' ∈ s.entries → e'.id = c.entry → e'.accepts c.attempt = true → e.id ≠ e'.id) :
    s'.isRunning = false ∨ .record e ∈ s'.entries := by
  cases running : s'.isRunning with
  | false => exact .inl rfl
  | true =>
    cases r with
    | ignored same => exact .inr (same ▸ here)
    | scheduled e' here' names accepted wanted works =>
      exact .inr ((works.queue.mem_iff h.queue).2 (.inr ⟨here, other e' here' names accepted⟩))
    | resolved e' here' names accepted unwanted resolves =>
      exact .inr (resolves.others h running here (other e' here' names accepted))

/-! ## The end of the input -/

theorem find?_of_ended (h : s.Sound) (stopped : s.isRunning = false) (id : EntryId) : s.queue.find? id = none := by
  refine (Queue.find?_eq_none_iff h.queue).2 fun e here => ?_
  rw [show s.queue.toList = [] from h.ended stopped] at here
  cases here

theorem cutShort_of_ended (h : s.Sound) (stopped : s.isRunning = false) (id : EntryId) : s.cutShort id = s := by
  simp only [cutShort, find?_of_ended h stopped]

/-- Awaited retries are given up, one after the other. A number is passed over once the stage
has ended. -/
inductive GivesUp : Stage → List EntryId → Stage → Prop where
  | nil (s : Stage) : GivesUp s [] s
  | passed {s s' : Stage} {ids : List EntryId} (id : EntryId) (stopped : s.isRunning = false)
      (later : GivesUp s ids s') : GivesUp s (id :: ids) s'
  | cutShort {s s₁ s' : Stage} {ids : List EntryId} (e : RecordEntry) (here : .record e ∈ s.entries)
      (ended : s.retrying = false) {attempt : Nat} {first : Instant} {outcome : Outcome} {retryAt : Instant}
      (at' : e.At (.waiting attempt first outcome retryAt))
      (resolves : Resolves s s₁ e (.ofOutcome outcome) [.resolved e.id (.ofOutcome outcome)])
      (later : GivesUp s₁ ids s') : GivesUp s (e.id :: ids) s'

theorem GivesUp.steps {ids : List EntryId} (gives : GivesUp s ids s') : Steps s s' := by
  induction gives with
  | nil s => exact .refl
  | passed id stopped later ih => exact ih
  | cutShort e here ended at' resolves later ih => exact .head (.cutShort e here ended at' resolves) ih

/-- What is shown for awaited retries that are given up one after the other. An entry stays as it is
while others are resolved, unless one of them ends the stage. -/
theorem cutShorts_induction {P : Stage → List EntryId → Prop} (nil : ∀ s, P s [])
    (passed : ∀ s id ids, s.Sound → s.isRunning = false → P s ids → P s (id :: ids))
    (cutShort : ∀ s e ids, s.Sound → s.retrying = false → .record e ∈ s.entries → e.retry.isWaiting = true →
      P (s.cutShort e.id) ids → P s (e.id :: ids))
    (ids : List EntryId) (h : s.Sound) (ended : s.retrying = false) (distinct : ids.Nodup)
    (waiting : ∀ id ∈ ids, s.isRunning = true → ∃ e, .record e ∈ s.entries ∧ e.id = id ∧ e.retry.isWaiting = true) :
    P s ids := by
  induction ids generalizing s with
  | nil => exact nil s
  | cons id ids ih =>
    obtain ⟨new, later⟩ := List.nodup_cons.1 distinct
    cases running : s.isRunning with
    | false =>
      exact passed s id ids h running (ih h ended later fun id' _ run => by rw [running] at run; cases run)
    | true =>
      obtain ⟨e, here, rfl, waits⟩ := waiting id List.mem_cons_self running
      obtain ⟨_, _, _, _, at', resolves⟩ := h.cutsShort here waits
      have sound := h.step (.cutShort e here ended at' resolves)
      refine cutShort s e ids h ended here waits (ih sound (resolves.retrying.trans ended) later ?_)
      intro id' hid run
      obtain ⟨a, ha, rfl, waits'⟩ := waiting id' (List.mem_cons_of_mem _ hid) running
      exact ⟨a, resolves.others h run ha fun same => new (same ▸ hid), rfl, waits'⟩

/-- Giving up retries. -/
theorem cutShorts_givesUp (ids : List EntryId) (h : s.Sound) (ended : s.retrying = false) (distinct : ids.Nodup)
    (waiting : ∀ id ∈ ids, s.isRunning = true → ∃ e, .record e ∈ s.entries ∧ e.id = id ∧ e.retry.isWaiting = true) :
    GivesUp s ids (ids.foldl cutShort s) := by
  refine cutShorts_induction (P := fun s ids => GivesUp s ids (ids.foldl cutShort s)) .nil ?_ ?_ ids h ended distinct
    waiting
  · intro s id ids h stopped later
    rw [List.foldl_cons, cutShort_of_ended h stopped]
    exact .passed id stopped later
  · intro s e ids h ended here waits later
    obtain ⟨_, _, _, _, at', resolves⟩ := h.cutsShort here waits
    exact .cutShort e here ended at' resolves later

theorem mem_waitingIds {id : EntryId} :
    id ∈ s.waitingIds ↔ ∃ e, .record e ∈ s.entries ∧ e.id = id ∧ e.retry.isWaiting = true := by
  simp only [waitingIds, List.mem_filterMap, Entry.record?_eq_some_iff, exists_eq_right]
  refine exists_congr fun e => and_congr_right fun _ => ?_
  split <;> simp_all

/-- Awaited retries are listed in the order of the queue. -/
theorem waitingIds_sublist (s : Stage) : s.waitingIds.Sublist (recordIds s.entries) := by
  unfold waitingIds recordIds
  induction s.entries.filterMap Entry.record? with
  | nil => exact .slnil
  | cons e rest ih =>
    rw [List.filterMap_cons, List.map_cons]
    cases e.retry.isWaiting with
    | false => exact ih.cons _
    | true => exact ih.cons_cons _

theorem waitingIds_nodup (h : s.Sound) : s.waitingIds.Nodup := by
  have ids := List.pairwise_map.2 (h.queue.increasing.imp fun {a b} lt => Nat.ne_of_lt lt)
  exact ids.sublist ((waitingIds_sublist s).trans (recordIds_sublist s.entries))

/-- The end of the input gives up every awaited retry, in the order of the queue. -/
theorem waiting_givesUp (h : s.Sound) (running : s.isRunning = true) :
    GivesUp { s with retrying := false } s.waitingIds (s.waitingIds.foldl cutShort { s with retrying := false }) :=
  cutShorts_givesUp s.waitingIds (h.step (.inputEnded running rfl)) rfl (waitingIds_nodup h)
    fun _ hid _ => mem_waitingIds.1 hid

/-- The stage once its input has ended and no retry is awaited any more. -/
def withoutRetries (s : Stage) : Stage := s.waitingIds.foldl cutShort { s with retrying := false }

theorem withoutRetries_steps (h : s.Sound) (running : s.isRunning = true) : Steps s s.withoutRetries :=
  .head (.inputEnded running rfl) (waiting_givesUp h running).steps

/-! ## Moves -/

/-- One thing that an operation does, or that happens around it. -/
inductive Move (s : Stage) : Stage → Prop where
  | turned (sound : s.Sound) : Move s s.turn
  | underwent (o : Occurrence) : Move s (s.undergo o)
  /-- A blocked call is woken by a completion. -/
  | woke (sound : s.Sound) {c : Completion} {rest : List Completion} (mail : s.mailbox = c :: rest) :
      Move s (apply { s with mailbox := rest } c)
  | admittedRecord (sound : s.Sound) (running : s.isRunning = true) {r : Record} {admitted : Stage}
      (room : s.enqueue? (.record (s.newEntry r)) = some admitted) : Move s (admitted.startAttempt s.nextId)
  | admittedWatermark (sound : s.Sound) (running : s.isRunning = true) {t : Timestamp} {admitted : Stage}
      (room : s.enqueue? (.watermark s.nextId t) = some admitted) : Move s admitted
  | inputEnded (sound : s.Sound) (running : s.isRunning = true) : Move s s.withoutRetries
  | forwarded (status : StreamStatus) : Move s { s with output := s.output.emitStatus status }
  | measured (m : Measurement) : Move s (s.measure m)
  | closed (running : s.isRunning = true) : Move s (s.teardown .closed)

/-- Any number of moves. -/
abbrev Moves : Stage → Stage → Prop := Relation.ReflTransGen Move

theorem woke_takes (h : s.Sound) {c : Completion} {rest : List Completion} (mail : s.mailbox = c :: rest) :
    Takes s (apply { s with mailbox := rest } c) c rest :=
  ⟨mail, apply_applies (s := { s with mailbox := rest }) h.queue h.timers c⟩

theorem Move.steps (move : Move s s') : Steps s s' := by
  cases move with
  | turned sound => exact turn_steps sound
  | underwent o => exact .single (undergo_step s o)
  | woke sound mail => exact .single (.took (woke_takes sound mail))
  | admittedRecord sound running room =>
    obtain ⟨admits, timers⟩ := admitRecord_admits sound.queue sound.below room
    exact .single (.admittedRecord _ running admits timers)
  | admittedWatermark sound running room =>
    obtain ⟨admits, timers⟩ := enqueue?_admits sound.queue sound.below rfl (fun _ other => by cases other) room
    exact .single (.admittedWatermark _ running admits timers)
  | inputEnded sound running => exact withoutRetries_steps sound running
  | forwarded status => exact .single (.forwarded status rfl)
  | measured m => exact .single (.measured m rfl)
  | closed running => exact .single (.closed running (teardown_ends s .closed))

theorem Moves.steps (moves : Moves s s') : Steps s s' := by
  induction moves with
  | refl => exact .refl
  | tail _ last ih => exact ih.trans last.steps

theorem undergoAll_moves (os : List Occurrence) (s : Stage) : Moves s (s.undergoAll os) := by
  induction os generalizing s with
  | nil => exact .refl
  | cons o os ih => exact .head (.underwent o) (ih _)

end AsyncStage.Stage
