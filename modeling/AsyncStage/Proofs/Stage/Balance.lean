import AsyncStage.Proofs.Stage.Agree
import AsyncStage.Proofs.Stage.Preserved

/-!
# Balanced accounts

What a stage measures is booked in accounts, one for each counter and one for the times of attempts.
Some events ask for a booking, and some accounts have something to show for what was booked: the
entries in flight, the records that were emitted, the failure that no fallback took the place of. An
account that is balanced has booked exactly that. Each handler leaves the accounts as they are, though
in the middle of it they may be off.
-/

namespace AsyncStage

/-- Where measurements are booked. -/
inductive Account where
  | counter (c : Counter)
  | attemptTimes
deriving DecidableEq

/-- What a measurement books in an account. -/
def Measurement.booked (a : Account) (m : Measurement) : Int :=
  match a with
  | .counter c => (c.share? m).getD 0
  | .attemptTimes => if m.attemptTime?.isSome then 1 else 0

/-- The sum of the bookings in an account. -/
def Account.total (a : Account) (ms : List Measurement) : Int := (ms.map (Measurement.booked a)).foldr (· + ·) 0

/-- The error that an entry was resolved with. -/
def Resolution.error? : Resolution → Option EntryError
  | .values _ => none
  | .error cause => some cause

def Resolution.isTimeout (result : Resolution) : Bool := result.error?.any EntryError.isTimeout

/-- Whether an event asks for one booking in an account. -/
def Event.asks (a : Account) : Event → Bool
  | .invoked _ => a = .counter .invocations
  | .applied _ => a = .attemptTimes
  | .scheduled _ _ _ => a = .counter .retries
  | .resolved _ result => a = .counter .fallbacks && result.error?.isSome || a = .counter .timeouts && result.isTimeout
  | _ => false

/-- What an event adds to the balance of an account. -/
def Event.weight (a : Account) : Event → Int
  | .measured m => m.booked a
  | v => if v.asks a then -1 else 0

/-- What a result leaves open in an account: a timeout is booked before. -/
def Resolution.lapse (a : Account) (result : Resolution) : Int :=
  if a = .counter .timeouts ∧ result.isTimeout = true then -1 else 0

@[simp] theorem Resolution.lapse_ofOutcome (a : Account) (outcome : Outcome) : (ofOutcome outcome).lapse a = 0 := by
  cases outcome <;> simp [ofOutcome, lapse, isTimeout, error?, EntryError.isTimeout]

@[simp] theorem Measurement.booked_added (c : Counter) (amount : Int) (a : Account) :
    (added c amount).booked a = if a = .counter c then amount else 0 := by
  cases a with
  | attemptTimes => rfl
  | counter c' => by_cases same : c' = c <;> simp [booked, Counter.share?, same]

@[simp] theorem Measurement.booked_attemptTook (time : Duration) (a : Account) :
    (attemptTook time).booked a = if a = .attemptTimes then 1 else 0 := by
  cases a <;> simp [booked, Counter.share?, attemptTime?]

@[simp] theorem Measurement.booked_snapshotTimed (a : Account) : snapshotTimed.booked a = 0 := by
  cases a <;> rfl

/-- An error asks for a fallback. -/
theorem Event.weight_failed (id : EntryId) (cause : EntryError) (a : Account) :
    (Event.resolved id (.error cause)).weight a + (if a = .counter .fallbacks then 1 else 0) =
      (Resolution.error cause).lapse a := by
  by_cases same : a = .counter .fallbacks <;> simp [weight, asks, Resolution.lapse, Resolution.error?, same]

namespace Stage

variable {s t : Stage} {a : Account} {e : RecordEntry}

/-- What was booked in an account, less what was asked for. -/
def balance (s : Stage) (a : Account) : Int := (s.events.map (Event.weight a)).foldr (· + ·) 0

/-- What there is to show for the balance of an account. -/
def shown (s : Stage) : Account → Int
  | .counter .inFlight => s.queue.size
  | .counter .fallbacks => if s.status.failure?.isSome then -1 else 0
  | .counter .itemsOut => s.output.records.length
  | _ => 0

/-- How far an account is off its balance. -/
def gap (s : Stage) (a : Account) : Int := s.balance a - s.shown a

/-! ## The parts of a handler -/

@[simp] theorem balance_note (s : Stage) (v : Event) (a : Account) :
    (s.note v).balance a = s.balance a + v.weight a := by
  rw [balance, balance, ← List.sum_eq_foldr, ← List.sum_eq_foldr, events_note, List.map_append, List.sum_append]
  exact congrArg _ (Int.add_zero _)

theorem gap_congr (events : t.events = s.events) (size : t.queue.size = s.queue.size) (status : t.status = s.status)
    (output : t.output.records = s.output.records) : t.gap a = s.gap a := by
  simp only [gap, balance, shown, events, size, status, output]

@[simp] theorem gap_note (s : Stage) (v : Event) (a : Account) : (s.note v).gap a = s.gap a + v.weight a := by
  rw [gap, balance_note, show (s.note v).shown a = s.shown a from rfl, gap]
  omega

@[simp] theorem gap_measure (s : Stage) (m : Measurement) (a : Account) : (s.measure m).gap a = s.gap a + m.booked a :=
  gap_note s (.measured m) a

@[simp] theorem gap_update (s : Stage) (id : EntryId) (f : RecordEntry → RecordEntry) (a : Account) :
    (s.update id f).gap a = s.gap a :=
  gap_congr rfl Queue.size_update rfl rfl

@[simp] theorem gap_complete (s : Stage) (id : EntryId) (values : List String) (a : Account) :
    (s.complete id values).gap a = s.gap a :=
  gap_congr rfl Queue.size_settle rfl rfl

@[simp] theorem gap_timers (s : Stage) (timers : TimerQueue) (a : Account) :
    ({ s with timers := timers } : Stage).gap a = s.gap a := rfl

@[simp] theorem gap_cancelTimer (s : Stage) (timer : Option TimerId) (a : Account) :
    (s.cancelTimer timer).gap a = s.gap a := by
  cases timer <;> rfl

@[simp] theorem isRunning_cancelTimer (s : Stage) (timer : Option TimerId) :
    (s.cancelTimer timer).isRunning = s.isRunning := by
  cases timer <;> rfl

@[simp] theorem balance_cancelAttempt (s : Stage) (e : RecordEntry) (a : Account) :
    (s.cancelAttempt e).balance a = s.balance a := by
  unfold cancelAttempt
  split
  · rw [balance_note]
    exact Int.add_zero _
  · rfl

@[simp] theorem gap_cancelAttempt (s : Stage) (e : RecordEntry) (a : Account) :
    (s.cancelAttempt e).gap a = s.gap a := by
  have same : (s.cancelAttempt e).shown a = s.shown a := by
    unfold cancelAttempt
    split <;> rfl
  rw [gap, balance_cancelAttempt, same, gap]

@[simp] theorem gap_tellListener (s : Stage) (e : RecordEntry) (error : EntryError) (a : Account) :
    (s.tellListener e error).gap a = s.gap a := by
  unfold tellListener
  split
  · simp [Event.weight, Event.asks]
  · rfl

@[simp] theorem gap_post (s : Stage) (c : Completion) (a : Account) : (s.post c).gap a = s.gap a := by
  rw [post, gap_note]
  exact Int.add_zero _

@[simp] theorem gap_postAll (s : Stage) (cs : List Completion) (a : Account) :
    (cs.foldl post s).gap a = s.gap a := by
  induction cs generalizing s with
  | nil => rfl
  | cons c cs ih => rw [List.foldl_cons, ih, gap_post]

@[simp] theorem gap_undergo (s : Stage) (o : Occurrence) (a : Account) : (s.undergo o).gap a = s.gap a := by
  cases o with
  | completes c => exact gap_post s c a
  | clockReads t => rfl

/-! ## Results -/

theorem balance_cancelAttempts (es : List RecordEntry) (s : Stage) (a : Account) :
    (es.foldl cancelAttempt s).balance a = s.balance a := by
  induction es generalizing s with
  | nil => rfl
  | cons e es ih => rw [List.foldl_cons, ih, balance_cancelAttempt]

/-- The end of a stage takes out of its account what is in flight. What is left open is the failure. -/
theorem gap_teardown (running : s.isRunning = true) (status : Status) (a : Account) : (s.teardown status).gap a =
    s.gap a + if a = .counter .fallbacks ∧ status.failure?.isSome = true then 1 else 0 := by
  have ends := teardown_ends s status
  have balance : (s.teardown status).balance a =
      s.balance a + Measurement.booked a (.added .inFlight (-s.queue.size)) := by
    rw [teardown, measure, balance_note]
    exact congrArg (· + _) (balance_cancelAttempts _ { s with status := status } a)
  have empty : (s.teardown status).queue.size = 0 := by
    rw [ends.queue, (Queue.Sound.clear s.queue).size, Queue.toList_clear]
    rfl
  have alive : s.status.failure? = none := by
    cases at' : s.status with
    | failed f =>
      rw [isRunning, at'] at running
      cases running
    | _ => rfl
  rw [gap, gap, balance, Measurement.booked_added]
  cases a with
  | attemptTimes => rfl
  | counter c =>
    cases c with
    | inFlight =>
      simp only [shown, empty, if_true, reduceCtorEq, false_and, Account.counter.injEq, if_false]
      omega
    | fallbacks =>
      simp only [shown, alive, ends.status]
      cases status.failure? <;> simp
    | _ => simp [shown, ends.output]

/-- A result leaves the accounts as they are, but for a timeout. -/
theorem gap_resolve (running : s.isRunning = true) (id : EntryId) (result : Resolution) (a : Account) :
    (s.resolve id result).gap a = s.gap a + if (s.queue.find? id).isSome then result.lapse a else 0 := by
  unfold resolve
  cases found : s.queue.find? id with
  | none => exact (Int.add_zero _).symm
  | some e =>
    cases result with
    | values values => simp [Event.weight, Event.asks, Resolution.lapse, Resolution.isTimeout, Resolution.error?]
    | error cause =>
      -- A fallback is booked; without one the failure is there to show, and the stage ends.
      have asked := Event.weight_failed id cause a
      simp only
      split
      · simp only [gap_complete, gap_measure, gap_tellListener, gap_note, gap_update, gap_cancelTimer,
          Measurement.booked_added, Option.isSome_some, if_true]
        omega
      · rw [gap_teardown]
        · simp only [gap_update, gap_note, gap_cancelTimer, Status.failure?, Option.isSome_some, and_true, if_true]
          omega
        · change ((s.cancelTimer e.deadlineTimer).cancelTimer e.retry.retryTimer).isRunning = true
          simpa using running

/-! ## Attempts -/

@[simp] theorem gap_setDeadline (s : Stage) (id : EntryId) (a : Account) : (s.setDeadline id).gap a = s.gap a := by
  unfold setDeadline
  split <;> simp

/-- An attempt is booked when it starts. -/
@[simp] theorem gap_startAttempt (s : Stage) (id : EntryId) (a : Account) : (s.startAttempt id).gap a = s.gap a := by
  unfold startAttempt
  split
  · rfl
  next e _ =>
    have begun : ∀ t : Stage, (if e.retry.firstAttempt.isNone then t.setDeadline id else t).gap a = t.gap a :=
      fun t => by split <;> simp
    simp only [gap_postAll, gap_note, gap_measure, begun, gap_update, Measurement.booked_added, Event.weight,
      Event.asks, decide_eq_true_eq]
    split <;> omega

@[simp] theorem gap_startRetry (s : Stage) (id : EntryId) (a : Account) : (s.startRetry id).gap a = s.gap a := by
  unfold startRetry
  split <;> simp

/-- A retry is booked when it is scheduled. -/
@[simp] theorem gap_scheduleRetry (s : Stage) (c : Completion) (backoff : Duration) (a : Account) :
    (s.scheduleRetry c backoff).gap a = s.gap a := by
  simp only [scheduleRetry, gap_note, gap_measure, gap_update, gap_timers, Measurement.booked_added, Event.weight,
    Event.asks, decide_eq_true_eq]
  split <;> omega

/-- The attempt of each record in flight has begun. -/
def Begun (s : Stage) : Prop := ∀ e, .record e ∈ s.entries → e.retry.attemptStarted.isSome = true

/-- **Taking up a completion** books how long its attempt has taken. -/
theorem gap_apply (h : s.Sound) (begun : s.Begun) (c : Completion) (a : Account) : (s.apply c).gap a = s.gap a := by
  unfold apply
  cases found : s.queue.find? c.entry with
  | none => rfl
  | some e =>
    obtain ⟨here, names⟩ := (Queue.find?_eq_some_iff h.queue).1 found
    obtain ⟨started, began⟩ := Option.isSome_iff_exists.1 (begun e here)
    have works := take_works h.queue here names
    simp only
    split
    · -- The time since the attempt began is only measured because it has begun.
      have taken : (((s.update c.entry fun e => { e with signal := none }).note (.applied c)).measureAttempt e).gap a =
          s.gap a := by
        rw [measureAttempt, began]
        simp only [gap_measure, gap_note, gap_update, Event.weight, Event.asks, decide_eq_true_eq,
          Measurement.booked_attemptTook]
        split <;> omega
      split
      · rw [gap_scheduleRetry, taken]
      · rw [gap_resolve, taken, Resolution.lapse_ofOutcome, ite_self, Int.add_zero]
        rw [isRunning, works.status]
        exact h.isRunning_of_mem here
    · rfl

/-! ## Timers -/

/-- **The time of an entry that is up** is booked before the entry gets its result. -/
theorem gap_expire (queue : s.queue.Sound) (running : s.isRunning = true) (id : EntryId) (a : Account) :
    (s.expire id).gap a = s.gap a := by
  unfold expire
  cases found : s.queue.find? id with
  | none => rfl
  | some e =>
    obtain ⟨here, rfl⟩ := (Queue.find?_eq_some_iff queue).1 found
    simp only
    split
    · exact gap_update s e.id _ a
    · have unset := (Works.refl queue here).update queue (f := fun e => { e with deadlineTimer := none })
        (fun _ => rfl) (fun _ => rfl) (fun _ => rfl)
      have works := ((unset.cancelAttempt e).update queue (f := fun e => { e with signal := none })
        (fun _ => rfl) (fun _ => rfl) (fun _ => rfl)).measure (.added .timeouts 1)
      have still := Queue.find?_of_mem works.queue.sound (works.there queue)
      rw [works.queue.id] at still
      rw [gap_resolve, still]
      · simp only [gap_measure, gap_update, gap_cancelAttempt, Measurement.booked_added, Option.isSome_some, if_true,
          Resolution.lapse, Resolution.isTimeout, Resolution.error?, Option.any_some, EntryError.isTimeout, and_true]
        split <;> omega
      · rw [isRunning, works.status]
        exact running

theorem gap_cutShort (running : s.isRunning = true) (id : EntryId) (a : Account) :
    (s.cutShort id).gap a = s.gap a := by
  unfold cutShort
  split
  · rfl
  next e _ =>
    rw [gap_resolve, Resolution.lapse_ofOutcome, ite_self, Int.add_zero, gap_update, gap_cancelTimer]
    exact (isRunning_cancelTimer s _).trans running

/-! ## Emission and admission -/

theorem length_records (o : Output) : o.records.length = o.elements.toList.countP Element.isRecord := by
  rw [Output.records, List.length_filterMap_eq_countP]
  refine List.countP_congr fun e _ => ?_
  cases e <;> rfl

theorem gap_output (s : Stage) (o : Output) (a : Account) : ({ s with output := o } : Stage).gap a =
    s.gap a + if a = .counter .itemsOut then (s.output.records.length : Int) - o.records.length else 0 := by
  have same : ({ s with output := o } : Stage).balance a = s.balance a := rfl
  rw [gap, gap, same]
  cases a with
  | attemptTimes => simp [shown]
  | counter c =>
    cases c with
    | itemsOut =>
      simp only [shown, if_true]
      omega
    | _ => simp [shown]

/-- The records that are emitted are to be counted. -/
theorem gap_emit (s : Stage) (es : List Element) (a : Account) :
    ({ s with output := es.foldl Output.emit s.output } : Stage).gap a =
      s.gap a - if a = .counter .itemsOut then (es.countP Element.isRecord : Int) else 0 := by
  rw [gap_output, length_records, length_records, elements_foldl_emit, List.countP_append]
  split <;> omega

theorem gap_queue (s : Stage) (q : Queue) (a : Account) : ({ s with queue := q } : Stage).gap a =
    s.gap a + if a = .counter .inFlight then (s.queue.size : Int) - q.size else 0 := by
  have same : ({ s with queue := q } : Stage).balance a = s.balance a := rfl
  rw [gap, gap, same]
  cases a with
  | attemptTimes => simp [shown]
  | counter c =>
    cases c with
    | inFlight =>
      simp only [shown, if_true]
      omega
    | _ => simp [shown]

/-- **An entry that is emitted** is booked out, and the records that it becomes are counted. -/
theorem gap_release (s : Stage) (e : Entry) (a : Account) :
    (s.release e).gap a = s.gap a - if a = .counter .inFlight then 1 else 0 := by
  have out : ((s.measure (.added .inFlight (-1))).note (.released e)).gap a =
      s.gap a - if a = .counter .inFlight then 1 else 0 := by
    simp only [gap_note, gap_measure, Measurement.booked_added, Event.weight, Event.asks, Bool.false_eq_true, if_false]
    split <;> omega
  unfold release
  simp only [gap_emit]
  cases e with
  | watermark id t => simp [Entry.rendering, Element.isRecord, out]
  | record r =>
    have records : ∀ values : List String,
        (values.map fun v => Element.record (r.record.replace v)).countP Element.isRecord = values.length := by
      intro values
      rw [List.countP_map]
      exact List.countP_eq_length.2 fun _ _ => rfl
    cases slot : r.slot with
    | pending => simp [Entry.rendering, slot, out]
    | failed cause => simp [Entry.rendering, slot, out]
    | completed values => simp [Entry.rendering, slot, out, records]

theorem gap_releases (drained : List Entry) (s : Stage) (a : Account) :
    (drained.foldl release s).gap a = s.gap a - if a = .counter .inFlight then drained.length else 0 := by
  induction drained generalizing s with
  | nil => simp
  | cons e drained ih =>
    rw [List.foldl_cons, ih, gap_release]
    split
    · simp only [List.length_cons, Int.natCast_add]
      omega
    · rw [Int.sub_zero]

theorem gap_emitReady (h : s.queue.Sound) (a : Account) : s.emitReady.gap a = s.gap a := by
  unfold emitReady
  split
  · have drains := Queue.drain_drains h
    have lengths := drains.perm.length_eq
    rw [List.length_append, ← drains.sound.size, ← h.size] at lengths
    simp only [gap_releases, gap_queue]
    split <;> omega
  · rfl

theorem gap_enqueue? {e : Entry} (room : s.enqueue? e = some t) (a : Account) : t.gap a = s.gap a := by
  obtain ⟨queue, put, rfl⟩ := Option.map_eq_some_iff.1 room
  obtain ⟨size, rfl⟩ := Queue.put?_eq_some_iff.1 put
  have pushed := gap_queue s (s.queue.push e) a
  rw [Queue.size_push] at pushed
  have numbered : ({ s with queue := s.queue.push e, nextId := s.nextId + 1 } : Stage).gap a =
    ({ s with queue := s.queue.push e } : Stage).gap a := rfl
  simp only [gap_note, gap_measure, numbered, pushed, Int.natCast_add, Measurement.booked_added, Event.weight,
    Event.asks, Bool.false_eq_true, if_false]
  split <;> omega

/-! ## Balanced stages -/

namespace Begun

variable {s' : Stage} {e e' : RecordEntry} {new : List Event}

theorem works (b : s.Begun) (h : s.Sound) (w : Works s s' e e' new) (begun : e'.retry.attemptStarted.isSome = true) :
    s'.Begun := by
  intro r hr
  rcases (w.queue.mem_iff h.queue).1 hr with same | ⟨old, -⟩
  · exact Entry.record.inj same ▸ begun
  · exact b r old

theorem of_empty (none : s.entries = []) : s.Begun := by
  intro e here
  rw [none] at here
  cases here

theorem resolves {result : Resolution} (b : s.Begun) (h : s.Sound) (here : .record e ∈ s.entries)
    (r : Resolves s s' e result new) : s'.Begun := by
  cases r with
  | completed values final works => exact b.works h works (b e here)
  | failed error s₁ e₁ final cause works silent ends => exact .of_empty ends.entries

theorem applies {c : Completion} (b : s.Begun) (h : s.Sound) (r : Applies s s' c) : s'.Begun := by
  cases r with
  | ignored same => exact same ▸ b
  | scheduled e here names accepted wanted works => exact b.works h works (b e here)
  | resolved e here names accepted unwanted resolves => exact b.resolves h here resolves

theorem pops {key : TimerKey} {target : TimerTarget} {rest : TimerQueue} (b : s.Begun) (h : s.Sound)
    (p : Pops s s' key target rest) : s'.Begun := by
  cases p.fires with
  | retried e here at' set works => exact b.works h works rfl
  | expired e here opened started timeout deadline resolves => exact b.resolves h here resolves

end Begun

/-- A sound stage whose accounts are off their balance by so much. -/
structure OffBy (off : Account → Int) (s : Stage) : Prop where
  sound : s.Sound
  begun : s.Begun
  even : ∀ a, s.gap a = off a

/-- A sound stage whose accounts are even. -/
abbrev Balanced (s : Stage) : Prop := s.OffBy fun _ => 0

namespace OffBy

variable {off : Account → Int}

theorem quiet (b : s.OffBy off) (q : Quiet s t) (gap : ∀ a, t.gap a = s.gap a) : t.OffBy off where
  sound := b.sound.quiet q
  begun := by
    rw [Begun, q.entries]
    exact b.begun
  even a := (gap a).trans (b.even a)

theorem apply (b : s.OffBy off) (c : Completion) : (s.apply c).OffBy off where
  sound := b.sound.applies (apply_applies b.sound.queue b.sound.timers c)
  begun := b.begun.applies b.sound (apply_applies b.sound.queue b.sound.timers c)
  even a := (gap_apply b.sound b.begun c a).trans (b.even a)

theorem readMail (b : s.OffBy off) : s.readMail.OffBy off := by
  have all : ∀ (mail : List Completion) (s : Stage), s.OffBy off → (mail.foldl Stage.apply s).OffBy off := by
    intro mail
    induction mail with
    | nil => exact fun s b => b
    | cons c mail ih => exact fun s b => ih _ (b.apply c)
  exact all s.mailbox _ (b.quiet (quiet_mailbox s []) fun _ => rfl)

theorem fireTimer (b : s.OffBy off) {target : TimerTarget} {rest : TimerQueue}
    (popped : s.timers.popDue s.now = some (target, rest)) :
    (Stage.fireTimer { s with timers := rest } target).OffBy off := by
  obtain ⟨key, pops⟩ := b.sound.fires popped
  refine ⟨b.sound.step (.fired pops), b.begun.pops b.sound pops, fun a => ?_⟩
  cases target with
  | retry id => exact (gap_startRetry _ id a).trans (b.even a)
  | deadline id =>
    have running : s.isRunning = true := by
      cases pops.fires with
      | expired e here => exact b.sound.isRunning_of_mem here
    exact (gap_expire (s := { s with timers := rest }) b.sound.queue running id a).trans (b.even a)

theorem fireUpTo (b : s.OffBy off) (n : Nat) : (Stage.fireUpTo n s).OffBy off := by
  induction n generalizing s with
  | zero => exact b
  | succ n ih =>
    unfold Stage.fireUpTo
    cases popped : s.timers.popDue s.now with
    | none => exact b
    | some p => exact ih (b.fireTimer popped)

theorem emitReady (b : s.OffBy off) : s.emitReady.OffBy off := by
  obtain ⟨drained, emits⟩ := emitReady_emits b.sound.queue
  exact ⟨b.sound.emits emits, fun e here => b.begun e (emits.queue.stays.subset here),
    fun a => (gap_emitReady b.sound.queue a).trans (b.even a)⟩

theorem turn (b : s.OffBy off) : s.turn.OffBy off := (b.readMail.fireUpTo _).emitReady

theorem cutShort (b : s.OffBy off) (here : .record e ∈ s.entries) (waits : e.retry.isWaiting = true) :
    (s.cutShort e.id).OffBy off := by
  obtain ⟨_, _, _, _, at', resolves⟩ := b.sound.cutsShort here waits
  exact ⟨b.sound.resolves here resolves, b.begun.resolves b.sound here resolves,
    fun a => (gap_cutShort (b.sound.isRunning_of_mem here) e.id a).trans (b.even a)⟩

theorem withoutRetries (b : s.OffBy off) : s.withoutRetries.OffBy off := by
  have ended := b.quiet (quiet_inputEnded s) fun _ => rfl
  refine cutShorts_induction (P := fun s ids => s.OffBy off → (ids.foldl Stage.cutShort s).OffBy off) (fun _ b => b)
    ?_ ?_ s.waitingIds ended.sound rfl (waitingIds_nodup b.sound) (fun _ hid _ => mem_waitingIds.1 hid) ended
  · intro s id ids h stopped later b
    rw [List.foldl_cons, cutShort_of_ended h stopped]
    exact later b
  · intro s e ids h ended here waits later b
    exact later (b.cutShort here waits)

theorem admitted (b : s.OffBy off) {e : Entry} {new : List Event} (admits : Admits s t e new) (sound : t.Sound)
    (begun : ∀ r, e = .record r → r.retry.attemptStarted.isSome = true) (gap : ∀ a, t.gap a = s.gap a) :
    t.OffBy off where
  sound := sound
  begun r hr := (admits.mem_entries.1 hr).elim (b.begun r) fun same => begun r same.symm
  even a := (gap a).trans (b.even a)

/-- **Everything that a stage does leaves its accounts as they are.** -/
theorem preserved : Preserved (OffBy off) where
  sound b := b.sound
  turned b := b.turn
  underwent b o := b.quiet (quiet_undergo _ o) (gap_undergo _ o)
  woke b c rest _ := (b.quiet (quiet_mailbox _ rest) fun _ => rfl).apply c
  admittedRecord b running r admitted room := by
    obtain ⟨admits, timers⟩ := admitRecord_admits b.sound.queue b.sound.below room
    refine b.admitted admits (b.sound.admitRecord running admits timers) ?_ fun a => ?_
    · rintro r' ⟨⟩
      rfl
    · rw [gap_startAttempt, gap_enqueue? room]
  admittedWatermark b running t admitted room := by
    obtain ⟨admits, timers⟩ := enqueue?_admits b.sound.queue b.sound.below rfl (fun _ other => by cases other) room
    exact b.admitted admits (b.sound.admitWatermark running admits timers) (fun _ other => by cases other)
      (gap_enqueue? room)
  inputEnded b _ := b.withoutRetries
  forwarded b status := b.quiet (quiet_forwarded _ status) fun _ => gap_congr rfl rfl rfl rfl
  timed b := b.quiet (quiet_measure _ _) fun a => by simp
  closed {s} b running := by
    have ends := teardown_ends s .closed
    refine ⟨.ends ends, .of_empty ends.entries, fun a => ?_⟩
    rw [gap_teardown running]
    simpa [Status.failure?] using b.even a

end OffBy

theorem Balanced.preserved : Preserved Balanced := OffBy.preserved

/-- An empty stage is balanced. -/
theorem Balanced.build {b : Builder} {now : Instant} (built : b.build now = .ok s) : s.Balanced := by
  obtain ⟨retry, rfl⟩ := build_eq built
  have none : (Queue.empty b.config.mode b.config.capacity.toNat).toList = [] := Queue.toList_empty _ _
  have empty : (Queue.empty b.config.mode b.config.capacity.toNat).size = 0 := by
    rw [(Queue.Sound.empty _ _).size, none]
    rfl
  refine ⟨build_sound built, .of_empty none, fun a => ?_⟩
  cases a with
  | attemptTimes => rfl
  | counter c => cases c <;> simp [start, gap, balance, events, shown, empty, Output.records, Status.failure?]

end Stage

end AsyncStage
