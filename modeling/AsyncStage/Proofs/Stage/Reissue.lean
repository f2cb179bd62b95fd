import AsyncStage.Proofs.Stage.Rest

/-!
# What a restored stage starts again

A stage that is restored calls the function once for each record of the snapshot, in their order and
as a first attempt, whatever had been attempted before. If none of these attempts is answered while
the stage is being restored, only watermarks leave the queue, those in front of the first record, and
everything behind them is held, with a new time limit for each record. The elements in flight of a
stage between two operations do not begin with a watermark, so a stage that is restored from them
holds all of them.
-/

namespace AsyncStage.Stage

variable {s s' s₁ : Stage} {e : RecordEntry} {new : List Event} {now : Instant} {p : List Element} {α : Type}

/-- Elements with their places. -/
def numbered (p : List Element) : List (EntryId × Element) := p.zipIdx.map Prod.swap

/-- The call with which the first attempt for an element starts. -/
def firstCall? (setup : Setup) : EntryId × Element → Option Invocation
  | (id, .record r) => some (setup.call id 1 r.value)
  | (_, .watermark _) => none

/-- A stage that has admitted the elements `p` anew, with no attempt answered since. -/
structure Reissued (s : Stage) (p : List Element) (now : Instant) : Prop where
  running : s.isRunning = true
  /-- The function was called once for each record, in their order, for a first attempt. -/
  calls : s.invoked = (numbered p).filterMap (firstCall? s.setup)
  /-- The watermarks in front of the first record were emitted. -/
  emitted : s.output.elements.toList = p.takeWhile fun e => !e.isRecord
  /-- The rest is in flight, in its order. -/
  held : s.entries.map Entry.label = (numbered p).dropWhile fun x => !x.2.isRecord
  /-- Of every record the first attempt is outstanding. -/
  started : ∀ e, .record e ∈ s.entries → e.At (.outstanding 1 now)
  /-- Its time is counted from the start of this attempt. -/
  deadlines : ∀ span, s.setup.timeout = some span → ∀ e, .record e ∈ s.entries →
    ∃ timer, e.deadlineTimer = some timer ∧ (⟨now.after span.span, timer⟩, .deadline e.id) ∈ s.timers.toList

/-- Reading the same time again changes nothing. -/
theorem undergoAll_still {os : List Occurrence} (still : ∀ o ∈ os, o = .clockReads s.now) : s.undergoAll os = s := by
  induction os with
  | nil => rfl
  | cons o os ih =>
    obtain rfl := still o List.mem_cons_self
    exact ih fun o later => still o (List.mem_cons_of_mem _ later)

/-! ## While the elements are admitted -/

/-- A stage of which no attempt has been answered yet and none is late. -/
structure Reissuing (s : Stage) (now : Instant) : Prop where
  kept : s.Kept
  running : s.isRunning = true
  clock : s.now = now
  mail : s.mailbox = []
  silent : ∀ call, s.setup.function call = []
  timeout : ∀ span, s.setup.timeout = some span → 0 < span.nanos
  calls : s.invoked = s.admitted.filterMap (firstCall? s.setup)
  started : ∀ e, .record e ∈ s.entries → e.At (.outstanding 1 now)
  front : ∀ a ∈ s.released, a.isWatermark = true

/-- What is in flight was admitted. -/
theorem Kept.length_entries_le (h : s.Kept) : s.entries.length ≤ s.nextId := by
  obtain ⟨lost, -, perm, -⟩ := h.lined.line
  have count := perm.length_eq
  have total := congrArg List.length h.lined.numbered
  simp only [List.length_map, List.length_append, List.length_range] at count total
  omega

namespace Reissuing

theorem opened (r : s.Reissuing now) (here : .record e ∈ s.entries) : e.isDone = false := (r.started e here).opened

/-- No timer is due: deadlines lie ahead, and no retry is awaited. -/
theorem early (r : s.Reissuing now) (before : now < .latest) : ∀ q ∈ s.timers.toList, s.now < q.1.fireAt := by
  intro q pending
  obtain ⟨e, here, owns⟩ := (r.kept.sound.owned q).1 pending
  have at' := r.started e here
  rw [r.clock]
  rcases owns with ⟨-, -, first, span, started, timeout, fires⟩ | ⟨-, set, -⟩
  · have positive := r.timeout span timeout
    cases at' with
    | outstanding _ _ started' =>
      obtain rfl := Option.some.inj (started.symm.trans started')
      rw [fires]
      apply Instant.lt_after_of_lt _ before
      rw [Duration.span, Duration.maxSpan_eq]
      omega
  · cases at' with
    | outstanding _ _ _ timer => simp [timer] at set

/-- **A turn** emits watermarks at most. -/
theorem turn (r : s.Reissuing now) (before : now < .latest) : s.turn.Reissuing now := by
  have emission : s.turn = s.emitReady := by
    rw [Stage.turn, readMail_of_empty r.mail, fireDue_of_early (r.early before)]
  have kept := r.kept.steps (turn_steps r.kept.sound)
  rw [emission] at kept ⊢
  obtain ⟨drained, emits⟩ := emitReady_emits r.kept.sound.queue
  have calls : s.emitReady.invoked = s.invoked := (emits.notes fun _ => rfl).invoked_eq
  refine ⟨kept, ?_, emits.now.trans r.clock, emits.mailbox.trans r.mail, ?_, ?_, ?_, ?_, ?_⟩
  · rw [isRunning, emits.status]
    exact r.running
  · rw [emits.setup]
    exact r.silent
  · rw [emits.setup]
    exact r.timeout
  · rw [calls, emits.admitted, emits.setup]
    exact r.calls
  · intro e here
    exact r.started e (emits.queue.stays.subset here)
  · intro a released
    rw [emits.released, List.mem_append] at released
    rcases released with old | gone
    · exact r.front a old
    · cases a with
      | watermark id t => rfl
      | record e =>
        have done := emits.queue.done _ gone
        rw [Entry.isDone, r.opened (emits.mem gone)] at done
        cases done

/-- **Admitting one more element** calls the function if it is a record. -/
theorem admits (r : s.Reissuing now) {a : Entry} (step : Step s s') (m : Admits s s' a new) (quiet : InFlight new)
    (calls : new.filterMap Event.invocation? = (firstCall? s.setup a.label).toList)
    (posted : new.filterMap Event.posted? = []) (started : ∀ e, a = .record e → e.At (.outstanding 1 now)) :
    s'.Reissuing now := by
  refine ⟨r.kept.step step, ?_, m.now.trans r.clock, ?_, ?_, ?_, ?_, ?_, ?_⟩
  · rw [isRunning, m.status]
    exact r.running
  · rw [m.mailbox, r.mail, posted, List.append_nil]
  · rw [m.setup]
    exact r.silent
  · rw [m.setup]
    exact r.timeout
  · rw [invoked_noted m.told, List.filterMap_cons_none rfl, calls, r.calls, m.admitted quiet, m.setup,
      List.filterMap_append]
    cases call : firstCall? s.setup a.label <;> simp [call]
  · intro e here
    rcases m.mem_entries.1 here with old | rfl
    · exact r.started e old
    · exact started e rfl
  · rw [m.released quiet]
    exact r.front

theorem admitRecord (r : s.Reissuing now) {record : Record} {admitted : Stage}
    (room : s.enqueue? (.record (s.newEntry record)) = some admitted) :
    (admitted.startAttempt s.nextId).Reissuing now := by
  obtain ⟨m, timers⟩ := admitRecord_admits r.kept.sound.queue r.kept.sound.below room
  apply r.admits (.admittedRecord record r.running m timers) m (inFlight_calls s _)
  · exact invocations_calls s _
  · simp [Stage.calls, r.silent, Event.posted?]
  · rintro e ⟨⟩
    rw [← r.clock]
    exact .outstanding rfl rfl rfl rfl rfl

theorem admitWatermark (r : s.Reissuing now) {t : Timestamp} {admitted : Stage}
    (room : s.enqueue? (.watermark s.nextId t) = some admitted) : admitted.Reissuing now := by
  obtain ⟨m, timers⟩ := enqueue?_admits r.kept.sound.queue r.kept.sound.below rfl (fun _ other => by cases other) room
  exact r.admits (.admittedWatermark t r.running m timers) m ⟨rfl, rfl⟩ rfl rfl fun e other => by cases other

/-- An element for which there is room is admitted at the first attempt. -/
theorem attempt (r : s.Reissuing now) (before : now < .latest) (room : s.nextId < s.queue.capacity)
    {entry : Stage → Entry} {start : Stage → Stage → Stage} {meanwhile : List Occurrence}
    (still : ∀ o ∈ meanwhile, o = .clockReads now) (no yes : α)
    (begins : ∀ {t : Stage}, t.Reissuing now → ∀ {admitted}, t.enqueue? (entry t) = some admitted →
      (start t admitted).Reissuing now) :
    ∃ t, s.afterTurn (admitIfRoom entry start meanwhile no yes) = (t, .ok yes) ∧ t.Reissuing now := by
  have first := r.turn before
  have fits := first.kept.length_entries_le
  rw [r.kept.turn_admitsNothing.nextId] at fits
  rw [afterTurn_eq r.running (failure?_of_running first.running), admitIfRoom]
  cases put : s.turn.enqueue? (entry s.turn) with
  | none =>
    have full := (enqueue?_eq_none_iff first.kept.sound.queue).1 put
    rw [first.kept.sound.queue.size, (fixed_of_steps (turn_steps r.kept.sound)).capacity] at full
    exact absurd (Nat.lt_of_le_of_lt fits room) (Nat.not_lt.2 (Nat.le_of_eq full.symm))
  | some admitted =>
    have started := begins first put
    have unmoved : (start s.turn admitted).undergoAll meanwhile = start s.turn admitted :=
      undergoAll_still (started.clock.symm ▸ still)
    have closing := started.turn before
    simp only [unmoved, unlessFailed, failure?_of_running closing.running]
    exact ⟨_, rfl, closing⟩

end Reissuing

/-- A call does not wait if its first attempt has an answer. -/
theorem waitFor_of_answer {attempt : Stage → Stage × Except StageError (Option α)} {answer : α}
    (told : attempt s = (s', .ok (some answer))) (waiting : Waiting) :
    s.waitFor waiting attempt = (s', .done answer) := by
  rcases waiting with _ | (_ | ⟨w, wakes⟩) <;> simp only [waitFor, repeatUntil, told, answerOr]

/-- **An element is admitted again** without waiting if there is room for everything that was
admitted. -/
theorem Reissuing.putElement (r : s.Reissuing now) (before : now < .latest) (room : s.nextId < s.queue.capacity)
    (e : Element) {i : Interference} (still : ∀ o ∈ i.meanwhile, o = .clockReads now) :
    ∃ t, s.putElement e i = (t, .done ()) ∧ t.Reissuing now := by
  cases e with
  | record record =>
    obtain ⟨t, answered, r'⟩ := r.attempt before room still (Admission.full record) .accepted
      fun {t} (r : t.Reissuing now) {admitted} room => r.admitRecord room
    refine ⟨t, ?_, r'⟩
    rw [Stage.putElement, put_eq]
    apply waitFor_of_answer
    rw [offer_eq, answered]
    rfl
  | watermark time =>
    obtain ⟨t, answered, r'⟩ := r.attempt before room still false true
      fun {t} (r : t.Reissuing now) {admitted} room => r.admitWatermark room
    refine ⟨t, ?_, r'⟩
    rw [Stage.putElement, putWatermark_eq]
    apply waitFor_of_answer
    rw [offerWatermark_eq, answered]
    rfl

/-- **So are several elements.** -/
theorem Reissuing.putAll (r : s.Reissuing now) (before : now < .latest) (es : List (Element × Interference))
    (room : s.nextId + es.length ≤ s.queue.capacity)
    (still : ∀ x ∈ es, ∀ o ∈ x.2.meanwhile, o = .clockReads now) :
    ∃ t, s.putAll es = (t, .done ()) ∧ t.Reissuing now := by
  induction es generalizing s with
  | nil => exact ⟨s, rfl, r⟩
  | cons x es ih =>
    obtain ⟨e, i⟩ := x
    rw [List.length_cons] at room
    have fits : s.nextId < s.queue.capacity := by lia
    obtain ⟨t, answered, r'⟩ := r.putElement before fits e (still _ List.mem_cons_self)
    have go := putElement_goes r.kept.sound e i
    have taken := congrArg Prod.snd answered
    have admitted := congrArg List.length (admitted_putElement r.kept.sound (e := e) (i := i) taken)
    rw [answered] at go admitted
    rw [List.length_append, r.kept.length_admittedElements, r'.kept.length_admittedElements, List.length_singleton]
      at admitted
    obtain ⟨u, answered', r''⟩ := ih r' (by rw [admitted, (fixed_of_steps go.steps).capacity]; lia)
      fun x later => still x (List.mem_cons_of_mem _ later)
    refine ⟨u, ?_, r''⟩
    rw [Stage.putAll, answered]
    exact answered'

/-! ## Once all of them are admitted -/

/-- What was emitted and what is in flight is everything, in the order of admission: nothing but
watermarks was emitted, and nothing overtakes a watermark. -/
theorem Reissuing.admitted_eq (r : s.Reissuing now) : (s.released ++ s.entries).map Entry.label = s.admitted := by
  obtain ⟨lost, none, perm, before⟩ := r.kept.lined.line
  rw [none r.running, List.append_nil] at perm before
  obtain ⟨front, -, across⟩ := List.pairwise_append.1 before
  have lt_of_before : ∀ a ∈ s.released, ∀ b : Entry, a.Before s.queue.mode b → a.id < b.id := by
    intro a released b before
    cases mode : s.queue.mode with
    | ordered =>
      rw [mode] at before
      exact before
    | unordered =>
      rw [mode] at before
      exact before (.inl (r.front a released))
  have sorted : (s.released ++ s.entries).Pairwise fun a b => a.id < b.id := by
    refine List.pairwise_append.2 ⟨?_, r.kept.sound.queue.increasing, ?_⟩
    · exact List.Pairwise.imp_of_mem (fun ha _ before => lt_of_before _ ha _ before) front
    · exact fun a ha b hb => lt_of_before a ha b (across a ha b hb)
  exact perm.eq_of_pairwise (fun _ _ _ _ lt lt' => absurd lt' (Nat.lt_asymm lt)) (List.pairwise_map.2 sorted)
    r.kept.admitted_pairwise

theorem Kept.admitted_eq_numbered (h : s.Kept) : s.admitted = numbered s.admittedElements := by
  rw [numbered, ← h.admitted_zipIdx, List.map_map]
  exact (List.map_id _).symm

/-- The watermarks in front were emitted, and at rest everything else is in flight. -/
theorem Reissuing.admitted_split (r : s.Reissuing now) (rest : s.AtRest) :
    s.admitted.takeWhile (fun x => !x.2.isRecord) = s.released.map Entry.label ∧
      s.admitted.dropWhile (fun x => !x.2.isRecord) = s.entries.map Entry.label := by
  have front : ∀ x ∈ s.released.map Entry.label, (!x.2.isRecord) = true := by
    intro x emitted
    obtain ⟨a, released, rfl⟩ := List.mem_map.1 emitted
    rw [Entry.label, isRecord_element, r.front a released]
    rfl
  have head : ∀ x ∈ (s.entries.map Entry.label).head?, (!x.2.isRecord) = false := by
    intro x first
    rw [List.head?_map, Option.mem_def, Option.map_eq_some_iff] at first
    obtain ⟨a, first, rfl⟩ := first
    rw [Entry.label, isRecord_element, Queue.isWatermark_head r.kept.sound.queue rest a first]
    rfl
  rw [← r.admitted_eq, List.map_append, List.takeWhile_append_of_pos front, List.dropWhile_append_of_pos front]
  cases entries : s.entries.map Entry.label with
  | nil => exact ⟨List.append_nil _, rfl⟩
  | cons x later =>
    have record := head x (by rw [entries]; exact rfl)
    simp only [List.takeWhile_cons, List.dropWhile_cons, record, Bool.false_eq_true, if_false, List.append_nil,
      and_self]

/-- The time of each record runs from the first attempt on. -/
theorem Reissuing.deadline (r : s.Reissuing now) {span : Duration} (timeout : s.setup.timeout = some span)
    {e : RecordEntry} (here : .record e ∈ s.entries) :
    ∃ timer, e.deadlineTimer = some timer ∧ (⟨now.after span.span, timer⟩, .deadline e.id) ∈ s.timers.toList := by
  have at' := r.started e here
  have armed := r.kept.sound.armed e here at'.opened
  rw [timeout, Option.isSome_some, Option.isSome_iff_exists] at armed
  obtain ⟨timer, set⟩ := armed
  cases at' with
  | outstanding _ _ started =>
    exact ⟨timer, set, (r.kept.sound.owned _).2 ⟨e, here, .inl ⟨rfl, set, now, span, started, timeout, rfl⟩⟩⟩

/-- **A stage that admits elements anew** and is at rest then has started them again. -/
theorem Reissuing.reissued (r : s.Reissuing now) (rest : s.AtRest) (admitted : s.admittedElements = p) :
    s.Reissued p now := by
  subst admitted
  obtain ⟨front, behind⟩ := r.admitted_split rest
  refine ⟨r.running, ?_, ?_, ?_, r.started, fun span timeout e here => r.deadline timeout here⟩
  · rw [r.calls, r.kept.admitted_eq_numbered]
  · rw [r.kept.lined.output, admittedElements, List.takeWhile_map]
    change _ = (s.admitted.takeWhile fun x => !x.2.isRecord).map (·.2)
    rw [front, List.map_map, List.map_eq_flatMap]
    apply List.flatMap_congr
    intro a released
    cases a with
    | watermark id t => rfl
    | record e => cases r.front _ released
  · rw [← r.kept.admitted_eq_numbered, behind]

theorem start_reissuing {b : Builder} (built : b.build now = .ok s) (silent : ∀ call, b.function call = []) :
    s.Reissuing now := by
  have kept := Kept.build built
  obtain ⟨retry, rfl⟩ := build_eq built
  have none : (start b retry now).entries = [] := Queue.toList_empty _ _
  refine ⟨kept, rfl, rfl, rfl, silent, fun span timeout => ?_, rfl, by simp [none], fun a released => nomatch released⟩
  obtain ⟨-, nonzero⟩ := Option.filter_eq_some_iff.1 (show b.config.effectiveTimeout = some span from timeout)
  simpa [Duration.isZero, Nat.pos_iff_ne_zero] using nonzero

/-- Nothing happens while elements are admitted again, except that the clock is read. -/
def Still (now : Instant) (around : Nat → Interference) : Prop :=
  ∀ n, ∀ o ∈ (around n).meanwhile, o = .clockReads now

/-- **Restoring** admits every element of the snapshot if there is room for them. -/
theorem restore_reissued {b : Builder} (built : b.build now = .ok s) (before : now < .latest)
    (silent : ∀ call, b.function call = []) (writable : ∀ e ∈ p, Snapshot.Writable e)
    (room : p.length ≤ b.config.capacity.toNat) {around : Nat → Interference} (still : Still now around) :
    ∃ t, b.restore now (Snapshot.encode p) around = .built t (.done ()) ∧ t.Reissued p now := by
  have few : p.length < 2 ^ 64 := Nat.lt_of_le_of_lt room b.config.capacity.toNat_lt
  have empty : s.nextId = 0 ∧ s.queue.capacity = b.config.capacity.toNat := by
    obtain ⟨retry, rfl⟩ := build_eq built
    exact ⟨rfl, rfl⟩
  have fits : s.nextId + (p.zipIdx.map fun x => (x.1, around x.2)).length ≤ s.queue.capacity := by
    rw [List.length_map, List.length_zipIdx, empty.1, empty.2, Nat.zero_add]
    exact room
  obtain ⟨t, answered, r⟩ := (start_reissuing built silent).putAll before _ fits fun x hx => by
    obtain ⟨y, -, rfl⟩ := List.mem_map.1 hx
    exact still y.2
  have restored : b.restore now (Snapshot.encode p) around = .built t (.done ()) :=
    (restore_encode built few writable around).trans (congrArg (fun a => Restoration.built a.1 a.2) answered)
  have rest : t.AtRest := atRest_of_begins (.restored _ _ _ restored) []
  exact ⟨t, restored, r.reissued rest (restore_done few writable restored).2.2⟩

/-- What begins with a record is held as a whole. -/
theorem Reissued.of_head (r : s.Reissued p now) (head : ∀ e ∈ p.head?, e.isRecord = true) :
    s.output.elements.toList = [] ∧ s.pendingElements = p := by
  cases p with
  | nil =>
    have none : s.entries.map Entry.label = [] := r.held
    exact ⟨r.emitted, by rw [pendingElements, List.map_eq_nil_iff.1 none, List.map_nil]⟩
  | cons e p =>
    have record : (!e.isRecord) = false := by rw [head e rfl, Bool.not_true]
    have all := congrArg (List.map (·.2)) r.held
    rw [numbered, List.zipIdx_cons, List.map_cons, List.dropWhile_cons_of_neg (by simp [record]), List.map_map] at all
    refine ⟨r.emitted.trans (List.takeWhile_cons_of_neg (by simp [record])), ?_⟩
    refine Eq.trans all ?_
    rw [← List.map_cons, ← List.zipIdx_cons, List.map_map]
    exact List.zipIdx_map_fst 0 (e :: p)

/-- A watermark in front, and another one between two records. -/
def mixed : List Element :=
  [.watermark noon, .record ⟨"a", some noon⟩, .watermark noon, .record ⟨"b", none⟩]

/-- **Restoring reissues what was pending.** A snapshot for which there is room is admitted as a whole:
the function is called once for each record in their order, as for the first time, only the watermarks
in front of the first record are emitted, and the rest is held. The elements in flight of a stage
between two operations do not begin with a watermark, so a stage that is restored from them emits
nothing and holds the same elements, however far the first one had come with them. -/
theorem restore_reissues {b : Builder} (built : b.build now = .ok s) (before : now < .latest)
    (silent : ∀ call, b.function call = []) (writable : ∀ e ∈ p, Snapshot.Writable e)
    (room : p.length ≤ b.config.capacity.toNat) {around : Nat → Interference} (still : Still now around) :
    ∃ t, b.restore now (Snapshot.encode p) around = .built t (.done ()) ∧ t.Reissued p now ∧
      ∀ (b' : Builder) (now' : Instant) (u : Stage) (error : Option StageError) (actions : List Action),
        b'.Begins now' u error → (u.run actions).pendingElements = p →
        (∀ e ∈ p.head?, e.isRecord = true) ∧ t.output.elements.toList = [] ∧
          t.snapshot.2 = (u.run actions).snapshot.2 := by
  obtain ⟨t, restored, reissued⟩ := restore_reissued built before silent writable room still
  refine ⟨t, restored, reissued, ?_⟩
  intro b' now' u error actions begins same
  have kept := begins.kept.steps (run_steps begins.kept.sound actions)
  have head := (atRest_of_begins begins actions).isRecord_head kept.sound
  rw [same] at head
  obtain ⟨nothing, all⟩ := reissued.of_head head
  exact ⟨head, nothing, by rw [snapshot, snapshot, same, all]⟩

/-- Of the mixed elements the first is emitted and the others are held. A record that awaits a retry is
attempted as for the first time. -/
theorem restore_reissues_mixed : ∃ s t u, patient.build .epoch = .ok s ∧
    patient.restore .epoch (Snapshot.encode mixed) (fun _ => {}) = .built t (.done ()) ∧
    t.Reissued mixed .epoch ∧ t.output.elements.toList = [.watermark noon] ∧
    t.invoked = [⟨1, 1, "a", 0⟩, ⟨3, 1, "b", 0⟩] ∧
    patient.restore .epoch (s.run firstBad).snapshot.2 (fun _ => {}) = .built u (.done ()) ∧
    u.Reissued [.record ⟨"a", none⟩] .epoch ∧ u.snapshot.2 = (s.run firstBad).snapshot.2 := by
  have built : patient.build .epoch = .ok (start patient tenths .epoch) := rfl
  have still : Still .epoch fun _ => {} := fun _ o none => nomatch none
  have held : ((start patient tenths .epoch).run firstBad).pendingElements = [.record ⟨"a", none⟩] := by
    decide +kernel
  obtain ⟨t, restored, reissued, -⟩ :=
    restore_reissues (p := mixed) built (by decide) (fun _ => rfl) (by decide) (by decide) still
  obtain ⟨u, again, reissued', same⟩ :=
    restore_reissues (p := [.record ⟨"a", none⟩]) built (by decide) (fun _ => rfl) (by decide) (by decide) still
  obtain ⟨retry, setup⟩ := (Builder.Begins.restored _ _ _ restored).setup []
  have calls : t.invoked = (numbered mixed).filterMap (firstCall? (start patient retry .epoch).setup) :=
    setup ▸ reissued.calls
  rw [← held] at again
  exact ⟨_, t, u, built, restored, reissued, reissued.emitted, calls, again, reissued',
    (same patient .epoch _ none firstBad (.built built) held).2.2⟩

end AsyncStage.Stage
