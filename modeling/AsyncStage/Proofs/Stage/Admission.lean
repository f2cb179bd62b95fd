import AsyncStage.Proofs.Stage.Turns
import AsyncStage.Stage.Builder

/-!
# What operations admit

Only an operation that admits an element adds to what was admitted: taking up mail, firing
timers, emitting and waiting do not. So an admission that is answered with success has admitted
its element once, however long it waited, and a stage that is restored has admitted the elements
of the snapshot in their order. An end of the input that is answered with success has left the
queue empty.
-/

namespace AsyncStage.Stage

variable {s s' : Stage}

/-! ## Steps that admit nothing -/

theorem Takes.admitted {c : Completion} {rest : List Completion} (t : Takes s s' c rest) :
    s'.admitted = s.admitted := by
  cases t.applies with
  | ignored same => exact same ▸ rfl
  | scheduled e here names accepted wanted works => exact works.admitted ⟨rfl, rfl⟩
  | resolved e here names accepted unwanted resolves => exact resolves.admitted ⟨rfl, rfl⟩

theorem Pops.admitted {key : TimerKey} {target : TimerTarget} {rest : TimerQueue} (p : Pops s s' key target rest) :
    s'.admitted = s.admitted := by
  cases p.fires with
  | retried e here at' set works => exact works.admitted (inFlight_calls s _)
  | expired e here opened started timeout deadline resolves => exact resolves.admitted (inFlight_expiry s e _)

theorem admitted_of_reads (reads : Reads s s') : s'.admitted = s.admitted :=
  Reads.between (fun s t => t.admitted = s.admitted) (fun _ => rfl) (fun first later => later.trans first) reads
    Takes.admitted

theorem admitted_of_expires (expires : Expires s s') : s'.admitted = s.admitted :=
  Expires.between (fun s t => t.admitted = s.admitted) (fun _ => rfl) (fun first later => later.trans first) expires
    Pops.admitted

theorem admitted_turn (h : s.Sound) : s.turn.admitted = s.admitted := by
  obtain ⟨reads, expires, drained, emits⟩ := turn_parts h
  exact emits.admitted.trans ((admitted_of_expires expires).trans (admitted_of_reads reads))

theorem admitted_sleep (h : s.Sound) (w : Wake) : (s.sleep w).admitted = s.admitted := by
  have sound := h.steps (undergoAll_steps w.arriving s)
  have arrived := (quiet_undergoAll w.arriving s).admitted
  unfold sleep
  simp only [(quiet_undergoAll w.resuming _).admitted]
  generalize s.undergoAll w.arriving = t at sound arrived
  cases mail : t.mailbox with
  | nil => exact arrived
  | cons c rest =>
    have takes : Takes t (apply { t with mailbox := rest } c) c rest :=
      ⟨mail, apply_applies (s := { t with mailbox := rest }) sound.queue sound.timers c⟩
    exact takes.admitted.trans arrived

theorem Resolves.told_extends {e : RecordEntry} {result : Resolution} {new : List Event}
    (r : Resolves s s' e result new) : s.told <+: s'.told := by
  cases r with
  | completed values final works => exact ⟨_, works.told.symm⟩
  | failed error s₁ e₁ final cause works silent ends =>
    exact List.IsPrefix.trans ⟨_, works.told.symm⟩ ⟨_, ends.told.symm⟩

/-- What a result is said to note is noted. -/
theorem Resolves.noted {e : RecordEntry} {result : Resolution} {new : List Event} (r : Resolves s s' e result new)
    {v : Event} (hv : v ∈ new) : ⟨s.now, v⟩ ∈ s'.told := by
  cases r with
  | completed values final works =>
    rw [works.told]
    exact List.mem_append_right _ (List.mem_map_of_mem hv)
  | failed error s₁ e₁ final cause works silent ends =>
    rw [ends.told, works.told]
    exact List.mem_append_left _ (List.mem_append_right _ (List.mem_map_of_mem hv))

/-- A history only grows. -/
theorem Step.told_extends (step : Step s s') : s.told <+: s'.told := by
  cases step with
  | posted c same =>
    subst same
    exact ⟨_, (told_note rfl).symm⟩
  | clock time same => exact same ▸ List.prefix_rfl
  | @took c rest takes =>
    cases takes.applies with
    | ignored same => exact same ▸ List.prefix_rfl
    | scheduled e here names accepted wanted works => exact ⟨_, works.told.symm⟩
    | resolved e here names accepted unwanted resolves => exact resolves.told_extends
  | fired pops =>
    cases pops.fires with
    | retried e here at' set works => exact ⟨_, works.told.symm⟩
    | expired e here opened started timeout deadline resolves => exact resolves.told_extends
  | emitted drained emits => exact ⟨_, emits.told.symm⟩
  | admittedRecord r running admits => exact ⟨_, admits.told.symm⟩
  | admittedWatermark t running admits => exact ⟨_, admits.told.symm⟩
  | inputEnded running same => exact same ▸ List.prefix_rfl
  | cutShort e here ended at' resolves => exact resolves.told_extends
  | forwarded status same => exact same ▸ List.prefix_rfl
  | measured m same => exact same ▸ told_measure s m ▸ List.prefix_rfl
  | closed running stopped => exact ⟨_, stopped.told.symm⟩

theorem told_extends (steps : Steps s s') : s.told <+: s'.told := by
  induction steps with
  | refl => exact List.prefix_rfl
  | tail _ last ih => exact ih.trans last.told_extends

theorem admitted_extends (steps : Steps s s') : s.admitted <+: s'.admitted := by
  obtain ⟨new, told⟩ := told_extends steps
  exact ⟨_, (admitted_append told.symm).symm⟩

/-! ## Answers -/

section Answers

variable {α : Type} {answer : α}

theorem unlessFailed_ok {next : Stage → Stage × Except StageError α}
    (ok : (s.unlessFailed next).2 = .ok answer) : s.failure? = none ∧ s.unlessFailed next = next s := by
  unfold unlessFailed at ok ⊢
  cases failed : s.failure? with
  | some error =>
    rw [failed] at ok
    cases ok
  | none => exact ⟨rfl, rfl⟩

theorem afterTurn_ok {next : Stage → Stage × Except StageError α} (ok : (s.afterTurn next).2 = .ok answer) :
    s.isRunning = true ∧ s.turn.failure? = none ∧ s.afterTurn next = next s.turn := by
  unfold afterTurn whileRunning at ok ⊢
  split at ok
  next running =>
    rw [if_pos running]
    exact ⟨running, unlessFailed_ok ok⟩
  · cases ok

/-- As long as no attempt of a call that waits has had an answer the invariant holds, and whatever ends the
call leaves this result. -/
structure Waits (attempt : Stage → Stage × Except StageError (Option α)) (invariant : Stage → Prop)
    (result : Stage → Reply α → Prop) : Prop where
  tries : ∀ s, invariant s → (attempt s).2 = .ok none → invariant (attempt s).1
  sleeps : ∀ s w, invariant s → invariant (s.sleep w)
  answers : ∀ s, invariant s → ∀ answer, (attempt s).2 = .ok (some answer) → result (attempt s).1 (.done answer)
  errors : ∀ s, invariant s → ∀ error, (attempt s).2 = .error error → result (attempt s).1 (.failed error)
  /-- The stage can also fail while the call is asleep. -/
  fails : ∀ s, invariant s → ∀ error, result s (.failed error)
  blocks : ∀ s, invariant s → result s .blocked

namespace Waits

variable {attempt : Stage → Stage × Except StageError (Option α)} {invariant : Stage → Prop}
  {result : Stage → Reply α → Prop}

theorem answerOr (w : Waits attempt invariant result) (h : invariant s) {next : Stage → Stage × Reply α}
    (goesOn : (attempt s).2 = .ok none → result (next (attempt s).1).1 (next (attempt s).1).2) :
    result (Stage.answerOr (attempt s) next).1 (Stage.answerOr (attempt s) next).2 := by
  have answers := w.answers s h
  have errors := w.errors s h
  generalize attempt s = r at answers errors goesOn ⊢
  obtain ⟨t, told⟩ := r
  match told with
  | .error error => exact errors error rfl
  | .ok (some answer) => exact answers answer rfl
  | .ok none => exact goesOn rfl

theorem repeatUntil (w : Waits attempt invariant result) {stuck : Reply α}
    (sticks : ∀ s, invariant s → result s stuck) (wakes : List Wake) (h : invariant s) :
    result (Stage.repeatUntil attempt stuck wakes s).1 (Stage.repeatUntil attempt stuck wakes s).2 := by
  induction wakes generalizing s with
  | nil => exact w.answerOr h fun none => sticks _ (w.tries s h none)
  | cons wake wakes ih =>
    refine w.answerOr h fun none => ?_
    have awake := w.sleeps _ wake (w.tries s h none)
    cases failed : ((attempt s).1.sleep wake).failure? with
    | some error =>
      simp only [failed]
      exact w.fails _ awake error
    | none =>
      simp only [failed]
      exact ih awake

/-- **A call that waits** comes to its result, however often it is woken. -/
theorem waitFor (w : Waits attempt invariant result) (waiting : Waiting) (h : invariant s) :
    result (s.waitFor waiting attempt).1 (s.waitFor waiting attempt).2 := by
  cases waiting with
  | forbidden => exact w.repeatUntil (fun s h => w.fails s h _) [] h
  | wakes wakes => exact w.repeatUntil w.blocks wakes h

end Waits

theorem untilRoom_error {room : α → Bool} {r : Stage × Except StageError α} {error : StageError}
    (failed : (untilRoom room r).2 = .error error) : r.2 = .error error := by
  obtain ⟨s, told⟩ := r
  cases told with
  | error error =>
    cases failed
    rfl
  | ok answer => cases failed

/-- An attempt that has an answer has one of its own. -/
theorem untilRoom_ok {room : α → Bool} {r : Stage × Except StageError α} {result : Option Unit}
    (ok : (untilRoom room r).2 = .ok result) : ∃ answer, r.2 = .ok answer ∧ room answer = result.isSome := by
  obtain ⟨s, told⟩ := r
  cases told with
  | error error => cases ok
  | ok answer =>
    refine ⟨answer, rfl, ?_⟩
    cases ok
    cases enough : room answer <;> simp [enough]

end Answers

/-! ## Admissions -/

/-- The elements that were admitted. -/
def admittedElements (s : Stage) : List Element := s.admitted.map (·.2)

theorem Admits.admittedElements {e : Entry} {new : List Event} (a : Admits s s' e new) (quiet : InFlight new) :
    s'.admittedElements = s.admittedElements ++ [e.element] := by
  rw [Stage.admittedElements, a.admitted quiet, List.map_append]
  rfl

/-- Whether an answer says that there was room. -/
def foundRoom (room : α → Bool) : Except StageError α → Bool
  | .ok answer => room answer
  | .error _ => false

/-- What an operation has admitted that was to admit this element, of which the answer says that it was taken
or does not say so. -/
inductive TakesIn (s s' : Stage) (e : Element) : Bool → Prop where
  | taken (added : s'.admittedElements = s.admittedElements ++ [e]) : TakesIn s s' e true
  | refused (same : s'.admittedElements = s.admittedElements) : TakesIn s s' e false
  /-- An entry failed for good after the element was admitted. -/
  | lost (running : s.isRunning = true) (stopped : s'.isRunning = false)
      (added : s'.admittedElements = s.admittedElements ++ [e]) : TakesIn s s' e false

theorem TakesIn.admitted {e : Element} (a : TakesIn s s' e true) : s'.admittedElements = s.admittedElements ++ [e] := by
  cases a
  assumption

/-- An operation that was not answered with an error has admitted nothing, if it has not taken the element. -/
theorem TakesIn.same {e : Element} (a : TakesIn s s' e false) (go : Goes s s' none) :
    s'.admittedElements = s.admittedElements := by
  cases a with
  | refused same => exact same
  | lost running stopped => cases stopped.symm.trans (go.isRunning running)

theorem isRunning_of_failure? {error : StageError} (failed : s.failure? = some error) : s.isRunning = false := by
  obtain ⟨f, status, -⟩ := failure?_eq_some failed
  rw [isRunning, status]
  rfl

/-- **An attempt at an admission** admits the element if it says so. -/
theorem takesIn_admitIfRoom {entry : Stage → Entry} {start : Stage → Stage → Stage} {meanwhile : List Occurrence}
    {no yes : α} {e : Element} {room : α → Bool} (h : s.Sound)
    (starts : s.turn.Sound → s.turn.isRunning = true → ∀ admitted, s.turn.enqueue? (entry s.turn) = some admitted →
      ∃ a new, Step s.turn (start s.turn admitted) ∧ Admits s.turn (start s.turn admitted) a new ∧
        InFlight new ∧ a.element = e) (full : room no = false) (free : room yes = true) :
    TakesIn s (s.afterTurn (admitIfRoom entry start meanwhile no yes)).1 e
      (foundRoom room (s.afterTurn (admitIfRoom entry start meanwhile no yes)).2) := by
  cases running : s.isRunning with
  | false =>
    rw [afterTurn, whileRunning, running, if_neg Bool.false_ne_true]
    exact .refused rfl
  | true =>
    have sound := h.steps (turn_steps h)
    have alive := (turn_lasts h).isRunning running
    have before : s.turn.admittedElements = s.admittedElements := by
      rw [admittedElements, admittedElements, admitted_turn h]
    rw [afterTurn, whileRunning, running, if_pos rfl]
    generalize s.turn = t at starts sound alive before ⊢
    unfold unlessFailed
    cases failed : t.failure? with
    | some error => exact .refused before
    | none =>
      simp only [admitIfRoom]
      cases found : t.enqueue? (entry t) with
      | none =>
        simp only [foundRoom, full]
        exact .refused before
      | some admitted =>
        obtain ⟨a, new, step, admits, quiet, rfl⟩ := starts sound (alive failed) admitted found
        have sound' := sound.steps (.head step (undergoAll_steps meanwhile (start t admitted)))
        have added : ((start t admitted).undergoAll meanwhile).turn.admittedElements =
            s.admittedElements ++ [a.element] := by
          rw [admittedElements, admitted_turn sound', (quiet_undergoAll meanwhile _).admitted, ← before]
          exact admits.admittedElements quiet
        simp only [unlessFailed]
        cases failed' : ((start t admitted).undergoAll meanwhile).turn.failure? with
        | some error => exact .lost running (isRunning_of_failure? failed') added
        | none =>
          simp only [foundRoom, free]
          exact .taken added

/-- **An offer** admits the record if it says so. -/
theorem takesIn_offer (h : s.Sound) (r : Record) (meanwhile : List Occurrence) :
    TakesIn s (s.offer r meanwhile).1 (.record r) (foundRoom Admission.isAccepted (s.offer r meanwhile).2) := by
  rw [offer_eq]
  refine takesIn_admitIfRoom h (fun sound alive admitted room => ?_) rfl rfl
  obtain ⟨admits, timers⟩ := admitRecord_admits sound.queue sound.below room
  exact ⟨_, _, .admittedRecord r alive admits timers, admits, inFlight_calls _ _, rfl⟩

theorem takesIn_offerWatermark (h : s.Sound) (t : Timestamp) (meanwhile : List Occurrence) :
    TakesIn s (s.offerWatermark t meanwhile).1 (.watermark t) (foundRoom id (s.offerWatermark t meanwhile).2) := by
  rw [offerWatermark_eq]
  refine takesIn_admitIfRoom h (fun sound alive admitted room => ?_) rfl rfl
  obtain ⟨admits, timers⟩ := enqueue?_admits sound.queue sound.below rfl (fun _ other => by cases other) room
  exact ⟨_, _, .admittedWatermark t alive admits timers, admits, ⟨rfl, rfl⟩, rfl⟩

/-- **An admission that may wait** admits its element if it says so, if each of its attempts does. -/
theorem takesIn_waitFor {first : Stage → Stage × Except StageError α} {room : α → Bool} {waiting : Waiting}
    {e : Element} (h : s.Sound) (goes : ∀ s : Stage, s.Sound → Goes s (first s).1 (errorOf (first s).2))
    (takes : ∀ s : Stage, s.Sound → TakesIn s (first s).1 e (foundRoom room (first s).2)) :
    TakesIn s (s.waitFor waiting fun s => untilRoom room (first s)).1 e
      (decide ((s.waitFor waiting fun s => untilRoom room (first s)).2 = .done ())) := by
  -- As long as there was no room nothing has been admitted.
  have waits : Waits (fun s => untilRoom room (first s))
      (fun t => t.Sound ∧ (t.isRunning = true → s.isRunning = true) ∧ t.admittedElements = s.admittedElements)
      fun t reply => TakesIn s t e (decide (reply = .done ())) := by
    refine ⟨?_, ?_, ?_, ?_, fun t ⟨_, _, same⟩ _ => .refused same, fun t ⟨_, _, same⟩ => .refused same⟩
    · rintro t ⟨sound, ran, same⟩ ok
      obtain ⟨answer, told, full⟩ := untilRoom_ok ok
      have go := goes t sound
      have added := takes t sound
      rw [told] at go added
      simp only [foundRoom, full, Option.isSome_none] at added
      exact ⟨sound.steps go.steps, fun run => ran (go.lasts.ran run), (added.same go).trans same⟩
    · rintro t w ⟨sound, ran, same⟩
      obtain ⟨moves, lasts⟩ := sleep_goes sound w
      refine ⟨sound.steps (Moves.steps moves), fun run => ran (lasts.ran run), ?_⟩
      rw [admittedElements, admitted_sleep sound w]
      exact same
    · rintro t ⟨sound, -, same⟩ ⟨⟩ ok
      obtain ⟨answer, told, free⟩ := untilRoom_ok ok
      have added := takes t sound
      rw [told] at added
      simp only [foundRoom, free, Option.isSome_some] at added
      exact .taken (same ▸ added.admitted)
    · rintro t ⟨sound, ran, same⟩ error failed
      have added := takes t sound
      rw [untilRoom_error failed] at added
      cases added with
      | refused kept => exact .refused (kept.trans same)
      | lost running stopped added => exact .lost (ran running) stopped (same ▸ added)
  exact waits.waitFor waiting ⟨h, id, rfl⟩

/-- **Admitting an element** admits it if the answer says so. -/
theorem takesIn_putElement (h : s.Sound) (e : Element) (i : Interference) :
    TakesIn s (s.putElement e i).1 e (decide ((s.putElement e i).2 = .done ())) := by
  cases e with
  | record r =>
    simp only [putElement, put_eq]
    exact takesIn_waitFor h (fun t sound => offer_goes sound r i.meanwhile)
      fun t sound => takesIn_offer sound r i.meanwhile
  | watermark time =>
    simp only [putElement, putWatermark_eq]
    exact takesIn_waitFor h (fun t sound => offerWatermark_goes sound time i.meanwhile)
      fun t sound => takesIn_offerWatermark sound time i.meanwhile

/-- An admission that is answered with success has admitted its element once. -/
theorem admitted_putElement (h : s.Sound) {e : Element} {i : Interference} (done : (s.putElement e i).2 = .done ()) :
    (s.putElement e i).1.admittedElements = s.admittedElements ++ [e] := by
  have added := takesIn_putElement h e i
  rw [done] at added
  exact added.admitted

theorem putElement_goes (h : s.Sound) (e : Element) (i : Interference) :
    Goes s (s.putElement e i).1 (s.putElement e i).2.error? := by
  cases e with
  | record r => exact put_goes h r i
  | watermark t => exact putWatermark_goes h t i

/-- **Admitting several elements** admits them in their order, if it is answered with success. -/
theorem putAll_done (h : s.Sound) (es : List (Element × Interference)) :
    Steps s (s.putAll es).1 ∧ ((s.putAll es).2 = .done () → s.isRunning = true → (s.putAll es).1.isRunning = true ∧
      (s.putAll es).1.admittedElements = s.admittedElements ++ es.map (·.1)) := by
  induction es generalizing s with
  | nil => exact ⟨.refl, fun _ running => ⟨running, (List.append_nil _).symm⟩⟩
  | cons p es ih =>
    obtain ⟨e, i⟩ := p
    have go := putElement_goes h e i
    have adds := fun done => admitted_putElement h (e := e) (i := i) done
    unfold putAll
    match answer : s.putElement e i with
    | (t, .failed error) =>
      rw [answer] at go
      exact ⟨go.steps, fun done => by cases done⟩
    | (t, .blocked) =>
      rw [answer] at go
      exact ⟨go.steps, fun done => by cases done⟩
    | (t, .done ()) =>
      rw [answer] at go adds
      obtain ⟨steps, whole⟩ := ih (h.steps go.steps)
      refine ⟨go.steps.trans steps, fun done running => ?_⟩
      obtain ⟨running, admitted⟩ := whole done (go.isRunning running)
      refine ⟨running, ?_⟩
      rw [admitted, adds rfl, List.append_assoc]
      rfl

/-! ## The end of the input -/

/-- **The end of the input** leaves the queue empty, if it is answered with success. -/
theorem finish_done (h : s.Sound) {i : Interference} (done : (s.finish i).2 = .done ()) :
    s.isRunning = true ∧ (s.finish i).1.isRunning = true ∧ (s.finish i).1.entries = [] := by
  have running : s.isRunning = true := by
    by_contra stopped
    rw [finish_of_stopped (Bool.not_eq_true _ ▸ stopped)] at done
    cases done
  have go := finish_goes h i
  rw [done] at go
  refine ⟨running, go.isRunning running, ?_⟩
  have sound := h.steps (withoutRetries_steps h running)
  rw [finish_of_running running] at done ⊢
  generalize s.withoutRetries = t at sound done ⊢
  cases failed : t.failure? with
  | some error =>
    rw [failed] at done
    cases done
  | none =>
    simp only [failed] at done ⊢
    have waits : Waits untilEmpty Sound fun u reply => reply = .done () → u.entries = [] := by
      refine ⟨fun u sound _ => sound.steps (untilEmpty_goes sound).steps,
        fun u w sound => sound.steps (Moves.steps (sleep_goes sound w).1), ?_, fun _ _ _ _ failed => (by cases failed),
        fun _ _ _ failed => (by cases failed), fun _ _ blocked => (by cases blocked)⟩
      intro u sound _ ok _
      obtain ⟨-, same⟩ := unlessFailed_ok ok
      rw [untilEmpty, same]
      rw [untilEmpty, same] at ok
      have empty : u.turn.queue.isEmpty = true := by
        cases left : u.turn.queue.isEmpty with
        | true => rfl
        | false => simp [left] at ok
      exact (Queue.isEmpty_iff (sound.steps (turn_steps sound)).queue).1 empty
    exact waits.waitFor _ (sound.steps (undergoAll_steps i.meanwhile t)) done

end AsyncStage.Stage
