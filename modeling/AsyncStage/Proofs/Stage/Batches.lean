import AsyncStage.Proofs.Stage.Serving
import AsyncStage.Proofs.Stage.Stale
import AsyncStage.Proofs.Stage.Timers

/-!
# Completions in batches

A turn takes up all its mail before it fires a timer, and fires all timers that are due before it
emits. If the mail comes in batches with a turn after each, timers fire and entries are emitted in
between. None of this shows afterwards: firing the first timer can be put off until a completion has
been taken up, and emitting can be left out if there is an emission later.
-/

namespace AsyncStage.Stage

variable {s t : Stage} {c : Completion} {cs : List Completion} {e : RecordEntry} {rest : TimerQueue}
  {target : TimerTarget} {id : EntryId}

/-! ## Putting off a timer -/

/-- The first timer is the first also when one is cancelled that is not its own. -/
theorem popDue_without {q : TimerQueue} {now : Instant} (h : q.Sound) (popped : q.popDue now = some (target, rest))
    {timer : Option TimerId} (spared : ∀ p ∈ q.toList, timer = some p.1.id → p.2 ≠ target) :
    (q.without timer).popDue now = some (target, rest.without timer) := by
  cases timer with
  | none => exact popped
  | some id => exact TimerQueue.popDue_cancel h popped fun p hp same => spared p hp (congrArg some same.symm)

/-- The timer of a retry is the first one also after a completion has been taken up. -/
theorem popDue_answering (h : s.Sound) (here : .record e ∈ s.entries) (accepted : e.accepts c.attempt = true)
    (popped : s.timers.popDue s.now = some (.retry id, rest)) :
    ∃ timers, answering { s with timers := rest } e c = { s.answering e c with timers := timers } ∧
      (s.answering e c).timers.popDue s.now = some (.retry id, timers) := by
  have asks : retryBackoff? { s with timers := rest } e c = s.retryBackoff? e c := rfl
  have number := TimerQueue.nextId_of_popDue h.timers popped
  rw [answering, answering, asks]
  cases s.retryBackoff? e c with
  | some backoff =>
    refine ⟨(rest.schedule (s.now.after backoff.span) (.retry c.entry)).2, ?_,
      TimerQueue.popDue_schedule h.timers popped (Instant.le_after _ _)⟩
    simp only [awaitingRetry, number]
    rfl
  | none =>
    obtain ⟨first, at'⟩ := h.at_of_accepts here accepted
    have alone : e.retry.retryTimer = none := by
      cases at' with
      | outstanding slot attempts started timer => exact timer
    refine ⟨rest.without e.deadlineTimer, ?_, ?_⟩
    · simp only [settling, alone]
      rfl
    · simp only [settling, alone]
      refine popDue_without h.timers popped fun p hp set retry => ?_
      rcases h.owns_of_deadline here hp set with ⟨deadline, -⟩ | ⟨-, timer, -⟩
      · rw [deadline] at retry
        cases retry
      · rw [alone] at timer
        cases timer

/-- **A timer that is due may fire** before or after a completion is taken up. -/
theorem Serving.exchange (h : Serving s (c :: cs)) (popped : s.timers.popDue s.now = some (target, rest)) :
    Concur cs (s.fireFirst.apply c) (s.apply c).fireFirst ∧
      ∃ rest', (s.apply c).timers.popDue (s.apply c).now = some (target, rest') := by
  obtain ⟨e, here, names, accepted, applied⟩ := h.apply_eq
  obtain ⟨f, rfl, recalls, later⟩ := h.recalls popped
  have other : e.id ≠ f.id := by
    intro same
    obtain rfl := h.sound.record_eq here recalls.here same
    simp [RecordEntry.accepts, recalls.waits.2] at accepted
  obtain ⟨timers, answers, popped'⟩ := popDue_answering h.sound here accepted popped
  have due : (s.apply c).timers.popDue (s.apply c).now = some (.retry f.id, timers) := by
    rw [applied]
    exact popped'
  refine ⟨?_, timers, due⟩
  -- The entry that waits is still there after the completion.
  obtain ⟨f', target, recalls', -⟩ := h.apply.recalls due
  have there : .record f ∈ (s.apply c).entries := h.apply_others recalls.here (names ▸ other.symm)
  obtain rfl := h.apply.sound.record_eq there recalls'.here (TimerTarget.retry.inj target)
  -- So is the entry that is answered after the retry.
  obtain ⟨e', here', names', -, applied'⟩ := later.apply_eq
  obtain rfl := later.sound.record_eq (recalls.others e here other) here' (names.trans names'.symm)
  have same : s.fireFirst.answering e c = { s.answering e c with timers := timers } := by
    rw [← answers, recalls.fires]
    exact answering_congr rfl rfl rfl rfl e c
  have calls : recalling { s.apply c with timers := timers } f =
      { recalling { s with timers := rest } f with timers := timers } := by
    rw [applied]
    rfl
  have retrying : ∀ r : RecordEntry, ((recalling { s with timers := rest } f).change r).id = r.id := fun _ => rfl
  have exchanged := revise_exchange h.sound.queue ((s.id_answering names).trans_ne other)
    (s.id_change_answering e · c) retrying rfl (phased_answering s e c) (phased_recalling _ f) (by decide) timers
  refine Concur.symm ⟨?_, h.apply.fireFirst⟩
  rw [recalls'.fires, calls, applied, applied', same, recalls.fires]
  exact exchanged

/-- The first timer may fire before or after all the completions are taken up. -/
theorem Serving.exchangeAll (h : Serving s cs) (popped : s.timers.popDue s.now = some (target, rest)) :
    Concur [] (s.fireFirst.takeUp cs) (s.takeUp cs).fireFirst ∧
      ∃ rest', (s.takeUp cs).timers.popDue (s.takeUp cs).now = some (target, rest') := by
  induction cs generalizing s rest with
  | nil => exact ⟨.refl h.fireFirst, rest, popped⟩
  | cons c cs ih =>
    obtain ⟨first, rest', popped'⟩ := h.exchange popped
    obtain ⟨later, due⟩ := ih h.apply popped'
    exact ⟨first.takeUp.trans later, due⟩

/-- Firing the first timer is the beginning of firing all that are due. -/
theorem Serving.fireDue_fireFirst (h : Serving s cs) (popped : s.timers.popDue s.now = some (target, rest)) :
    s.fireFirst.fireDue = s.fireDue := by
  obtain ⟨e, rfl, recalls, -⟩ := h.recalls popped
  obtain ⟨key, -, list, -⟩ := TimerQueue.toList_of_popDue h.sound.timers popped
  have size : s.timers.size = rest.size + 1 := congrArg List.length list
  have left : s.fireFirst.timers = rest := (congrArg Stage.timers recalls.fires :)
  rw [fireDue, fireDue, size, left, fireUpTo_succ]

/-- **Timers that are due** may fire before the completions are taken up, if those that are due then fire
afterwards. -/
theorem Serving.takeUp_fireUpTo (h : Serving s cs) (n : Nat) :
    Concur [] ((fireUpTo n s).takeUp cs).fireDue (s.takeUp cs).fireDue := by
  induction n generalizing s with
  | zero => exact (Concur.refl h).takeUp.fireDue
  | succ n ih =>
    cases popped : s.timers.popDue s.now with
    | none =>
      rw [fireUpTo_of_none popped]
      exact (Concur.refl h).takeUp.fireDue
    | some p =>
      obtain ⟨exchanged, rest', popped'⟩ := h.exchangeAll popped
      have late := exchanged.fireDue
      rw [(Concur.refl h).takeUp.serving.fireDue_fireFirst popped'] at late
      rw [fireUpTo_succ]
      exact (ih h.fireFirst).trans late

/-! ## Leaving out an emission -/

/-- Emitting before a completion is taken up can be left out. -/
theorem Serving.emitReady_apply (h : Serving s (c :: cs)) :
    Concur cs (s.emitReady.apply c).emitReady (s.apply c).emitReady := by
  obtain ⟨e, here, names, accepted, applied⟩ := h.apply_eq
  obtain ⟨e', here', names', -, applied'⟩ := h.emitReady.apply_eq
  obtain ⟨drained, m⟩ := emitReady_emits h.sound.queue
  obtain rfl := h.sound.record_eq here (m.queue.stays.subset here') (names.trans names'.symm)
  have same : s.emitReady.answering e c = s.answering e c := answering_congr m.setup m.now m.timers m.retrying e c
  have emitted := h.emitReady.apply
  have revised := h.apply
  rw [applied', same] at emitted ⊢
  rw [applied] at revised ⊢
  exact ⟨emitReady_revise h.sound.queue emitted.sound.queue revised.sound.queue here
    (RecordEntry.isDone_of_accepts accepted) (s.id_answering names) (phased_answering s e c) (by decide),
    emitted.emitReady⟩

/-- Emitting before the first timer fires can be left out. -/
theorem Serving.emitReady_fireFirst (h : Serving s cs) :
    Concur cs s.emitReady.fireFirst.emitReady s.fireFirst.emitReady := by
  obtain ⟨drained, m⟩ := emitReady_emits h.sound.queue
  have first : s.emitReady.timers.popDue s.emitReady.now = s.timers.popDue s.now := by rw [m.timers, m.now]
  cases popped : s.timers.popDue s.now with
  | none =>
    rw [fireFirst_of_none popped, fireFirst_of_none (first.trans popped), emitReady_of_atRest (emitReady_atRest s)]
    exact .refl h.emitReady
  | some p =>
    obtain ⟨e, target, recalls, revised⟩ := h.recalls popped
    obtain ⟨e', target', recalls', emitted⟩ := h.emitReady.recalls (first.trans popped)
    obtain rfl := h.sound.record_eq recalls.here (m.queue.stays.subset recalls'.here)
      (TimerTarget.retry.inj (target.symm.trans target'))
    have same := recalling_congr (s := { s.emitReady with timers := p.2 }) (t := { s with timers := p.2 }) m.setup
      m.now rfl e
    rw [recalls'.fires, same] at emitted ⊢
    rw [recalls.fires] at revised ⊢
    exact ⟨emitReady_revise h.sound.queue emitted.sound.queue revised.sound.queue recalls.here recalls.waits.1 rfl
      (phased_recalling _ e) (by decide), emitted.emitReady⟩

/-- Emitting before the timers fire can be left out. -/
theorem Serving.emitReady_fireUpTo (h : Serving s cs) (n : Nat) :
    Concur cs (fireUpTo n s.emitReady).emitReady (fireUpTo n s).emitReady := by
  induction n generalizing s with
  | zero =>
    change Concur cs s.emitReady.emitReady s.emitReady
    rw [emitReady_of_atRest (emitReady_atRest s)]
    exact .refl h.emitReady
  | succ n ih =>
    rw [fireUpTo_succ, fireUpTo_succ]
    -- An emission is put in after the first timer, and is left out of both sides.
    have between := (h.emitReady_fireFirst.fireUpTo n).emitReady
    exact (ih h.emitReady.fireFirst).symm.trans (between.trans (ih h.fireFirst))

/-- **An emission before the completions are taken up** can be left out if there is one afterwards. -/
theorem Serving.emitReady_takeUp (h : Serving s cs) :
    Concur [] (s.emitReady.takeUp cs).fireDue.emitReady (s.takeUp cs).fireDue.emitReady := by
  induction cs generalizing s with
  | nil =>
    obtain ⟨drained, m⟩ := emitReady_emits h.sound.queue
    have size : s.emitReady.timers.size = s.timers.size := congrArg TimerQueue.size m.timers
    change Concur [] (fireUpTo s.emitReady.timers.size s.emitReady).emitReady (fireUpTo s.timers.size s).emitReady
    rw [size]
    exact h.emitReady_fireUpTo _
  | cons c cs ih =>
    have between := h.emitReady_apply.takeUp.settled
    exact (ih h.emitReady.apply).symm.trans (between.trans (ih h.apply))

/-! ## Turns in between -/

/-- Everything is posted, and then the stage is polled. -/
def delivery (batch : List Completion) : List Action := batch.map (fun c => .undergo (.completes c)) ++ [.poll]

theorem foldl_post (batch : List Completion) (s : Stage) :
    batch.foldl post s = { s with mailbox := s.mailbox ++ batch }.log (batch.map .posted) := by
  induction batch generalizing s with
  | nil => simp [log]
  | cons c batch ih => simp [ih, post, note, log]

theorem run_undergo (batch : List Completion) (s : Stage) :
    s.run (batch.map fun c => .undergo (.completes c)) = batch.foldl post s := by
  induction batch generalizing s with
  | nil => rfl
  | cons c batch ih => exact ih (s.post c)

variable {batch later : List Completion}

theorem run_delivery (running : s.isRunning = true) (batch : List Completion) : s.run (delivery batch) =
    ({ s with mailbox := s.mailbox ++ batch }.log (batch.map .posted)).turn := by
  rw [delivery, run_append, run_undergo, foldl_post]
  exact poll_fst running

namespace Serving

/-- **A delivery** is one turn that takes up the completions. -/
theorem run_delivery (h : Serving s (batch ++ later)) :
    Concur later (s.run (delivery batch)) (s.takeUp batch).fireDue.emitReady := by
  have posted : Concur (batch ++ later) (s.log (batch.map .posted)) s :=
    Concur.symm ⟨(Agree.posted s batch).symm, h⟩
  have same : s.run (delivery batch) = ((s.log (batch.map .posted)).takeUp batch).fireDue.emitReady := by
    have unread : { s with mailbox := [] } = s := by rw [← h.mail]
    rw [Stage.run_delivery h.running, h.mail, List.nil_append]
    change (({ s with mailbox := [] }.log (batch.map .posted)).takeUp batch).fireDue.emitReady = _
    rw [unread]
  rw [same]
  exact posted.takeUp_append.settled

/-- The next turn would find nothing to do. -/
theorem calm_run_delivery (h : Serving s (batch ++ later)) : (s.run (delivery batch)).Calm := by
  have mail := h.run_delivery.serving.mail
  rw [Stage.run_delivery h.running] at mail ⊢
  have sound : ({ s with mailbox := s.mailbox ++ batch }.log (batch.map .posted)).Sound := by
    rw [← foldl_post, ← run_undergo]
    exact h.sound.steps (run_steps h.sound _)
  exact sound.calm_turn mail

/-- **Batches are as good as the whole.** -/
theorem run_deliveries (batches : List (List Completion)) (h : Serving s batches.flatten) (calm : s.Calm) :
    Concur [] (s.run (batches.flatMap delivery)) (s.takeUp batches.flatten).fireDue.emitReady := by
  induction batches generalizing s with
  | nil =>
    rw [Stage.takeUp, List.flatten_nil, List.foldl_nil, calm.settled_eq]
    exact .refl h
  | cons batch batches ih =>
    have first := h.run_delivery
    have taken : Serving (s.takeUp batch) batches.flatten := (Concur.refl h).takeUp_append.serving
    have whole : s.takeUp (batch ++ batches.flatten) = (s.takeUp batch).takeUp batches.flatten := List.foldl_append
    rw [List.flatMap_cons, run_append, List.flatten_cons, whole]
    -- The emission in between is left out, and the timers are put off until the other completions are taken up.
    have emitted := (Concur.refl taken).fireDue.serving.emitReady_takeUp
    have fired := (taken.takeUp_fireUpTo (s.takeUp batch).timers.size).emitReady
    exact (ih first.serving h.calm_run_delivery).trans (first.takeUp.settled.trans (emitted.trans fired))

end Serving

/-! ## Reachable stages -/

/-- The stages are the same but for their histories, and they have called the function for the same
attempts in the same order, told the listener the same and counted the same. -/
structure Matches (s t : Stage) : Prop where
  queue : s.queue = t.queue
  timers : s.timers = t.timers
  output : s.output = t.output
  /-- Everything else is the same as well. -/
  state : s.forgetHistory = t.forgetHistory
  invoked : s.invoked = t.invoked
  notices : s.notices = t.notices
  counters : Summary.ofMeasurements s.measurements = Summary.ofMeasurements t.measurements

theorem Agree.matches (h : Agree s t) : Matches s t :=
  ⟨h.queue, h.timers, h.output, h.same, h.invoked, h.notices, h.summary⟩

instance (s : Stage) (c : Completion) : Decidable (s.Expects c) :=
  decidable_of_iff (∃ e ∈ s.records, e.id = c.entry ∧ e.isDone = false ∧ e.retry.isWaiting = false ∧
    e.retry.attempts = c.attempt) (by simp only [mem_records]; rfl)

/-- Completions of different attempts that are outstanding are of different entries. -/
theorem Sound.nodup_entries (h : s.Sound) (awaited : ∀ c ∈ cs, s.Expects c)
    (distinct : (cs.map fun c => (c.entry, c.attempt)).Nodup) : (cs.map Completion.entry).Nodup := by
  have first : cs.map Completion.entry = (cs.map fun c => (c.entry, c.attempt)).map Prod.fst := by
    rw [List.map_map]
    rfl
  rw [first]
  refine distinct.map_on ?_
  simp only [List.forall_mem_map]
  intro c hc c' hc' same
  obtain ⟨e, here, names, -, -, attempts⟩ := awaited c hc
  obtain ⟨e', here', names', -, -, attempts'⟩ := awaited c' hc'
  obtain rfl := h.record_eq here here' (names.trans (same.trans names'.symm))
  exact Prod.ext same (attempts.symm.trans attempts')

/-- Completions of outstanding attempts are taken up by a calm stage unless they end it. -/
theorem Sound.serving (h : s.Sound) (running : s.isRunning = true) (calm : s.Calm)
    (silent : ∀ call, s.setup.function call = []) (awaited : ∀ c ∈ cs, s.Expects c)
    (harmless : ∀ c ∈ cs, ∀ e ∈ s.records, e.id = c.entry → s.Harmless e c)
    (distinct : (cs.map fun c => (c.entry, c.attempt)).Nodup) : Serving s cs where
  sound := h
  running := running
  mail := calm.mail
  silent := silent
  retries p hp due := absurd (calm.early p hp) (Int.not_lt.2 due)
  awaited c hc := by
    obtain ⟨e, here, names, opened, awake, attempts⟩ := awaited c hc
    refine ⟨e, here, names, ?_, harmless c hc e (mem_records.2 here) names⟩
    simp [RecordEntry.accepts, opened, awake, attempts]
  distinct := h.nodup_entries awaited distinct

/-- A stage that retries at once, and has a fallback. -/
def eager : Builder where
  config :=
    { mode := .unordered
      timeout := some (.ofMillis 1000)
      retry := .fixedDelay (some 1) .zero {} }
  fallback := some fun value _ => [value ++ "?"]
  listening := true
  function _ := []

/-- The second attempt of the first record is outstanding, and the first ones of two others between
which there is a watermark. -/
def threeOutstanding : List Action :=
  [.offer ⟨"a", none⟩ [], .undergo (.completes ⟨0, 1, .failure ⟨"down"⟩⟩), .poll,
    .offer ⟨"b", none⟩ [], .putWatermark noon {}, .offer ⟨"c", none⟩ []]

/-- The first record falls back, the second one is retried, and the third one gets its values. -/
def threeAnswers : List (List Completion) :=
  [[⟨0, 2, .failure ⟨"down"⟩⟩, ⟨1, 1, .failure ⟨"down"⟩⟩], [], [⟨3, 1, .values ["c1", "c2"]⟩]]

/-- **Batching does not matter.** Completions of outstanding attempts that do not end the stage may be
posted in any number of batches with a poll after each, or all together with one poll at the end: the
stages that result are the same, although retries may have been started and entries emitted in between. -/
theorem batches_match {b : Builder} {now : Instant} {error : Option StageError} (begins : b.Begins now s error)
    (actions : List Action) (running : (s.run actions).isRunning = true) (mail : (s.run actions).mailbox = [])
    (early : ∀ p ∈ (s.run actions).timers.toList, (s.run actions).now < p.1.fireAt)
    (silent : ∀ call, b.function call = []) (batches : List (List Completion))
    (awaited : ∀ c ∈ batches.flatten, (s.run actions).Expects c)
    (harmless : ∀ c ∈ batches.flatten, ∀ e ∈ (s.run actions).records, e.id = c.entry →
      (s.run actions).Harmless e c)
    (distinct : (batches.flatten.map fun c => (c.entry, c.attempt)).Nodup) :
    Matches ((s.run actions).run (batches.flatMap delivery)) ((s.run actions).run (delivery batches.flatten)) := by
  have sound := begins.kept.sound.steps (run_steps begins.kept.sound actions)
  have calm : (s.run actions).Calm := ⟨mail, early, atRest_of_begins begins actions⟩
  have still : ∀ call, (s.run actions).setup.function call = [] := by
    obtain ⟨retry, setup⟩ := begins.setup actions
    rw [setup]
    exact silent
  have serving := sound.serving running calm still awaited harmless distinct
  have whole : Concur [] ((s.run actions).run (delivery batches.flatten)) _ :=
    Serving.run_delivery ((List.append_nil _).symm ▸ serving)
  exact ((serving.run_deliveries batches calm).trans whole.symm).agree.matches

/-- The retry of the second record is started before the third one is answered, or after that. -/
theorem batches_match_threeAnswers : ∃ s, eager.build .epoch = .ok s ∧
    Matches ((s.run threeOutstanding).run (threeAnswers.flatMap delivery))
      ((s.run threeOutstanding).run (delivery threeAnswers.flatten)) ∧
    ((s.run threeOutstanding).run (delivery threeAnswers.flatten)).invoked =
      [⟨0, 1, "a", 0⟩, ⟨0, 2, "a", 0⟩, ⟨1, 1, "b", 0⟩, ⟨3, 1, "c", 0⟩, ⟨1, 2, "b", 0⟩] ∧
    ((s.run threeOutstanding).run (delivery threeAnswers.flatten)).output.elements.toList = [.record ⟨"a?", none⟩] := by
  have built : eager.build .epoch = .ok _ := rfl
  exact ⟨_, built, batches_match (.built built) threeOutstanding (by decide +kernel) (by decide +kernel)
    (by decide +kernel) (fun _ => rfl) threeAnswers (by decide +kernel) (by decide +kernel) (by decide +kernel),
    by decide +kernel, by decide +kernel⟩

end AsyncStage.Stage
