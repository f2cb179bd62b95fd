import AsyncStage.Proofs.Stage.Revise

/-!
# Stages that take up awaited completions

While a stage takes up completions of outstanding attempts that do not end it, fires timers that start
retries and emits, each piece of work is one revision or one emission, and what it is can be read off
the state. So stages that agree, which differ in how their notes mingle only, go on to agree.
-/

namespace AsyncStage.Stage

variable {s s' t u : Stage} {c : Completion} {cs : List Completion} {e e' : RecordEntry} {rest : TimerQueue}
  {target : TimerTarget} {new : List Event}

/-- The attempts of these completions are outstanding, and all that is due otherwise are retries. -/
structure Serving (s : Stage) (cs : List Completion) : Prop where
  sound : s.Sound
  running : s.isRunning = true
  mail : s.mailbox = []
  silent : ∀ call, s.setup.function call = []
  retries : ∀ p ∈ s.timers.toList, p.1.fireAt ≤ s.now → ∃ id, p.2 = .retry id
  awaited : ∀ c ∈ cs, ∃ e, .record e ∈ s.entries ∧ e.id = c.entry ∧ e.accepts c.attempt = true ∧ s.Harmless e c
  distinct : (cs.map Completion.entry).Nodup

/-- Takes up completions, one after the other. -/
def takeUp (s : Stage) (cs : List Completion) : Stage := cs.foldl apply s

/-- Fires the first timer if it is due. -/
def fireFirst (s : Stage) : Stage :=
  match s.timers.popDue s.now with
  | none => s
  | some (target, timers) => { s with timers := timers }.fireTimer target

/-- The first timer is due. It starts the retry of this entry and leaves these timers. -/
structure Recalls (s : Stage) (e : RecordEntry) (rest : TimerQueue) : Prop where
  here : .record e ∈ s.entries
  waits : e.isDone = false ∧ e.retry.isWaiting = true
  popped : s.timers.popDue s.now = some (.retry e.id, rest)
  fires : s.fireFirst = s.revise ({ s with timers := rest }.recalling e)
  others : ∀ a, .record a ∈ s.entries → a.id ≠ e.id → .record a ∈ s.fireFirst.entries

theorem fireFirst_of_popDue (popped : s.timers.popDue s.now = some (target, rest)) :
    s.fireFirst = { s with timers := rest }.fireTimer target := by
  rw [fireFirst, popped]

theorem fireFirst_of_none (none : s.timers.popDue s.now = none) : s.fireFirst = s := by rw [fireFirst, none]

theorem fireUpTo_of_none (none : s.timers.popDue s.now = none) (n : Nat) : fireUpTo n s = s := by
  cases n with
  | zero => rfl
  | succ n => simp only [fireUpTo, none]

/-- Timers fire one after the other. -/
theorem fireUpTo_succ (n : Nat) (s : Stage) : fireUpTo (n + 1) s = fireUpTo n s.fireFirst := by
  cases popped : s.timers.popDue s.now with
  | none => rw [fireFirst_of_none popped, fireUpTo_of_none popped, fireUpTo_of_none popped]
  | some p => simp only [fireUpTo, fireFirst, popped]

/-! ## Work that a serving stage does -/

namespace Serving

/-- Stages that agree serve the same. -/
theorem congr (h : Serving s cs) (agree : Agree s t) : Serving t cs := by
  rw [agree.eq_withHistory]
  exact { h with sound := { h.sound with queue := h.sound.queue } }

/-- Work on an entry whose attempt is not among those awaited. -/
theorem works (h : Serving s cs) (w : Works s s' e e' new) (sound : s'.Sound)
    (unposted : new.filterMap Event.posted? = [])
    (retries : ∀ p ∈ s'.timers.toList, p.1.fireAt ≤ s.now → ∃ id, p.2 = .retry id)
    (others : ∀ c ∈ cs, c.entry ≠ e.id) : Serving s' cs where
  sound := sound
  running := by rw [isRunning, w.status]; exact h.running
  mail := by rw [w.mailbox, h.mail, unposted, List.append_nil]
  silent := by rw [w.setup]; exact h.silent
  retries := by rw [w.now]; exact retries
  awaited c hc := by
    obtain ⟨a, here, names, accepted, harmless⟩ := h.awaited c hc
    refine ⟨a, (w.queue.mem_iff h.sound.queue).2 (.inr ⟨here, ?_⟩), names, accepted, ?_⟩
    · rw [Entry.id_record, names]
      exact others c hc
    · simp only [Harmless, retryBackoff?, w.setup, w.now, w.retrying] at harmless ⊢
      exact harmless
  distinct := h.distinct

/-- Taking up the first completion. -/
theorem apply (h : Serving s (c :: cs)) : Serving (s.apply c) cs := by
  obtain ⟨e, here, names, accepted, harmless⟩ := h.awaited c List.mem_cons_self
  have applies := apply_applies h.sound.queue h.sound.timers c
  have sound := h.sound.applies applies
  have later : Serving s cs := ⟨h.sound, h.running, h.mail, h.silent, h.retries,
    fun c' hc => h.awaited c' (List.mem_cons_of_mem _ hc), h.distinct.of_cons⟩
  have others : ∀ c' ∈ cs, c'.entry ≠ c.entry := fun c' hc same =>
    (List.nodup_cons.1 h.distinct).1 (List.mem_map.2 ⟨c', hc, same⟩)
  cases applies with
  | ignored same unwanted =>
    have ignored := unwanted e here names
    rw [accepted] at ignored
    cases ignored
  | scheduled e' here' names' accepted' wanted works timers =>
    refine later.works works sound rfl (fun p hp due => ?_) (names'.symm ▸ others)
    rw [timers, TimerQueue.mem_schedule h.sound.timers] at hp
    rcases hp with rfl | old
    · exact ⟨_, rfl⟩
    · exact h.retries p old due
  | resolved e' here' names' accepted' unwanted resolves =>
    obtain rfl := h.sound.record_eq here here' (names.trans names'.symm)
    cases resolves with
    | completed values final works timers left =>
      exact later.works works sound rfl (fun p hp due => h.retries p ((left p).1 hp).1 due) (names.symm ▸ others)
    | failed error s₁ e₁ final =>
      rw [Harmless, unwanted, final] at harmless
      rcases harmless with wanted | answered
      · cases wanted
      · cases answered

/-- Taking up the first completion revises the entry whose attempt it is of. -/
theorem apply_eq (h : Serving s (c :: cs)) : ∃ e, .record e ∈ s.entries ∧ e.id = c.entry ∧
    e.accepts c.attempt = true ∧ s.apply c = s.revise (s.answering e c) := by
  obtain ⟨e, here, names, accepted, harmless⟩ := h.awaited c List.mem_cons_self
  exact ⟨e, here, names, accepted, Stage.apply_eq h.sound here names accepted harmless⟩

/-- Taking up a completion leaves the other entries as they are. -/
theorem apply_others (h : Serving s (c :: cs)) (here : .record e ∈ s.entries) (other : e.id ≠ c.entry) :
    .record e ∈ (s.apply c).entries := by
  apply ((apply_applies h.sound.queue h.sound.timers c).others h.sound here _).resolve_left
  · rw [h.apply.running]
    exact Bool.noConfusion
  · intro a _ names _ same
    exact other (same.trans names)

/-- The first timer, if it is due, starts a retry. -/
theorem recalls (h : Serving s cs) (popped : s.timers.popDue s.now = some (target, rest)) :
    ∃ e, target = .retry e.id ∧ s.Recalls e rest ∧ Serving s.fireFirst cs := by
  obtain ⟨key, pops⟩ := h.sound.fires popped
  have sound := h.sound.step (.fired pops)
  rw [← fireFirst_of_popDue popped] at pops sound
  have there : (key, target) ∈ s.timers.toList := pops.first ▸ List.mem_cons_self
  have left : ∀ p ∈ rest.toList, p ∈ s.timers.toList := fun p hp => pops.first ▸ List.mem_cons_of_mem _ hp
  obtain ⟨id, retry⟩ := h.retries _ there pops.due
  cases pops.fires with
  | expired => cases retry
  | @retried e here attempt first outcome at' set works timers =>
    have started : e.retry.firstAttempt = some first := by
      cases at' with
      | waiting slot attempts started => exact started
    refine ⟨e, rfl, ⟨here, at'.waits, popped, ?_, fun a ha other => ?_⟩, ?_⟩
    · rw [fireFirst_of_popDue popped]
      exact startRetry_eq (s := { s with timers := rest }) h.sound.queue here started (h.silent _)
    · exact (works.queue.mem_iff h.sound.queue).2 (.inr ⟨ha, other⟩)
    · refine h.works works sound ?_ (fun p hp due => h.retries p (left p (timers ▸ hp)) due) fun c hc same => ?_
      · simp [calls, h.silent, Event.posted?]
      · obtain ⟨a, there, names, accepted, -⟩ := h.awaited c hc
        obtain rfl := h.sound.record_eq there here (names.trans same)
        obtain ⟨first', outstanding⟩ := at'.of_accepts accepted
        cases outstanding

/-- Firing the first timer. -/
theorem fireFirst (h : Serving s cs) : Serving s.fireFirst cs := by
  cases popped : s.timers.popDue s.now with
  | none => exact (fireFirst_of_none popped).symm ▸ h
  | some p =>
    obtain ⟨e, -, -, serving⟩ := h.recalls popped
    exact serving

/-- Emission. -/
theorem emitReady (h : Serving s cs) : Serving s.emitReady cs := by
  obtain ⟨drained, m⟩ := emitReady_emits h.sound.queue
  refine ⟨h.sound.emits m, ?_, m.mailbox.trans h.mail, ?_, ?_, fun c hc => ?_, h.distinct⟩
  · rw [isRunning, m.status]
    exact h.running
  · rw [m.setup]
    exact h.silent
  · rw [m.timers, m.now]
    exact h.retries
  · obtain ⟨e, here, names, accepted, harmless⟩ := h.awaited c hc
    refine ⟨e, ?_, names, accepted, ?_⟩
    · refine (List.mem_append.1 (m.queue.perm.mem_iff.2 here)).resolve_left fun gone => ?_
      have done : e.isDone = true := m.queue.done _ gone
      rw [RecordEntry.isDone_of_accepts accepted] at done
      cases done
    · simp only [Harmless, retryBackoff?, m.setup, m.now, m.retrying] at harmless ⊢
      exact harmless

end Serving

/-! ## Stages that agree do the same -/

/-- Stages that agree and serve these completions. -/
structure Concur (cs : List Completion) (s t : Stage) : Prop where
  agree : Agree s t
  serving : Serving s cs

theorem Agree.emitting (h : Agree s t) (drained : List Entry × Queue) :
    Agree (s.emitting drained) (t.emitting drained) := by
  have changed : Agree
      { s with
        queue := drained.2
        output := (drained.1.flatMap Entry.rendering).foldl Output.emit s.output } _ :=
    h.alter (f := fun u =>
      { u with
        queue := drained.2
        output := (drained.1.flatMap Entry.rendering).foldl Output.emit u.output }) (fun _ => rfl) fun _ => rfl
  exact changed.log _

namespace Concur

theorem refl (h : Serving s cs) : Concur cs s s := ⟨.refl s, h⟩

theorem symm (h : Concur cs s t) : Concur cs t s := ⟨h.agree.symm, h.serving.congr h.agree⟩

theorem trans (h : Concur cs s t) (h' : Concur cs t u) : Concur cs s u := ⟨h.agree.trans h'.agree, h.serving⟩

theorem apply (h : Concur (c :: cs) s t) : Concur cs (s.apply c) (t.apply c) := by
  obtain ⟨e, here, names, -, same⟩ := h.serving.apply_eq
  obtain ⟨e', here', names', -, same'⟩ := h.symm.serving.apply_eq
  rw [entries, ← h.agree.queue] at here'
  obtain rfl := h.serving.sound.record_eq here here' (names.trans names'.symm)
  refine ⟨?_, h.serving.apply⟩
  rw [same, same', answering_congr h.agree.setup h.agree.now h.agree.timers h.agree.retrying]
  exact h.agree.revise _

theorem takeUp_append {later : List Completion} (h : Concur (cs ++ later) s t) :
    Concur later (s.takeUp cs) (t.takeUp cs) := by
  induction cs generalizing s t with
  | nil => exact h
  | cons c cs ih => exact ih h.apply

theorem takeUp (h : Concur cs s t) : Concur [] (s.takeUp cs) (t.takeUp cs) :=
  takeUp_append ((List.append_nil cs).symm ▸ h)

theorem fireFirst (h : Concur cs s t) : Concur cs s.fireFirst t.fireFirst := by
  refine ⟨?_, h.serving.fireFirst⟩
  cases popped : s.timers.popDue s.now with
  | none =>
    have popped' : t.timers.popDue t.now = none := by rw [← h.agree.timers, ← h.agree.now, popped]
    rw [fireFirst_of_none popped, fireFirst_of_none popped']
    exact h.agree
  | some p =>
    have popped' : t.timers.popDue t.now = some p := by rw [← h.agree.timers, ← h.agree.now, popped]
    obtain ⟨e, target, recalls, -⟩ := h.serving.recalls popped
    obtain ⟨e', target', recalls', -⟩ := h.symm.serving.recalls popped'
    have here' := recalls'.here
    rw [entries, ← h.agree.queue] at here'
    have same : e.id = e'.id := TimerTarget.retry.inj (target.symm.trans target')
    obtain rfl := h.serving.sound.record_eq recalls.here here' same
    have calls := recalling_congr (s := { s with timers := p.2 }) (t := { t with timers := p.2 }) h.agree.setup
      h.agree.now rfl e
    rw [recalls.fires, recalls'.fires, calls]
    exact h.agree.revise _

theorem emitReady (h : Concur cs s t) : Concur cs s.emitReady t.emitReady := by
  refine ⟨?_, h.serving.emitReady⟩
  rw [emitReady_eq h.serving.sound.queue, emitReady_eq h.symm.serving.sound.queue, h.agree.queue]
  exact h.agree.emitting _

theorem fireUpTo (h : Concur cs s t) (n : Nat) : Concur cs (fireUpTo n s) (fireUpTo n t) := by
  induction n generalizing s t with
  | zero => exact h
  | succ n ih => rw [fireUpTo_succ, fireUpTo_succ]; exact ih h.fireFirst

theorem fireDue (h : Concur cs s t) : Concur cs s.fireDue t.fireDue := by
  rw [Stage.fireDue, Stage.fireDue, h.agree.timers]
  exact h.fireUpTo _

/-- A whole turn, once the mail has been read. -/
theorem settled (h : Concur cs s t) : Concur cs s.fireDue.emitReady t.fireDue.emitReady := h.fireDue.emitReady

end Concur

end AsyncStage.Stage
