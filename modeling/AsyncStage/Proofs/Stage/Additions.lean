import AsyncStage.Proofs.Stage.Handlers

/-!
# What is added to the history

The lists that a history shows only grow, and each kind of work adds its own to them: work on an
entry in flight neither admits nor emits, the end of a stage only cancels, emission adds what
leaves the queue, and admission one element. What happens around the entries adds nothing.
-/

namespace AsyncStage.Stage

variable {s s' : Stage} {e e' : RecordEntry} {new : List Event} {α : Type}

/-! ## Events that come together -/

/-- Events of work on entries in flight: none of them admits or emits. -/
def InFlight (new : List Event) : Prop := new.filterMap Event.admitted? = [] ∧ new.filterMap Event.released? = []

theorem filterMap_calls {f : Event → Option α} (invoked : ∀ call, f (.invoked call) = none)
    (posted : ∀ c, f (.posted c) = none) (s : Stage) (call : Invocation) : (s.calls call).filterMap f = [] := by
  rw [calls, List.filterMap_cons_none (invoked call), List.filterMap_map]
  exact List.filterMap_eq_nil_iff.2 fun c _ => posted c

theorem inFlight_calls (s : Stage) (call : Invocation) : InFlight (s.calls call) :=
  ⟨filterMap_calls (fun _ => rfl) (fun _ => rfl) s call, filterMap_calls (fun _ => rfl) (fun _ => rfl) s call⟩

theorem resolved_calls (s : Stage) (call : Invocation) : (s.calls call).filterMap Event.resolved? = [] :=
  filterMap_calls (fun _ => rfl) (fun _ => rfl) s call

theorem applied_calls (s : Stage) (call : Invocation) : (s.calls call).filterMap Event.applied? = [] :=
  filterMap_calls (fun _ => rfl) (fun _ => rfl) s call

theorem filterMap_expiry {f : Event → Option α} (cancelled : ∀ id attempt, f (.cancelled id attempt) = none)
    (s : Stage) (e : RecordEntry) (first : Instant) : (s.expiry e first).filterMap f =
      (f (.resolved e.id (.error (.timeout (s.now.elapsed first) e.retry.attempts)))).toList := by
  rw [expiry, List.filterMap_append]
  cases e.signal with
  | none => cases shown : f (.resolved e.id _) <;> simp [shown]
  | some attempt => cases shown : f (.resolved e.id _) <;> simp [cancelled, shown]

theorem inFlight_expiry (s : Stage) (e : RecordEntry) (first : Instant) : InFlight (s.expiry e first) :=
  ⟨filterMap_expiry (fun _ _ => rfl) s e first, filterMap_expiry (fun _ _ => rfl) s e first⟩

theorem resolved_expiry (s : Stage) (e : RecordEntry) (first : Instant) :
    (s.expiry e first).filterMap Event.resolved? =
      [(e.id, .error (.timeout (s.now.elapsed first) e.retry.attempts))] :=
  filterMap_expiry (fun _ _ => rfl) s e first

theorem applied_expiry (s : Stage) (e : RecordEntry) (first : Instant) :
    (s.expiry e first).filterMap Event.applied? = [] :=
  filterMap_expiry (fun _ _ => rfl) s e first

theorem mem_cancellations {v : Event} (hv : v ∈ s.cancellations) :
    ∃ e, .record e ∈ s.entries ∧ ∃ attempt, e.signal = some attempt ∧ v = .cancelled e.id attempt := by
  obtain ⟨e, he, signal⟩ := List.mem_filterMap.1 hv
  obtain ⟨a, ha, record⟩ := List.mem_filterMap.1 he
  obtain ⟨attempt, held, rfl⟩ := Option.map_eq_some_iff.1 signal
  exact ⟨e, Entry.record?_eq_some_iff.1 record ▸ ha, attempt, held, rfl⟩

theorem filterMap_cancellations {f : Event → Option α} (cancelled : ∀ id attempt, f (.cancelled id attempt) = none)
    (s : Stage) : s.cancellations.filterMap f = [] := by
  apply List.filterMap_eq_nil_iff.2
  intro v hv
  obtain ⟨e, -, attempt, -, rfl⟩ := mem_cancellations hv
  exact cancelled e.id attempt

theorem filterMap_drained {f : Event → Option α} (released : ∀ a, f (.released a) = none) (drained : List Entry) :
    (drained.map Event.released).filterMap f = [] := by
  rw [List.filterMap_map]
  exact List.filterMap_eq_nil_iff.2 fun a _ => released a

theorem released_drained (drained : List Entry) :
    (drained.map Event.released).filterMap Event.released? = drained := by
  rw [List.filterMap_map]
  exact List.filterMap_some

/-! ## Work on an entry -/

namespace Works

theorem admitted (w : Works s s' e e' new) (quiet : InFlight new) : s'.admitted = s.admitted := by
  rw [admitted_noted w.told, quiet.1, List.append_nil]

theorem released (w : Works s s' e e' new) (quiet : InFlight new) : s'.released = s.released := by
  rw [released_noted w.told, quiet.2, List.append_nil]

theorem resolved (w : Works s s' e e' new) : s'.resolved = s.resolved ++ new.filterMap Event.resolved? :=
  resolved_noted w.told

end Works

/-! ## The end of a stage -/

namespace Ends

variable {status : Status}

theorem admitted (w : Ends s s' status) : s'.admitted = s.admitted := by
  rw [admitted_noted w.told, filterMap_cancellations fun _ _ => rfl, List.append_nil]

theorem released (w : Ends s s' status) : s'.released = s.released := by
  rw [released_noted w.told, filterMap_cancellations fun _ _ => rfl, List.append_nil]

theorem resolved (w : Ends s s' status) : s'.resolved = s.resolved := by
  rw [resolved_noted w.told, filterMap_cancellations fun _ _ => rfl, List.append_nil]

theorem posted (w : Ends s s' status) : s'.posted = s.posted := by
  rw [posted_noted w.told, filterMap_cancellations fun _ _ => rfl, List.append_nil]

theorem applied (w : Ends s s' status) : s'.applied = s.applied := by
  rw [applied_noted w.told, filterMap_cancellations fun _ _ => rfl, List.append_nil]

end Ends

namespace Resolves

variable {result : Resolution}

theorem admitted (r : Resolves s s' e result new) (quiet : InFlight new) : s'.admitted = s.admitted := by
  cases r with
  | completed values final works => exact works.admitted quiet
  | failed error s₁ e₁ final cause works silent ends => exact ends.admitted.trans (works.admitted quiet)

theorem resolved (r : Resolves s s' e result new) : s'.resolved = s.resolved ++ new.filterMap Event.resolved? := by
  cases r with
  | completed values final works => exact works.resolved
  | failed error s₁ e₁ final cause works silent ends => exact ends.resolved.trans works.resolved

end Resolves

/-! ## Emission and admission -/

namespace Emits

variable {drained : List Entry}

theorem admitted (m : Emits s s' drained) : s'.admitted = s.admitted := by
  rw [admitted_noted m.told, filterMap_drained fun _ => rfl, List.append_nil]

theorem released (m : Emits s s' drained) : s'.released = s.released ++ drained := by
  rw [released_noted m.told, released_drained]

theorem resolved (m : Emits s s' drained) : s'.resolved = s.resolved := by
  rw [resolved_noted m.told, filterMap_drained fun _ => rfl, List.append_nil]

end Emits

namespace Admits

variable {a : Entry}

theorem admitted (m : Admits s s' a new) (quiet : InFlight new) : s'.admitted = s.admitted ++ [a.label] := by
  rw [admitted_noted m.told, List.filterMap_cons_some (f := Event.admitted?) rfl, quiet.1]
  rfl

theorem released (m : Admits s s' a new) (quiet : InFlight new) : s'.released = s.released := by
  rw [released_noted m.told, List.filterMap_cons_none (f := Event.released?) rfl, quiet.2, List.append_nil]

theorem resolved (m : Admits s s' a new) (silent : new.filterMap Event.resolved? = []) :
    s'.resolved = s.resolved := by
  rw [resolved_noted m.told, List.filterMap_cons_none (f := Event.resolved?) rfl, silent, List.append_nil]

end Admits

/-! ## What adds nothing -/

/-- Nothing happens to entries and timers, and nothing about entries is noted. -/
structure Quiet (s s' : Stage) : Prop where
  setup : s'.setup = s.setup
  queue : s'.queue = s.queue
  timers : s'.timers = s.timers
  nextId : s'.nextId = s.nextId
  status : s'.status = s.status
  output : s'.output.elements = s.output.elements
  admitted : s'.admitted = s.admitted
  released : s'.released = s.released
  resolved : s'.resolved = s.resolved
  toldOf : ∀ id, s'.toldOf id = s.toldOf id

namespace Quiet

theorem refl (s : Stage) : Quiet s s := by
  constructor <;> intros <;> rfl

theorem trans {s₁ : Stage} (q : Quiet s s₁) (q' : Quiet s₁ s') : Quiet s s' where
  setup := q'.setup.trans q.setup
  queue := q'.queue.trans q.queue
  timers := q'.timers.trans q.timers
  nextId := q'.nextId.trans q.nextId
  status := q'.status.trans q.status
  output := q'.output.trans q.output
  admitted := q'.admitted.trans q.admitted
  released := q'.released.trans q.released
  resolved := q'.resolved.trans q.resolved
  toldOf id := (q'.toldOf id).trans (q.toldOf id)

theorem entries (q : Quiet s s') : s'.entries = s.entries := congrArg Queue.toList q.queue

theorem isRunning (q : Quiet s s') : s'.isRunning = s.isRunning := congrArg Status.isRunning q.status

end Quiet

theorem quiet_clock (s : Stage) (t : Instant) : Quiet s { s with now := t } := by
  constructor <;> intros <;> rfl

theorem quiet_mailbox (s : Stage) (mail : List Completion) : Quiet s { s with mailbox := mail } := by
  constructor <;> intros <;> rfl

theorem quiet_inputEnded (s : Stage) : Quiet s { s with retrying := false } := by
  constructor <;> intros <;> rfl

theorem quiet_forwarded (s : Stage) (status : StreamStatus) :
    Quiet s { s with output := s.output.emitStatus status } := by
  constructor <;> intros <;> rfl

/-- An event that is about no entry. -/
theorem quiet_note (s : Stage) {v : Event} (about : v.entry? = none) : Quiet s (s.note v) where
  setup := rfl
  queue := rfl
  timers := rfl
  nextId := rfl
  status := rfl
  output := rfl
  admitted := events_note_filterMap (by cases v <;> first | rfl | cases about)
  released := events_note_filterMap (by cases v <;> first | rfl | cases about)
  resolved := events_note_filterMap (by cases v <;> first | rfl | cases about)
  toldOf := toldOf_note about

theorem quiet_measure (s : Stage) (m : Measurement) : Quiet s (s.measure m) := quiet_note s rfl

theorem quiet_post (s : Stage) (c : Completion) : Quiet s (s.post c) :=
  (quiet_mailbox s (s.mailbox ++ [c])).trans (quiet_note _ rfl)

/-- What happens outside a stage. -/
theorem quiet_undergo (s : Stage) (o : Occurrence) : Quiet s (s.undergo o) := by
  cases o with
  | completes c => exact quiet_post s c
  | clockReads t => exact quiet_clock s t

theorem quiet_undergoAll (os : List Occurrence) (s : Stage) : Quiet s (s.undergoAll os) := by
  induction os generalizing s with
  | nil => exact .refl s
  | cons o os ih => exact (quiet_undergo s o).trans (ih _)

end AsyncStage.Stage
