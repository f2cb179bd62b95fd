import AsyncStage.Proofs.Queue.Edit
import AsyncStage.Proofs.Stage.History
import AsyncStage.Proofs.Timer
import AsyncStage.Stage.Turn

/-!
# Work on one entry

The handlers of a turn each work on one entry: they change it, note what they did, and leave
everything else alone but the timers. `Works` says so, and the lemmas below are the steps that
a handler is made of, so that what it does is read off by following it step by step. Timers are
looked at apart from this. `Ends` says what happens when the work ends the stage.
-/

namespace AsyncStage.Stage

open Queue (Edits edits_update edits_settle)

/-- In going from `s` to `s'` the record entry `e` has become `e'`, and `new` was noted. -/
structure Works (s s' : Stage) (e e' : RecordEntry) (new : List Event) : Prop where
  setup : s'.setup = s.setup
  now : s'.now = s.now
  retrying : s'.retrying = s.retrying
  nextId : s'.nextId = s.nextId
  status : s'.status = s.status
  output : s'.output = s.output
  queue : s.queue.Edits s'.queue e e'
  told : s'.told = s.told ++ new.map (Note.mk s.now)
  mailbox : s'.mailbox = s.mailbox ++ new.filterMap Event.posted?

/-- The cancel signals that are given when everything in flight is discarded. -/
def cancellations (s : Stage) : List Event :=
  (s.entries.filterMap Entry.record?).filterMap fun e => e.signal.map (Event.cancelled e.id)

/-- The stage has ended: nothing is in flight, and outstanding attempts were cancelled. -/
structure Ends (s s' : Stage) (status : Status) : Prop where
  setup : s'.setup = s.setup
  now : s'.now = s.now
  retrying : s'.retrying = s.retrying
  nextId : s'.nextId = s.nextId
  status : s'.status = status
  output : s'.output = s.output
  queue : s'.queue = s.queue.clear
  timers : s'.timers = s.timers.clear
  told : s'.told = s.told ++ s.cancellations.map (Note.mk s.now)
  mailbox : s'.mailbox = s.mailbox

variable {s s' s'' : Stage} {e e' e'' : RecordEntry} {new new' : List Event}

namespace Works

theorem refl (sound : s.queue.Sound) (here : .record e ∈ s.entries) : Works s s e e [] :=
  ⟨rfl, rfl, rfl, rfl, rfl, rfl, .refl sound here, by simp, by simp⟩

theorem there (w : Works s s' e e' new) (sound : s.queue.Sound) : .record e' ∈ s'.entries :=
  w.queue.there sound

theorem trans (w : Works s s' e e' new) (sound : s.queue.Sound) (w' : Works s' s'' e' e'' new') :
    Works s s'' e e'' (new ++ new') where
  setup := w'.setup.trans w.setup
  now := w'.now.trans w.now
  retrying := w'.retrying.trans w.retrying
  nextId := w'.nextId.trans w.nextId
  status := w'.status.trans w.status
  output := w'.output.trans w.output
  queue := w.queue.trans sound w'.queue
  told := by rw [w'.told, w.told, w.now, List.append_assoc, List.map_append]
  mailbox := by rw [w'.mailbox, w.mailbox, List.append_assoc, List.filterMap_append]

/-! ## The steps of a handler -/

theorem update (w : Works s s' e e' new) (sound : s.queue.Sound) {f : RecordEntry → RecordEntry}
    (hid : ∀ r, (f r).id = r.id) (hrec : ∀ r, (f r).record = r.record)
    (hdone : ∀ r, (f r).isDone = r.isDone) : Works s (s'.update e.id f) e (f e') new :=
  { w with
    queue := by
      rw [← w.queue.id]
      exact w.queue.trans sound (edits_update w.queue.sound (w.there sound) hid hrec hdone) }

/-- The entry gets its result. -/
theorem complete (w : Works s s' e e' new) (sound : s.queue.Sound) (opened : e'.isDone = false)
    (values : List String) :
    Works s (s'.complete e.id values) e { e' with slot := .completed values } new :=
  { w with
    queue := by
      rw [← w.queue.id]
      exact w.queue.trans sound (edits_settle (f := fun r => { r with slot := .completed values })
        w.queue.sound (w.there sound) (fun _ => rfl) (fun _ => rfl) (fun _ => rfl) opened) }

theorem setTimers (w : Works s s' e e' new) (timers : TimerQueue) :
    Works s { s' with timers := timers } e e' new := { w with }

theorem cancelTimer (w : Works s s' e e' new) (timer : Option TimerId) :
    Works s (s'.cancelTimer timer) e e' new := by
  cases timer with
  | none => exact w
  | some id => exact w.setTimers _

theorem note (w : Works s s' e e' new) (v : Event) (told : v.isTold = true) (other : v.posted? = none) :
    Works s (s'.note v) e e' (new ++ [v]) :=
  { w with
    told := by simp [told_note told, w.told, w.now]
    mailbox := by simpa [Stage.note, other] using w.mailbox }

theorem noteSilent (w : Works s s' e e' new) {v : Event} (silent : v.isTold = false) :
    Works s (s'.note v) e e' new :=
  { w with told := (told_note_silent silent).trans w.told }

theorem measure (w : Works s s' e e' new) (m : Measurement) : Works s (s'.measure m) e e' new :=
  w.noteSilent rfl

theorem post (w : Works s s' e e' new) (c : Completion) :
    Works s (s'.post c) e e' (new ++ [.posted c]) :=
  { w with
    told := by
      rw [Stage.post, told_note rfl, List.map_append, ← List.append_assoc, ← w.told]
      exact congrArg (fun t => s'.told ++ [⟨t, .posted c⟩]) w.now
    mailbox := by
      rw [List.filterMap_append, ← List.append_assoc, ← w.mailbox]
      rfl }

theorem postAll (w : Works s s' e e' new) (cs : List Completion) :
    Works s (cs.foldl Stage.post s') e e' (new ++ cs.map .posted) := by
  induction cs generalizing s' new with
  | nil => simpa using w
  | cons c cs ih =>
    have rest := ih (w.post c)
    rwa [List.append_assoc] at rest

theorem cancelAttempt (w : Works s s' e e' new) (r : RecordEntry) :
    Works s (s'.cancelAttempt r) e e' (new ++ (r.signal.map (Event.cancelled r.id)).toList) := by
  unfold Stage.cancelAttempt
  cases r.signal with
  | none => simpa using w
  | some attempt => exact w.note _ rfl rfl

end Works

/-! ## The end of a stage -/

theorem told_foldl_cancelAttempt (es : List RecordEntry) (s : Stage) :
    (es.foldl cancelAttempt s).told =
      s.told ++ (es.filterMap fun e => e.signal.map (Event.cancelled e.id)).map (Note.mk s.now) ∧
    ∃ history, es.foldl cancelAttempt s = { s with history := history } := by
  induction es generalizing s with
  | nil => exact ⟨by simp, s.history, rfl⟩
  | cons e es ih =>
    cases signal : e.signal with
    | none =>
      have silent : s.cancelAttempt e = s := by simp [cancelAttempt, signal]
      rw [List.foldl_cons, silent, List.filterMap_cons_none (by simp [signal])]
      exact ih s
    | some attempt =>
      have given : s.cancelAttempt e = s.note (.cancelled e.id attempt) := by
        simp [cancelAttempt, signal]
      obtain ⟨told, history, same⟩ := ih (s.note (.cancelled e.id attempt))
      rw [List.foldl_cons, given, List.filterMap_cons_some (by simp [signal]; rfl)]
      refine ⟨?_, history, same⟩
      rw [told, told_note rfl]
      simp [note]

theorem teardown_ends (s : Stage) (status : Status) : s.Ends (s.teardown status) status := by
  obtain ⟨told, history, same⟩ :=
    told_foldl_cancelAttempt (s.entries.filterMap Entry.record?) { s with status := status }
  have all : s.teardown status = ({ s with
      status := status, history := history, timers := s.timers.clear, queue := s.queue.clear
      : Stage }).measure (.added .inFlight (-s.queue.size)) := by
    rw [teardown, discardAll]
    exact congrArg (fun t : Stage => { t with timers := s.timers.clear, queue := s.queue.clear }.measure
      (.added .inFlight (-s.queue.size))) same
  rw [same] at told
  rw [all]
  exact ⟨rfl, rfl, rfl, rfl, rfl, rfl, rfl, rfl, (told_measure _ _).trans told, rfl⟩

theorem Ends.entries {status : Status} (w : Ends s s' status) : s'.entries = [] := by
  rw [Stage.entries, w.queue]
  exact Queue.toList_clear

end AsyncStage.Stage
