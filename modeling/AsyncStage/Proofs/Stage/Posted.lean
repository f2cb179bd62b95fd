import AsyncStage.Proofs.Stage.Told

/-!
# First in, first out

Completions are taken up in the order in which they were left in the mailbox, and each one at
most once. What was posted is what has been looked at and what is still in the mailbox, and the
completions that were taken up are some of those looked at, in their order.
-/

namespace AsyncStage.Stage

/-- What was posted has been looked at or is in the mailbox. -/
def Mailed (s : Stage) : Prop := ∃ read, s.posted = read ++ s.mailbox ∧ s.applied.Sublist read

variable {s s' s₁ : Stage} {e e' : RecordEntry} {new : List Event}

/-- What some events add to the mail and to what was made of it. -/
structure Adds (s s' : Stage) (new : List Event) : Prop where
  posted : s'.posted = s.posted ++ new.filterMap Event.posted?
  applied : s'.applied = s.applied ++ new.filterMap Event.applied?
  mailbox : s'.mailbox = s.mailbox ++ new.filterMap Event.posted?

theorem adds_of_told (told : s'.told = s.told ++ new.map (Note.mk s.now))
    (mailbox : s'.mailbox = s.mailbox ++ new.filterMap Event.posted?) : Adds s s' new where
  posted := by rw [posted_noted told]
  applied := by rw [applied_noted told]
  mailbox := mailbox

theorem Works.adds (w : Works s s' e e' new) : Adds s s' new := adds_of_told w.told w.mailbox

theorem Ends.adds {status : Status} (w : Ends s s' status) : Adds s s' [] where
  posted := w.posted.trans (List.append_nil _).symm
  applied := w.applied.trans (List.append_nil _).symm
  mailbox := w.mailbox.trans (List.append_nil _).symm

theorem Resolves.adds {result : Resolution} (r : Resolves s s' e result new) : Adds s s' new := by
  cases r with
  | completed values final works => exact works.adds
  | failed error s₁ e₁ final cause works silent ends =>
    have stopped := ends.adds
    constructor
    · rw [stopped.posted, works.adds.posted]
      exact List.append_nil _
    · rw [stopped.applied, works.adds.applied]
      exact List.append_nil _
    · rw [stopped.mailbox, works.adds.mailbox]
      exact List.append_nil _

namespace Mailed

theorem still (h : s.Mailed) (posted : s'.posted = s.posted) (applied : s'.applied = s.applied)
    (mailbox : s'.mailbox = s.mailbox) : s'.Mailed := by
  rw [Mailed, posted, applied, mailbox]
  exact h

/-- Events that take up nothing. -/
theorem adds (h : s.Mailed) (a : Adds s s' new) (none : new.filterMap Event.applied? = []) : s'.Mailed := by
  obtain ⟨read, posted, applied⟩ := h
  refine ⟨read, ?_, ?_⟩
  · rw [a.posted, a.mailbox, posted, List.append_assoc]
  · rw [a.applied, none, List.append_nil]
    exact applied

/-- Taking up the oldest completion. -/
theorem takes (h : s.Mailed) {c : Completion} {rest : List Completion} (mail : s.mailbox = c :: rest)
    (a : Adds { s with mailbox := rest } s' new) (taken : (new.filterMap Event.applied?).Sublist [c]) :
    s'.Mailed := by
  obtain ⟨read, posted, applied⟩ := h
  refine ⟨read ++ [c], ?_, ?_⟩
  · apply a.posted.trans
    rw [a.mailbox, show Stage.posted { s with mailbox := rest } = s.posted from rfl, posted, mail]
    simp
  · rw [a.applied]
    exact applied.append taken

/-- **Every step reads the mail in order.** -/
theorem step (h : s.Mailed) (step : Step s s') : s'.Mailed := by
  cases step with
  | posted c same =>
    subst same
    have adds : Adds s (s.post c) [.posted c] := adds_of_told (told_note rfl) rfl
    exact h.adds adds rfl
  | clock time same => exact same ▸ h
  | @took c rest takes =>
    cases takes.applies with
    | ignored same =>
      have adds : Adds { s with mailbox := rest } s' [] := by
        rw [same]
        exact ⟨(List.append_nil _).symm, (List.append_nil _).symm, (List.append_nil _).symm⟩
      exact h.takes takes.mail adds (List.nil_sublist _)
    | scheduled e here names accepted wanted works => exact h.takes takes.mail works.adds (.refl _)
    | resolved e here names accepted unwanted resolves => exact h.takes takes.mail resolves.adds (.refl _)
  | fired pops =>
    cases pops.fires with
    | retried e here at' set works timers => exact h.adds works.adds (applied_calls _ _)
    | expired e here opened started timeout deadline resolves =>
      exact h.adds resolves.adds (applied_expiry _ _ _)
  | emitted drained emits =>
    have adds : Adds s s' (drained.map Event.released) := adds_of_told emits.told (by
      rw [filterMap_drained fun _ => rfl, emits.mailbox, List.append_nil])
    exact h.adds adds (filterMap_drained (fun _ => rfl) drained)
  | admittedRecord r running admits timers =>
    exact h.adds (adds_of_told admits.told admits.mailbox) (applied_calls _ _)
  | admittedWatermark t running admits timers =>
    exact h.adds (adds_of_told admits.told admits.mailbox) rfl
  | inputEnded running same => exact same ▸ h
  | cutShort e here ended at' resolves => exact h.adds resolves.adds rfl
  | forwarded status same => exact same ▸ h
  | measured m same => exact same ▸ h.still (events_note_filterMap rfl) (events_note_filterMap rfl) rfl
  | closed running stopped => exact h.adds stopped.adds rfl

end Mailed

end AsyncStage.Stage
