import AsyncStage.Stage.Basic
import Mathlib.Data.List.Basic

/-!
# What a history tells

The history of a stage is a list of notes that only grows. `told` leaves out the notes for
those who watch the stage, its measurements and the use of the fallback, so that what is left
is about the entries and the mailbox. The lists below are what most statements speak of: the
elements that were admitted, the entries that were emitted, the entries that were resolved,
and the completions that were posted and taken up, each in the order in which it happened.
-/

namespace AsyncStage

namespace Event

/-- Whether the event is about the mailbox or an entry. -/
def isTold : Event → Bool
  | .posted _ => true
  | .admitted _ _ => true
  | .invoked _ => true
  | .applied _ => true
  | .scheduled _ _ _ => true
  | .cancelled _ _ => true
  | .resolved _ _ => true
  | .substituted _ => false
  | .released _ => true
  | .measured _ => false

def posted? : Event → Option Completion
  | .posted c => some c
  | _ => none

def admitted? : Event → Option (EntryId × Element)
  | .admitted id element => some (id, element)
  | _ => none

def applied? : Event → Option Completion
  | .applied c => some c
  | _ => none

def resolved? : Event → Option (EntryId × Resolution)
  | .resolved id result => some (id, result)
  | _ => none

def released? : Event → Option Entry
  | .released e => some e
  | _ => none

/-- The entry that the event happened to. -/
def entry? : Event → Option EntryId
  | .posted _ => none
  | .admitted id _ => some id
  | .invoked call => some call.entry
  | .applied c => some c.entry
  | .scheduled id _ _ => some id
  | .cancelled id _ => some id
  | .resolved id _ => some id
  | .substituted _ => none
  | .released e => some e.id
  | .measured _ => none

end Event

namespace Stage

def events (s : Stage) : List Event := s.history.toList.map Note.event

/-- The notes about entries and the mailbox. -/
def told (s : Stage) : List Note := s.history.toList.filter fun n => n.event.isTold

/-- The notes about one entry. -/
def toldOf (s : Stage) (id : EntryId) : List Note := s.told.filter fun n => n.event.entry? = some id

/-- The elements that were admitted, with their numbers. -/
def admitted (s : Stage) : List (EntryId × Element) := s.events.filterMap Event.admitted?

/-- The entries that were emitted, as they left the queue. -/
def released (s : Stage) : List Entry := s.events.filterMap Event.released?

/-- The entries that got their final result, with this result. -/
def resolved (s : Stage) : List (EntryId × Resolution) := s.events.filterMap Event.resolved?

/-- The numbers of the entries that got their final result. -/
def resolvedIds (s : Stage) : List EntryId := s.resolved.map (·.1)

/-- The completions that were left in the mailbox. -/
def posted (s : Stage) : List Completion := s.events.filterMap Event.posted?

/-- The completions that were taken up. -/
def applied (s : Stage) : List Completion := s.events.filterMap Event.applied?

variable {s s' : Stage} {α : Type}

@[simp] theorem events_note (s : Stage) (e : Event) : (s.note e).events = s.events ++ [e] := by
  simp [events, note]

theorem told_note {e : Event} (told : e.isTold = true) : (s.note e).told = s.told ++ [⟨s.now, e⟩] := by
  simp [Stage.told, note, told]

theorem told_note_silent {e : Event} (silent : e.isTold = false) : (s.note e).told = s.told := by
  simp [Stage.told, note, silent]

@[simp] theorem told_measure (s : Stage) (m : Measurement) : (s.measure m).told = s.told :=
  told_note_silent rfl

/-- What a list of events shows that leaves out the silent ones is shown by what is told. -/
theorem events_filterMap {f : Event → Option α} (silent : ∀ e, e.isTold = false → f e = none) :
    s.events.filterMap f = s.told.filterMap fun n => f n.event := by
  rw [events, told, List.filterMap_map, List.filterMap_filter]
  apply List.filterMap_congr
  intro n _
  cases told : n.event.isTold
  · exact silent _ told
  · rfl

/-- An event that a list leaves out does not change it. -/
theorem events_note_filterMap {f : Event → Option α} {v : Event} (out : f v = none) :
    (s.note v).events.filterMap f = s.events.filterMap f := by
  rw [events_note, List.filterMap_append, List.filterMap_cons_none out, List.filterMap_nil, List.append_nil]

/-- An event that is about no entry adds to no story. -/
theorem toldOf_note {v : Event} (about : v.entry? = none) (id : EntryId) : (s.note v).toldOf id = s.toldOf id := by
  cases told : v.isTold with
  | false => rw [toldOf, told_note_silent told, toldOf]
  | true =>
    rw [toldOf, told_note told, List.filter_append, List.filter_cons_of_neg (by simp [about])]
    exact List.append_nil _

/-! ## How the lists grow -/

theorem events_filterMap_append {f : Event → Option α} (silent : ∀ e, e.isTold = false → f e = none)
    {new : List Note} (told : s'.told = s.told ++ new) :
    s'.events.filterMap f = s.events.filterMap f ++ new.filterMap fun n => f n.event := by
  rw [events_filterMap silent, events_filterMap silent, told, List.filterMap_append]

theorem admitted_append {new : List Note} (told : s'.told = s.told ++ new) :
    s'.admitted = s.admitted ++ new.filterMap fun n => n.event.admitted? :=
  events_filterMap_append (fun e silent => by cases e <;> first | rfl | cases silent) told

section Noted

variable {new : List Event} {t : Instant}

theorem filterMap_noted (t : Instant) (new : List Event) (f : Event → Option α) :
    (new.map (Note.mk t)).filterMap (fun n => f n.event) = new.filterMap f := by
  rw [List.filterMap_map]
  rfl

theorem events_filterMap_noted {f : Event → Option α} (silent : ∀ e, e.isTold = false → f e = none)
    (told : s'.told = s.told ++ new.map (Note.mk t)) :
    s'.events.filterMap f = s.events.filterMap f ++ new.filterMap f := by
  rw [events_filterMap_append silent told, filterMap_noted]

theorem admitted_noted (told : s'.told = s.told ++ new.map (Note.mk t)) :
    s'.admitted = s.admitted ++ new.filterMap Event.admitted? :=
  events_filterMap_noted (fun e silent => by cases e <;> first | rfl | cases silent) told

theorem released_noted (told : s'.told = s.told ++ new.map (Note.mk t)) :
    s'.released = s.released ++ new.filterMap Event.released? :=
  events_filterMap_noted (fun e silent => by cases e <;> first | rfl | cases silent) told

theorem resolved_noted (told : s'.told = s.told ++ new.map (Note.mk t)) :
    s'.resolved = s.resolved ++ new.filterMap Event.resolved? :=
  events_filterMap_noted (fun e silent => by cases e <;> first | rfl | cases silent) told

theorem posted_noted (told : s'.told = s.told ++ new.map (Note.mk t)) :
    s'.posted = s.posted ++ new.filterMap Event.posted? :=
  events_filterMap_noted (fun e silent => by cases e <;> first | rfl | cases silent) told

theorem applied_noted (told : s'.told = s.told ++ new.map (Note.mk t)) :
    s'.applied = s.applied ++ new.filterMap Event.applied? :=
  events_filterMap_noted (fun e silent => by cases e <;> first | rfl | cases silent) told

theorem toldOf_noted (told : s'.told = s.told ++ new.map (Note.mk t)) (id : EntryId) :
    s'.toldOf id = s.toldOf id ++ (new.filter fun v => v.entry? = some id).map (Note.mk t) := by
  rw [toldOf, told, List.filter_append, List.filter_map]
  rfl

end Noted

end Stage

end AsyncStage
