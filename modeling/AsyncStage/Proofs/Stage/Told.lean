import AsyncStage.Proofs.Stage.Line
import AsyncStage.Proofs.Stage.Story

/-!
# Every record has its story

Whatever a stage does, the notes about each record that it admitted form a `Story`, and the
entry of a record in flight is where its story has come to. A result that cannot be turned into
values is the last one: it has ended the stage with this very error.
-/

namespace AsyncStage

theorem filter_key {α β : Type} [DecidableEq β] {key : α → β} {l : List α} (nodup : (l.map key).Nodup) {a : α}
    (ha : a ∈ l) : l.filter (fun b => key b = key a) = [a] := by
  induction l with
  | nil => cases ha
  | cons b rest ih =>
    obtain ⟨new, nodup⟩ := List.nodup_cons.1 nodup
    rcases List.mem_cons.1 ha with rfl | later
    · rw [List.filter_cons_of_pos (by simp)]
      refine congrArg (a :: ·) (List.filter_eq_nil_iff.2 fun c hc => ?_)
      rw [decide_eq_true_eq]
      exact fun same => new (same ▸ List.mem_map_of_mem hc)
    · rw [List.filter_cons_of_neg, ih nodup later]
      rw [decide_eq_true_eq]
      exact fun same => new (same ▸ List.mem_map_of_mem later)

namespace Stage

/-- The entry of a record in flight is where its story has come to. -/
inductive Standing (setup : Setup) (e : RecordEntry) (notes : List Note) : Prop where
  | unresolved {progress : Progress} (at' : e.At progress)
      (attempts : Attempts setup e.id e.record notes progress)
  | resolved {values : List String} {result : Resolution} (at' : e.At (.done values))
      (resolved : Resolved setup e.id e.record notes result)
      (final : setup.final? e.record result = some values)

theorem Standing.story {setup : Setup} {e : RecordEntry} {notes : List Note} (h : Standing setup e notes) :
    Story setup e.id e.record notes := by
  cases h with
  | unresolved _ attempts => exact .unresolved attempts
  | resolved _ resolved => exact .resolved resolved

/-- The notes about each record are a story, and nothing is told of numbers not given out. -/
structure Recorded (s : Stage) : Prop where
  stories : ∀ id r, (id, Element.record r) ∈ s.admitted → Story s.setup id r (s.toldOf id)
  watermarks : ∀ id t, (id, Element.watermark t) ∈ s.admitted → results (s.toldOf id) = []
  unknown : ∀ id, s.nextId ≤ id → s.toldOf id = []

structure Told (s : Stage) : Prop where
  recorded : s.Recorded
  standing : ∀ e, .record e ∈ s.entries → Standing s.setup e (s.toldOf e.id)
  /-- A result without values has ended the stage. -/
  fatal : ∀ id r result, (id, Element.record r) ∈ s.admitted → (id, result) ∈ s.resolved →
    s.setup.final? r result = none → ∃ error, result = .error error ∧
      s.status = .failed ⟨s.stepId, r.value, error⟩

variable {s s' s₁ : Stage} {e e' : RecordEntry} {new : List Event}

/-! ## Notes about one entry -/

/-- All these events are about one entry, if about any. -/
def Concerns (id : EntryId) (new : List Event) : Prop := ∀ v ∈ new, v.entry? = none ∨ v.entry? = some id

theorem concerns_calls (s : Stage) (call : Invocation) : Concerns call.entry (s.calls call) := by
  simp [Concerns, calls, Event.entry?]

theorem concerns_expiry (s : Stage) (e : RecordEntry) (first : Instant) : Concerns e.id (s.expiry e first) := by
  cases signal : e.signal <;> simp [Concerns, expiry, signal, Event.entry?]

theorem filter_calls (s : Stage) (call : Invocation) (id : EntryId) (same : call.entry = id) :
    (s.calls call).filter (fun v => v.entry? = some id) = [.invoked call] := by
  simp [calls, Event.entry?, List.filter_map, Function.comp_def, same]

theorem filter_expiry (s : Stage) (e : RecordEntry) (first : Instant) :
    (s.expiry e first).filter (fun v => v.entry? = some e.id) = s.expiry e first := by
  cases signal : e.signal <;> simp [expiry, signal, Event.entry?]

theorem filter_concerns {id id' : EntryId} (h : Concerns id new) (other : id' ≠ id) :
    new.filter (fun v => v.entry? = some id') = [] := by
  apply List.filter_eq_nil_iff.2
  intro v hv
  rw [decide_eq_true_eq]
  rcases h v hv with none | some'
  · rw [none]
    exact nofun
  · rw [some']
    exact fun same => other (Option.some.inj same).symm

theorem Works.toldOf_other (w : Works s s' e e' new) (concerns : Concerns e.id new) {id : EntryId}
    (other : id ≠ e.id) : s'.toldOf id = s.toldOf id := by
  rw [toldOf_noted w.told, filter_concerns concerns other, List.map_nil, List.append_nil]

section Emits

variable {drained : List Entry}

theorem Emits.toldOf (m : Emits s s' drained) (id : EntryId) : s'.toldOf id =
    s.toldOf id ++ ((drained.filter fun a => a.id = id).map Event.released).map (Note.mk s.now) := by
  rw [toldOf_noted m.told, List.filter_map]
  simp [Function.comp_def, Event.entry?]

theorem Emits.toldOf_self (m : Emits s s' drained) (nodup : (drained.map Entry.id).Nodup) {a : Entry}
    (ha : a ∈ drained) : s'.toldOf a.id = s.toldOf a.id ++ [⟨s.now, .released a⟩] := by
  rw [m.toldOf, filter_key nodup ha]
  rfl

theorem Emits.toldOf_other (m : Emits s s' drained) {id : EntryId} (absent : ∀ a ∈ drained, a.id ≠ id) :
    s'.toldOf id = s.toldOf id := by
  rw [m.toldOf, List.filter_eq_nil_iff.2 fun a ha => by simpa using absent a ha]
  exact List.append_nil _

/-- The entries that leave and those that stay have different numbers. -/
theorem Emits.nodup (m : Emits s s' drained) (queue : s.queue.Sound) :
    ((drained ++ s'.entries).map Entry.id).Nodup := by
  refine (m.queue.perm.map Entry.id).nodup_iff.2 (List.pairwise_map.2 ?_)
  exact queue.increasing.imp fun lt => Nat.ne_of_lt lt

theorem Emits.mem (m : Emits s s' drained) {a : Entry} (ha : a ∈ drained) : a ∈ s.entries :=
  m.queue.perm.subset (List.mem_append_left _ ha)

end Emits

theorem Admits.toldOf_other {a : Entry} (m : Admits s s' a new) (concerns : Concerns s.nextId new) {id : EntryId}
    (other : id ≠ s.nextId) : s'.toldOf id = s.toldOf id := by
  have concerns' : Concerns s.nextId (.admitted a.id a.element :: new) :=
    List.forall_mem_cons.2 ⟨.inr (congrArg some m.id), concerns⟩
  rw [toldOf_noted m.told, filter_concerns concerns' other, List.map_nil, List.append_nil]

/-- The signals given at the end are, for each entry, that of its outstanding attempt. -/
theorem filter_cancellations (sound : s.queue.Sound) (here : .record e ∈ s.entries) :
    s.cancellations.filter (fun v => v.entry? = some e.id) = (e.signal.map (Event.cancelled e.id)).toList := by
  have records : e ∈ s.entries.filterMap Entry.record? := List.mem_filterMap.2 ⟨_, here, rfl⟩
  have nodup : ((s.entries.filterMap Entry.record?).map (·.id)).Nodup := by
    refine List.pairwise_map.2 (List.pairwise_filterMap.2 (sound.increasing.imp fun {a b} lt x hx y hy => ?_))
    rw [Entry.record?_eq_some_iff.1 hx, Entry.record?_eq_some_iff.1 hy] at lt
    exact Nat.ne_of_lt lt
  have only := filter_key nodup records
  have same : s.cancellations.filter (fun v => v.entry? = some e.id) =
      ((s.entries.filterMap Entry.record?).filter fun a => a.id = e.id).filterMap
        fun a => a.signal.map (Event.cancelled a.id) := by
    rw [cancellations, List.filter_filterMap, List.filterMap_filter]
    apply List.filterMap_congr
    intro a _
    cases a.signal with
    | none => simp
    | some attempt => by_cases same : a.id = e.id <;> simp [Event.entry?, same]
  rw [same, only]
  cases signal : e.signal <;> simp [signal]

theorem filter_cancellations_other {id : EntryId} (absent : ∀ e, .record e ∈ s.entries → e.id ≠ id) :
    s.cancellations.filter (fun v => v.entry? = some id) = [] := by
  apply List.filter_eq_nil_iff.2
  intro v hv
  obtain ⟨e, he, attempt, -, rfl⟩ := mem_cancellations hv
  simpa [Event.entry?] using absent e he

/-- What a list of events shows of one entry is told of this entry. -/
theorem events_filter {α : Type} {f : Event → Option α} {key : α → EntryId}
    (names : ∀ v a, f v = some a → v.entry? = some (key a)) (s : Stage) (id : EntryId) :
    (s.events.filterMap f).filter (fun a => key a = id) = (s.toldOf id).filterMap fun n => f n.event := by
  have silent : ∀ v : Event, v.isTold = false → f v = none := by
    intro v silent
    apply Option.eq_none_iff_forall_not_mem.2
    intro a ha
    have about := names v a ha
    cases v <;> simp [Event.isTold, Event.entry?] at silent about
  rw [events_filterMap silent, toldOf, List.filter_filterMap, List.filterMap_filter]
  apply List.filterMap_congr
  intro n _
  cases shown : f n.event with
  | none => simp
  | some a => simp [names _ _ shown, Option.filter]

/-- The results of a number are those told of it. -/
theorem resolved_filter (s : Stage) (id : EntryId) : s.resolved.filter (fun p => p.1 = id) = results (s.toldOf id) :=
  events_filter (fun v p shown => by cases v <;> cases shown; rfl) s id

theorem results_toldOf {id : EntryId} {result : Resolution} :
    (id, result) ∈ results (s.toldOf id) ↔ (id, result) ∈ s.resolved := by
  rw [← resolved_filter, List.mem_filter]
  simp

/-! ## What keeps the stories -/

namespace Recorded

theorem quiet (h : s.Recorded) (q : Quiet s s') : s'.Recorded where
  stories id r hr := by
    rw [q.setup, q.toldOf]
    exact h.stories id r (q.admitted ▸ hr)
  watermarks id t ht := by
    rw [q.toldOf]
    exact h.watermarks id t (q.admitted ▸ ht)
  unknown id hid := by
    rw [q.toldOf]
    exact h.unknown id (q.nextId ▸ hid)

/-- Work on one entry goes on with its story. -/
theorem works (h : s.Recorded) (lined : s.Lined) (sound : s.Sound) (w : Works s s' e e' new)
    (quiet : InFlight new) (concerns : Concerns e.id new) (story : Story s.setup e.id e.record (s'.toldOf e.id)) :
    s'.Recorded := by
  have known : (e.id, .record e.record) ∈ s.admitted := lined.mem_admitted w.queue.here
  have admitted := w.admitted quiet
  constructor
  · intro id r hr
    rw [admitted] at hr
    rw [w.setup]
    by_cases same : id = e.id
    · subst same
      cases lined.admitted_eq hr known rfl
      exact story
    · rw [w.toldOf_other concerns same]
      exact h.stories id r hr
  · intro id t ht
    rw [admitted] at ht
    have other : id ≠ e.id := fun same => by cases lined.admitted_eq ht known same
    rw [w.toldOf_other concerns other]
    exact h.watermarks id t ht
  · intro id hid
    rw [w.nextId] at hid
    have given : e.id < s.nextId := sound.below _ w.queue.here
    have other : id ≠ e.id := by rintro rfl; exact Nat.not_le.2 given hid
    rw [w.toldOf_other concerns other]
    exact h.unknown id hid

/-- The end of a stage closes the stories of what was in flight. -/
theorem ends (h : s.Recorded) (lined : s.Lined) (queue : s.queue.Sound) (below : ∀ e ∈ s.entries, e.id < s.nextId)
    {status : Status} (w : Ends s s' status)
    (closing : ∀ e, .record e ∈ s.entries → Story s.setup e.id e.record
      (s.toldOf e.id ++ ((e.signal.map (Event.cancelled e.id)).toList).map (Note.mk s.now))) : s'.Recorded := by
  have other : ∀ id, (∀ e, .record e ∈ s.entries → e.id ≠ id) → s'.toldOf id = s.toldOf id := fun id absent => by
    rw [toldOf_noted w.told, filter_cancellations_other absent, List.map_nil, List.append_nil]
  constructor
  · intro id r hr
    rw [w.admitted] at hr
    rw [w.setup]
    by_cases present : ∃ e, .record e ∈ s.entries ∧ e.id = id
    · obtain ⟨e, here, rfl⟩ := present
      cases lined.admitted_eq hr (lined.mem_admitted here) rfl
      rw [toldOf_noted w.told, filter_cancellations queue here]
      exact closing e here
    · rw [other id fun e here same => present ⟨e, here, same⟩]
      exact h.stories id r hr
  · intro id t ht
    rw [w.admitted] at ht
    rw [other id fun e here same => by cases lined.admitted_eq ht (lined.mem_admitted here) same.symm]
    exact h.watermarks id t ht
  · intro id hid
    rw [w.nextId] at hid
    have absent : ∀ e, .record e ∈ s.entries → e.id ≠ id := by
      rintro e here rfl
      exact Nat.not_le.2 (below _ here) hid
    rw [other id absent]
    exact h.unknown id hid

/-- Emission ends the stories of the records that leave. -/
theorem emits (h : s.Recorded) (lined : s.Lined) (sound : s.Sound) {drained : List Entry} (m : Emits s s' drained)
    (closing : ∀ e, .record e ∈ drained →
      Story s.setup e.id e.record (s.toldOf e.id ++ [⟨s.now, .released (.record e)⟩])) : s'.Recorded := by
  have distinct := m.nodup sound.queue
  rw [List.map_append, List.nodup_append] at distinct
  constructor
  · intro id r hr
    rw [m.admitted] at hr
    rw [m.setup]
    by_cases leaves : ∃ a ∈ drained, a.id = id
    · obtain ⟨a, ha, rfl⟩ := leaves
      have label := lined.admitted_eq hr (lined.mem_admitted (m.mem ha)) rfl
      rw [m.toldOf_self distinct.1 ha]
      cases a with
      | watermark => cases label
      | record e =>
        cases label
        exact closing e ha
    · rw [m.toldOf_other fun a ha same => leaves ⟨a, ha, same⟩]
      exact h.stories id r hr
  · intro id t ht
    rw [m.admitted] at ht
    by_cases leaves : ∃ a ∈ drained, a.id = id
    · obtain ⟨a, ha, rfl⟩ := leaves
      rw [m.toldOf_self distinct.1 ha, results_append, h.watermarks _ t ht]
      rfl
    · rw [m.toldOf_other fun a ha same => leaves ⟨a, ha, same⟩]
      exact h.watermarks id t ht
  · intro id hid
    rw [m.nextId] at hid
    have absent : ∀ a ∈ drained, a.id ≠ id := by
      rintro a ha rfl
      exact Nat.not_le.2 (sound.below a (m.mem ha)) hid
    rw [m.toldOf_other absent]
    exact h.unknown id hid

/-- Admission begins the notes about a number. -/
theorem admits (h : s.Recorded) (lined : s.Lined) {a : Entry} (m : Admits s s' a new) (quiet : InFlight new)
    (silent : new.filterMap Event.resolved? = []) (concerns : Concerns s.nextId new)
    (begins : ∀ e, a = .record e → Story s.setup e.id e.record (s'.toldOf s.nextId)) : s'.Recorded := by
  have known : ∀ p ∈ s.admitted, p.1 ≠ s.nextId := fun p hp => Nat.ne_of_lt (lined.lt_nextId hp)
  constructor
  · intro id r hr
    rw [m.setup]
    rw [m.admitted quiet, List.mem_append, List.mem_singleton] at hr
    rcases hr with old | label
    · rw [m.toldOf_other concerns (known _ old)]
      exact h.stories id r old
    · cases a with
      | watermark => cases label
      | record e =>
        cases label
        have story := begins e rfl
        rw [show e.id = s.nextId from m.id] at story
        rw [m.id]
        exact story
  · intro id t ht
    rw [m.admitted quiet, List.mem_append, List.mem_singleton] at ht
    rcases ht with old | label
    · rw [m.toldOf_other concerns (known _ old)]
      exact h.watermarks id t old
    · have new' : id = s.nextId := (congrArg Prod.fst label).trans m.id
      rw [new', toldOf_noted m.told, results_append, h.unknown _ (Nat.le_refl _)]
      apply List.filterMap_eq_nil_iff.2
      intro n hn
      obtain ⟨v, hv, rfl⟩ := List.mem_map.1 hn
      rcases List.mem_cons.1 (List.mem_filter.1 hv).1 with rfl | later
      · rfl
      · exact List.filterMap_eq_nil_iff.1 silent v later
  · intro id hid
    rw [m.nextId] at hid
    rw [m.toldOf_other concerns (Nat.ne_of_gt hid)]
    exact h.unknown id (Nat.le_of_succ_le hid)

end Recorded

/-- What the end of the stage adds to the story of an entry in flight. -/
theorem Standing.dropped {setup : Setup} {notes : List Note} (h : Standing setup e notes) (t : Instant) :
    Story setup e.id e.record (notes ++ ((e.signal.map (Event.cancelled e.id)).toList).map (Note.mk t)) := by
  cases h with
  | unresolved at' attempts =>
    cases at' with
    | outstanding _ _ _ _ signal =>
      rw [signal]
      exact .dropped attempts t
    | waiting _ _ _ _ _ _ _ signal =>
      rw [signal]
      exact .dropped attempts t
    | done slot => exact absurd attempts Attempts.not_done
  | resolved at' resolved =>
    cases at' with
    | done _ _ _ signal =>
      rw [signal, Option.map_none, Option.toList_none, List.map_nil, List.append_nil]
      exact .resolved resolved

namespace Told

theorem quiet (h : s.Told) (q : Quiet s s') : s'.Told where
  recorded := h.recorded.quiet q
  standing e he := by
    rw [q.setup, q.toldOf]
    exact h.standing e (q.entries ▸ he)
  fatal id r result hr hresult := by
    rw [q.setup, q.status, stepId, q.setup]
    exact h.fatal id r result (q.admitted ▸ hr) (q.resolved ▸ hresult)

/-- While a stage runs, every result stands for values. -/
theorem final_of_running (h : s.Told) (running : s.isRunning = true) {id : EntryId} {r : Record}
    {result : Resolution} (hr : (id, Element.record r) ∈ s.admitted) (told : (id, result) ∈ s.resolved) :
    s.setup.final? r result ≠ none := by
  intro none
  obtain ⟨error, -, failed⟩ := h.fatal id r result hr told none
  rw [isRunning, failed] at running
  cases running

theorem works (h : s.Told) (lined : s.Lined) (sound : s.Sound) (w : Works s s' e e' new)
    (quiet : InFlight new) (concerns : Concerns e.id new)
    (standing : Standing s.setup e' (s'.toldOf e.id))
    (fine : ∀ p ∈ new.filterMap Event.resolved?, p.1 = e.id ∧ s.setup.final? e.record p.2 ≠ none) : s'.Told where
  recorded := by
    have story := standing.story
    rw [w.queue.id, w.queue.record] at story
    exact h.recorded.works lined sound w quiet concerns story
  standing a ha := by
    rw [w.setup]
    rcases (w.queue.mem_iff sound.queue).1 ha with same | ⟨old, other⟩
    · rw [Entry.record.inj same, w.queue.id]
      exact standing
    · rw [show s'.toldOf a.id = s.toldOf a.id from w.toldOf_other concerns other]
      exact h.standing a old
  fatal id r result hr told none := by
    rw [w.admitted quiet] at hr
    rw [w.resolved, List.mem_append] at told
    rw [w.setup] at none
    rw [w.status, stepId, w.setup]
    rcases told with old | now
    · exact h.fatal id r result hr old none
    · obtain ⟨same, fine⟩ := fine _ now
      cases lined.admitted_eq hr (lined.mem_admitted w.queue.here) same
      exact absurd none fine

/-- The end of a stage, at a moment when every result stands for values but the last. -/
theorem ends {status : Status} (recorded : s.Recorded) (lined : s.Lined) (queue : s.queue.Sound)
    (below : ∀ e ∈ s.entries, e.id < s.nextId) (w : Ends s s' status)
    (closing : ∀ e, .record e ∈ s.entries → Story s.setup e.id e.record
      (s.toldOf e.id ++ ((e.signal.map (Event.cancelled e.id)).toList).map (Note.mk s.now)))
    (fatal : ∀ id r result, (id, Element.record r) ∈ s.admitted → (id, result) ∈ s.resolved →
      s.setup.final? r result = none → ∃ error, result = .error error ∧
        status = .failed ⟨s.stepId, r.value, error⟩) : s'.Told where
  recorded := recorded.ends lined queue below w closing
  standing e he := by
    rw [w.entries] at he
    cases he
  fatal id r result hr told none := by
    rw [w.admitted] at hr
    rw [w.resolved] at told
    rw [w.setup] at none
    rw [w.status, stepId, w.setup]
    exact fatal id r result hr told none

theorem closed (h : s.Told) (lined : s.Lined) (sound : s.Sound) (running : s.isRunning = true)
    {status : Status} (w : Ends s s' status) : s'.Told :=
  ends h.recorded lined sound.queue sound.below w (fun e he => (h.standing e he).dropped _)
    fun _ _ _ hr told none => absurd none (h.final_of_running running hr told)

/-- A final result. -/
theorem resolves (h : s.Told) (lined : s.Lined) (sound : s.Sound) (here : .record e ∈ s.entries)
    {result : Resolution} (r : Resolves s s' e result new) (quiet : InFlight new)
    (concerns : Concerns e.id new) (marks : new.filterMap Event.resolved? = [(e.id, result)])
    (story : Resolved s.setup e.id e.record
      (s.toldOf e.id ++ (new.filter fun v => v.entry? = some e.id).map (Note.mk s.now)) result) : s'.Told := by
  cases r with
  | completed values final works =>
    refine h.works lined sound works quiet concerns ?_ fun p hp => ?_
    · rw [toldOf_noted works.told]
      exact .resolved (RecordEntry.at_withResult values) story final
    · rw [marks, List.mem_singleton] at hp
      subst hp
      exact ⟨rfl, by rw [final]; exact nofun⟩
  | failed error s₁ e₁ final cause works silent stopped =>
    have running := sound.isRunning_of_mem here
    have recorded : s₁.Recorded := by
      have resolved : Resolved s.setup e.id e.record (s₁.toldOf e.id) result := by
        rw [toldOf_noted works.told]
        exact story
      exact h.recorded.works lined sound works quiet concerns (.resolved resolved)
    refine ends recorded (lined.works sound works quiet) works.queue.sound ?_ stopped ?_ ?_
    · intro a ha
      rw [works.nextId]
      rcases (works.queue.mem_iff sound.queue).1 ha with rfl | ⟨old, -⟩
      · rw [Entry.id_record, works.queue.id]
        exact sound.below _ here
      · exact sound.below a old
    · intro a ha
      rw [works.setup]
      rcases (works.queue.mem_iff sound.queue).1 ha with same | ⟨old, other⟩
      · rw [Entry.record.inj same, silent, works.queue.id, works.queue.record, toldOf_noted works.told,
          Option.map_none, Option.toList_none, List.map_nil, List.append_nil]
        exact .resolved story
      · rw [show s₁.toldOf a.id = s.toldOf a.id from works.toldOf_other concerns other]
        exact (h.standing a old).dropped _
    · intro id r result' hr told none
      rw [works.admitted quiet] at hr
      rw [works.setup] at none
      rw [works.resolved, marks, List.mem_append] at told
      rcases told with old | now
      · exact absurd none (h.final_of_running running hr old)
      · obtain ⟨rfl, rfl⟩ := Prod.mk.inj (List.mem_singleton.1 now)
        cases lined.admitted_eq hr (lined.mem_admitted here) rfl
        exact ⟨error, cause, by rw [stepId, stepId, works.setup]⟩

/-- An entry that leaves the queue has its result. -/
theorem resolved_of_done (h : s.Told) (here : .record e ∈ s.entries) (done : e.isDone = true) :
    ∃ values result, e.slot = .completed values ∧ Resolved s.setup e.id e.record (s.toldOf e.id) result ∧
      s.setup.final? e.record result = some values := by
  cases h.standing e here with
  | resolved at' resolved final =>
    cases at' with
    | done slot => exact ⟨_, _, slot, resolved, final⟩
  | unresolved at' attempts =>
    obtain ⟨values, rfl⟩ := at'.of_isDone done
    exact absurd attempts Attempts.not_done

theorem emits (h : s.Told) (lined : s.Lined) (sound : s.Sound) {drained : List Entry} (m : Emits s s' drained) :
    s'.Told where
  recorded := by
    apply h.recorded.emits lined sound m
    intro e leaves
    obtain ⟨values, result, slot, resolved, final⟩ := h.resolved_of_done (m.mem leaves) (m.queue.done _ leaves)
    exact .emitted resolved final slot s.now
  standing e he := by
    have distinct := m.nodup sound.queue
    rw [List.map_append, List.nodup_append] at distinct
    have absent : ∀ a ∈ drained, a.id ≠ e.id := fun a ha =>
      distinct.2.2 _ (List.mem_map_of_mem ha) _ (List.mem_map_of_mem he)
    rw [m.setup, m.toldOf_other absent]
    exact h.standing e (m.queue.stays.subset he)
  fatal id r result hr told none := by
    rw [m.admitted] at hr
    rw [m.resolved] at told
    rw [m.setup] at none
    rw [m.status, stepId, m.setup]
    exact h.fatal id r result hr told none

theorem admits (h : s.Told) (lined : s.Lined) (running : s.isRunning = true) {a : Entry}
    (m : Admits s s' a new) (quiet : InFlight new) (silent : new.filterMap Event.resolved? = [])
    (concerns : Concerns s.nextId new)
    (begins : ∀ e, a = .record e → Standing s.setup e (s'.toldOf s.nextId)) : s'.Told where
  recorded := h.recorded.admits lined m quiet silent concerns fun e same => (begins e same).story
  standing e he := by
    rw [m.setup]
    rcases m.mem_entries.1 he with old | rfl
    · have known : e.id < s.nextId := lined.lt_nextId (lined.mem_admitted old)
      rw [m.toldOf_other concerns (Nat.ne_of_lt known)]
      exact h.standing e old
    · rw [show e.id = s.nextId from m.id]
      exact begins e rfl
  fatal id r result hr told none := by
    rw [m.resolved silent] at told
    rw [m.setup] at none
    rw [m.admitted quiet, List.mem_append, List.mem_singleton] at hr
    rcases hr with old | label
    · exact absurd none (h.final_of_running running old told)
    · have new' : id = s.nextId := (congrArg Prod.fst label).trans m.id
      rw [← results_toldOf, new', h.recorded.unknown _ (Nat.le_refl _)] at told
      cases told

/-- An open entry has the attempts behind it that it shows. -/
theorem attempts (h : s.Told) (here : .record e ∈ s.entries) {progress : Progress} (at' : e.At progress)
    (opened : e.isDone = false) : Attempts s.setup e.id e.record (s.toldOf e.id) progress := by
  cases h.standing e here with
  | unresolved at'' attempts => exact at'.unique at'' ▸ attempts
  | resolved at'' => rw [at''.isDone] at opened; cases opened

theorem applies (h : s.Told) (lined : s.Lined) (sound : s.Sound) {c : Completion} (r : Applies s s' c) :
    s'.Told := by
  cases r with
  | ignored same => exact same ▸ h
  | scheduled e here names accepted wanted works =>
    obtain ⟨entry, attempt, outcome⟩ := c
    obtain rfl : e.id = entry := names
    obtain ⟨first, at'⟩ := sound.at_of_accepts here accepted
    have attempts := h.attempts here at' at'.opened
    obtain ⟨slot, counted, started, timer, signal⟩ := at'
    obtain ⟨-, again, rfl, time⟩ := retryBackoff?_eq_some_iff.1 wanted
    simp only [started, Option.getD_some] at time
    refine h.works lined sound works ⟨rfl, rfl⟩ (by simp [Concerns, Event.entry?]) ?_ (by simp [Event.resolved?])
    refine .unresolved (.waiting slot counted started s.timers.nextId rfl rfl rfl rfl) ?_
    rw [toldOf_noted works.told, List.filter_eq_self.2 (by simp [Event.entry?])]
    exact attempts.scheduled s.now outcome again time
  | resolved e here names accepted unwanted resolves =>
    obtain ⟨entry, attempt, outcome⟩ := c
    obtain rfl : e.id = entry := names
    obtain ⟨first, at'⟩ := sound.at_of_accepts here accepted
    refine h.resolves lined sound here resolves ⟨rfl, rfl⟩ (by simp [Concerns, Event.entry?]) rfl ?_
    rw [List.filter_eq_self.2 (by simp [Event.entry?])]
    exact .answered (h.attempts here at' at'.opened) s.now outcome

/-- **Every step goes on with the stories.** -/
theorem step (h : s.Told) (lined : s.Lined) (sound : s.Sound) (step : Step s s') : s'.Told := by
  cases step with
  | posted c same => exact same ▸ h.quiet (quiet_post s c)
  | clock time same => exact same ▸ h.quiet (quiet_clock s time)
  | @took c rest takes =>
    have quiet := quiet_mailbox s rest
    exact (h.quiet quiet).applies (lined.quiet quiet) (sound.quiet quiet) takes.applies
  | fired pops =>
    cases pops.fires with
    | retried e here at' set works timers =>
      have attempts := h.attempts here at' at'.waits.1
      refine h.works lined sound works (inFlight_calls _ _) (concerns_calls _ _) ?_ (by simp [resolved_calls])
      rw [toldOf_noted works.told, filter_calls s (s.nextCall e) e.id rfl]
      cases at' with
      | waiting slot counted started =>
        obtain rfl := counted
        refine .unresolved (.outstanding slot rfl ?_ rfl rfl) (attempts.retried s.now pops.due)
        simp [RecordEntry.calling, RetryContext.withoutWaiting, started]
    | @expired e here opened first span started timeout deadline resolves =>
      refine h.resolves lined sound here resolves (inFlight_expiry _ _ _) (concerns_expiry _ _ _)
        (resolved_expiry _ _ _) ?_
      obtain ⟨progress, at'⟩ := sound.standing e here
      have attempts := h.attempts here at' opened
      have late : first.after span.span ≤ s.now := deadline ▸ pops.due
      rw [filter_expiry]
      cases at' with
      | outstanding slot counted started' timer signal =>
        obtain rfl := Option.some.inj (started.symm.trans started')
        rw [expiry, signal, counted]
        exact .expired attempts rfl timeout s.now late
      | waiting slot counted started' timer set fires kept signal =>
        obtain rfl := Option.some.inj (started.symm.trans started')
        rw [expiry, signal, counted]
        exact .expired attempts rfl timeout s.now late
      | done => exact absurd attempts Attempts.not_done
  | emitted drained emits => exact h.emits lined sound emits
  | admittedRecord r running admits timers =>
    apply h.admits lined running admits (inFlight_calls _ _) (resolved_calls _ _) (concerns_calls _ _)
    rintro e ⟨⟩
    rw [toldOf_noted admits.told, h.recorded.unknown _ (Nat.le_refl _),
      List.filter_cons_of_pos (by simp [Event.entry?]; rfl)]
    rw [filter_calls s (s.setup.call s.nextId 1 r.value) s.nextId rfl]
    exact .unresolved (.outstanding rfl rfl rfl rfl rfl) (.started s.now)
  | admittedWatermark t running admits timers =>
    exact h.admits lined running admits ⟨rfl, rfl⟩ rfl (by simp [Concerns]) fun e same => by cases same
  | inputEnded running same => exact same ▸ h.quiet (quiet_inputEnded s)
  | cutShort e here ended at' resolves =>
    refine h.resolves lined sound here resolves ⟨rfl, rfl⟩ (by simp [Concerns, Event.entry?]) rfl ?_
    rw [List.filter_eq_self.2 (by simp [Event.entry?])]
    exact .cutShort (h.attempts here at' at'.waits.1) s.now
  | forwarded status same => exact same ▸ h.quiet (quiet_forwarded s status)
  | measured m same => exact same ▸ h.quiet (quiet_measure s m)
  | closed running stopped => exact h.closed lined sound running stopped

end Told

end Stage

end AsyncStage
