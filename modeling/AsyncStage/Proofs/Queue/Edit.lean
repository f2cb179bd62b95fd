import AsyncStage.Proofs.Queue.Sound

/-!
# Changing one record of a queue

Whatever a stage does for an entry in flight changes one record of its queue. `Queue.Edits`
says that `e` has become `e'`, and what this means for the order of resolution: if the entry
has got its result by this, its number comes behind those resolved before. Edits of one record
compose.
-/

namespace AsyncStage

/-- The number of the entry if it has got its result in going from `e` to `e'`. -/
def RecordEntry.newlyDone (e e' : RecordEntry) : List EntryId := if e.isDone = e'.isDone then [] else [e.id]

theorem RecordEntry.newlyDone_trans {e e' e'' : RecordEntry} (id : e'.id = e.id)
    (done : e.isDone = true → e'.isDone = true) (done' : e'.isDone = true → e''.isDone = true) :
    e.newlyDone e'' = e.newlyDone e' ++ e'.newlyDone e'' := by
  simp only [newlyDone, id]
  revert done done'
  cases e.isDone <;> cases e'.isDone <;> cases e''.isDone <;> simp

namespace Entry

/-- In a queue a number stands for one entry, so it does not matter how the change reads. -/
theorem map_modify {l : List Entry} (increasing : Increasing l) {e : RecordEntry} (here : .record e ∈ l)
    (f : RecordEntry → RecordEntry) : l.map (modify e.id f) = l.map (modify e.id fun _ => f e) := by
  apply List.map_congr_left
  intro a ha
  by_cases same : a.id = e.id
  · rw [increasing.eq_of_id_eq ha here same, modify_record, modify_record]
  · rw [modify_of_ne same, modify_of_ne same]

/-- A modified list holds the changed entry in place of the old one. -/
theorem mem_map_modify {l : List Entry} (increasing : Increasing l) {e e' : RecordEntry}
    (here : .record e ∈ l) {a : Entry} :
    a ∈ l.map (modify e.id fun _ => e') ↔ a = .record e' ∨ a ∈ l ∧ a.id ≠ e.id := by
  rw [List.mem_map]
  constructor
  · rintro ⟨b, hb, rfl⟩
    by_cases same : b.id = e.id
    · rw [increasing.eq_of_id_eq hb here same, modify_record, if_pos rfl]
      exact .inl rfl
    · rw [modify_of_ne same]
      exact .inr ⟨hb, same⟩
  · rintro (rfl | ⟨ha, other⟩)
    · exact ⟨_, here, by rw [modify_record, if_pos rfl]⟩
    · exact ⟨a, ha, modify_of_ne other⟩

end Entry

/-- Watermarks are seen by their labels, so what breaks a stretch does not change with them. -/
theorem unbroken_congr {lo hi : EntryId} {l l' : List Entry} (same : l'.map Entry.label = l.map Entry.label)
    (h : Unbroken lo hi l) : Unbroken lo hi l' := by
  intro e he marks
  obtain ⟨a, ha, label⟩ : ∃ a ∈ l, a.label = e.label :=
    List.mem_map.1 (same ▸ List.mem_map_of_mem he)
  cases e with
  | record r => cases marks
  | watermark id t =>
    cases a with
    | record r => cases (Prod.ext_iff.1 label).2
    | watermark id' t' =>
      have outside := h _ ha rfl
      rwa [← Entry.label_fst, label] at outside

namespace Queue

/-- The record entry `e` of `q` has become `e'` in `q'`. -/
structure Edits (q q' : Queue) (e e' : RecordEntry) : Prop where
  here : .record e ∈ q.toList
  sound : q'.Sound
  mode : q'.mode = q.mode
  capacity : q'.capacity = q.capacity
  id : e'.id = e.id
  record : e'.record = e.record
  done : e.isDone = true → e'.isDone = true
  toList : q'.toList = q.toList.map (Entry.modify e.id fun _ => e')
  marked : q.mode = .unordered → ∀ lo hi, Unbroken lo hi q.toList →
    q'.readyIds.filter (within lo hi) = (q.readyIds ++ e.newlyDone e').filter (within lo hi)

variable {q q' q'' : Queue} {e e' e'' : RecordEntry}

theorem Edits.refl (h : q.Sound) (here : .record e ∈ q.toList) : q.Edits q e e where
  here := here
  sound := h
  mode := rfl
  capacity := rfl
  id := rfl
  record := rfl
  done := fun d => d
  toList := by
    refine (List.map_id'' (fun a => ?_) _).symm.trans (Entry.map_modify h.increasing here fun r => r)
    exact ite_eq_right_iff.2 fun _ => by cases a <;> rfl
  marked := by simp [RecordEntry.newlyDone]

namespace Edits

theorem labels (h : q.Edits q' e e') (sound : q.Sound) :
    q'.toList.map Entry.label = q.toList.map Entry.label := by
  rw [h.toList, List.map_map]
  apply List.map_congr_left
  intro a ha
  by_cases same : a.id = e.id
  · rw [sound.increasing.eq_of_id_eq ha h.here same, Function.comp, Entry.modify_record, if_pos rfl]
    simp [h.id, h.record]
  · rw [Function.comp, Entry.modify_of_ne same]

theorem mem_iff (h : q.Edits q' e e') (sound : q.Sound) {a : Entry} :
    a ∈ q'.toList ↔ a = .record e' ∨ a ∈ q.toList ∧ a.id ≠ e.id := by
  rw [h.toList, Entry.mem_map_modify sound.increasing h.here]

theorem there (h : q.Edits q' e e') (sound : q.Sound) : .record e' ∈ q'.toList :=
  (h.mem_iff sound).2 (.inl rfl)

theorem trans (h : q.Edits q' e e') (sound : q.Sound) (h' : q'.Edits q'' e' e'') : q.Edits q'' e e'' where
  here := h.here
  sound := h'.sound
  mode := h'.mode.trans h.mode
  capacity := h'.capacity.trans h.capacity
  id := h'.id.trans h.id
  record := h'.record.trans h.record
  done := fun d => h'.done (h.done d)
  toList := by
    rw [h'.toList, h.toList, List.map_map]
    apply List.map_congr_left
    intro a ha
    by_cases same : a.id = e.id
    · rw [sound.increasing.eq_of_id_eq ha h.here same]
      simp [Entry.modify_record, h.id]
    · simp [Entry.modify_of_ne same, Entry.modify_of_ne (h.id ▸ same)]
  marked := by
    intro mode lo hi unbroken
    have first := h.marked mode lo hi unbroken
    have second := h'.marked (h.mode.trans mode) lo hi (unbroken_congr (h.labels sound) unbroken)
    rw [second, List.filter_append, first, ← List.filter_append, List.append_assoc]
    rw [RecordEntry.newlyDone_trans h.id h.done h'.done]

end Edits

section Primitive

variable {f : RecordEntry → RecordEntry}

/-- A change that keeps a record open, or resolved. -/
theorem edits_update (h : q.Sound) (here : .record e ∈ q.toList) (hid : ∀ r, (f r).id = r.id)
    (hrec : ∀ r, (f r).record = r.record) (hdone : ∀ r, (f r).isDone = r.isDone) :
    q.Edits (q.update e.id f) e (f e) where
  here := here
  sound := h.update hid fun r _ _ => hdone r
  mode := mode_update
  capacity := rfl
  id := hid e
  record := hrec e
  done := fun d => (hdone e).trans d
  toList := (toList_update h f).trans (Entry.map_modify h.increasing here f)
  marked := fun _ lo hi _ => by simp [readyIds_update, RecordEntry.newlyDone, hdone]

/-- An open record gets its result. -/
theorem edits_settle (h : q.Sound) (here : .record e ∈ q.toList) (hid : ∀ r, (f r).id = r.id)
    (hrec : ∀ r, (f r).record = r.record) (hdone : ∀ r, (f r).isDone = true) (opened : e.isDone = false) :
    q.Edits (q.settle e.id f) e (f e) where
  here := here
  sound := h.settle hid fun r hr same => by
    rw [h.increasing.record_eq hr here same]
    exact ⟨opened, hdone e⟩
  mode := mode_settle
  capacity := rfl
  id := hid e
  record := hrec e
  done := fun _ => hdone e
  toList := (toList_settle h f).trans (Entry.map_modify h.increasing here f)
  marked := fun mode lo hi unbroken => by
    rw [readyIds_settle h mode unbroken ⟨e, here, rfl⟩]
    simp [RecordEntry.newlyDone, hdone, opened]

end Primitive

end Queue

end AsyncStage
