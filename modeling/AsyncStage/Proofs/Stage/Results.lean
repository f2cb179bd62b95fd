import AsyncStage.Proofs.Stage.Kept

/-!
# One result for each record

A record is resolved at most once, and when it is emitted it carries the values that its result
stands for. Both are read off its story.
-/

namespace AsyncStage.Stage

variable {s : Stage} {e : RecordEntry}

/-! ## The story that a number leads to -/

theorem mem_toldOf_of_released (released : .record e ∈ s.released) :
    ∃ n ∈ s.toldOf e.id, n.event = .released (.record e) := by
  obtain ⟨v, hv, rfl⟩ : ∃ v ∈ s.events, v = .released (.record e) := by
    obtain ⟨v, hv, this⟩ := List.mem_filterMap.1 released
    refine ⟨v, hv, ?_⟩
    cases v <;> simp_all [Event.released?]
  obtain ⟨n, hn, event⟩ := List.mem_map.1 hv
  refine ⟨n, List.mem_filter.2 ⟨List.mem_filter.2 ⟨hn, ?_⟩, ?_⟩, event⟩ <;> rw [event] <;>
    simp [Event.isTold, Event.entry?]

namespace Kept

/-- What has a result is a record that was admitted. -/
theorem record_of_result (h : s.Kept) {p : EntryId × Resolution} (told : p ∈ s.resolved) :
    ∃ r, (p.1, Element.record r) ∈ s.admitted := by
  have results' : p ∈ results (s.toldOf p.1) := results_toldOf.2 told
  have given : p.1 < s.nextId := by
    apply Nat.lt_of_not_le
    intro unknown
    rw [h.told.recorded.unknown _ unknown] at results'
    cases results'
  obtain ⟨x, admitted⟩ := h.lined.exists_admitted given
  cases x with
  | record r => exact ⟨r, admitted⟩
  | watermark t =>
    rw [h.told.recorded.watermarks _ t admitted] at results'
    cases results'

/-- **A record is resolved once.** -/
theorem resolved_once (h : s.Kept) {p : EntryId × Resolution} (told : p ∈ s.resolved) :
    s.resolved.filter (fun q => q.1 = p.1) = [p] := by
  obtain ⟨r, admitted⟩ := h.record_of_result told
  rw [resolved_filter]
  exact (h.told.recorded.stories _ r admitted).results_eq (results_toldOf.2 told)

theorem resolvedIds_nodup (h : s.Kept) : s.resolvedIds.Nodup := by
  apply List.nodup_iff_count_le_one.2
  intro id
  by_cases listed : id ∈ s.resolvedIds
  · obtain ⟨p, told, rfl⟩ := List.mem_map.1 listed
    have once := congrArg List.length (h.resolved_once told)
    rw [resolvedIds, List.count, List.countP_map, List.countP_eq_length_filter]
    simpa [Function.comp_def, beq_eq_decide] using once.le
  · rw [List.count_eq_zero_of_not_mem listed]
    exact Nat.zero_le 1

/-- **An emitted record carries its result.** -/
theorem released_result (h : s.Kept) (released : .record e ∈ s.released) : ∃ result values,
    (e.id, result) ∈ s.resolved ∧ s.setup.final? e.record result = some values ∧ e.slot = .completed values := by
  have admitted : (e.id, .record e.record) ∈ s.admitted := h.lined.released_admitted released
  obtain ⟨n, told, event⟩ := mem_toldOf_of_released released
  obtain ⟨result, values, resolved, final, slot⟩ := (h.told.recorded.stories _ _ admitted).of_released told event
  exact ⟨result, values, results_toldOf.1 resolved, final, slot⟩

end Kept

end AsyncStage.Stage
