import AsyncStage.Proofs.Queue.Entries
import AsyncStage.Queue.Ordered

/-!
# The queue of the ordered mode

While the numbers grow along the queue, halving finds exactly the entry that a search from
the head would find, so `find?` and `update` are described by the list of entries. Draining
cuts the list in two.
-/

namespace AsyncStage.OrderedQueue

/-! ## Halving -/

theorem search_sound {entries : Array Entry} {id : EntryId} {lo hi i : Nat}
    (found : search entries id lo hi = some i) : ∃ e, entries[i]? = some e ∧ e.id = id := by
  fun_induction search entries id lo hi with
  | case1 => cases found
  | case2 _ _ _ _ _ _ _ ih => exact ih found
  | case3 lo hi _ mid e atMid eq =>
    obtain rfl : mid = i := Option.some.inj found
    exact ⟨e, atMid, (Nat.compare_eq_eq.1 eq).symm⟩
  | case4 _ _ _ _ _ _ _ ih => exact ih found
  | case5 => cases found

theorem id_lt_of_getElem? {entries : Array Entry} (h : Increasing entries.toList) {i j : Nat}
    {a b : Entry} (ha : entries[i]? = some a) (hb : entries[j]? = some b) (lt : i < j) : a.id < b.id := by
  obtain ⟨hi, rfl⟩ := Array.getElem?_eq_some_iff.1 ha
  obtain ⟨hj, rfl⟩ := Array.getElem?_eq_some_iff.1 hb
  exact List.pairwise_iff_getElem.1 h i j hi hj lt

/-- Positions compare as the numbers of their entries do. -/
theorem compare_position {entries : Array Entry} (h : Increasing entries.toList) {i j : Nat}
    {a b : Entry} (ha : entries[i]? = some a) (hb : entries[j]? = some b) :
    compare a.id b.id = compare i j := by
  rcases Nat.lt_trichotomy i j with lt | rfl | gt
  · rw [Nat.compare_eq_lt.2 lt, Nat.compare_eq_lt.2 (id_lt_of_getElem? h ha hb lt)]
  · rw [Option.some.inj (ha.symm.trans hb)]
    simp
  · rw [Nat.compare_eq_gt.2 gt, Nat.compare_eq_gt.2 (id_lt_of_getElem? h hb ha gt)]

theorem search_complete {entries : Array Entry} (h : Increasing entries.toList) {e : Entry}
    {i lo hi : Nat} (found : entries[i]? = some e) (low : lo ≤ i) (high : i < hi)
    (bound : hi ≤ entries.size) : search entries e.id lo hi = some i := by
  fun_induction search entries e.id lo hi with
  | case1 lo hi _ mid outside =>
    have := Array.getElem?_eq_none_iff.1 outside
    omega
  | case2 lo hi _ mid e' atMid less ih =>
    rw [compare_position h found atMid, Nat.compare_eq_lt] at less
    exact ih low less (by omega)
  | case3 lo hi _ mid e' atMid eq =>
    rw [compare_position h found atMid, Nat.compare_eq_eq] at eq
    rw [eq]
  | case4 lo hi _ mid e' atMid greater ih =>
    rw [compare_position h found atMid, Nat.compare_eq_gt] at greater
    exact ih greater high bound
  | case5 => omega

/-! ## Entries by number -/

variable {q q' : OrderedQueue}

/-- A queue of the ordered mode is its list of entries. -/
theorem ext (same : q.toList = q'.toList) : q = q' := by
  cases q; cases q'
  exact congrArg OrderedQueue.mk (Array.toList_inj.1 same)

theorem position?_eq_some_iff (h : Increasing q.toList) {id : EntryId} {i : Nat} :
    q.position? id = some i ↔ ∃ e, q.entries[i]? = some e ∧ e.id = id := by
  constructor
  · exact search_sound
  · rintro ⟨e, found, rfl⟩
    exact search_complete h found (Nat.zero_le _) (Array.getElem?_eq_some_iff.1 found).1 (Nat.le_refl _)

/-- Looking up a number finds the record entry of this number. -/
theorem find?_eq_some_iff (h : Increasing q.toList) {id : EntryId} {e : RecordEntry} :
    q.find? id = some e ↔ .record e ∈ q.toList ∧ e.id = id := by
  simp only [find?, Option.bind_eq_bind, Option.bind_eq_some_iff, Entry.record?_eq_some_iff,
    position?_eq_some_iff h, toList, Array.mem_toList_iff, Array.mem_iff_getElem?]
  constructor
  · rintro ⟨i, ⟨e', found, rfl⟩, e'', found', rfl⟩
    obtain rfl := Option.some.inj (found.symm.trans found')
    exact ⟨⟨i, found⟩, rfl⟩
  · rintro ⟨⟨i, found⟩, rfl⟩
    exact ⟨i, ⟨_, found, rfl⟩, _, found, rfl⟩

theorem toList_update (h : Increasing q.toList) (id : EntryId) (f : RecordEntry → RecordEntry) :
    (q.update id f).toList = q.toList.map (Entry.modify id f) := by
  unfold update
  cases position : q.position? id with
  | none =>
    have other : ∀ e ∈ q.toList, e.modify id f = e := by
      intro e he
      apply Entry.modify_of_ne
      intro same
      obtain ⟨i, found⟩ := Array.mem_iff_getElem?.1 (Array.mem_toList_iff.1 he)
      rw [(position?_eq_some_iff h).2 ⟨e, found, same⟩] at position
      cases position
    rw [List.map_congr_left other, List.map_id']
  | some i =>
    obtain ⟨e, found, rfl⟩ := (position?_eq_some_iff h).1 position
    apply List.ext_getElem?
    intro j
    simp only [toList, Array.toList_modify, List.getElem?_modify, List.getElem?_map,
      Array.getElem?_toList]
    cases atJ : q.entries[j]? with
    | none => simp
    | some e' =>
      by_cases same : i = j
      · obtain rfl : e = e' := Option.some.inj (found.symm.trans (same ▸ atJ))
        simp [same, Entry.modify]
      · have apart := compare_position h found atJ
        have ne : e'.id ≠ e.id := fun eq => same (Nat.compare_eq_eq.1 (apart ▸ Nat.compare_eq_eq.2 eq.symm))
        simp [same, Entry.modify_of_ne ne]

/-! ## Adding and taking out -/

@[simp] theorem toList_push (q : OrderedQueue) (e : Entry) : (q.push e).toList = q.toList ++ [e] :=
  Array.toList_push

@[simp] theorem toList_drain (q : OrderedQueue) : q.drain.2.toList = q.toList.dropWhile Entry.isDone := rfl

/-- Draining cuts the queue in two. -/
theorem drain_append (q : OrderedQueue) : q.drain.1 ++ q.drain.2.toList = q.toList :=
  List.takeWhile_append_dropWhile

theorem isDone_of_mem_drain {e : Entry} (taken : e ∈ q.drain.1) : e.isDone = true :=
  List.all_eq_true.1 List.all_takeWhile e taken

theorem hasReady_eq_false_iff : q.hasReady = false ↔ ∀ e, q.toList.head? = some e → e.isDone = false := by
  unfold hasReady
  cases q.toList <;> simp

/-- Nothing more may leave after draining. -/
theorem hasReady_drain (q : OrderedQueue) : q.drain.2.hasReady = false := by
  rw [hasReady_eq_false_iff]
  intro e first
  rw [toList_drain] at first
  have stays := List.head?_dropWhile_not Entry.isDone q.toList
  rw [first] at stays
  simpa using stays

theorem drain_of_not_hasReady (h : q.hasReady = false) : q.drain.1 = [] := by
  rw [hasReady_eq_false_iff] at h
  unfold drain
  cases list : q.toList with
  | nil => rfl
  | cons e rest => simp [h e (by rw [list]; rfl)]

end AsyncStage.OrderedQueue
