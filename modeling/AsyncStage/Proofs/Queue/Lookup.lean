import AsyncStage.Proofs.Queue.Ordered
import Mathlib.Logic.Relation

/-!
# Looking up numbers in an ordered queue

Elements are admitted under the numbers from zero on, and entries leave an ordered queue at its head only. So the
queue holds what was admitted last, and its numbers grow from the head to the end. Then halving finds for every
number what a search from the head finds. `Exact` says what this is for a record in the queue, for a watermark, for
an entry that has left, and for a number under which nothing was admitted, and that a change of the record that was
found leaves everything else as it is.
-/

namespace AsyncStage.OrderedQueue

/-- The record entry with this number, as a search from the head finds it. -/
def scan? (q : OrderedQueue) (id : EntryId) : Option RecordEntry := do
  let e ← q.toList.find? (·.id == id)
  e.record?

/-- One thing that happens to an ordered queue. Beside the queue stands what has been admitted so far. An element that
is refused is not among it, so its number is still the next one. -/
inductive Change : List (EntryId × Element) × OrderedQueue → List (EntryId × Element) × OrderedQueue → Prop where
  | admitted {admitted : List (EntryId × Element)} {q : OrderedQueue} (e : Entry) (next : e.id = admitted.length) :
      Change (admitted, q) (admitted ++ [e.label], q.push e)
  /-- The record that is found under a number changes, but it stays the same record under the same number. -/
  | revised {admitted : List (EntryId × Element)} {q : OrderedQueue} (id : EntryId) (f : RecordEntry → RecordEntry)
      (same : ∀ e, q.find? id = some e → (Entry.record (f e)).label = (Entry.record e).label) :
      Change (admitted, q) (admitted, q.update id f)
  /-- The head leaves, to be emitted or discarded. -/
  | left {admitted : List (EntryId × Element)} {q q' : OrderedQueue} (e : Entry) (head : q.toList = e :: q'.toList) :
      Change (admitted, q) (admitted, q')

/-- Any number of changes. -/
abbrev Changes : List (EntryId × Element) × OrderedQueue → List (EntryId × Element) × OrderedQueue → Prop :=
  Relation.ReflTransGen Change

/-- Elements were admitted under the numbers from zero on, and those in the queue are the last ones. -/
structure Placed (admitted : List (EntryId × Element)) (q : OrderedQueue) : Prop where
  numbered : admitted.map (·.1) = List.range admitted.length
  last : q.toList.map Entry.label <:+ admitted

/-- What a number leads to in a queue, after `admitted` has been admitted. -/
structure Exact (admitted : List (EntryId × Element)) (q : OrderedQueue) : Prop where
  increasing : (q.toList.map Entry.id).Pairwise (· < ·)
  /-- Halving and a search from the head find the same position and the same record. -/
  position : ∀ id, q.position? id = q.toList.findIdx? (·.id == id)
  scan : ∀ id, q.find? id = q.scan? id
  /-- A record in the queue is found, and nothing else is. -/
  found : ∀ id e, q.find? id = some e ↔ .record e ∈ q.toList ∧ e.id = id
  /-- What is found is the record that was admitted under the number. -/
  credited : ∀ id e, q.find? id = some e → (id, .record e.record) ∈ admitted
  /-- Nothing is found under the number of a watermark, of an entry that has left, and under a number that no
  element was admitted under. -/
  absent : ∀ id, q.find? id = none ↔ (∃ t, (id, .watermark t) ∈ admitted) ∨
    ((∃ x, (id, x) ∈ admitted) ∧ ∀ e ∈ q.toList, e.id ≠ id) ∨ ∀ x, (id, x) ∉ admitted
  /-- A change is made to the record that is found, in its place, and to no other entry. -/
  changed : ∀ id f e, q.find? id = some e → ∃ front back, q.toList = front ++ .record e :: back ∧
    (q.update id f).toList = front ++ .record (f e) :: back
  unchanged : ∀ id f, q.find? id = none → q.update id f = q
  /-- As long as the record keeps its number, the numbers stay in order and every number leads where it led. -/
  order : ∀ id f, (∀ e, q.find? id = some e → (f e).id = id) →
    (q.update id f).toList.map Entry.id = q.toList.map Entry.id ∧
      ∀ id', (q.update id f).find? id' = if id' = id then (q.find? id).map f else q.find? id'

variable {q q' : OrderedQueue} {id : EntryId} {f : RecordEntry → RecordEntry} {e : RecordEntry}
  {admitted : List (EntryId × Element)}

/-! ## Searching from the head -/

/-- While the numbers grow, the entry of a number is the first one with this number. -/
theorem position?_eq_findIdx? (h : Increasing q.toList) (id : EntryId) :
    q.position? id = q.toList.findIdx? (·.id == id) := by
  apply Option.ext
  intro i
  rw [position?_eq_some_iff h, List.findIdx?_eq_some_iff_getElem]
  constructor
  · rintro ⟨e, found, rfl⟩
    obtain ⟨bound, rfl⟩ := Array.getElem?_eq_some_iff.1 found
    refine ⟨bound, beq_self_eq_true _, fun j before names => ?_⟩
    have less := List.pairwise_iff_getElem.1 h j i (Nat.lt_trans before bound) bound before
    exact Nat.ne_of_lt less (eq_of_beq names)
  · rintro ⟨bound, names, -⟩
    exact ⟨_, Array.getElem?_eq_getElem bound, eq_of_beq names⟩

theorem find?_eq_scan? (h : Increasing q.toList) (id : EntryId) : q.find? id = q.scan? id := by
  rw [find?, scan?, position?_eq_findIdx? h, List.find?_eq_bind_findIdx?_getElem?]
  simp [toList, Option.bind_assoc]

/-! ## Changing what was found -/

/-- The entry of a number under which no record is found is no record. -/
theorem modify_of_not_found (h : Increasing q.toList) (none : q.find? id = none) {a : Entry} (here : a ∈ q.toList) :
    a.modify id f = a := by
  cases a with
  | watermark i t => exact Entry.modify_watermark
  | record r =>
    apply Entry.modify_of_ne
    intro names
    rw [(find?_eq_some_iff h).2 ⟨here, names⟩] at none
    cases none

theorem update_of_not_found (h : Increasing q.toList) (none : q.find? id = none) : q.update id f = q := by
  apply ext
  rw [toList_update h, List.map_congr_left fun a here => modify_of_not_found h none here, List.map_id']

/-- The record that is found changes in its place. -/
theorem toList_update_of_found (h : Increasing q.toList) (found : q.find? id = some e) :
    ∃ front back, q.toList = front ++ .record e :: back ∧
      (q.update id f).toList = front ++ .record (f e) :: back := by
  obtain ⟨here, rfl⟩ := (find?_eq_some_iff h).1 found
  obtain ⟨front, back, parts⟩ := List.append_of_mem here
  refine ⟨front, back, parts, ?_⟩
  -- The numbers in front of the record are less than its own, and those behind it are greater.
  obtain ⟨-, later, earlier⟩ := List.pairwise_append.1 (parts ▸ h : Increasing _)
  have before : ∀ a ∈ front, a.modify e.id f = a := fun a ha =>
    Entry.modify_of_ne (Nat.ne_of_lt (earlier a ha _ List.mem_cons_self))
  have behind : ∀ a ∈ back, a.modify e.id f = a := fun a ha =>
    Entry.modify_of_ne (Nat.ne_of_gt ((List.pairwise_cons.1 later).1 a ha))
  rw [toList_update h, parts, List.map_append, List.map_cons, List.map_congr_left before,
    List.map_congr_left behind, List.map_id', List.map_id', Entry.modify_record, if_pos rfl]

/-- What all entries keep, the queue keeps. -/
theorem map_toList_update {α : Type} {g : Entry → α} (h : Increasing q.toList)
    (same : ∀ e, q.find? id = some e → g (.record (f e)) = g (.record e)) :
    (q.update id f).toList.map g = q.toList.map g := by
  cases found : q.find? id with
  | none => rw [update_of_not_found h found]
  | some e =>
    obtain ⟨front, back, parts, parts'⟩ := toList_update_of_found (f := f) h found
    rw [parts, parts', List.map_append, List.map_append, List.map_cons, List.map_cons, same e found]

theorem increasing_iff {l : List Entry} : Increasing l ↔ (l.map Entry.id).Pairwise (· < ·) := List.pairwise_map.symm

theorem map_id_update (h : Increasing q.toList) (same : ∀ e, q.find? id = some e → (f e).id = id) :
    (q.update id f).toList.map Entry.id = q.toList.map Entry.id :=
  map_toList_update h fun e found => (same e found).trans ((find?_eq_some_iff h).1 found).2.symm

/-- After a change every number leads where it led before, and the number of the record that changed to what the
record has become. -/
theorem find?_update (h : Increasing q.toList) (same : ∀ e, q.find? id = some e → (f e).id = id) (id' : EntryId) :
    (q.update id f).find? id' = if id' = id then (q.find? id).map f else q.find? id' := by
  cases found : q.find? id with
  | none =>
    rw [update_of_not_found h found]
    split
    next names => rw [names, found, Option.map_none]
    next => rfl
  | some e =>
    obtain ⟨here, rfl⟩ := (find?_eq_some_iff h).1 found
    have h' : Increasing (q.update e.id f).toList := by
      rw [increasing_iff, map_id_update h same, ← increasing_iff]
      exact h
    obtain ⟨front, back, parts, parts'⟩ := toList_update_of_found (f := f) h found
    split
    next names =>
      rw [names, Option.map_some, find?_eq_some_iff h', parts']
      exact ⟨List.mem_append_right _ List.mem_cons_self, same e found⟩
    next other =>
      apply Option.ext
      intro r
      rw [find?_eq_some_iff h', find?_eq_some_iff h, parts, parts']
      refine and_congr_left fun names => ?_
      have isOther : ∀ r', r'.id = e.id → Entry.record r ≠ .record r' := by
        rintro r' same' ⟨⟩
        exact other (names ▸ same')
      simp only [List.mem_append, List.mem_cons, isOther e rfl, isOther (f e) (same e found), false_or]

/-! ## Several changes -/

/-- Entries leave at the head, one after the other. -/
theorem Changes.of_append {gone : List Entry} (parts : gone ++ q'.toList = q.toList) :
    Changes (admitted, q) (admitted, q') := by
  induction gone generalizing q with
  | nil => rw [ext parts]
  | cons a gone ih =>
    have first : Change (admitted, q) (admitted, ⟨(gone ++ q'.toList).toArray⟩) := .left a parts.symm
    exact .head first (ih rfl)

/-- A record that stays the same under the same number becomes another entry. -/
theorem Changes.of_modify {e' : RecordEntry} (h : Increasing q.toList) (here : .record e ∈ q.toList)
    (same : (Entry.record e').label = (Entry.record e).label)
    (list : q'.toList = q.toList.map (Entry.modify e.id fun _ => e')) : Changes (admitted, q) (admitted, q') := by
  rw [← toList_update h] at list
  rw [ext list]
  refine .single (.revised e.id _ fun r found => ?_)
  obtain ⟨here', names⟩ := (find?_eq_some_iff h).1 found
  rw [h.record_eq here' here names]
  exact same

/-! ## What a queue holds -/

namespace Placed

theorem empty : Placed [] {} := ⟨rfl, List.suffix_refl _⟩

/-- Admitted elements are sorted by their numbers. -/
theorem pairwise (h : Placed admitted q) : admitted.Pairwise fun a b => a.1 < b.1 :=
  List.pairwise_map.1 (h.numbered ▸ List.pairwise_lt_range)

theorem increasing (h : Placed admitted q) : Increasing q.toList := by
  have labels : (q.toList.map Entry.label).Pairwise fun a b => a.1 < b.1 := h.pairwise.sublist h.last.sublist
  exact labels.of_map Entry.label fun _ _ lt => lt

/-- One element was admitted under a number. -/
theorem eq_of_mem (h : Placed admitted q) {x y : Element} (hx : (id, x) ∈ admitted) (hy : (id, y) ∈ admitted) :
    x = y :=
  congrArg Prod.snd (List.inj_on_of_nodup_map (h.numbered ▸ List.nodup_range) hx hy rfl)

theorem label_mem (h : Placed admitted q) {a : Entry} (here : a ∈ q.toList) : a.label ∈ admitted :=
  h.last.subset (List.mem_map_of_mem here)

theorem credited (h : Placed admitted q) (found : q.find? id = some e) : (id, .record e.record) ∈ admitted := by
  obtain ⟨here, rfl⟩ := (find?_eq_some_iff h.increasing).1 found
  exact h.label_mem here

theorem find?_eq_none_iff (h : Placed admitted q) (id : EntryId) :
    q.find? id = none ↔ (∃ t, (id, .watermark t) ∈ admitted) ∨
      ((∃ x, (id, x) ∈ admitted) ∧ ∀ e ∈ q.toList, e.id ≠ id) ∨ ∀ x, (id, x) ∉ admitted := by
  constructor
  · intro none
    by_cases known : ∃ x, (id, x) ∈ admitted
    · by_cases here : ∃ a ∈ q.toList, a.id = id
      · obtain ⟨a, ha, rfl⟩ := here
        cases a with
        | watermark i t => exact .inl ⟨t, h.label_mem ha⟩
        | record r =>
          cases none.symm.trans ((find?_eq_some_iff h.increasing).2 ⟨ha, rfl⟩)
      · exact .inr (.inl ⟨known, fun a ha names => here ⟨a, ha, names⟩⟩)
    · exact .inr (.inr (not_exists.1 known))
  · intro reasons
    refine Option.eq_none_iff_forall_ne_some.2 fun e found => ?_
    have credited := h.credited found
    rcases reasons with ⟨t, watermark⟩ | ⟨-, gone⟩ | unknown
    · cases h.eq_of_mem watermark credited
    · obtain ⟨here, names⟩ := (find?_eq_some_iff h.increasing).1 found
      exact gone _ here names
    · exact unknown _ credited

/-- **Each change** leaves the elements that were admitted last in the queue. -/
theorem change {p p' : List (EntryId × Element) × OrderedQueue} (h : Placed p.1 p.2) (change : Change p p') :
    Placed p'.1 p'.2 := by
  cases change with
  | @admitted admitted q e next =>
    refine ⟨?_, ?_⟩
    · rw [List.map_append, h.numbered, List.length_append, List.map_singleton, Entry.label_fst, next,
        List.length_singleton, List.range_succ]
    · obtain ⟨gone, parts⟩ := h.last
      refine ⟨gone, ?_⟩
      rw [toList_push, List.map_append, List.map_singleton, ← List.append_assoc, parts]
  | revised id f same =>
    refine ⟨h.numbered, ?_⟩
    rw [map_toList_update h.increasing same]
    exact h.last
  | left e head =>
    have last := h.last
    rw [head, List.map_cons] at last
    exact ⟨h.numbered, (List.suffix_cons _ _).trans last⟩

theorem changes {p p' : List (EntryId × Element) × OrderedQueue} (h : Placed p.1 p.2) (changes : Changes p p') :
    Placed p'.1 p'.2 := by
  induction changes with
  | refl => exact h
  | tail _ last ih => exact ih.change last

/-- Where the elements that were admitted last are in the queue, looking up is exact. -/
theorem exact (h : Placed admitted q) : Exact admitted q where
  increasing := increasing_iff.1 h.increasing
  position := position?_eq_findIdx? h.increasing
  scan := find?_eq_scan? h.increasing
  found _ _ := find?_eq_some_iff h.increasing
  credited _ _ := h.credited
  absent := h.find?_eq_none_iff
  changed _ _ _ := toList_update_of_found h.increasing
  unchanged _ _ := update_of_not_found h.increasing
  order _ _ same := ⟨map_id_update h.increasing same, find?_update h.increasing same⟩

end Placed

end AsyncStage.OrderedQueue
