import AsyncStage.Table
import Mathlib.Data.List.Nodup

/-!
# What the operations of a table do

Every operation is described by its pairs: `get?` finds a pair that is listed, `insert`
replaces the pair of a key, `erase` leaves the pair of one key out, and `modify` changes the
value of one key in place. The comparison has to be lawful, so that keys that compare as
equal are equal.
-/

namespace AsyncStage.Table

variable {α β : Type} [Ord α]

@[simp] theorem toList_empty : (empty : Table α β).toList = [] := rfl

theorem isEmpty_iff {t : Table α β} : t.isEmpty = true ↔ t.toList = [] := by
  simp [isEmpty]

/-- The pair with the greatest key is listed, and all others have smaller keys. -/
theorem last?_eq_some {t : Table α β} {p : α × β} (last : t.last? = some p) :
    p ∈ t.toList ∧ ∀ q ∈ t.toList, q = p ∨ compare q.1 p.1 = .lt := by
  obtain ⟨before, list⟩ := List.getLast?_eq_some_iff.1 last
  have increasing := t.increasing
  rw [list] at increasing ⊢
  refine ⟨by simp, fun q hq => ?_⟩
  rcases List.mem_append.1 hq with first | same
  · exact .inr ((List.pairwise_append.1 increasing).2.2 q first p List.mem_cons_self)
  · exact .inl (List.mem_singleton.1 same)

theorem toList_insert_last [Std.TransOrd α] {t : Table α β} {k : α} {v : β}
    (last : ∀ p ∈ t.toList, compare p.1 k = .lt) : (t.insert k v).toList = t.toList ++ [(k, v)] := by
  change insertInto k v t.toList = _
  generalize t.toList = l at last
  induction l with
  | nil => rfl
  | cons p rest ih =>
    obtain ⟨k', v'⟩ := p
    have gt : compare k k' = .gt := Std.OrientedCmp.gt_iff_lt.2 (last (k', v') (by simp))
    rw [insertInto, gt]
    simp only [List.cons_append, List.cons.injEq, true_and]
    exact ih fun p hp => last p (List.mem_cons_of_mem _ hp)

section Lawful

variable [Std.LawfulEqOrd α]

theorem keys_nodup (t : Table α β) : t.keys.Nodup := by
  refine List.pairwise_map.2 (t.increasing.imp fun {a b} lt eq => ?_)
  rw [eq] at lt
  simp at lt

/-- Two listed pairs with one key are one pair. -/
theorem eq_of_key_eq {t : Table α β} {p q : α × β} (hp : p ∈ t.toList) (hq : q ∈ t.toList)
    (same : p.1 = q.1) : p = q :=
  List.inj_on_of_nodup_map t.keys_nodup hp hq same

theorem get?_eq_some_iff {t : Table α β} {k : α} {v : β} : t.get? k = some v ↔ (k, v) ∈ t.toList := by
  constructor
  · intro found
    obtain ⟨p, hp, rfl⟩ := Option.map_eq_some_iff.1 found
    have key : p.1 = k := by simpa using List.find?_some hp
    rw [← key]
    exact List.mem_of_find?_eq_some hp
  · intro listed
    have known : (t.toList.find? fun p => compare p.1 k == .eq).isSome :=
      List.find?_isSome.2 ⟨(k, v), listed, by simp⟩
    obtain ⟨p, hp⟩ := Option.isSome_iff_exists.1 known
    have key : p.1 = k := by simpa using List.find?_some hp
    rw [get?, hp, eq_of_key_eq (List.mem_of_find?_eq_some hp) listed key, Option.map_some]

theorem contains_iff {t : Table α β} {k : α} : t.contains k = true ↔ ∃ v, (k, v) ∈ t.toList := by
  rw [contains, Option.isSome_iff_exists]
  exact exists_congr fun v => get?_eq_some_iff

theorem mem_keys_iff {t : Table α β} {k : α} : k ∈ t.keys ↔ (t.get? k).isSome = true := by
  rw [← contains, contains_iff]
  simp [keys]

theorem get?_eq_none_iff {t : Table α β} {k : α} : t.get? k = none ↔ ∀ v, (k, v) ∉ t.toList := by
  rw [Option.eq_none_iff_forall_ne_some]
  exact forall_congr' fun v => not_congr get?_eq_some_iff

theorem toList_erase (t : Table α β) (k : α) [DecidableEq α] :
    (t.erase k).toList = t.toList.filter fun p => p.1 ≠ k := by
  apply List.filter_congr
  intro p _
  have equal : compare p.1 k = .eq ↔ p.1 = k := Std.LawfulEqCmp.compare_eq_iff_eq
  simp [bne, equal, beq_eq_decide]

theorem get?_filterKeys (t : Table α β) (p : α → Bool) (k : α) :
    (t.filterKeys p).get? k = if p k = true then t.get? k else none := by
  apply Option.ext
  intro v
  rw [get?_eq_some_iff]
  refine List.mem_filter.trans ?_
  split
  next keeps => simp [keeps, get?_eq_some_iff]
  next drops => simp [drops]

theorem get?_erase [DecidableEq α] (t : Table α β) (k k' : α) :
    (t.erase k).get? k' = if k' = k then none else t.get? k' := by
  rw [erase, get?_filterKeys]
  by_cases same : k' = k
  · simp [same]
  · have other : compare k' k ≠ .eq := fun eq => same (Std.LawfulEqCmp.compare_eq_iff_eq.1 eq)
    simp [same, other]

/-- A listed pair and the pairs without its key are all pairs. -/
theorem perm_erase [DecidableEq α] {t : Table α β} {k : α} {v : β} (listed : (k, v) ∈ t.toList) :
    t.toList.Perm ((k, v) :: (t.erase k).toList) := by
  have nodup : t.toList.Nodup := List.Nodup.of_map _ t.keys_nodup
  rw [toList_erase]
  refine (List.perm_ext_iff_of_nodup nodup ?_).2 fun p => ?_
  · refine List.nodup_cons.2 ⟨by simp, nodup.filter _⟩
  · by_cases key : p.1 = k
    · simp only [List.mem_cons, List.mem_filter, key, ne_eq, not_true, decide_false,
        Bool.false_eq_true, and_false, or_false]
      exact ⟨fun hp => eq_of_key_eq hp listed key, fun eq => eq ▸ listed⟩
    · simp only [List.mem_cons, List.mem_filter, key, ne_eq, not_false_eq_true, decide_true,
        and_true, iff_or_self]
      exact fun eq => absurd (congrArg Prod.fst eq) key

theorem toList_modify (t : Table α β) (k : α) (f : β → β) [DecidableEq α] :
    (t.modify k f).toList = t.toList.map fun p => (p.1, if p.1 = k then f p.2 else p.2) := by
  simp [modify, Std.LawfulEqCmp.compare_eq_iff_eq]

/-- Inserting at a new key adds one pair. -/
theorem insert_perm [Std.TransOrd α] {t : Table α β} {k : α} {v : β} (new : ∀ v', (k, v') ∉ t.toList) :
    ((t.insert k v).toList).Perm ((k, v) :: t.toList) := by
  change (insertInto k v t.toList).Perm _
  generalize t.toList = l at new
  induction l with
  | nil => exact .refl _
  | cons p rest ih =>
    obtain ⟨k', v'⟩ := p
    rw [insertInto]
    split
    · exact .refl _
    next eq =>
      have key : k = k' := Std.LawfulEqCmp.compare_eq_iff_eq.1 eq
      exact absurd (List.mem_cons_self) (key ▸ new v')
    · exact ((ih fun v' h => new v' (List.mem_cons_of_mem _ h)).cons _).trans (.swap _ _ _)

theorem mem_insertInto_iff [Std.TransOrd α] {k : α} {v : β} {l : List (α × β)}
    (increasing : l.Pairwise fun a b => compare a.1 b.1 = .lt) {p : α × β} :
    p ∈ insertInto k v l ↔ p = (k, v) ∨ p ∈ l ∧ p.1 ≠ k := by
  induction l with
  | nil => simp [insertInto]
  | cons q rest ih =>
    obtain ⟨k', v'⟩ := q
    obtain ⟨above, increasing⟩ := List.pairwise_cons.1 increasing
    have ne : ∀ {a b : α}, compare a b = .lt → b ≠ a := by
      rintro a b lt rfl
      simp at lt
    rw [insertInto]
    split
    next lt =>
      have others : ∀ r ∈ (k', v') :: rest, r.1 ≠ k := List.forall_mem_cons.2
        ⟨ne lt, fun r hr => ne (Std.TransCmp.lt_trans lt (above r hr))⟩
      rw [List.mem_cons]
      exact or_congr_right ⟨fun old => ⟨old, others p old⟩, fun old => old.1⟩
    next eq =>
      obtain rfl : k = k' := Std.LawfulEqCmp.compare_eq_iff_eq.1 eq
      rw [List.mem_cons, List.mem_cons]
      constructor
      · rintro (new | old)
        · exact .inl new
        · exact .inr ⟨.inr old, ne (above p old)⟩
      · rintro (new | ⟨rfl | old, other⟩)
        · exact .inl new
        · exact (other rfl).elim
        · exact .inr old
    next gt =>
      have other : k' ≠ k := (ne (Std.OrientedCmp.gt_iff_lt.1 gt)).symm
      rw [List.mem_cons, List.mem_cons, ih increasing]
      constructor
      · rintro (rfl | new | ⟨old, ne⟩)
        · exact .inr ⟨.inl rfl, other⟩
        · exact .inl new
        · exact .inr ⟨.inr old, ne⟩
      · rintro (new | ⟨rfl | old, ne⟩)
        · exact .inr (.inl new)
        · exact .inl rfl
        · exact .inr (.inr ⟨old, ne⟩)

theorem get?_insert [Std.TransOrd α] [DecidableEq α] (t : Table α β) (k : α) (v : β) (k' : α) :
    (t.insert k v).get? k' = if k' = k then some v else t.get? k' := by
  apply Option.ext
  intro v'
  rw [get?_eq_some_iff]
  refine (mem_insertInto_iff t.increasing).trans ?_
  split
  next same => simp [same, eq_comm]
  next other => simp [other, get?_eq_some_iff]

end Lawful

end AsyncStage.Table
