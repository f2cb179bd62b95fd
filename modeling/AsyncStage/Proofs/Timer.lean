import AsyncStage.Proofs.Table
import AsyncStage.Timer
import Mathlib.Data.List.Sort

/-!
# Pending timers

The two tables of a timer queue hold the same timers, and a number belongs to one timer only.
So scheduling adds one timer under a new number, cancelling removes exactly the timer of a
number, and a timer that fires is the first of those that are left.
-/

namespace AsyncStage

namespace TimerKey

theorem ext {a b : TimerKey} (time : a.fireAt = b.fireAt) (id : a.id = b.id) : a = b := by
  cases a; cases b; simp_all

theorem compare_eq_iff {a b : TimerKey} : compare a b = .eq ↔ a = b := by
  change compareLex _ _ a b = .eq ↔ _
  simp only [compareLex_eq_eq, compareOn, Std.LawfulEqCmp.compare_eq_iff_eq]
  constructor
  · rintro ⟨time, id⟩
    exact ext (Instant.ext time) id
  · rintro rfl
    exact ⟨rfl, rfl⟩

instance : Std.LawfulEqOrd TimerKey where
  compare_self := compare_eq_iff.2 rfl
  eq_of_compare := compare_eq_iff.1

/-- A timer fires before another if it is due earlier, or at the same time and was set earlier. -/
def Before (a b : TimerKey) : Prop := a.fireAt < b.fireAt ∨ a.fireAt = b.fireAt ∧ a.id < b.id

theorem before_of_compare {a b : TimerKey} (less : compare a b = .lt) : a.Before b := by
  change compareLex _ _ a b = .lt at less
  simp only [compareLex, Ordering.then_eq_lt, compareOn, Int.compare_eq_lt, Int.compare_eq_eq,
    Nat.compare_eq_lt] at less
  exact less.imp (fun earlier => earlier) fun ⟨time, first⟩ => ⟨Instant.ext time, first⟩

theorem Before.asymm {a b : TimerKey} (h : a.Before b) : ¬ b.Before a := by
  intro h'
  rcases h with early | ⟨same, first⟩ <;> rcases h' with early' | ⟨same', first'⟩
  · exact Int.lt_asymm early early'
  · exact Int.lt_irrefl _ (same' ▸ early)
  · exact Int.lt_irrefl _ (same ▸ early')
  · exact Nat.lt_asymm first first'

end TimerKey

namespace TimerQueue

/-- Both tables hold the same timers, and their numbers have been given out. -/
structure Sound (q : TimerQueue) : Prop where
  listed : ∀ id t, (id, t) ∈ q.fireAt.toList ↔ ∃ target, (⟨t, id⟩, target) ∈ q.toList
  fresh : ∀ p ∈ q.toList, p.1.id < q.nextId

variable {q : TimerQueue}

/-- A number belongs to one timer. -/
theorem Sound.eq_of_id_eq (h : q.Sound) {p p' : TimerKey × TimerTarget} (hp : p ∈ q.toList)
    (hp' : p' ∈ q.toList) (same : p.1.id = p'.1.id) : p = p' := by
  have first := (h.listed p.1.id p.1.fireAt).2 ⟨p.2, hp⟩
  have second := (h.listed p'.1.id p'.1.fireAt).2 ⟨p'.2, hp'⟩
  have times := congrArg Prod.snd (Table.eq_of_key_eq first second same)
  exact Table.eq_of_key_eq hp hp' (TimerKey.ext times same)

theorem toList_nodup (q : TimerQueue) : q.toList.Nodup := List.Nodup.of_map _ q.byTime.keys_nodup

theorem Sound.ids_nodup (h : q.Sound) : (q.toList.map (·.1.id)).Nodup :=
  q.toList_nodup.map_on fun _ hp _ hp' same => h.eq_of_id_eq hp hp' same

/-- Timers are listed in the order in which they fire. -/
theorem toList_pairwise (q : TimerQueue) : q.toList.Pairwise fun p p' => p.1.Before p'.1 :=
  q.byTime.increasing.imp TimerKey.before_of_compare

/-- Of two queues of which one has no timer that the other has not, it has them in the order of
the other. -/
theorem sublist_of_subset {q' : TimerQueue} (sub : q'.toList ⊆ q.toList) : q'.toList.Sublist q.toList := by
  have : Std.Antisymm fun p p' : TimerKey × TimerTarget => p.1.Before p'.1 :=
    ⟨fun _ _ before after => absurd after before.asymm⟩
  exact List.sublist_of_subperm_of_pairwise (List.subperm_of_subset q'.toList_nodup sub) q'.toList_pairwise
    q.toList_pairwise

theorem sound_empty : Sound {} where
  listed := by simp [toList]
  fresh := by simp [toList]

theorem sound_clear (q : TimerQueue) : q.clear.Sound where
  listed := by simp [toList, clear]
  fresh := by simp [toList, clear]

@[simp] theorem toList_clear (q : TimerQueue) : q.clear.toList = [] := rfl

/-! ## Scheduling -/

section Schedule

variable {fireAt : Instant} {target : TimerTarget}

theorem schedule_perm (h : q.Sound) :
    ((q.schedule fireAt target).2.toList).Perm ((⟨fireAt, q.nextId⟩, target) :: q.toList) :=
  Table.insert_perm fun _ listed => Nat.lt_irrefl _ (h.fresh _ listed)

theorem mem_schedule (h : q.Sound) {p : TimerKey × TimerTarget} :
    p ∈ (q.schedule fireAt target).2.toList ↔ p = (⟨fireAt, q.nextId⟩, target) ∨ p ∈ q.toList := by
  rw [(schedule_perm h).mem_iff, List.mem_cons]

theorem Sound.schedule (h : q.Sound) : (q.schedule fireAt target).2.Sound where
  listed id t := by
    have new : ∀ t', (q.nextId, t') ∉ q.fireAt.toList := fun t' listed => by
      obtain ⟨target', here⟩ := (h.listed _ _).1 listed
      exact Nat.lt_irrefl _ (h.fresh _ here)
    change (id, t) ∈ (q.fireAt.insert q.nextId fireAt).toList ↔ _
    simp only [mem_schedule h, exists_or, (Table.insert_perm new).mem_iff, List.mem_cons, h.listed,
      Prod.mk.injEq, TimerKey.mk.injEq, exists_and_left, exists_eq, and_true]
    rw [and_comm]
  fresh p hp := by
    change p.1.id < q.nextId + 1
    rcases (mem_schedule h).1 hp with rfl | old
    · exact Nat.lt_succ_self _
    · exact Nat.lt_succ_of_lt (h.fresh p old)

end Schedule

/-! ## Cancelling -/

theorem toList_cancel (h : q.Sound) (id : TimerId) :
    (q.cancel id).2.toList = q.toList.filter fun p => p.1.id ≠ id := by
  unfold cancel
  cases found : q.fireAt.get? id with
  | none =>
    refine (List.filter_eq_self.2 fun p hp => ?_).symm
    have other : p.1.id ≠ id := fun same => by
      have listed := (h.listed p.1.id p.1.fireAt).2 ⟨p.2, hp⟩
      exact Table.get?_eq_none_iff.1 found _ (same ▸ listed)
    simpa using other
  | some t =>
    obtain ⟨target, here⟩ := (h.listed id t).1 (Table.get?_eq_some_iff.1 found)
    simp only [toList, Table.toList_erase]
    apply List.filter_congr
    intro p hp
    rw [decide_eq_decide, not_iff_not]
    exact ⟨fun eq => eq ▸ rfl, fun same => congrArg Prod.fst (h.eq_of_id_eq hp here same)⟩

theorem mem_cancel (h : q.Sound) {id : TimerId} {p : TimerKey × TimerTarget} :
    p ∈ (q.cancel id).2.toList ↔ p ∈ q.toList ∧ p.1.id ≠ id := by
  simp [toList_cancel h]

theorem Sound.cancel (h : q.Sound) (id : TimerId) : (q.cancel id).2.Sound where
  listed id' t := by
    simp only [mem_cancel h]
    unfold TimerQueue.cancel
    cases found : q.fireAt.get? id with
    | none =>
      rw [h.listed]
      refine exists_congr fun target => ⟨fun here => ⟨here, fun same => ?_⟩, And.left⟩
      exact Table.get?_eq_none_iff.1 found t (same ▸ (h.listed id' t).2 ⟨target, here⟩)
    | some t' => simp [Table.toList_erase, h.listed]
  fresh p hp := by
    have old := h.fresh p ((mem_cancel h).1 hp).1
    unfold TimerQueue.cancel
    split <;> exact old

/-! ## Firing -/

/-- The timer that fires is the first, and it is due. -/
theorem toList_of_popDue {now : Instant} {target : TimerTarget} {q' : TimerQueue} (h : q.Sound)
    (popped : q.popDue now = some (target, q')) :
    ∃ key, key.fireAt ≤ now ∧ q.toList = (key, target) :: q'.toList ∧ q'.Sound := by
  unfold popDue at popped
  cases first : q.byTime.first? with
  | none => simp [first] at popped
  | some p =>
    obtain ⟨key, target'⟩ := p
    simp only [first] at popped
    split at popped
    · cases popped
    next due =>
      cases popped
      obtain ⟨rest, list⟩ : ∃ rest, q.toList = (key, target) :: rest := by
        rw [Table.first?, List.head?_eq_some_iff] at first
        exact first
      have keys := q.byTime.keys_nodup
      rw [Table.keys, show q.byTime.toList = _ from list, List.map_cons, List.nodup_cons] at keys
      have others : (q.byTime.erase key).toList = rest := by
        rw [Table.toList_erase, show q.byTime.toList = _ from list]
        refine (List.filter_cons_of_neg (by simp)).trans (List.filter_eq_self.2 fun p hp => ?_)
        have ne : p.1 ≠ key := fun eq => keys.1 (List.mem_map.2 ⟨p, hp, eq⟩)
        simpa using ne
      have here : (key, target) ∈ q.toList := list ▸ List.mem_cons_self
      have mem : ∀ p, p ∈ rest ↔ p ∈ q.toList ∧ p.1.id ≠ key.id := by
        intro p
        rw [← others, Table.toList_erase, List.mem_filter]
        apply and_congr_right
        intro hp
        rw [decide_eq_true_eq, not_iff_not]
        exact ⟨fun eq => eq ▸ rfl, fun same => congrArg Prod.fst (h.eq_of_id_eq hp here same)⟩
      refine ⟨key, Int.not_lt.1 due, list.trans (congrArg _ others.symm), ⟨fun id t => ?_, fun p hp => ?_⟩⟩
      · change _ ↔ ∃ target', (⟨t, id⟩, target') ∈ (q.byTime.erase key).toList
        simp only [others, mem, Table.toList_erase, List.mem_filter, h.listed, decide_eq_true_eq,
          exists_and_right]
      · change p ∈ (q.byTime.erase key).toList at hp
        rw [others, mem] at hp
        exact h.fresh p hp.1

theorem popDue_eq_none_iff {now : Instant} :
    q.popDue now = none ↔ ∀ p ∈ q.toList.head?, now < p.1.fireAt := by
  unfold popDue toList Table.first?
  cases q.byTime.toList.head? with
  | none => simp
  | some p => simp

end TimerQueue

end AsyncStage
