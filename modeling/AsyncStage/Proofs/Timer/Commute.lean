import AsyncStage.Proofs.Timer

/-!
# The first timer and the others

Queues that have given out the same numbers and hold the same timers are the same. So it does not
matter whether the first timer is taken out before or after another one is cancelled, or one is set
that fires later.
-/

namespace AsyncStage

/-- Tables that hold the same pairs are the same. -/
theorem Table.ext_of_mem {α β : Type} [Ord α] [Std.TransOrd α] [Std.LawfulEqOrd α] {s t : Table α β}
    (same : ∀ p, p ∈ s.toList ↔ p ∈ t.toList) : s = t := by
  have nodup : ∀ t : Table α β, t.toList.Nodup := fun t => List.Nodup.of_map _ t.keys_nodup
  have perm := (List.perm_ext_iff_of_nodup (nodup s) (nodup t)).2 same
  apply Table.ext
  refine perm.eq_of_pairwise (fun a b _ _ lt lt' => ?_) s.increasing t.increasing
  rw [Std.OrientedCmp.gt_of_lt lt'] at lt
  cases lt

namespace TimerQueue

variable {q rest : TimerQueue} {now fireAt : Instant} {target target' : TimerTarget} {id : TimerId}

theorem Sound.ext {q q' : TimerQueue} (h : q.Sound) (h' : q'.Sound) (nextId : q.nextId = q'.nextId)
    (same : ∀ p, p ∈ q.toList ↔ p ∈ q'.toList) : q = q' := by
  have byTime : q.byTime = q'.byTime := Table.ext_of_mem same
  have byNumber : q.fireAt = q'.fireAt := by
    apply Table.ext_of_mem
    rintro ⟨id, t⟩
    rw [h.listed, h'.listed]
    exact exists_congr fun target => same _
  cases q; cases q'
  simp_all

@[simp] theorem nextId_cancel (q : TimerQueue) (id : TimerId) : (q.cancel id).2.nextId = q.nextId := by
  unfold cancel
  split <;> rfl

/-- Taking out the first timer is cancelling it. -/
theorem popDue_of_first (h : q.Sound) {p : TimerKey × TimerTarget} (here : p ∈ q.toList)
    (first : ∀ p' ∈ q.toList, p' = p ∨ p.1.Before p'.1) (due : p.1.fireAt ≤ now) :
    q.popDue now = some (p.2, (q.cancel p.1.id).2) := by
  have head : q.byTime.first? = some p := by
    obtain ⟨x, l, list⟩ := List.exists_cons_of_ne_nil (List.ne_nil_of_mem here)
    have order := q.toList_pairwise
    rw [list, List.pairwise_cons] at order
    rw [list, List.mem_cons] at here
    have least : x = p := by
      rcases here with same | later
      · exact same.symm
      · exact (first x (list ▸ List.mem_cons_self)).resolve_right (order.1 p later).asymm
    rw [Table.first?, show q.byTime.toList = x :: l from list, List.head?_cons, least]
  have number : q.fireAt.get? p.1.id = some p.1.fireAt :=
    Table.get?_eq_some_iff.2 ((h.listed _ _).2 ⟨p.2, here⟩)
  obtain ⟨key, target⟩ := p
  simp only [popDue, head, cancel, number]
  have reached : ¬ now < key.fireAt := Int.not_lt.2 due
  exact if_neg reached

/-- What is taken out is the first timer, and it is due. -/
theorem popDue_eq_some (h : q.Sound) (popped : q.popDue now = some (target, rest)) :
    ∃ key, (key, target) ∈ q.toList ∧ (∀ p ∈ q.toList, p = (key, target) ∨ key.Before p.1) ∧ key.fireAt ≤ now ∧
      rest = (q.cancel key.id).2 := by
  obtain ⟨key, due, list, -⟩ := toList_of_popDue h popped
  have order := q.toList_pairwise
  rw [list, List.pairwise_cons] at order
  have here : (key, target) ∈ q.toList := list ▸ List.mem_cons_self
  have first : ∀ p ∈ q.toList, p = (key, target) ∨ key.Before p.1 := by
    intro p hp
    rw [list, List.mem_cons] at hp
    exact hp.imp_right (order.1 p)
  have same := (popDue_of_first h here first due).symm.trans popped
  exact ⟨key, here, first, due, (congrArg Prod.snd (Option.some.inj same)).symm⟩

theorem nextId_of_popDue (h : q.Sound) (popped : q.popDue now = some (target, rest)) : rest.nextId = q.nextId := by
  obtain ⟨key, -, -, -, rfl⟩ := popDue_eq_some h popped
  exact q.nextId_cancel _

/-- **The first timer is the first** also when one is set that does not fire before now. -/
theorem popDue_schedule (h : q.Sound) (popped : q.popDue now = some (target, rest)) (late : now ≤ fireAt) :
    (q.schedule fireAt target').2.popDue now = some (target, (rest.schedule fireAt target').2) := by
  obtain ⟨key, here, first, due, rfl⟩ := popDue_eq_some h popped
  have old : key.id ≠ q.nextId := Nat.ne_of_lt (h.fresh _ here)
  have first' : ∀ p ∈ (q.schedule fireAt target').2.toList, p = (key, target) ∨ key.Before p.1 := by
    intro p hp
    rcases (mem_schedule h).1 hp with rfl | earlier
    · have order : key.fireAt ≤ fireAt := Int.le_trans due late
      rcases Int.lt_or_eq_of_le order with before | same
      · exact .inr (.inl before)
      · exact .inr (.inr ⟨Instant.ext same, h.fresh _ here⟩)
    · exact first p earlier
  rw [popDue_of_first h.schedule ((mem_schedule h).2 (.inr here)) first' due]
  congr 2
  refine Sound.ext (h.schedule.cancel _) (h.cancel _).schedule ?_ fun p => ?_
  · simp [schedule]
  · rw [mem_cancel h.schedule, mem_schedule h, mem_schedule (h.cancel _), mem_cancel h, nextId_cancel]
    constructor
    · rintro ⟨rfl | earlier, other⟩
      · exact .inl rfl
      · exact .inr ⟨earlier, other⟩
    · rintro (rfl | ⟨earlier, other⟩)
      · exact ⟨.inl rfl, old.symm⟩
      · exact ⟨.inr earlier, other⟩

/-- **The first timer is the first** also when another one is cancelled. -/
theorem popDue_cancel (h : q.Sound) (popped : q.popDue now = some (target, rest))
    (spared : ∀ p ∈ q.toList, p.1.id = id → p.2 ≠ target) :
    (q.cancel id).2.popDue now = some (target, (rest.cancel id).2) := by
  obtain ⟨key, here, first, due, rfl⟩ := popDue_eq_some h popped
  have other : key.id ≠ id := fun same => spared _ here same rfl
  have first' : ∀ p ∈ (q.cancel id).2.toList, p = (key, target) ∨ key.Before p.1 :=
    fun p hp => first p ((mem_cancel h).1 hp).1
  rw [popDue_of_first (h.cancel id) ((mem_cancel h).2 ⟨here, other⟩) first' due]
  congr 2
  refine Sound.ext ((h.cancel _).cancel _) ((h.cancel _).cancel _) (by simp) fun p => ?_
  rw [mem_cancel (h.cancel _), mem_cancel h, mem_cancel (h.cancel _), mem_cancel h, and_right_comm]

end TimerQueue

end AsyncStage
