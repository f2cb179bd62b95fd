import AsyncStage.Proofs.Timer.Commute
import Mathlib.Algebra.Order.Group.Multiset
import Mathlib.Data.Finset.Card
import Mathlib.Order.Bounds.Basic

/-!
# A timer queue is a set of timers

What a timer queue does is easier to say of a set of pending timers: setting a timer puts it in under
the next number, cancelling takes out the timer with a number, and what fires is the first of the set.
Every timer that was ever set is either pending or has left in exactly one of three ways.
-/

namespace AsyncStage

/-- What the owner of a timer queue may do with it. -/
inductive TimerCall where
  | schedule (fireAt : Instant) (target : TimerTarget)
  | cancel (id : TimerId)
  | popDue (now : Instant)
  | clear
deriving DecidableEq

/-- What the owner gets back. -/
inductive TimerAnswer where
  | scheduled (id : TimerId)
  | cancelled (wasPending : Bool)
  | popped (target : Option TimerTarget)
  | cleared
deriving DecidableEq

/-- A timer that has been set: when it fires, its number, and what it is set for. -/
abbrev SetTimer := TimerKey × TimerTarget

namespace TimerQueue

/-- One call of the owner. -/
def perform (q : TimerQueue) : TimerCall → TimerAnswer × TimerQueue
  | .schedule fireAt target => (.scheduled (q.schedule fireAt target).1, (q.schedule fireAt target).2)
  | .cancel id => (.cancelled (q.cancel id).1, (q.cancel id).2)
  | .popDue now =>
    match q.popDue now with
    | some (target, q) => (.popped (some target), q)
    | none => (.popped none, q)
  | .clear => (.cleared, q.clear)

/-- The answers to calls made one after the other, and the queue that they leave. -/
def performAll (q : TimerQueue) : List TimerCall → List TimerAnswer × TimerQueue
  | [] => ([], q)
  | call :: calls =>
    let (answer, q) := q.perform call
    let (answers, q) := q.performAll calls
    (answer :: answers, q)

end TimerQueue

/-- The pending timers as a set, and how many timers have been set so far. -/
structure TimerSet where
  given : TimerId := 0
  pending : Finset SetTimer := ∅

/-- How a timer may leave. -/
inductive TimerEnd where
  | fired
  | cancelled
  | cleared
deriving DecidableEq

namespace TimerSet

/-- What a set of timers may answer to a call, the timers that leave by it, and what is left. -/
inductive Answers (s : TimerSet) : TimerCall → TimerAnswer → Multiset (TimerEnd × SetTimer) → TimerSet → Prop
  | schedule (fireAt : Instant) (target : TimerTarget) :
      Answers s (.schedule fireAt target) (.scheduled s.given) 0
        ⟨s.given + 1, insert (⟨fireAt, s.given⟩, target) s.pending⟩
  | cancel {timer : SetTimer} (pending : timer ∈ s.pending) :
      Answers s (.cancel timer.1.id) (.cancelled true) {(.cancelled, timer)} ⟨s.given, s.pending.erase timer⟩
  | cancelOther {id : TimerId} (absent : ∀ timer ∈ s.pending, timer.1.id ≠ id) :
      Answers s (.cancel id) (.cancelled false) 0 s
  | fire {timer : SetTimer} {now : Instant} (pending : timer ∈ s.pending)
      (first : ∀ other ∈ s.pending, other = timer ∨ timer.1.Before other.1) (due : timer.1.fireAt ≤ now) :
      Answers s (.popDue now) (.popped (some timer.2)) {(.fired, timer)} ⟨s.given, s.pending.erase timer⟩
  | wait {now : Instant} (early : ∀ timer ∈ s.pending, now < timer.1.fireAt) :
      Answers s (.popDue now) (.popped none) 0 s
  | clear : Answers s .clear .cleared (s.pending.val.map (.cleared, ·)) ⟨s.given, ∅⟩

/-- What a set of timers may answer to calls made one after the other. -/
inductive Session : TimerSet → List TimerCall → List TimerAnswer → Multiset (TimerEnd × SetTimer) → TimerSet → Prop
  | done (s : TimerSet) : Session s [] [] 0 s
  | next {s t u : TimerSet} {call : TimerCall} {calls : List TimerCall} {answer : TimerAnswer}
      {answers : List TimerAnswer} {gone later : Multiset (TimerEnd × SetTimer)}
      (first : s.Answers call answer gone t) (rest : Session t calls answers later u) :
      Session s (call :: calls) (answer :: answers) (gone + later) u

/-- The numbers of timers that have left. -/
def numbersOf (gone : Multiset (TimerEnd × SetTimer)) : Multiset TimerId := gone.map (·.2.1.id)

/-- Each number that was given out belongs to one timer, which has left once or is pending. -/
def Accounts (s : TimerSet) (gone : Multiset (TimerEnd × SetTimer)) : Prop :=
  numbersOf gone + s.pending.val.map (·.1.id) = Multiset.range s.given

variable {s t : TimerSet} {call : TimerCall} {answer : TimerAnswer} {gone earlier : Multiset (TimerEnd × SetTimer)}

theorem Accounts.fresh (accounts : s.Accounts gone) {timer : SetTimer} (pending : timer ∈ s.pending) :
    timer.1.id < s.given := by
  have listed : timer.1.id ∈ s.pending.val.map (·.1.id) := Multiset.mem_map_of_mem (·.1.id) pending
  have given : timer.1.id ∈ numbersOf gone + s.pending.val.map (·.1.id) := Multiset.mem_add.2 (.inr listed)
  rwa [accounts, Multiset.mem_range] at given

/-- No number leaves twice. -/
theorem Accounts.nodup (accounts : s.Accounts gone) : (numbersOf gone).Nodup := by
  have all := Multiset.nodup_range s.given
  rw [← accounts] at all
  exact (Multiset.nodup_add.1 all).1

/-- A timer that leaves is no longer pending. -/
theorem Accounts.leave (accounts : s.Accounts gone) {timer : SetTimer} (pending : timer ∈ s.pending)
    (how : TimerEnd) : Accounts ⟨s.given, s.pending.erase timer⟩ (gone + {(how, timer)}) := by
  rw [Accounts, ← accounts, ← Multiset.cons_erase (show timer ∈ s.pending.val from pending), ← Finset.erase_val]
  simp only [numbersOf, Multiset.map_add, Multiset.map_singleton, Multiset.map_cons, Multiset.add_cons,
    Multiset.singleton_add, add_assoc]

theorem Answers.accounts (answers : s.Answers call answer gone t) (accounts : s.Accounts earlier) :
    t.Accounts (earlier + gone) := by
  cases answers with
  | schedule fireAt target =>
    have new : (⟨fireAt, s.given⟩, target) ∉ s.pending := fun old => Nat.lt_irrefl _ (accounts.fresh old)
    rw [Accounts, Multiset.range_succ, ← accounts, add_zero, Finset.insert_val_of_notMem new, Multiset.map_cons,
      Multiset.add_cons]
  | cancel pending => exact accounts.leave pending .cancelled
  | cancelOther => rwa [add_zero]
  | fire pending => exact accounts.leave pending .fired
  | wait => rwa [add_zero]
  | clear =>
    rw [Accounts, ← accounts]
    simp [numbersOf]

theorem Session.accounts {calls : List TimerCall} {answers : List TimerAnswer}
    (session : Session s calls answers gone t) (accounts : s.Accounts earlier) : t.Accounts (earlier + gone) := by
  induction session generalizing earlier with
  | done => rwa [add_zero]
  | next first _ ih =>
    rw [← add_assoc]
    exact ih (first.accounts accounts)

end TimerSet

namespace TimerQueue

/-- The queue holds the timers of the set. -/
structure Holds (q : TimerQueue) (s : TimerSet) : Prop where
  sound : q.Sound
  given : q.nextId = s.given
  pending : ∀ timer, timer ∈ q.toList ↔ timer ∈ s.pending

variable {q : TimerQueue} {s : TimerSet}

theorem holds_empty : Holds {} {} where
  sound := sound_empty
  given := rfl
  pending timer := by simp [toList]

/-- Cancelling a pending timer takes out this timer. -/
theorem Holds.erase (h : q.Holds s) {timer : SetTimer} (pending : timer ∈ s.pending) :
    (q.cancel timer.1.id).2.Holds ⟨s.given, s.pending.erase timer⟩ where
  sound := h.sound.cancel _
  given := (q.nextId_cancel _).trans h.given
  pending other := by
    rw [mem_cancel h.sound, Finset.mem_erase, ← h.pending other, and_comm]
    refine and_congr_left fun here => not_congr ⟨fun same => ?_, fun same => same ▸ rfl⟩
    exact h.sound.eq_of_id_eq here ((h.pending timer).2 pending) same

/-- Cancelling answers whether the number belongs to a pending timer. -/
theorem cancel_fst (h : q.Sound) (id : TimerId) : (q.cancel id).1 = true ↔ ∃ timer ∈ q.toList, timer.1.id = id := by
  unfold cancel
  cases found : q.fireAt.get? id with
  | none =>
    refine iff_of_false Bool.false_ne_true ?_
    rintro ⟨timer, here, rfl⟩
    exact Table.get?_eq_none_iff.1 found _ ((h.listed _ _).2 ⟨timer.2, here⟩)
  | some t =>
    obtain ⟨target, here⟩ := (h.listed id t).1 (Table.get?_eq_some_iff.1 found)
    exact iff_of_true (Table.contains_iff.2 ⟨target, here⟩) ⟨_, here, rfl⟩

/-- Cancelling a number that belongs to no pending timer changes nothing. -/
theorem cancel_snd_of_absent (h : q.Sound) {id : TimerId} (absent : ∀ timer ∈ q.toList, timer.1.id ≠ id) :
    (q.cancel id).2 = q := by
  refine (h.cancel id).ext h (q.nextId_cancel id) fun timer => ?_
  rw [mem_cancel h]
  exact ⟨And.left, fun here => ⟨here, absent timer here⟩⟩

/-- Nothing is taken out exactly when no timer is due. -/
theorem popDue_eq_none_iff_forall {now : Instant} :
    q.popDue now = none ↔ ∀ timer ∈ q.toList, now < timer.1.fireAt := by
  rw [popDue_eq_none_iff]
  have order := q.toList_pairwise
  cases list : q.toList with
  | nil => simp
  | cons first rest =>
    rw [list, List.pairwise_cons] at order
    simp only [List.head?_cons, Option.mem_some_iff, forall_eq', List.forall_mem_cons, iff_self_and]
    intro early timer later
    rcases order.1 timer later with before | ⟨same, -⟩
    · exact Int.lt_trans early before
    · exact same ▸ early

/-- **Every call** of the queue is answered as the set may answer it, and it holds what the set holds then. -/
theorem Holds.perform (h : q.Holds s) (call : TimerCall) :
    ∃ gone t, s.Answers call (q.perform call).1 gone t ∧ (q.perform call).2.Holds t := by
  cases call with
  | schedule fireAt target =>
    have answer : (q.perform (.schedule fireAt target)).1 = .scheduled s.given := congrArg _ h.given
    refine ⟨0, ⟨s.given + 1, insert (⟨fireAt, s.given⟩, target) s.pending⟩, ?_, h.sound.schedule,
      congrArg (· + 1) h.given, fun timer => ?_⟩
    · rw [answer]
      exact .schedule fireAt target
    · rw [Finset.mem_insert, ← h.given, ← h.pending timer]
      exact mem_schedule h.sound
  | cancel id =>
    change ∃ gone t, s.Answers _ (.cancelled (q.cancel id).1) gone t ∧ (q.cancel id).2.Holds t
    have answer := cancel_fst h.sound id
    cases pending : (q.cancel id).1 with
    | true =>
      obtain ⟨timer, here, rfl⟩ := answer.1 pending
      rw [h.pending] at here
      exact ⟨_, _, .cancel here, h.erase here⟩
    | false =>
      have absent : ∀ timer ∈ q.toList, timer.1.id ≠ id := fun timer here same =>
        Bool.false_ne_true (pending.symm.trans (answer.2 ⟨timer, here, same⟩))
      rw [cancel_snd_of_absent h.sound absent]
      exact ⟨0, s, .cancelOther fun timer here => absent timer ((h.pending timer).2 here), h⟩
  | popDue now =>
    rw [TimerQueue.perform]
    cases popped : q.popDue now with
    | none =>
      rw [popDue_eq_none_iff_forall] at popped
      exact ⟨0, s, .wait fun timer here => popped timer ((h.pending timer).2 here), h⟩
    | some found =>
      obtain ⟨target, rest⟩ := found
      obtain ⟨key, here, first, due, rfl⟩ := popDue_eq_some h.sound popped
      rw [h.pending] at here
      exact ⟨_, _, .fire here (fun other later => first other ((h.pending other).2 later)) due, h.erase here⟩
  | clear => exact ⟨_, _, .clear, sound_clear q, h.given, fun timer => by simp [TimerQueue.perform]⟩

theorem Holds.performAll (h : q.Holds s) (calls : List TimerCall) :
    ∃ gone t, TimerSet.Session s calls (q.performAll calls).1 gone t ∧ (q.performAll calls).2.Holds t := by
  induction calls generalizing q s with
  | nil => exact ⟨0, s, .done s, h⟩
  | cons call calls ih =>
    obtain ⟨gone, t, first, holds⟩ := h.perform call
    obtain ⟨later, u, rest, holds⟩ := ih holds
    exact ⟨gone + later, u, .next first rest, holds⟩

/-! ## What can be seen of the queue -/

/-- The timers that are due, in the order in which they fire. -/
def dueAt (q : TimerQueue) (now : Instant) : List SetTimer := q.toList.filter fun timer => timer.1.fireAt ≤ now

/-- If no timer is due, asking again and again does not change anything. -/
theorem performAll_of_popDue_none {now : Instant} (none : q.popDue now = none) (more : Nat) :
    q.performAll (List.replicate more (.popDue now)) = (List.replicate more (.popped .none), q) := by
  have one : q.perform (.popDue now) = (.popped .none, q) := by rw [perform, none]
  induction more with
  | zero => rfl
  | succ more ih => simp only [List.replicate_succ, performAll, one, ih]

/-- Asking as often as timers are due, and any number of times more, takes out exactly these timers. -/
theorem performAll_popDue (h : q.Sound) (now : Instant) (more : Nat) :
    let asked := q.performAll (List.replicate ((q.dueAt now).length + more) (.popDue now))
    asked.1 = (q.dueAt now).map (.popped <| some ·.2) ++ List.replicate more (.popped none) ∧
      asked.2.toList = q.toList.filter fun timer => now < timer.1.fireAt := by
  induction due : q.dueAt now generalizing q with
  | nil =>
    have early : ∀ timer ∈ q.toList, now < timer.1.fireAt := fun timer here =>
      Int.not_le.1 fun reached => List.filter_eq_nil_iff.1 due timer here (decide_eq_true reached)
    have idle := performAll_of_popDue_none (popDue_eq_none_iff_forall.2 early) more
    rw [List.length_nil, Nat.zero_add, idle]
    exact ⟨rfl, (List.filter_eq_self.2 fun timer here => decide_eq_true (early timer here)).symm⟩
  | cons timer rest ih =>
    obtain ⟨here, reached⟩ := List.mem_filter.1 (due ▸ List.mem_cons_self : timer ∈ q.dueAt now)
    cases popped : q.popDue now with
    | none => exact absurd (of_decide_eq_true reached) (Int.not_le.2 (popDue_eq_none_iff_forall.1 popped timer here))
    | some found =>
      obtain ⟨target, left⟩ := found
      obtain ⟨key, dueKey, list, sound⟩ := toList_of_popDue h popped
      have notLater : ¬ now < key.fireAt := Int.not_lt.2 dueKey
      have split : q.dueAt now = (key, target) :: left.dueAt now := by
        rw [dueAt, list, List.filter_cons_of_pos (by simpa using dueKey), dueAt]
      obtain ⟨rfl, rfl⟩ := List.cons.inj (split.symm.trans due)
      obtain ⟨answers, stay⟩ := ih sound rfl
      have one : q.perform (.popDue now) = (.popped (some target), left) := by rw [perform, popped]
      rw [list, List.filter_cons_of_neg (by simpa using notLater), List.length_cons, Nat.add_right_comm,
        List.replicate_succ, performAll, one]
      exact ⟨congrArg (List.cons _) answers, stay⟩

/-- The first timer fires at the least instant of all. -/
theorem nextFire?_eq_some_iff {t : Instant} :
    q.nextFire? = some t ↔ IsLeast {t | ∃ timer ∈ q.toList, timer.1.fireAt = t} t := by
  have order := q.toList_pairwise
  change (q.toList.head?).map (·.1.fireAt) = some t ↔ _
  cases list : q.toList with
  | nil => exact iff_of_false nofun (by rintro ⟨⟨timer, here, -⟩, -⟩; cases here)
  | cons first rest =>
    rw [list, List.pairwise_cons] at order
    have least : ∀ timer ∈ first :: rest, first.1.fireAt ≤ timer.1.fireAt := by
      intro timer here
      rcases List.mem_cons.1 here with rfl | later
      · exact Int.le_refl _
      · rcases order.1 timer later with before | ⟨same, -⟩
        · exact Int.le_of_lt before
        · exact Int.le_of_eq (congrArg _ same)
    rw [List.head?_cons, Option.map_some, Option.some.injEq]
    constructor
    · rintro rfl
      exact ⟨⟨first, List.mem_cons_self, rfl⟩, fun _ ⟨timer, here, eq⟩ => eq ▸ least timer here⟩
    · rintro ⟨⟨timer, here, rfl⟩, lower⟩
      exact Instant.ext (Int.le_antisymm (least timer here) (lower ⟨first, List.mem_cons_self, rfl⟩))

/-- What can be seen of a queue that holds the timers of a set. -/
structure Shows (q : TimerQueue) (s : TimerSet) : Prop where
  size : q.size = s.pending.card
  nextFire : ∀ t, q.nextFire? = some t ↔ IsLeast {t | ∃ timer ∈ s.pending, timer.1.fireAt = t} t
  /-- Both tables hold the timers of the set. -/
  byTime : ∀ key target, q.byTime.get? key = some target ↔ (key, target) ∈ s.pending
  byNumber : ∀ id t, q.fireAt.get? id = some t ↔ ∃ target, (⟨t, id⟩, target) ∈ s.pending
  /-- Asking until nothing is due yields the timers that are due, in their order, and leaves the others. -/
  drained : ∀ now, ∃ due : List SetTimer, due.Pairwise (·.1.Before ·.1) ∧
    (∀ timer, timer ∈ due ↔ timer ∈ s.pending ∧ timer.1.fireAt ≤ now) ∧
    ∀ more, let asked := q.performAll (List.replicate (due.length + more) (.popDue now))
      asked.1 = due.map (.popped <| some ·.2) ++ List.replicate more (.popped none) ∧
        ∀ timer, timer ∈ asked.2.toList ↔ timer ∈ s.pending ∧ now < timer.1.fireAt

theorem Holds.shows (h : q.Holds s) : q.Shows s where
  size := by
    have same : q.toList.toFinset = s.pending := Finset.ext fun timer => by rw [List.mem_toFinset, h.pending]
    rw [← same, List.toFinset_card_of_nodup q.toList_nodup]
    rfl
  nextFire t := by simp only [nextFire?_eq_some_iff, h.pending]
  byTime key target := by rw [Table.get?_eq_some_iff, ← h.pending]; rfl
  byNumber id t := by simp only [Table.get?_eq_some_iff, h.sound.listed, h.pending]
  drained now := by
    refine ⟨q.dueAt now, q.toList_pairwise.filter _, fun timer => ?_, fun more => ?_⟩
    · rw [dueAt, List.mem_filter, h.pending, decide_eq_true_eq]
    · obtain ⟨answers, stay⟩ := performAll_popDue h.sound now more
      refine ⟨answers, fun timer => ?_⟩
      rw [stay, List.mem_filter, h.pending, decide_eq_true_eq]

/-- **A timer queue is a set of timers.** Whatever its owner asks, beginning with no timers, is answered as the
set may answer it: timers are set under new numbers, a timer is taken back exactly if it is pending, and what fires
is the first of the pending timers if it is due, and nothing otherwise. Each number that was given out belongs
to one timer, which is pending or has left by firing, by being taken back or by being forgotten. No number leaves
twice, so no timer fires twice, and none after it was taken back or forgotten. What can be seen of the queue and of
its two tables is the set, and asking until nothing is due yields the timers that are due in their order. -/
theorem performAll_refines_set (calls : List TimerCall) :
    ∃ gone s, TimerSet.Session {} calls (performAll {} calls).1 gone s ∧ s.Accounts gone ∧
      (TimerSet.numbersOf gone).Nodup ∧ (performAll {} calls).2.Shows s := by
  obtain ⟨gone, s, session, holds⟩ := holds_empty.performAll calls
  have none : TimerSet.Accounts {} 0 := by simp [TimerSet.Accounts, TimerSet.numbersOf]
  have accounts := session.accounts none
  rw [zero_add] at accounts
  exact ⟨gone, s, session, accounts, accounts.nodup, holds.shows⟩

end TimerQueue

end AsyncStage
