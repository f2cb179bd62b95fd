import AsyncStage.Proofs.Stage.Balance
import AsyncStage.Proofs.Stage.Discards

/-!
# What the metrics say

Each sum that a stage has measured is the length of a list that its history or its state shows. It is
so however the stage began, after everything that is done with it, and also when it has ended. What is
measured is added up where it happens; the sums are read off the accounts, which are always even.
-/

namespace AsyncStage

namespace Account

theorem total_counter (c : Counter) (ms : List Measurement) : (counter c).total ms = c.total ms := by
  induction ms with
  | nil => rfl
  | cons m ms ih =>
    rw [total, List.map_cons, List.foldr_cons, ← total, ih, Counter.total, Counter.total, List.filterMap_cons,
      Measurement.booked]
    cases c.share? m with
    | none => exact Int.zero_add _
    | some amount => rfl

theorem total_attemptTimes (ms : List Measurement) :
    attemptTimes.total ms = (ms.filterMap Measurement.attemptTime?).length := by
  induction ms with
  | nil => rfl
  | cons m ms ih =>
    rw [total, List.map_cons, List.foldr_cons, ← total, ih, List.filterMap_cons, Measurement.booked]
    cases m.attemptTime? with
    | none => exact Int.zero_add _
    | some time => simp [Int.add_comm]

end Account

namespace Stage

variable {s t : Stage}

/-- The balance of an account is what was measured, less what was asked for. -/
theorem balance_eq (s : Stage) (a : Account) :
    s.balance a = a.total s.measurements - s.events.countP (Event.asks a) := by
  unfold balance measurements
  induction s.events with
  | nil => rfl
  | cons v events ih =>
    rw [List.map_cons, List.foldr_cons, ih, List.countP_cons]
    cases shown : v.measurement? with
    | some m =>
      obtain rfl : v = .measured m := by cases v <;> cases shown; rfl
      rw [List.filterMap_cons_some shown, Account.total, Account.total, List.map_cons, List.foldr_cons]
      simp only [Event.weight, Event.asks, Bool.false_eq_true, if_false]
      omega
    | none =>
      have asked : v.weight a = if v.asks a then -1 else 0 := by cases v <;> first | rfl | cases shown
      rw [List.filterMap_cons_none shown, asked]
      split <;> omega

namespace Balanced

variable {α : Type} {a : Account} {f : Event → Option α} {q : α → Bool}

/-- What was measured is what a list shows that is asked for, and what there is to show besides. -/
theorem booked_eq (b : s.Balanced) (asks : ∀ v, v.asks a = ((f v).map q).getD false) :
    a.total s.measurements = ((s.events.filterMap f).filter q).length + s.shown a := by
  have even := b.even a
  have asked : s.events.countP (Event.asks a) = ((s.events.filterMap f).filter q).length := by
    rw [← List.countP_eq_length_filter, List.countP_filterMap]
    exact List.countP_congr fun v _ => by rw [asks v]
  rw [gap, balance_eq, asked] at even
  omega

/-- Everything in the list is asked for. -/
theorem booked_length (b : s.Balanced) (asks : ∀ v, v.asks a = (f v).isSome) :
    a.total s.measurements = (s.events.filterMap f).length + s.shown a := by
  have asked : ∀ v, v.asks a = ((f v).map fun _ => true).getD false := fun v => by
    rw [asks v]
    cases f v <;> rfl
  rw [b.booked_eq asked, List.filter_true]

end Balanced

namespace OffBy

variable {a : Account} {off : Account → Int}

/-- Nothing is asked for. -/
theorem booked_shown (b : s.OffBy off) (unasked : ∀ v : Event, v.asks a = false) :
    a.total s.measurements = s.shown a + off a := by
  have even := b.even a
  rw [gap, balance_eq, List.countP_eq_zero.2 fun v _ => Bool.eq_false_iff.1 (unasked v)] at even
  omega

/-- What was recorded of entries in flight is their number. -/
theorem total_inFlight (b : s.OffBy off) (even : off (.counter .inFlight) = 0) :
    Counter.inFlight.total s.measurements = s.queue.size := by
  rw [← Account.total_counter, b.booked_shown fun v => by cases v <;> rfl, even]
  exact Int.add_zero _

end OffBy

/-- What the metrics of a stage say. The stage began as `s`. -/
structure Metered (s t : Stage) : Prop where
  inFlight : Counter.inFlight.total t.measurements = t.queue.size
  invocations : Counter.invocations.total t.measurements = t.invoked.length
  attemptTimes : (t.measurements.filterMap Measurement.attemptTime?).length = t.applied.length
  itemsOut : Counter.itemsOut.total t.measurements = t.output.records.length
  timeouts : Counter.timeouts.total t.measurements = (t.resolved.filter fun x => x.2.isTimeout).length
  /-- The error that ended the stage has no fallback. -/
  fallbacks : Counter.fallbacks.total t.measurements + (if t.status.failure?.isSome then 1 else 0) =
    (t.resolved.filter fun x => x.2.error?.isSome).length
  /-- An entry is resolved once. -/
  once : t.resolvedIds.Nodup
  retries : Counter.retries.total t.measurements =
    (Counter.invocations.total t.measurements - t.admittedRecords.length) + (t.waiting.length + t.discarded.length)
  /-- The retries that are neither started nor awaited are those that were discarded. -/
  discarded : t.discarded.Nodup ∧ ∀ p, p ∈ t.discarded ↔ ∃ u v, DiscardedIn s u v t p

theorem metered {b : Builder} {now : Instant} (built : b.build now = .ok s) (actions : List Action) :
    Metered s (s.run actions) := by
  have steps := run_steps (build_sound built) actions
  have kept := Kept.run built actions
  have balanced := Balanced.preserved.run (.build built) actions
  have length := length_scheduled built steps
  generalize s.run actions = t at steps kept balanced length
  have invocations := balanced.booked_length (a := .counter .invocations) (f := Event.invocation?) fun v => by
    cases v <;> rfl
  have retries := balanced.booked_length (a := .counter .retries) (f := Event.scheduled?) fun v => by cases v <;> rfl
  have started : t.started.length = t.invoked.length := List.length_map _
  simp only [Account.total_counter] at invocations retries
  refine {
    inFlight := ?_
    invocations := invocations.trans (Int.add_zero _)
    attemptTimes := ?_
    itemsOut := ?_
    timeouts := ?_
    fallbacks := ?_
    once := kept.resolvedIds_nodup
    retries := ?_
    discarded := ⟨nodup_discarded built steps, fun p => mem_discarded_iff built steps⟩ }
  · exact balanced.total_inFlight rfl
  · have times := balanced.booked_length (a := .attemptTimes) (f := Event.applied?) fun v => by cases v <;> rfl
    rw [Account.total_attemptTimes] at times
    exact Int.ofNat.inj (times.trans (Int.add_zero _))
  · rw [← Account.total_counter, balanced.booked_shown fun v => by cases v <;> rfl]
    exact Int.add_zero _
  · rw [← Account.total_counter, balanced.booked_eq (f := Event.resolved?) (q := fun x => x.2.isTimeout) fun v => by
      cases v <;> rfl]
    exact Int.add_zero _
  · have fallbacks := balanced.booked_eq (a := .counter .fallbacks) (f := Event.resolved?)
      (q := fun x => x.2.error?.isSome) fun v => by
        cases v with
        | resolved id result => exact Bool.or_false _
        | _ => rfl
    rw [Account.total_counter, shown] at fallbacks
    rw [fallbacks, resolved]
    split <;> omega
  · have scheduled : (t.events.filterMap Event.scheduled?).length = t.scheduled.length := rfl
    have invoked : (t.events.filterMap Event.invocation?).length = t.invoked.length := rfl
    simp only [shown] at retries invocations
    omega

/-- A stage like the patient one that has no fallback and emits records as they are resolved. -/
def brittle : Builder :=
  { patient with config := { patient.config with mode := .unordered }, fallback := none }

/-- The time of the first record is up during its second attempt, which ends the stage while the second
record awaits its retry. The third record has been emitted before. -/
def lateFailure : List Action :=
  firstBad ++ [.poll, .undergo (.clockReads { nanos := 500000000 }), .offer ⟨"b", none⟩ [], .offer ⟨"c", none⟩ [],
    .undergo (.completes ⟨2, 1, .values ["C", "D"]⟩), .undergo (.clockReads { nanos := 950000000 }),
    .undergo (.completes ⟨1, 1, .failure ⟨"down"⟩⟩), .poll, .undergo (.clockReads { nanos := 1010000000 }), .poll]

/-- **The metrics match.** However a stage began, after everything that is done with it, and also when it
has ended, the sums that it has measured are those of its entries, attempts, answers, results and
outputs. The retries that were scheduled are the attempts after the first ones, the retries that are
awaited, and those that were discarded when the time of a record was up, the input ended or the stage
did. -/
theorem metrics_match {b : Builder} {now : Instant} {error : Option StageError} (begins : b.Begins now s error) :
    ∃ s₀, b.build now = .ok s₀ ∧ ∀ actions, Metered s₀ (s.run actions) := by
  obtain ⟨s₀, before, built, rfl, -, -⟩ := begins.exists_run
  refine ⟨s₀, built, fun actions => ?_⟩
  rw [← run_append]
  exact metered built (before ++ actions)

/-- The stage has failed, and the retry that the second record awaited is discarded. -/
theorem metrics_match_lateFailure : ∃ s, brittle.build .epoch = .ok s ∧ Metered s (s.run lateFailure) ∧
    (s.run lateFailure).status = .failed ⟨"async_wait", "a", .timeout (.ofMillis 1010) 2⟩ ∧
    (s.run lateFailure).invoked.length = 4 ∧ (s.run lateFailure).applied.length = 3 ∧
    (s.run lateFailure).output.records.length = 2 ∧ (s.run lateFailure).discarded = [(1, 2)] ∧
    Counter.inFlight.total (s.run lateFailure).measurements = 0 ∧
    Counter.retries.total (s.run lateFailure).measurements = 2 ∧
    Counter.timeouts.total (s.run lateFailure).measurements = 1 ∧
    Counter.fallbacks.total (s.run lateFailure).measurements = 0 := by
  have built : brittle.build .epoch = .ok (start brittle tenths .epoch) := rfl
  obtain ⟨s₀, built', all⟩ := metrics_match (.built built)
  obtain rfl := Except.ok.inj (built.symm.trans built')
  exact ⟨_, built, all lateFailure, by decide +kernel, by decide +kernel, by decide +kernel, by decide +kernel,
    by decide +kernel, by decide +kernel, by decide +kernel, by decide +kernel, by decide +kernel⟩

end Stage

end AsyncStage
