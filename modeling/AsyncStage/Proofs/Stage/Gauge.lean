import AsyncStage.Proofs.Stage.Metrics

/-!
# The entries in flight of successive stages

The stages of a step record under one name, so what one of them leaves behind is still there when the next
one begins. A stage that is closed, or that fails, takes out of the sum of the entries in flight what it
discards. A stage that is dropped while it runs discards its entries as well, but records nothing: from then
on the sum is too high by the number of these entries, whatever the later stages do.
-/

namespace AsyncStage

/-- How a stage is disposed of. -/
inductive Ending where
  /-- It is closed and taken apart for what it has emitted. -/
  | takenApart
  | dropped
deriving DecidableEq

/-- What becomes of a stage by this. -/
def Ending.apply : Ending → Stage → Stage
  | .takenApart, s => s.close
  | .dropped, s => s.drop

/-- The entries that are discarded by this without being taken out of the sum. -/
def Ending.loses : Ending → Stage → Nat
  | .takenApart, _ => 0
  | .dropped, s => s.queue.size

/-- The stages of a step, of which at most one is alive. -/
structure Lineage where
  /-- Those that are gone, the latest first: what they were at last, and how each of them ended. -/
  gone : List (Stage × Ending) := []
  alive : Option Stage := none

namespace Lineage

/-- What all stages have recorded. -/
def recorded (l : Lineage) : List Measurement :=
  (l.gone.flatMap fun p => (p.2.apply p.1).measurements) ++ (l.alive.map Stage.measurements).getD []

/-- The sum of what was recorded of entries in flight. -/
def gauge (l : Lineage) : Int := Counter.inFlight.total l.recorded

/-- The entries in the queue of the stage that is alive. -/
def inFlight (l : Lineage) : Nat := (l.alive.map fun s => s.queue.size).getD 0

/-- The entries that were in flight when their stage was dropped. -/
def lost (l : Lineage) : Nat := l.gone.foldr (fun p lost => p.2.loses p.1 + lost) 0

/-- One thing that happens to the stages of the step `stepId`. -/
inductive Goes (stepId : String) : Lineage → Lineage → Prop where
  /-- A stage is built, or restored. -/
  | begins {gone : List (Stage × Ending)} {b : Builder} {now : Instant} {s : Stage}
      (own : b.config.stepId = stepId) (begins : b.Begins now s none) : Goes stepId ⟨gone, none⟩ ⟨gone, some s⟩
  /-- A stage is dropped because it could not be restored to the end. -/
  | spoilt {gone : List (Stage × Ending)} {b : Builder} {now : Instant} {s : Stage} {error : StageError}
      (own : b.config.stepId = stepId) (begins : b.Begins now s (some error)) :
      Goes stepId ⟨gone, none⟩ ⟨(s, .dropped) :: gone, none⟩
  /-- An operation of the stage is called, or something happens to its mailbox or its clock. -/
  | acts {gone : List (Stage × Ending)} (s : Stage) (a : Action) :
      Goes stepId ⟨gone, some s⟩ ⟨gone, some (s.perform a).1⟩
  /-- What has been emitted is taken out of the output, or the output is changed in another way. -/
  | collects {gone : List (Stage × Ending)} (s : Stage) (output : Output) :
      Goes stepId ⟨gone, some s⟩ ⟨gone, some { s with output }⟩
  | ends {gone : List (Stage × Ending)} (s : Stage) (how : Ending) :
      Goes stepId ⟨gone, some s⟩ ⟨(s, how) :: gone, none⟩

/-- What may become of a step that no stage has had yet. -/
def Reached (stepId : String) : Lineage → Prop := Relation.ReflTransGen (Goes stepId) {}

end Lineage

theorem Counter.total_append (c : Counter) (ms ms' : List Measurement) :
    c.total (ms ++ ms') = c.total ms + c.total ms' := by
  simp only [total, List.filterMap_append, ← List.sum_eq_foldr, List.sum_append]

namespace Stage

variable {s : Stage}

theorem isRunning_close (s : Stage) : s.close.isRunning = false := by
  unfold close
  split
  · exact congrArg Status.isRunning (teardown_ends s .closed).status
  next stopped => exact Bool.not_eq_true _ ▸ stopped

/-- A sound stage whose account of the entries in flight is even. That of the emitted records need not be, as
these may have been taken out of the output. -/
structure Counted (s : Stage) : Prop where
  sound : s.Sound
  begun : s.Begun
  even : s.gap (.counter .inFlight) = 0

namespace Counted

theorem of_begins {b : Builder} {now : Instant} {error : Option StageError} (begins : b.Begins now s error) :
    s.Counted := by
  obtain ⟨s₀, before, built, rfl, -, -⟩ := begins.exists_run
  have balanced := Balanced.preserved.run (.build built) before
  exact ⟨balanced.sound, balanced.begun, balanced.even _⟩

theorem account (c : s.Counted) : s.OffBy s.gap := ⟨c.sound, c.begun, fun _ => rfl⟩

theorem perform (c : s.Counted) (a : Action) : (s.perform a).1.Counted := by
  have after := OffBy.preserved.perform c.account a
  exact ⟨after.sound, after.begun, (after.even _).trans c.even⟩

/-- The entries in flight have nothing to do with the output. -/
theorem collect (c : s.Counted) (output : Output) : ({ s with output } : Stage).Counted where
  sound := c.sound.collect output s.history
  begun := c.begun
  even := by
    rw [gap_output, c.even, if_neg (by decide)]
    rfl

theorem total (c : s.Counted) : Counter.inFlight.total s.measurements = s.queue.size :=
  c.account.total_inFlight c.even

/-- A stage that has been closed has recorded that nothing is in flight. -/
theorem total_close (c : s.Counted) : Counter.inFlight.total s.close.measurements = 0 := by
  have closed : s.close.Counted := c.perform .close
  have nothing : s.close.queue.toList = [] := closed.sound.ended s.isRunning_close
  rw [closed.total, closed.sound.queue.size, nothing]
  rfl

end Counted

/-- A stage that is dropped records nothing more. -/
theorem measurements_drop (s : Stage) : s.drop.measurements = s.measurements := by
  have kept : ∀ (es : List RecordEntry) (s : Stage), (es.foldl cancelAttempt s).measurements = s.measurements := by
    intro es
    induction es with
    | nil => exact fun _ => rfl
    | cons e es ih =>
      intro s
      refine (ih _).trans ?_
      unfold cancelAttempt
      split
      · exact events_note_filterMap rfl
      · rfl
  exact kept _ s

end Stage

namespace Lineage

variable {stepId : String} {l l' : Lineage}

/-- The entries of every stage were counted when it was looked at last. -/
structure Settled (l : Lineage) : Prop where
  gone : ∀ p ∈ l.gone, p.1.Counted
  alive : ∀ s ∈ l.alive, s.Counted

/-- Between two stages there are only those that are gone. -/
theorem Settled.of_gone {gone : List (Stage × Ending)} (counted : ∀ p ∈ gone, p.1.Counted) : Settled ⟨gone, none⟩ :=
  ⟨counted, fun s here => absurd here (Option.not_mem_none s)⟩

theorem Settled.with_alive {gone : List (Stage × Ending)} {s : Stage} (counted : ∀ p ∈ gone, p.1.Counted)
    (here : s.Counted) : Settled ⟨gone, some s⟩ :=
  ⟨counted, fun _ same => Option.some.inj same ▸ here⟩

/-- Whatever happens to the stages, their entries are counted. -/
theorem Settled.goes (h : l.Settled) (goes : Goes stepId l l') : l'.Settled := by
  cases goes with
  | begins own begins => exact .with_alive h.gone (.of_begins begins)
  | spoilt own begins => exact .of_gone (List.forall_mem_cons.2 ⟨.of_begins begins, h.gone⟩)
  | acts s a => exact .with_alive h.gone ((h.alive s rfl).perform a)
  | collects s output => exact .with_alive h.gone ((h.alive s rfl).collect output)
  | ends s how => exact .of_gone (List.forall_mem_cons.2 ⟨h.alive s rfl, h.gone⟩)

theorem Reached.settled (reached : Reached stepId l) : l.Settled := by
  induction reached with
  | refl => exact .of_gone fun p here => absurd here List.not_mem_nil
  | tail _ last ih => exact ih.goes last

/-- A stage that is gone has left behind what was in flight when it was dropped. -/
theorem total_ending {s : Stage} (c : s.Counted) (how : Ending) :
    Counter.inFlight.total (how.apply s).measurements = how.loses s := by
  cases how with
  | takenApart => exact c.total_close
  | dropped => exact (congrArg _ s.measurements_drop).trans c.total

theorem total_gone {gone : List (Stage × Ending)} (counted : ∀ p ∈ gone, p.1.Counted) :
    Counter.inFlight.total (gone.flatMap fun p => (p.2.apply p.1).measurements) = (⟨gone, none⟩ : Lineage).lost := by
  induction gone with
  | nil => rfl
  | cons p gone ih =>
    obtain ⟨here, others⟩ := List.forall_mem_cons.1 counted
    rw [List.flatMap_cons, Counter.total_append, total_ending here, ih others]
    rfl

/-- **The gauge** is too high by what was in flight in stages that were dropped. -/
theorem Settled.gauge_eq (h : l.Settled) : l.gauge = l.inFlight + l.lost := by
  obtain ⟨gone, alive⟩ := l
  have left : Counter.inFlight.total (gone.flatMap fun p => (p.2.apply p.1).measurements) =
    (⟨gone, alive⟩ : Lineage).lost := total_gone h.gone
  rw [gauge, recorded, Counter.total_append, left, Int.add_comm]
  cases alive with
  | none => rfl
  | some s => exact congrArg (· + _) (h.alive s rfl).total

theorem lost_eq_zero_iff {gone : List (Stage × Ending)} {alive : Option Stage} :
    (⟨gone, alive⟩ : Lineage).lost = 0 ↔ ∀ s, (s, .dropped) ∈ gone → s.queue.size = 0 := by
  induction gone with
  | nil => simp [lost]
  | cons p gone ih =>
    obtain ⟨s, how⟩ := p
    have parts : (⟨(s, how) :: gone, alive⟩ : Lineage).lost = 0 ↔
        how.loses s = 0 ∧ (⟨gone, alive⟩ : Lineage).lost = 0 := Nat.add_eq_zero_iff
    rw [parts, ih]
    cases how with
    | takenApart => simp [Ending.loses]
    | dropped => simp [Ending.loses, or_imp, forall_and]

/-- A stage can do all of a run while it is alive. -/
theorem Reached.run {gone : List (Stage × Ending)} {s : Stage} (reached : Reached stepId ⟨gone, some s⟩)
    (actions : List Action) : Reached stepId ⟨gone, some (s.run actions)⟩ := by
  induction actions generalizing s with
  | nil => exact reached
  | cons a actions ih => exact ih (reached.tail (.acts s a))

/-- How far the gauge is right. -/
structure Gauged (l : Lineage) : Prop where
  exceeds : l.gauge = l.inFlight + l.lost
  exact_iff : l.gauge = l.inFlight ↔ ∀ s, (s, .dropped) ∈ l.gone → s.entries = []
  /-- Dropping a stage that has been closed, or has failed, does no harm. -/
  ended : ∀ s how, (s, how) ∈ l.gone → s.isRunning = false → s.entries = []

theorem Settled.size_eq_zero_iff (h : l.Settled) {s : Stage} {how : Ending} (here : (s, how) ∈ l.gone) :
    s.queue.size = 0 ↔ s.entries = [] := by
  rw [(h.gone _ here).sound.queue.size, List.length_eq_zero_iff, Stage.entries]

/-- **The gauge counts the dropped.** Whatever happens to the stages of a step, the sum of what they have
recorded of entries in flight is the number of entries in the queue of the stage that is alive, and the number
of those that were in the queue of a stage when it was dropped. It is right as long as no stage is dropped
while something is in flight in it. -/
theorem gauge_counts_dropped (reached : Reached stepId l) : l.Gauged := by
  have settled := reached.settled
  refine { exceeds := settled.gauge_eq, exact_iff := ?_, ended := ?_ }
  · have right : l.gauge = l.inFlight ↔ l.lost = 0 := by
      rw [settled.gauge_eq]
      omega
    rw [right, lost_eq_zero_iff]
    exact forall₂_congr fun s dropped => settled.size_eq_zero_iff dropped
  · intro s how here stopped
    exact (settled.gone _ here).sound.ended stopped

/-- A stage that is dropped with a record and a watermark in flight, and the one that comes after it. -/
def bereaved : Lineage where
  gone := [((Stage.start (Stage.oneSlow .unordered) .never .epoch).run Stage.slowFirst, .dropped)]
  alive := some ((Stage.start (Stage.oneSlow .ordered) .never .epoch).run Stage.slowFirst)

theorem reached_bereaved : Reached "async_wait" bereaved := by
  have first : (Stage.oneSlow .unordered).build .epoch = .ok (Stage.start (Stage.oneSlow .unordered) .never .epoch) :=
    rfl
  have second : (Stage.oneSlow .ordered).build .epoch = .ok (Stage.start (Stage.oneSlow .ordered) .never .epoch) := rfl
  have begun : Goes "async_wait" {} ⟨[], some _⟩ := .begins rfl (.built first)
  have dropped := (Reached.run (.single begun) Stage.slowFirst).tail (.ends _ .dropped)
  have again : Goes "async_wait" ⟨bereaved.gone, none⟩ ⟨bereaved.gone, some _⟩ := .begins rfl (.built second)
  exact Reached.run (dropped.tail again) Stage.slowFirst

/-- The stage that is alive has three entries in flight, and the gauge says five. -/
theorem gauge_counts_dropped_bereaved : Reached "async_wait" bereaved ∧ bereaved.Gauged ∧ bereaved.gauge = 5 ∧
    bereaved.inFlight = 3 ∧ bereaved.lost = 2 :=
  ⟨reached_bereaved, gauge_counts_dropped reached_bereaved, by decide +kernel, by decide +kernel, by decide +kernel⟩

/-- A stage that was dropped during the only attempt of its only record. -/
def orphaned : Lineage where
  gone := [((Stage.start (Stage.oneSlow .ordered) .never .epoch).run [.offer ⟨"slow", none⟩ []], .dropped)]

/-- The gauge says that one entry is in flight, and there is no stage that could have it. -/
theorem not_always_gauge_inFlight :
    ¬ ∀ (stepId : String) (l : Lineage), Reached stepId l → l.gauge = l.inFlight := by
  intro all
  have built : (Stage.oneSlow .ordered).build .epoch = .ok (Stage.start (Stage.oneSlow .ordered) .never .epoch) := rfl
  have reached : Reached "async_wait" orphaned :=
    (Reached.run (.single (.begins rfl (.built built))) [.offer ⟨"slow", none⟩ []]).tail (.ends _ .dropped)
  have left : orphaned.gauge = 1 := by decide +kernel
  exact absurd ((all _ _ reached).symm.trans left) (by decide)

end Lineage

end AsyncStage
