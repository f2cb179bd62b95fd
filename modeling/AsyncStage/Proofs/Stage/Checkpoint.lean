import AsyncStage.Checkpoint.Publish
import AsyncStage.Proofs.Checkpoint.Agree
import AsyncStage.Proofs.Stage.FailStop
import AsyncStage.Proofs.Stage.Restart

/-!
# Checkpoints of a stage

A checkpoint polls the stage, writes what is in flight then and discards what the step has
written before. `Checkpointed` lists its three outcomes. A snapshot is published: the store keeps
it as the only one of its step, and what it leaves out has been emitted. Or polling fails and
nothing is written. Or the store cannot hold the number: then it stays as it was, and the stage
has been polled and runs on.
-/

namespace AsyncStage

open Snapshot (Bytes)

/-! ## Publishing -/

namespace Store.Keeps

variable {s : Store} {limit : CheckpointId → Bool} {t : SnapshotTable} {id : CheckpointId}

theorem publish (h : s.Keeps limit t) (fits : limit id = true) (step : String) (state : Bytes) :
    ∃ s', Stage.publish step id state s = (s', .ok ()) ∧
      s'.Keeps limit ((t.put step id state).discard step id) := by
  obtain ⟨s₁, written, keeps⟩ := h.write fits step state
  obtain ⟨s₂, discarded, keeps⟩ := keeps.discardBefore fits step
  exact ⟨s₂, by simp only [Stage.publish, written, discarded], keeps⟩

theorem publish_beyond (h : s.Keeps limit t) (beyond : limit id = false) (step : String) (state : Bytes) :
    Stage.publish step id state s = (s, .error .store) := by
  simp only [Stage.publish, h.write_beyond beyond]

end Store.Keeps

namespace SnapshotTable

variable {t : SnapshotTable} {step : String} {id : CheckpointId}

/-- Where no number of the step is greater, publishing leaves the snapshot that was written. -/
theorem discard_put (newest : ∀ id', (t step id').isSome = true → id' ≤ id) (state : Bytes) (id' : CheckpointId) :
    (t.put step id state).discard step id step id' = if id' = id then some state else none := by
  simp only [discard, put, true_and]
  rcases Nat.lt_trichotomy id' id with lt | rfl | gt
  · rw [if_pos lt, if_neg (Nat.ne_of_lt lt)]
  · rw [if_neg (Nat.lt_irrefl id'), if_pos rfl, if_pos rfl]
  · rw [if_neg (Nat.lt_asymm gt), if_neg (Nat.ne_of_gt gt), if_neg (Nat.ne_of_gt gt)]
    have absent : ¬ (t step id').isSome = true := fun here => Nat.not_le.2 gt (newest id' here)
    simpa using absent

theorem discard_put_of_ne {step' : String} (other : step' ≠ step) (state : Bytes) :
    (t.put step id state).discard step id step' = t step' := by
  funext id'
  simp [discard, put, other]

end SnapshotTable

namespace Stage

variable {s t : Stage}

/-! ## Outcomes -/

/-- The snapshot of `t` is the only one of its step in `store'`, which differs from `store` in nothing
else, and what it leaves out has been emitted. -/
structure Published (t : Stage) (stepId : String) (id : CheckpointId) (store store' : Store) : Prop where
  sound : store'.Sound
  only : ∀ id', store'.table stepId id' = if id' = id then some t.snapshot.2 else none
  latest : store'.latest? stepId = some (id, t.snapshot.2)
  others : ∀ step, step ≠ stepId → store'.table step = store.table step
  decodes : (∀ e ∈ t.pendingElements, Snapshot.Writable e) → Snapshot.decode t.snapshot.2 = .ok t.pendingElements
  /-- Each admitted element is emitted already or in the snapshot, and once only. -/
  whole : ((t.released ++ t.entries).map Entry.label).Perm t.admitted
  rendered : t.Rendered
  restores : ∀ b : Builder, b.config.stepId = stepId →
    ∀ now around, b.restoreFrom now store' around = b.restore now t.snapshot.2 around

/-- What may come of a checkpoint: the stage and the store that it leaves, and its answer. -/
inductive Checkpointed (s : Stage) (stepId : String) (id : CheckpointId) (store : Store) :
    Stage × Store × Except StageError Unit → Prop where
  | published {t : Stage} {store' : Store} (polled : s.poll = (t, .ok ())) (holds : store.canHold id = true)
      (published : (t.measure .snapshotTimed).Published stepId id store store') :
    Checkpointed s stepId id store (t.measure .snapshotTimed, store', .ok ())
  | ended {t : Stage} {error : StageError} (polled : s.poll = (t, .error error))
      (why : (∃ failure, error = .entryFailed failure) ∨ error = .closed stepId) :
    Checkpointed s stepId id store (t, store, .error error)
  | refused {t : Stage} (polled : s.poll = (t, .ok ())) (beyond : store.canHold id = false)
      (running : t.isRunning = true) :
    Checkpointed s stepId id store (t.measure .snapshotTimed, store, .error (.recovery .store))

theorem Kept.published (h : t.Kept) (running : t.isRunning = true) (few : t.pendingElements.length < 2 ^ 64)
    {stepId : String} {id : CheckpointId} {store store' : Store}
    (newest : ∀ id', (store.table stepId id').isSome = true → id' ≤ id)
    (keeps : store'.Keeps store.canHold ((store.table.put stepId id t.snapshot.2).discard stepId id)) :
    t.Published stepId id store store' := by
  have only : ∀ id', store'.table stepId id' = if id' = id then some t.snapshot.2 else none := fun id' => by
    rw [keeps.table, SnapshotTable.discard_put newest]
  have latest : store'.latest? stepId = some (id, t.snapshot.2) := by
    refine (keeps.table ▸ keeps.isLatest stepId).unique ⟨?_, fun later lt => ?_⟩
    · rw [only, if_pos rfl]
    · rw [only, if_neg (Nat.ne_of_gt lt)]
  obtain ⟨lost, none, perm, -⟩ := h.lined.line
  rw [none running, List.append_nil] at perm
  exact {
    sound := keeps.sound
    only := only
    latest := latest
    others := fun step other => by rw [keeps.table, SnapshotTable.discard_put_of_ne other]
    decodes := fun writable => Snapshot.decode_encode few writable
    whole := perm
    rendered := h.rendered
    restores := fun b same now around => by rw [Builder.restoreFrom, same, latest] }

/-- However a stage began, what it has in flight can be counted in eight bytes. -/
theorem length_pendingElements_lt_of_begins {b : Builder} {now : Instant} {error : Option StageError}
    (begins : b.Begins now s error) (steps : Steps s t) : t.pendingElements.length < 2 ^ 64 := by
  obtain ⟨s₀, before, built, rfl, -, -⟩ := begins.exists_run
  exact length_pendingElements_lt built ((run_steps (build_sound built) before).trans steps)

/-- **A checkpoint publishes one consistent snapshot.** Let a store hold any snapshots, of which none of this
step has a greater number. A checkpoint that succeeds leaves its snapshot as the only one of the step and
the other steps alone; the snapshot is that of the stage it leaves, and everything else that was
admitted has been emitted. A stage restored from the store is the one restored from these bytes. A
checkpoint that fails leaves the store as it was. If this is because the store cannot hold the
number, the stage has been polled and runs on. -/
theorem checkpoint_consistent {b : Builder} {now : Instant} {error : Option StageError}
    (begins : b.Begins now s error) (actions : List Action) {store : Store} (sound : store.Sound)
    {id : CheckpointId} (newest : ∀ id', (store.table b.config.stepId id').isSome = true → id' ≤ id) :
    Checkpointed (s.run actions) b.config.stepId id store ((s.run actions).checkpoint id store) := by
  have steps := run_steps begins.kept.sound actions
  have kept := begins.kept.steps steps
  have stepId := begins.stepId actions
  generalize s.run actions = u at steps kept stepId
  have goes := poll_goes kept.sound
  unfold checkpoint
  match polled : u.poll with
  | (t, .error error) => exact .ended polled (stepId ▸ poll_error polled)
  | (t, .ok ()) =>
    rw [polled] at goes
    have running := goes.isRunning (poll_ok polled).2
    have taken := goes.steps.tail (.measured .snapshotTimed rfl)
    have kept' := kept.steps taken
    have stepId' : (t.measure .snapshotTimed).stepId = b.config.stepId := by
      rw [← stepId]
      exact congrArg Setup.stepId (fixed_of_steps taken).setup
    simp only [snapshot, stepId']
    cases holds : store.canHold id with
    | true =>
      obtain ⟨store', done, keeps⟩ := sound.keeps.publish holds b.config.stepId
        (Snapshot.encode t.pendingElements)
      simp only [done]
      exact .published polled holds (kept'.published running
        (length_pendingElements_lt_of_begins begins (steps.trans taken)) newest keeps)
    | false =>
      simp only [sound.keeps.publish_beyond holds]
      exact .refused polled holds running

/-- An older snapshot of the step, and one of another step. -/
def earlier : Store := .database ⟨[⟨"async_wait", 1, []⟩, ⟨"other", 7, [1]⟩]⟩

/-- The third checkpoint takes the place of the first. A number that is too large is refused. -/
theorem checkpoint_consistent_slowFirst : ∃ s, (oneSlow .unordered).build .epoch = .ok s ∧
    (∃ t store', (s.run slowFirst).checkpoint 3 earlier = (t, store', .ok ()) ∧
      t.Published "async_wait" 3 earlier store' ∧ t.pendingElements = [.record ⟨"slow", none⟩, .watermark noon]) ∧
    ((s.run slowFirst).checkpoint (2 ^ 63) earlier).2 = (earlier, .error (.recovery .store)) := by
  have built : (oneSlow .unordered).build .epoch = .ok (start (oneSlow .unordered) .never .epoch) := rfl
  have sound : earlier.Sound := by
    change (List.map DatabaseStore.key _).Nodup
    decide
  have newest : ∀ id, 1 ≤ id → ∀ id', (earlier.table "async_wait" id').isSome = true → id' ≤ id := by
    intro id one id' here
    obtain ⟨state, row⟩ := Option.isSome_iff_exists.1 here
    have listed := (DatabaseStore.table_eq_some_iff sound).1 row
    simp only [List.mem_cons, SnapshotRow.mk.injEq, List.not_mem_nil, or_false] at listed
    rcases listed with ⟨-, rfl, -⟩ | ⟨other, -⟩
    · exact one
    · exact absurd other (by decide)
  have fine : ((start (oneSlow .unordered) .never .epoch).run slowFirst).poll.2.isOk = true := by decide +kernel
  have held : ((start (oneSlow .unordered) .never .epoch).run slowFirst).poll.1.pendingElements =
    [.record ⟨"slow", none⟩, .watermark noon] := by decide +kernel
  have third := checkpoint_consistent (.built built) slowFirst sound (newest 3 (by decide))
  have beyond := checkpoint_consistent (.built built) slowFirst sound (newest (2 ^ 63) (by decide))
  refine ⟨_, built, ?_⟩
  generalize (start (oneSlow .unordered) .never .epoch).run slowFirst = u at third beyond fine held ⊢
  constructor
  · generalize u.checkpoint 3 earlier = outcome at third ⊢
    cases third with
    | published polled holds published =>
      rw [polled] at held
      exact ⟨_, _, rfl, published, held⟩
    | ended polled =>
      rw [polled] at fine
      cases fine
    | refused polled beyond => cases beyond
  · generalize u.checkpoint (2 ^ 63) earlier = outcome at beyond ⊢
    cases beyond with
    | published polled holds published => cases holds
    | ended polled =>
      rw [polled] at fine
      cases fine
    | refused polled beyond => rfl

end Stage

end AsyncStage
