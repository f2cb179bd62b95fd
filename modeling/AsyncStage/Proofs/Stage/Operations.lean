import AsyncStage.Checkpoint.Publish
import AsyncStage.Proofs.Stage.Moves

/-!
# What operations are made of

An admission is one attempt to find room after a turn, and a call that waits repeats such an
attempt. The end of the input gives up the awaited retries and then waits for an empty queue; a
checkpoint polls the stage before it takes its snapshot. The equations below say so. What is true of
every operation is shown for these parts, and none of the operations is looked into again.
-/

namespace AsyncStage

/-- Whether there was room for the record. -/
def Admission.isAccepted : Admission → Bool
  | .accepted => true
  | .full _ => false

namespace Stage

variable {s : Stage} {α : Type}

/-! ## Admissions -/

/-- An attempt at an admission after its turn: without room the answer is `no`, and else the entry
is put into the queue, `start` goes on with it, and a turn closes the operation. -/
def admitIfRoom (entry : Stage → Entry) (start : Stage → Stage → Stage) (meanwhile : List Occurrence) (no yes : α)
    (s : Stage) : Stage × Except StageError α :=
  match s.enqueue? (entry s) with
  | none => (s, .ok no)
  | some admitted => ((start s admitted).undergoAll meanwhile).turn.unlessFailed fun s => (s, .ok yes)

theorem offer_eq (s : Stage) (r : Record) (meanwhile : List Occurrence) :
    s.offer r meanwhile = s.afterTurn (admitIfRoom (fun s => .record (s.newEntry r))
      (fun s admitted => admitted.startAttempt s.nextId) meanwhile (.full r) .accepted) := rfl

theorem offerWatermark_eq (s : Stage) (t : Timestamp) (meanwhile : List Occurrence) :
    s.offerWatermark t meanwhile = s.afterTurn (admitIfRoom (fun s => .watermark s.nextId t)
      (fun _ admitted => admitted) meanwhile false true) := rfl

/-- An attempt at an admission, as those see it who repeat it until there is room. -/
def untilRoom (room : α → Bool) (r : Stage × Except StageError α) : Stage × Except StageError (Option Unit) :=
  (r.1, r.2.map fun answer => if room answer then some () else none)

theorem put_eq (s : Stage) (r : Record) (i : Interference) :
    s.put r i = s.waitFor i.waiting fun s => untilRoom Admission.isAccepted (s.offer r i.meanwhile) := by
  unfold put
  congr
  funext t
  obtain ⟨u, answer⟩ := t.offer r i.meanwhile
  rcases answer with error | (_ | r') <;> rfl

theorem putWatermark_eq (s : Stage) (t : Timestamp) (i : Interference) :
    s.putWatermark t i = s.waitFor i.waiting fun s => untilRoom id (s.offerWatermark t i.meanwhile) := by
  unfold putWatermark
  congr
  funext s
  obtain ⟨u, answer⟩ := s.offerWatermark t i.meanwhile
  rcases answer with error | (_ | _) <;> rfl

/-! ## The end of the input -/

/-- A turn, with the answer whether it left the queue empty. -/
def untilEmpty (s : Stage) : Stage × Except StageError (Option Unit) :=
  s.turn.unlessFailed fun s => (s, .ok (if s.queue.isEmpty then some () else none))

theorem finish_of_stopped (stopped : s.isRunning = false) (i : Interference) :
    s.finish i = (s, .failed (.closed s.stepId)) := by
  rw [finish, stopped, if_neg Bool.false_ne_true]

theorem finish_of_running (running : s.isRunning = true) (i : Interference) : s.finish i =
    match s.withoutRetries.failure? with
    | some error => (s.withoutRetries, .failed error)
    | none => (s.withoutRetries.undergoAll i.meanwhile).waitFor i.waiting untilEmpty := by
  rw [finish, running, if_pos rfl]
  rfl

/-! ## Checkpoints -/

/-- A checkpoint fails as its poll does, or it takes a snapshot, and then only the store can fail. -/
theorem checkpoint_cases (s : Stage) (id : CheckpointId) (store : Store) :
    (∃ error, s.poll.2 = .error error ∧ s.checkpoint id store = (s.poll.1, store, .error error)) ∨
      s.poll.2 = .ok () ∧ ∃ store' answer, s.checkpoint id store = (s.poll.1.snapshot.1, store', answer) ∧
        (answer = .ok () ∨ ∃ error, answer = .error (.recovery error)) := by
  unfold checkpoint
  match s.poll with
  | (t, .error error) => exact .inl ⟨error, rfl, rfl⟩
  | (t, .ok ()) =>
    refine .inr ⟨rfl, ?_⟩
    simp only
    split
    · exact ⟨_, _, rfl, .inr ⟨_, rfl⟩⟩
    · exact ⟨_, _, rfl, .inl rfl⟩

end Stage

end AsyncStage
