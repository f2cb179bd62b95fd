import AsyncStage.Proofs.Stage.Beginnings
import AsyncStage.Proofs.Stage.Results
import AsyncStage.Proofs.Stage.Strict

/-!
# Runs without defaults

The operations of a stage, made of strict turns, completions and attempts. Whatever is done with a stage that was
built, this gives what the operations give. So no default is ever used: every entry that is emitted has its
values, every retry that is given up has the outcome of its last attempt, and what is started, ended or resolved
is an entry in the queue that has no result.
-/

namespace AsyncStage.Stage

namespace Strict

variable {s : Stage} {α : Type}

/-! ## Strict operations -/

def unlessFailed (s : Stage) (next : Stage → Option (Stage × Except StageError α)) :
    Option (Stage × Except StageError α) :=
  match s.failure? with
  | some error => some (s, .error error)
  | none => next s

/-- Goes on with `next` after a turn of the running stage. -/
def afterTurn (s : Stage) (next : Stage → Option (Stage × Except StageError α)) :
    Option (Stage × Except StageError α) :=
  if s.isRunning then do unlessFailed (← turn s) next else some (s, .error (.closed s.stepId))

/-- An attempt at an admission after its turn. -/
def admitIfRoom (entry : Stage → Entry) (start : Stage → Stage → Option Stage) (meanwhile : List Occurrence)
    (no yes : α) (s : Stage) : Option (Stage × Except StageError α) :=
  match s.enqueue? (entry s) with
  | none => some (s, .ok no)
  | some admitted => do
    let started ← start s admitted
    unlessFailed (← turn (started.undergoAll meanwhile)) fun s => some (s, .ok yes)

/-- Admits a record if there is room, and starts its first attempt. -/
def offer (s : Stage) (r : Record) (meanwhile : List Occurrence) : Option (Stage × Except StageError Admission) :=
  afterTurn s (admitIfRoom (fun s => .record (s.newEntry r)) (fun s admitted => startAttempt admitted s.nextId)
    meanwhile (.full r) .accepted)

/-- Admits a watermark if there is room. -/
def offerWatermark (s : Stage) (t : Timestamp) (meanwhile : List Occurrence) :
    Option (Stage × Except StageError Bool) :=
  afterTurn s (admitIfRoom (fun s => .watermark s.nextId t) (fun _ admitted => some admitted) meanwhile false true)

/-- Sleeps until woken and takes up the oldest completion in the mailbox, if any. -/
def sleep (s : Stage) (w : Wake) : Option Stage :=
  let s := s.undergoAll w.arriving
  match s.mailbox with
  | [] => some (s.undergoAll w.resuming)
  | c :: rest => do return (← apply { s with mailbox := rest } c).undergoAll w.resuming

def answerOr (r : Stage × Except StageError (Option α)) (next : Stage → Option (Stage × Reply α)) :
    Option (Stage × Reply α) :=
  match r with
  | (s, .error e) => some (s, .failed e)
  | (s, .ok (some answer)) => some (s, .done answer)
  | (s, .ok none) => next s

/-- Repeats `attempt`, sleeping once per waking in between, until it has an answer. -/
def repeatUntil (attempt : Stage → Option (Stage × Except StageError (Option α))) (stuck : Reply α) :
    List Wake → Stage → Option (Stage × Reply α)
  | [], s => do answerOr (← attempt s) fun s => some (s, stuck)
  | w :: wakes, s => do
    answerOr (← attempt s) fun s => do
      let s ← sleep s w
      match s.failure? with
      | some e => some (s, .failed e)
      | none => repeatUntil attempt stuck wakes s

/-- Repeats `attempt` until it has an answer, as far as the caller may wait. -/
def waitFor (s : Stage) (waiting : Waiting) (attempt : Stage → Option (Stage × Except StageError (Option α))) :
    Option (Stage × Reply α) :=
  match waiting with
  | .forbidden => repeatUntil attempt (.failed .cannotBlock) [] s
  | .wakes wakes => repeatUntil attempt .blocked wakes s

/-- Admits a record, waiting while the queue is full. -/
def put (s : Stage) (r : Record) (i : Interference) : Option (Stage × Reply Unit) :=
  waitFor s i.waiting fun s => (offer s r i.meanwhile).map (untilRoom Admission.isAccepted)

/-- Admits a watermark, waiting while the queue is full. -/
def putWatermark (s : Stage) (t : Timestamp) (i : Interference) : Option (Stage × Reply Unit) :=
  waitFor s i.waiting fun s => (offerWatermark s t i.meanwhile).map (untilRoom id)

/-- Runs one turn. -/
def poll (s : Stage) : Option (Stage × Except StageError Unit) := afterTurn s fun s => some (s, .ok ())

/-- Ends the input: stops retrying and waits until every entry has been emitted. -/
def finish (s : Stage) (i : Interference) : Option (Stage × Reply Unit) :=
  if s.isRunning then do
    let s ← s.waitingIds.foldlM cutShort { s with retrying := false }
    match s.failure? with
    | some e => some (s, .failed e)
    | none =>
      waitFor (s.undergoAll i.meanwhile) i.waiting fun s => do
        unlessFailed (← turn s) fun s => some (s, .ok (if s.queue.isEmpty then some () else none))
  else
    some (s, .failed (.closed s.stepId))

/-- Performs an action. Beyond its turn a checkpoint works on no entry. -/
def perform (s : Stage) : Action → Option (Stage × Option StageError)
  | .offer r meanwhile => do let (s, answer) ← offer s r meanwhile; return (s, errorOf answer)
  | .put r i => do let (s, answer) ← put s r i; return (s, answer.error?)
  | .putWatermark t i => do let (s, answer) ← putWatermark s t i; return (s, answer.error?)
  | .forwardStatus status => some (s.perform (.forwardStatus status))
  | .poll => do let (s, answer) ← poll s; return (s, errorOf answer)
  | .finish i => do let (s, answer) ← finish s i; return (s, answer.error?)
  | .snapshot => some (s.perform .snapshot)
  | .checkpoint id store => do let _ ← poll s; return s.perform (.checkpoint id store)
  | .close => some (s.perform .close)
  | .undergo o => some (s.perform (.undergo o))

/-- Performs several actions, one after the other. -/
def run (s : Stage) (actions : List Action) : Option Stage :=
  actions.foldlM (fun s action => (perform s action).map (·.1)) s

/-- Admits an element again. -/
def putElement (s : Stage) (e : Element) (i : Interference) : Option (Stage × Reply Unit) :=
  match e with
  | .record r => put s r i
  | .watermark t => putWatermark s t i

/-- Admits elements again in order, as the restoration of a stage does. -/
def putAll (s : Stage) : List (Element × Interference) → Option (Stage × Reply Unit)
  | [] => some (s, .done ())
  | (e, i) :: rest => do
    match ← putElement s e i with
    | (s, .done ()) => putAll s rest
    | answer => some answer

/-! ## One attempt -/

section Attempt

variable {next : Stage → Stage × Except StageError α} {next' : Stage → Option (Stage × Except StageError α)}

theorem unlessFailed_eq_some (same : s.failure? = none → next' s = some (next s)) :
    unlessFailed s next' = some (s.unlessFailed next) := by
  unfold unlessFailed Stage.unlessFailed
  cases failed : s.failure? with
  | some error => rfl
  | none => exact same failed

theorem afterTurn_eq_some (b : s.Balanced)
    (same : s.turn.Balanced → s.turn.isRunning = true → next' s.turn = some (next s.turn)) :
    afterTurn s next' = some (s.afterTurn next) := by
  unfold afterTurn Stage.afterTurn whileRunning
  split
  next running =>
    simp only [turn_eq_some b, bind, Option.bind]
    exact unlessFailed_eq_some fun fine => same b.turn ((turn_lasts b.sound).isRunning running fine)
  · rfl

end Attempt

theorem admitIfRoom_eq_some {entry : Stage → Entry} {start : Stage → Stage → Stage}
    {start' : Stage → Stage → Option Stage} {meanwhile : List Occurrence} {no yes : α}
    (starts : ∀ admitted, s.enqueue? (entry s) = some admitted →
      start' s admitted = some (start s admitted) ∧ (start s admitted).Balanced) :
    admitIfRoom entry start' meanwhile no yes s = some (Stage.admitIfRoom entry start meanwhile no yes s) := by
  unfold admitIfRoom Stage.admitIfRoom
  cases room : s.enqueue? (entry s) with
  | none => rfl
  | some admitted =>
    obtain ⟨same, started⟩ := starts admitted room
    simp only [same, bind, Option.bind, turn_eq_some (Balanced.preserved.undergoAll started meanwhile)]
    exact unlessFailed_eq_some fun _ => rfl

/-- A record that was admitted is in the queue when its first attempt starts. -/
theorem startAttempt_admitted (b : s.Balanced) {r : Record} {admitted : Stage}
    (room : s.enqueue? (.record (s.newEntry r)) = some admitted) :
    startAttempt admitted s.nextId = some (admitted.startAttempt s.nextId) := by
  have pending : ∀ r', Entry.record (s.newEntry r) = .record r' → r'.isDone = false := by rintro r' ⟨⟩; rfl
  obtain ⟨admits, -⟩ := enqueue?_admits b.sound.queue b.sound.below rfl pending room
  exact startAttempt_eq_some (e := s.newEntry r) admits.sound admits.there rfl

theorem offer_eq_some (b : s.Balanced) (r : Record) (meanwhile : List Occurrence) :
    offer s r meanwhile = some (s.offer r meanwhile) := by
  rw [offer_eq]
  exact afterTurn_eq_some b fun b running => admitIfRoom_eq_some fun _ room =>
    ⟨startAttempt_admitted b room, Balanced.preserved.admittedRecord b running room⟩

theorem offerWatermark_eq_some (b : s.Balanced) (t : Timestamp) (meanwhile : List Occurrence) :
    offerWatermark s t meanwhile = some (s.offerWatermark t meanwhile) := by
  rw [offerWatermark_eq]
  exact afterTurn_eq_some b fun b running => admitIfRoom_eq_some fun _ room =>
    ⟨rfl, Balanced.preserved.admittedWatermark b running room⟩

theorem poll_eq_some (b : s.Balanced) : poll s = some s.poll := afterTurn_eq_some b fun _ _ => rfl

/-! ## Waiting -/

theorem sleep_eq_some (b : s.Balanced) (w : Wake) : sleep s w = some (s.sleep w) := by
  have arrived := Balanced.preserved.undergoAll b w.arriving
  unfold sleep Stage.sleep
  generalize s.undergoAll w.arriving = t at arrived
  cases mail : t.mailbox with
  | nil => simp only [mail]
  | cons c rest =>
    have read := arrived.quiet (quiet_mailbox t rest) fun _ => rfl
    simp only [mail, apply_eq_some read.sound read.begun c]
    rfl

theorem answerOr_eq_some {r : Stage × Except StageError (Option α)} {next : Stage → Stage × Reply α}
    {next' : Stage → Option (Stage × Reply α)} (same : next' r.1 = some (next r.1)) :
    answerOr r next' = some (Stage.answerOr r next) := by
  obtain ⟨t, error | (_ | answer)⟩ := r
  · rfl
  · exact same
  · rfl

section Waiting

variable {attempt : Stage → Stage × Except StageError (Option α)}
  {attempt' : Stage → Option (Stage × Except StageError (Option α))}
  (same : ∀ s : Stage, s.Balanced → attempt' s = some (attempt s) ∧ (attempt s).1.Balanced)

include same

/-- Repeating an attempt that needs no default. -/
theorem repeatUntil_eq_some (stuck : Reply α) (wakes : List Wake) (b : s.Balanced) :
    repeatUntil attempt' stuck wakes s = some (Stage.repeatUntil attempt stuck wakes s) := by
  induction wakes generalizing s with
  | nil =>
    simp only [repeatUntil, (same s b).1, bind, Option.bind]
    exact answerOr_eq_some rfl
  | cons w wakes ih =>
    have tried := (same s b).2
    have awake := Balanced.preserved.sleep tried w
    simp only [repeatUntil, (same s b).1, bind, Option.bind]
    refine answerOr_eq_some ?_
    simp only [sleep_eq_some tried w]
    cases failed : ((attempt s).1.sleep w).failure? with
    | some error => rfl
    | none => exact ih awake

theorem waitFor_eq_some (waiting : Waiting) (b : s.Balanced) :
    waitFor s waiting attempt' = some (s.waitFor waiting attempt) := by
  cases waiting with
  | forbidden => exact repeatUntil_eq_some same _ [] b
  | wakes wakes => exact repeatUntil_eq_some same _ wakes b

end Waiting

theorem put_eq_some (b : s.Balanced) (r : Record) (i : Interference) : put s r i = some (s.put r i) := by
  rw [put_eq]
  refine waitFor_eq_some (fun t b => ⟨?_, Balanced.preserved.offer b r i.meanwhile⟩) i.waiting b
  rw [offer_eq_some b]
  rfl

theorem putWatermark_eq_some (b : s.Balanced) (t : Timestamp) (i : Interference) :
    putWatermark s t i = some (s.putWatermark t i) := by
  rw [putWatermark_eq]
  refine waitFor_eq_some (fun u b => ⟨?_, Balanced.preserved.offerWatermark b t i.meanwhile⟩) i.waiting b
  rw [offerWatermark_eq_some b]
  rfl

theorem finish_eq_some (b : s.Balanced) (i : Interference) : finish s i = some (s.finish i) := by
  unfold finish
  split
  next running =>
    have ended := b.withoutRetries
    rw [finish_of_running running]
    simp only [foldlM_cutShort b.sound running, bind, Option.bind]
    cases failed : s.withoutRetries.failure? with
    | some error => rfl
    | none =>
      refine waitFor_eq_some (fun t b => ⟨?_, ?_⟩) i.waiting (Balanced.preserved.undergoAll ended i.meanwhile)
      · simp only [turn_eq_some b]
        exact unlessFailed_eq_some fun _ => rfl
      · exact Preserved.unlessFailed b.turn fun _ => b.turn
  next stopped => rw [finish_of_stopped (Bool.not_eq_true _ ▸ stopped)]

/-! ## Runs -/

/-- **An action needs no default.** -/
theorem perform_eq_some (b : s.Balanced) (a : Action) : perform s a = some (s.perform a) := by
  cases a with
  | offer r meanwhile => simp only [perform, offer_eq_some b]; rfl
  | put r i => simp only [perform, put_eq_some b]; rfl
  | putWatermark t i => simp only [perform, putWatermark_eq_some b]; rfl
  | forwardStatus status => rfl
  | poll => simp only [perform, poll_eq_some b]; rfl
  | finish i => simp only [perform, finish_eq_some b]; rfl
  | snapshot => rfl
  | checkpoint id store => simp only [perform, poll_eq_some b]; rfl
  | close => rfl
  | undergo o => rfl

theorem run_eq_some (b : s.Balanced) (actions : List Action) : run s actions = some (s.run actions) :=
  foldlM_eq_some (P := Balanced) (fun _ a b => Balanced.preserved.perform b a)
    (fun _ b a _ => congrArg (Option.map (·.1)) (perform_eq_some b a)) b

theorem putElement_eq_some (b : s.Balanced) (e : Element) (i : Interference) :
    putElement s e i = some (s.putElement e i) := by
  cases e with
  | record r => exact put_eq_some b r i
  | watermark t => exact putWatermark_eq_some b t i

theorem putAll_eq_some (b : s.Balanced) (elements : List (Element × Interference)) :
    putAll s elements = some (s.putAll elements) := by
  induction elements generalizing s with
  | nil => rfl
  | cons p elements ih =>
    obtain ⟨e, i⟩ := p
    have admitted : (s.putElement e i).1.Balanced := by
      have performed := Balanced.preserved.perform b (.admits e i)
      rwa [perform_admits] at performed
    unfold putAll Stage.putAll
    rw [putElement_eq_some b e i]
    cases answer : s.putElement e i with
    | mk t reply =>
      rw [answer] at admitted
      cases reply with
      | failed error => rfl
      | blocked => rfl
      | done => exact ih admitted

end Strict

variable {s : Stage}

/-- **No default is ever used.** Whatever is done with a stage, however it began, strict operations give what the
operations give, and so does admitting elements again with which a restored stage begins: what leaves the queue
has its final values, a retry that is given up has the outcome of its last attempt, an attempt whose answer matters
has started, as has the first one, and what is started, retried, ended or resolved is an entry in the queue
that has no result. So each entry is resolved at most once. -/
theorem run_strict {b : Builder} {now : Instant} {error : Option StageError} (begins : b.Begins now s error)
    (actions : List Action) : Strict.run s actions = some (s.run actions) ∧ (s.run actions).resolvedIds.Nodup ∧
      ∀ elements, Strict.putAll s elements = some (s.putAll elements) := by
  have balanced : s.Balanced := by
    obtain ⟨s₀, before, built, rfl, -, -⟩ := begins.exists_run
    exact Balanced.preserved.run (.build built) before
  have kept := begins.kept.steps (run_steps begins.kept.sound actions)
  exact ⟨Strict.run_eq_some balanced actions, kept.resolvedIds_nodup, Strict.putAll_eq_some balanced⟩

/-- A record is retried, and another one that awaits its retry is resolved by the end of the input. -/
def retriedAndCut : List Action :=
  secondGood ++ [.offer ⟨"b", none⟩ [], .undergo (.completes ⟨1, 1, .failure ⟨"down"⟩⟩), .poll, .finish {}]

theorem run_strict_retriedAndCut : ∃ s, patient.build .epoch = .ok s ∧
    Strict.run s retriedAndCut = some (s.run retriedAndCut) ∧ (s.run retriedAndCut).resolvedIds = [0, 1] := by
  have built : patient.build .epoch = .ok (start patient tenths .epoch) := rfl
  exact ⟨_, built, (run_strict (.built built) retriedAndCut).1, by decide +kernel⟩

end AsyncStage.Stage
