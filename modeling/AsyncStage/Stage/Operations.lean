import AsyncStage.Stage.Turn

/-!
# The operations of a stage

An operation of a stage that has ended is refused. An operation during which an entry fails
for good answers with that failure. Three operations can block: admitting an element while
the queue is full, and waiting for the end of the input. What other threads do while an
operation is under way is given by an `Interference`.
-/

namespace AsyncStage

/-- Whether an offered record was taken or handed back. -/
inductive Admission where
  | accepted
  | full (record : Record)
deriving DecidableEq

/-- The answer of an operation that can block. -/
inductive Reply (α : Type) where
  | done (answer : α)
  | failed (error : StageError)
  /-- The call has not returned. -/
  | blocked

/-- One waking of a blocked call. -/
structure Wake where
  /-- What happens before the call looks into its mailbox. -/
  arriving : List Occurrence := []
  /-- What happens after that and before its next turn. -/
  resuming : List Occurrence := []

/-- Where a call is made decides what becomes of it when it has to wait. -/
inductive Waiting where
  /-- The calling thread must not block. -/
  | forbidden
  /-- The call sleeps and wakes so many times. -/
  | wakes (wakes : List Wake)

/-- What other threads do while a call is under way. -/
structure Interference where
  /-- What happens in the middle of the call, before its closing turn. -/
  meanwhile : List Occurrence := []
  waiting : Waiting := .wakes []

namespace Stage

/-- The error with which an operation answers once the stage has failed during it. -/
def failure? (s : Stage) : Option StageError := s.status.failure?.map .entryFailed

/-- Goes on with `next` unless the stage has failed. -/
def unlessFailed {α : Type} (s : Stage) (next : Stage → Stage × Except StageError α) :
    Stage × Except StageError α :=
  match s.failure? with
  | some error => (s, .error error)
  | none => next s

/-- Goes on with `next` if the stage is running. -/
def whileRunning {α : Type} (s : Stage) (next : Stage → Stage × Except StageError α) :
    Stage × Except StageError α :=
  if s.isRunning then next s else (s, .error (.closed s.stepId))

/-- Goes on with `next` after a turn of the running stage. -/
def afterTurn {α : Type} (s : Stage) (next : Stage → Stage × Except StageError α) :
    Stage × Except StageError α :=
  s.whileRunning fun s => s.turn.unlessFailed next

/-- Puts an entry into the queue under the next number, if there is room. -/
def enqueue? (s : Stage) (entry : Entry) : Option Stage :=
  (s.queue.put? entry).map fun queue =>
    ({ s with queue := queue, nextId := s.nextId + 1 }.measure (.added .inFlight 1)).note
      (.admitted entry.id entry.element)

/-- Admits a record if there is room, and starts its first attempt. -/
def offer (s : Stage) (r : Record) (meanwhile : List Occurrence) :
    Stage × Except StageError Admission :=
  s.afterTurn fun s =>
    match s.enqueue? (.record { id := s.nextId, record := r, enqueuedAt := s.now }) with
    | none => (s, .ok (.full r))
    | some admitted =>
      ((admitted.startAttempt s.nextId).undergoAll meanwhile).turn.unlessFailed fun s =>
        (s, .ok .accepted)

/-- Admits a watermark if there is room; the answer tells whether there was. -/
def offerWatermark (s : Stage) (time : Timestamp) (meanwhile : List Occurrence) :
    Stage × Except StageError Bool :=
  s.afterTurn fun s =>
    match s.enqueue? (.watermark s.nextId time) with
    | none => (s, .ok false)
    | some admitted => (admitted.undergoAll meanwhile).turn.unlessFailed fun s => (s, .ok true)

/-- Sleeps until woken and takes up the oldest completion in the mailbox, if any. -/
def sleep (s : Stage) (w : Wake) : Stage :=
  let s := s.undergoAll w.arriving
  let s :=
    match s.mailbox with
    | [] => s
    | c :: rest => { s with mailbox := rest }.apply c
  s.undergoAll w.resuming

/-- Answers as an attempt did, and goes on with `next` if it had no answer yet. -/
def answerOr {α : Type} (r : Stage × Except StageError (Option α))
    (next : Stage → Stage × Reply α) : Stage × Reply α :=
  match r with
  | (s, .error e) => (s, .failed e)
  | (s, .ok (some answer)) => (s, .done answer)
  | (s, .ok none) => next s

/-- Repeats `attempt`, sleeping once per waking in between, until it has an answer; `stuck` is
the answer when the wakings are used up. -/
def repeatUntil {α : Type} (attempt : Stage → Stage × Except StageError (Option α))
    (stuck : Reply α) : List Wake → Stage → Stage × Reply α
  | [], s => answerOr (attempt s) fun s => (s, stuck)
  | w :: wakes, s =>
    answerOr (attempt s) fun s =>
      let s := s.sleep w
      match s.failure? with
      | some e => (s, .failed e)
      | none => repeatUntil attempt stuck wakes s

/-- Repeats `attempt` until it has an answer, as far as the caller may wait. -/
def waitFor {α : Type} (s : Stage) (waiting : Waiting)
    (attempt : Stage → Stage × Except StageError (Option α)) : Stage × Reply α :=
  match waiting with
  | .forbidden => repeatUntil attempt (.failed .cannotBlock) [] s
  | .wakes wakes => repeatUntil attempt .blocked wakes s

/-- Admits a record, waiting while the queue is full. -/
def put (s : Stage) (r : Record) (i : Interference) : Stage × Reply Unit :=
  s.waitFor i.waiting fun s =>
    match s.offer r i.meanwhile with
    | (s, .ok .accepted) => (s, .ok (some ()))
    | (s, .ok (.full _)) => (s, .ok none)
    | (s, .error e) => (s, .error e)

/-- Admits a watermark, waiting while the queue is full. -/
def putWatermark (s : Stage) (time : Timestamp) (i : Interference) : Stage × Reply Unit :=
  s.waitFor i.waiting fun s =>
    match s.offerWatermark time i.meanwhile with
    | (s, .ok true) => (s, .ok (some ()))
    | (s, .ok false) => (s, .ok none)
    | (s, .error e) => (s, .error e)

/-- Forwards a status marker, past everything in the queue. -/
def forwardStatus (s : Stage) (status : StreamStatus) : Stage × Except StageError Unit :=
  s.whileRunning fun s => ({ s with output := s.output.emitStatus status }, .ok ())

/-- Runs one turn. -/
def poll (s : Stage) : Stage × Except StageError Unit := s.afterTurn fun s => (s, .ok ())

/-- Resolves an entry that awaits a retry with the outcome of its last attempt. -/
def cutShort (s : Stage) (id : EntryId) : Stage :=
  match s.queue.find? id with
  | none => s
  | some e =>
    let s := (s.cancelTimer e.retry.retryTimer).update id fun e =>
      { e with retry := e.retry.withoutWaiting }
    s.resolve id (.ofOutcome (e.retry.lastOutcome.getD (.values [])))

/-- The entries that await a retry, in the order of the queue. -/
def waitingIds (s : Stage) : List EntryId :=
  (s.entries.filterMap Entry.record?).filterMap fun e =>
    if e.retry.isWaiting then some e.id else none

/-- Ends the input: stops retrying and waits until every entry has been emitted. -/
def finish (s : Stage) (i : Interference) : Stage × Reply Unit :=
  if s.isRunning then
    let s := s.waitingIds.foldl cutShort { s with retrying := false }
    match s.failure? with
    | some e => (s, .failed e)
    | none =>
      (s.undergoAll i.meanwhile).waitFor i.waiting fun s =>
        s.turn.unlessFailed fun s => (s, .ok (if s.queue.isEmpty then some () else none))
  else
    (s, .failed (.closed s.stepId))

/-- Ends a running stage, discarding everything in flight without emitting it. -/
def close (s : Stage) : Stage := if s.isRunning then s.teardown .closed else s

/-- The stage as it is dropped: everything in flight is discarded and nothing is recorded. -/
def drop (s : Stage) : Stage := s.discardAll

/-- Takes the emitted elements out of the output. -/
def takeOutput (s : Stage) : List Element × Stage :=
  (s.output.elements.toList, { s with output := { s.output with elements := #[] } })

end Stage

end AsyncStage
