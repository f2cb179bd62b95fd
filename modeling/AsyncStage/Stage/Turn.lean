import AsyncStage.Stage.Basic

/-!
# One turn of a stage

Every operation works in turns. A turn takes up the completions in the mailbox, fires the
timers that are due and emits what may leave the queue, in this order. A completion leads
to a retry or to the entry's final result; a final error without a fallback ends the stage,
which leaves nothing in the queue and no timer, so that the rest of the turn does nothing.
-/

namespace AsyncStage.Stage

/-- Gives the cancel signal of the entry's outstanding attempt. -/
def cancelAttempt (s : Stage) (e : RecordEntry) : Stage :=
  match e.signal with
  | some attempt => s.note (.cancelled e.id attempt)
  | none => s

def cancelTimer (s : Stage) (timer : Option TimerId) : Stage :=
  match timer with
  | some id => { s with timers := (s.timers.cancel id).2 }
  | none => s

/-- Discards everything in flight: timers are forgotten and outstanding attempts cancelled. -/
def discardAll (s : Stage) : Stage :=
  let s' := (s.entries.filterMap Entry.record?).foldl cancelAttempt s
  { s' with timers := s.timers.clear, queue := s.queue.clear }

/-- Ends the stage, discarding everything in flight. -/
def teardown (s : Stage) (status : Status) : Stage :=
  let discarded := s.queue.size
  ({ s with status := status }.discardAll).measure (.added .inFlight (-discarded))

/-! ## Results -/

/-- Puts the final values into the entry's slot. -/
def complete (s : Stage) (id : EntryId) (values : List String) : Stage :=
  let s := s.update id fun e => { e with slot := .completed values }
  { s with queue := s.queue.markCompleted id }

/-- Tells the listener about fallback output. -/
def tellListener (s : Stage) (e : RecordEntry) (error : EntryError) : Stage :=
  if s.setup.listening then
    s.note (.substituted ⟨s.stepId, e.record.value, error, e.retry.attempts⟩)
  else
    s

/-- Gives an entry its final result. An error becomes the fallback's output; without a
fallback it ends the stage. -/
def resolve (s : Stage) (id : EntryId) (result : Resolution) : Stage :=
  match s.queue.find? id with
  | none => s
  | some e =>
    let s := (s.cancelTimer e.deadlineTimer).cancelTimer e.retry.retryTimer
    let s := s.update id fun e =>
      { e with deadlineTimer := none, retry := e.retry.withoutWaiting }
    let s := s.note (.resolved id result)
    match result with
    | .values values => s.complete id values
    | .error error =>
      match s.setup.fallback with
      | some fallback =>
        let s := (s.tellListener e error).measure (.added .fallbacks 1)
        s.complete id (fallback e.record.value error)
      | none =>
        let s := s.update id fun e => { e with slot := .failed error }
        s.teardown (.failed ⟨s.stepId, e.record.value, error⟩)

/-! ## Attempts -/

/-- Sets the timer for the entry's deadline, if there is a timeout. -/
def setDeadline (s : Stage) (id : EntryId) : Stage :=
  match s.setup.timeout with
  | none => s
  | some timeout =>
    let (timer, timers) := s.timers.schedule (s.now.after timeout.span) (.deadline id)
    { s with timers := timers }.update id fun e => { e with deadlineTimer := some timer }

/-- Starts the entry's next attempt. The first one also sets the deadline. -/
def startAttempt (s : Stage) (id : EntryId) : Stage :=
  match s.queue.find? id with
  | none => s
  | some e =>
    let attempt := e.retry.attempts + 1
    let isFirst := e.retry.firstAttempt.isNone
    let now := s.now
    let s := s.update id fun e =>
      { e with
        signal := some attempt
        retry :=
          { e.retry with
            attempts := attempt
            attemptStarted := some now
            firstAttempt := if isFirst then some now else e.retry.firstAttempt } }
    let s := if isFirst then s.setDeadline id else s
    let call := s.setup.call id attempt e.record.value
    let s := (s.measure (.added .invocations 1)).note (.invoked call)
    (s.setup.function call).foldl post s

/-- Whether a retry after `backoff` would start before the time since `first` is up. Without
a timeout, or where the sum is longer than any span, there is no time. -/
def timeAllows (timeout : Option Duration) (first now : Instant) (backoff : Duration) : Bool :=
  match timeout with
  | none => false
  | some timeout =>
    let total := now.since first + backoff.span
    total.natAbs ≤ Duration.maxSpan && total < timeout.span

/-- How long to wait before the next attempt, if this outcome is to be followed by one. -/
def retryBackoff? (s : Stage) (e : RecordEntry) (c : Completion) : Option Duration :=
  if s.retrying && s.setup.retry.shouldRetry c.attempt c.outcome then
    let backoff := s.setup.retry.backoffBefore c.attempt
    let first := e.retry.firstAttempt.getD s.now
    if timeAllows s.setup.timeout first s.now backoff then some backoff else none
  else
    none

/-- Schedules the retry after an attempt and keeps its outcome until then. -/
def scheduleRetry (s : Stage) (c : Completion) (backoff : Duration) : Stage :=
  let fireAt := s.now.after backoff.span
  let (timer, timers) := s.timers.schedule fireAt (.retry c.entry)
  let s := { s with timers := timers }.update c.entry fun e =>
    { e with
      retry :=
        { e.retry with
          nextRetryAt := some fireAt
          retryTimer := some timer
          lastOutcome := some c.outcome } }
  (s.measure (.added .retries 1)).note (.scheduled c.entry c.attempt fireAt)

/-- Records how long the entry's current attempt has taken. -/
def measureAttempt (s : Stage) (e : RecordEntry) : Stage :=
  match e.retry.attemptStarted with
  | some started => s.measure (.attemptTook (s.now.elapsed started))
  | none => s

/-- Takes up one completion. One that no entry waits for is ignored. -/
def apply (s : Stage) (c : Completion) : Stage :=
  match s.queue.find? c.entry with
  | none => s
  | some e =>
    if e.accepts c.attempt then
      let s := (s.update c.entry fun e => { e with signal := none }).note (.applied c)
      let s := s.measureAttempt e
      match s.retryBackoff? e c with
      | some backoff => s.scheduleRetry c backoff
      | none => s.resolve c.entry (.ofOutcome c.outcome)
    else
      s

/-! ## Timers -/

/-- The backoff of an entry is over: its next attempt starts. -/
def startRetry (s : Stage) (id : EntryId) : Stage :=
  match s.queue.find? id with
  | none => s
  | some _ =>
    (s.update id fun e => { e with retry := e.retry.withoutWaiting }).startAttempt id

/-- The time of an entry is up: its attempt is cancelled and it ends with a timeout. -/
def expire (s : Stage) (id : EntryId) : Stage :=
  match s.queue.find? id with
  | none => s
  | some e =>
    let s := s.update id fun e => { e with deadlineTimer := none }
    if e.isDone then s
    else
      let s := (s.cancelAttempt e).update id fun e => { e with signal := none }
      let elapsed :=
        match e.retry.firstAttempt with
        | some first => s.now.elapsed first
        | none => .zero
      (s.measure (.added .timeouts 1)).resolve id (.error (.timeout elapsed e.retry.attempts))

def fireTimer (s : Stage) : TimerTarget → Stage
  | .retry id => s.startRetry id
  | .deadline id => s.expire id

/-- Fires the timers that are due, at most `n` of them. -/
def fireUpTo : Nat → Stage → Stage
  | 0, s => s
  | n + 1, s =>
    match s.timers.popDue s.now with
    | none => s
    | some (target, timers) => fireUpTo n ({ s with timers := timers }.fireTimer target)

/-- Fires the timers that are due. Firing sets no timer, so as many steps as there are timers
are enough. -/
def fireDue (s : Stage) : Stage := fireUpTo s.timers.size s

/-! ## Emission -/

/-- Emits an entry that has left the queue. -/
def release (s : Stage) (e : Entry) : Stage :=
  let s := (s.measure (.added .inFlight (-1))).note (.released e)
  let s :=
    match e with
    | .watermark _ _ => s
    | .record r =>
      match r.slot with
      | .completed values => s.measure (.added .itemsOut values.length)
      | .pending => s
      | .failed _ => s
  { s with output := e.rendering.foldl Output.emit s.output }

/-- Emits every entry that may leave the queue. -/
def emitReady (s : Stage) : Stage :=
  if s.queue.hasReady then
    let (drained, queue) := s.queue.drain
    drained.foldl release { s with queue := queue }
  else
    s

/-- Takes up every completion in the mailbox, the oldest first. -/
def readMail (s : Stage) : Stage := s.mailbox.foldl apply { s with mailbox := [] }

/-- One turn: mail, timers, emission. -/
def turn (s : Stage) : Stage := s.readMail.fireDue.emitReady

end AsyncStage.Stage
