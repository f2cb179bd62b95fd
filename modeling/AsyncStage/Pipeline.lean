import AsyncStage.Element.Json
import AsyncStage.Stage.Builder

/-!
# Pipelines

A pipeline pushes the elements of a stream through a stage whose attempts take time, and
then ends the input. Time is simulated: pushing takes none, and whenever the stage has to
wait, the clock jumps to the next moment at which an attempt completes or a timer fires.
-/

namespace AsyncStage

namespace Pipeline

/-- What an attempt does: it ends so after a delay, or it never ends. -/
structure Behaviour where
  delay : Duration := .zero
  /-- Without an outcome of its own, an attempt answers with its value and a mark. -/
  outcome : Option Outcome := none
  endless : Bool := false

/-- What is pushed. -/
inductive Input where
  | element (element : Element)
  | status (status : StreamStatus)

end Pipeline

/-- A run of a stage over a stream. -/
structure Pipeline where
  config : Config
  inputs : List Pipeline.Input
  /-- For some values, what the attempts do, from the first on; the last one is repeated. -/
  behaviours : List (String × Array Pipeline.Behaviour) := []
  hasFallback : Bool := false
  /-- Whether retries run their course before the input ends. -/
  settles : Bool := false

namespace Pipeline

/-- An attempt that is under way: when it completes, and how. -/
structure Task where
  entry : EntryId
  attempt : Nat
  dueAt : Instant
  outcome : Outcome

/-- A pipeline at work. -/
structure Flow where
  pipeline : Pipeline
  stage : Stage
  /-- Attempts under way, in the order in which they were started. -/
  tasks : List Task := []
  /-- How often each value was attempted. -/
  attempts : Table String Nat := .empty

/-- What came of a pipeline. -/
inductive Result where
  | failed (error : StageError)
  /-- The stage would wait for ever. -/
  | blocked
  | finished (elements : List Element) (attempts : List (String × Nat))
      (statuses : List StreamStatus)

/-- What the `n`-th attempt for a value does, counted from one. -/
def behaviour (p : Pipeline) (value : String) (n : Nat) : Behaviour :=
  match p.behaviours.lookup value with
  | none => {}
  | some bs => ((bs[n - 1]?).or bs.back?).getD {}

def fallbackOutput (input : String) (error : EntryError) : List String :=
  ["fallback:" ++ input ++ ":" ++ (if error.isTimeout then "true" else "false")]

namespace Flow

/-- Follows one event: a call starts a task, and a cancelled attempt's task is dropped. -/
def followEvent (f : Flow) : Event → Flow
  | .invoked call =>
    let n := ((f.attempts.get? call.value).getD 0) + 1
    let b := f.pipeline.behaviour call.value n
    let task : Task :=
      { entry := call.entry
        attempt := call.attempt
        dueAt := f.stage.now.after b.delay.span
        outcome := b.outcome.getD (.values [call.value ++ "!"]) }
    { f with
      attempts := f.attempts.insert call.value n
      tasks := if b.endless then f.tasks else f.tasks ++ [task] }
  | .cancelled entry attempt =>
    { f with tasks := f.tasks.filter fun t => t.entry != entry || t.attempt != attempt }
  | _ => f

/-- Completes the tasks that are due. -/
def completeDue (f : Flow) : Flow :=
  let now := f.stage.now
  let due := f.tasks.filter fun t => t.dueAt ≤ now
  { f with
    tasks := f.tasks.filter fun t => !(t.dueAt ≤ now)
    stage := f.stage.undergoAll (due.map fun t => .completes ⟨t.entry, t.attempt, t.outcome⟩) }

/-- The flow with the stage as it is after an operation. What its history says has then been
followed. -/
def withStage (f : Flow) (stage : Stage) : Flow :=
  let events := stage.history.toList.map Note.event
  (events.foldl followEvent { f with stage := stage.forgetHistory }).completeDue

/-- The next moment at which a task completes or a timer fires. -/
def nextMoment? (f : Flow) : Option Instant :=
  (f.stage.timers.nextFire?.toList ++ f.tasks.map Task.dueAt).foldl
    (fun best t =>
      match best with
      | none => some t
      | some b => some (if t < b then t else b))
    none

/-- Waits for the next moment, if there is one; mail that has come ends the wait at once. -/
def wait? (f : Flow) : Option Flow :=
  if f.stage.mailbox.isEmpty then
    f.nextMoment?.map fun t =>
      let t := if t < f.stage.now then f.stage.now else t
      { f with stage := f.stage.undergo (.clockReads t) }.completeDue
  else
    some f

/-- Repeats an operation until it needs no more waiting, at most `fuel` times. -/
def repeatWaiting (operation : Stage → Stage × Except StageError Bool) :
    Nat → Flow → Except Result Flow
  | 0, _ => .error .blocked
  | fuel + 1, f =>
    let (stage, result) := operation f.stage
    let f := f.withStage stage
    match result with
    | .error e => .error (.failed e)
    | .ok true => .ok f
    | .ok false =>
      match f.wait? with
      | none => .error .blocked
      | some f => repeatWaiting operation fuel f

/-- The number of waits after which an operation counts as stuck that goes on retrying while no
time passes. Each wait takes up an attempt, a timer or a jump of the clock, so a flow with an
end is far from it. -/
def patience : Nat := 1 <<< 24

def push (f : Flow) : Input → Except Result Flow
  | .status status =>
    repeatWaiting
      (fun s =>
        let (s, result) := s.forwardStatus status
        (s, result.map fun _ => true))
      1 f
  | .element (.record r) =>
    repeatWaiting
      (fun s =>
        let (s, result) := s.offer r []
        (s, result.map (· == .accepted)))
      patience f
  | .element (.watermark t) => repeatWaiting (fun s => s.offerWatermark t []) patience f

/-- Polls until nothing is in flight. -/
def settle (f : Flow) : Except Result Flow :=
  repeatWaiting
    (fun s =>
      let (s, result) := s.poll
      (s, result.map fun _ => s.queue.isEmpty))
    patience f

/-- Ends the input and waits until nothing is in flight. -/
def finish (f : Flow) : Except Result Flow :=
  repeatWaiting
    (fun s =>
      match s.finish { waiting := .forbidden } with
      | (s, .done ()) => (s, .ok true)
      | (s, .failed .cannotBlock) => (s, .ok false)
      | (s, .failed e) => (s, .error e)
      | (s, .blocked) => (s, .ok false))
    patience f

end Flow

/-- Where an element stands among the records of a run. -/
def sortKey : Element → String
  | .watermark _ => ""
  | .record r =>
    (Json.array
      [.text "r", .text r.value,
        Json.orNull (r.timestamp.map fun t => .array [.int t.secs, .nat t.nanos])]).render

/-- Sorts each run of records between two watermarks by the texts of the records. -/
def sortRuns (elements : List Element) : List Element :=
  let sortRun (run : List Element) := run.mergeSort fun a b => !(sortKey b < sortKey a)
  let (done, run) := elements.foldl
    (fun (done, run) e => if e.isRecord then (done, run ++ [e]) else (done ++ sortRun run ++ [e], []))
    ([], [])
  done ++ sortRun run

/-- The result of a flow that has come to its end. -/
def Flow.result (f : Flow) : Result :=
  let elements := f.stage.output.elements.toList
  .finished (if f.pipeline.config.mode = .unordered then sortRuns elements else elements)
    f.attempts.toList f.stage.output.statuses.toList

/-- Pushes the inputs, lets retries run their course if asked to, and ends the input. -/
def Flow.run (f : Flow) : Except Result Flow := do
  let f ← f.pipeline.inputs.foldlM Flow.push f
  let f ← if f.pipeline.settles then f.settle else pure f
  f.finish

def builder (p : Pipeline) : Builder where
  config := p.config
  fallback := if p.hasFallback then some fallbackOutput else none
  function _ := []

/-- Runs a pipeline. -/
def run (p : Pipeline) : Result :=
  match p.builder.build .epoch with
  | .error e => .failed (.configuration e)
  | .ok stage =>
    match Flow.run { pipeline := p, stage := stage } with
    | .ok f => f.result
    | .error result => result

end Pipeline

end AsyncStage
