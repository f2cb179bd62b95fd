import AsyncStage.Checkpoint.Publish
import AsyncStage.Scenario.Report

/-!
# Running a scenario

A `Scene` is where a scenario stands between two steps: the clock, the stage if there is
one, the calls that are held, and what has been reported already. After each step the scene
follows the stage's history: new calls are held unless the script answers them, cancel
signals reach the calls they are for, and recordings are added to the metrics.
-/

namespace AsyncStage.Scenario

open Snapshot (Bytes)

/-- A call of the function that a scenario knows of. -/
structure Call where
  value : String
  /-- The number of the attempt in the call's label. -/
  label : Nat
  /-- The number of the stage that made the call. -/
  stage : Nat
  entry : EntryId
  attempt : Nat
  /-- Where the outcome is to be left. -/
  mailbox : MailboxId
  cancelled : Bool := false
  /-- Whether the cancellation has been reported. -/
  reported : Bool := false

/-- A call whose outcome is on its way to the mailbox. -/
structure Delivery where
  call : Call
  outcome : Outcome

structure Scene where
  scenario : Scenario
  clock : Instant
  stage : Option Stage := none
  /-- The number of the current stage, which is also that of its mailbox. -/
  stageNumber : Nat := 0
  /-- How much of the stage's output has been reported. -/
  elementsSeen : Nat := 0
  statusesSeen : Nat := 0
  /-- How often the current stage has called the function for each value. -/
  counts : Table String Nat := .empty
  /-- Calls that can be completed, in the order in which they were made. -/
  held : List Call := []
  /-- Calls that were completed before they were cancelled, in the order of completion. -/
  completed : List Call := []
  /-- Outcomes that reach the mailbox at the end of the step. -/
  deliveries : List Delivery := []
  stores : Table String Store
  lastSnapshot : Bytes := []
  metrics : Metrics := .empty
  /-- Labels and notices that are new in this step. -/
  invocations : Array String := #[]
  notices : Array FallbackNotice := #[]

namespace Call

/-- Whether this is the call of an attempt of a stage. -/
def isFor (stage : Nat) (entry : EntryId) (attempt : Nat) (c : Call) : Bool :=
  c.stage == stage && c.entry == entry && c.attempt == attempt

def fits (p : CallPattern) (c : Call) : Bool :=
  c.value == p.value &&
    (match p.attempt with
      | some n => c.label == n
      | none => true)

/-- The call with its cancel signal given, if it is the one of this attempt. -/
def cancelIf (stage : Nat) (entry : EntryId) (attempt : Nat) (c : Call) : Call :=
  if c.isFor stage entry attempt then { c with cancelled := true } else c

def view (c : Call) : CallView := ⟨c.value, c.label, c.entry, c.attempt, c.cancelled⟩

end Call

namespace Scene

/-! ## Following the history -/

/-- A new call: it is answered by the script or held. -/
def followCall (s : Scene) (call : Invocation) : Scene :=
  let count := ((s.counts.get? call.value).getD 0) + 1
  let deferred := s.scenario.function == .deferred
  let number := if deferred then count else call.attempt
  let new : Call :=
    { value := call.value, label := number, stage := s.stageNumber, entry := call.entry,
      attempt := call.attempt, mailbox := call.mailbox }
  let s :=
    { s with
      counts := s.counts.insert call.value count
      invocations := s.invocations.push (label call.value number) }
  match s.scenario.script.outcome? call.value number with
  | some outcome => if deferred then { s with deliveries := s.deliveries ++ [⟨new, outcome⟩] } else s
  | none => { s with held := s.held ++ [new] }

/-- Follows one event of the stage. -/
def followEvent (s : Scene) : Event → Scene
  | .invoked call => s.followCall call
  | .cancelled entry attempt =>
    let cancel := Call.cancelIf s.stageNumber entry attempt
    { s with
      held := s.held.map cancel
      completed := s.completed.map cancel
      deliveries := s.deliveries.map fun d => { d with call := cancel d.call } }
  | .substituted notice => { s with notices := s.notices.push notice }
  | _ => s

/-- Follows the history of a stage. -/
def follow (s : Scene) (stage : Stage) : Scene :=
  let events := stage.history.toList.map Note.event
  let s := events.foldl followEvent s
  { s with metrics := s.metrics.record stage.stepId (events.filterMap Event.measurement?) }

/-- Puts the stage, as it is after an operation, into the scene. What its history says has
then been followed. -/
def withStage (s : Scene) (stage : Stage) : Scene :=
  { s.follow stage with stage := some stage.forgetHistory, clock := stage.now }

/-- The stage is gone; whatever it had in flight is discarded. -/
def dropStage (s : Scene) : Scene :=
  match s.stage with
  | none => s
  | some stage => { s.follow stage.drop with stage := none }

/-- A new stage begins. -/
def beginStage (s : Scene) : Scene :=
  { s with
    stageNumber := s.stageNumber + 1
    elementsSeen := 0
    statusesSeen := 0
    counts := .empty }

/-! ## Calls -/

/-- The first held call of this pattern that is not cancelled, or else the first that is. -/
def findCall? (s : Scene) (p : CallPattern) : Option Nat :=
  match s.held.findIdx? fun c => c.fits p && !c.cancelled with
  | some i => some i
  | none => s.held.findIdx? fun c => c.fits p

/-- Takes a call out of those that are held. -/
def takeCall? (s : Scene) (p : CallPattern) : Option (Call × Scene) := do
  let i ← s.findCall? p
  let c ← s.held[i]?
  pure (c, { s with held := s.held.eraseIdx i })

/-- Sends the outcome of a call to the mailbox that the call has named. -/
def post (s : Scene) (c : Call) (outcome : Outcome) : Scene :=
  { s with
    stage := s.stage.map fun stage => stage.receive c.mailbox ⟨c.entry, c.attempt, outcome⟩ }

/-- Completes a held call. -/
def completeCall? (s : Scene) (p : CallPattern) (outcome : Outcome) : Option Scene := do
  let (c, s) ← s.takeCall? p
  match s.scenario.function with
  | .immediate =>
    pure ({ s with completed := if c.cancelled then s.completed else s.completed ++ [c] }.post c outcome)
  | .deferred => pure { s with deliveries := s.deliveries ++ [⟨c, outcome⟩] }

/-- Moves the clock to another instant. -/
def setClock (s : Scene) (t : Instant) : Scene :=
  { s with clock := t, stage := s.stage.map fun stage => stage.undergo (.clockReads t) }

/-- Does what another thread does while a step blocks. -/
def act? (s : Scene) : Action → Option Scene
  | .complete p outcome => s.completeCall? p outcome
  | .advance nanos => some (((s.clock.shift? nanos).map s.setClock).getD s)

/-- Outcomes on their way reach the mailbox, unless their call was cancelled. -/
def deliver (s : Scene) : Scene :=
  s.deliveries.foldl (fun s d => if d.call.cancelled then s else s.post d.call d.outcome)
    { s with deliveries := [] }

/-! ## Steps -/

/-- The interference that a call meets when everything else has happened before it: it can
only be woken, so many times, by what is in the mailbox. -/
def interference (b : Blocking) (wakes : Nat) : Interference where
  waiting := if b.allowed then .wakes (List.replicate wakes {}) else .forbidden

/-- Whether a call that was answered so would go on if it were woken more often. Without mail
it is stuck: after a turn no timer is due, and the clock stands still. -/
def goesOn (stage : Stage) : Reply Unit → Bool
  | .blocked => !stage.mailbox.isEmpty
  | .done () | .failed _ => false

/-- Makes a call with `wakes` wakings, and with twice as many as long as it would go on, but no
more than `doublings` times. -/
def patiently {α : Type} (goesOn : α → Bool) (call : Nat → α) (wakes : Nat) : Nat → α
  | 0 => call wakes
  | doublings + 1 =>
    let result := call wakes
    if goesOn result then patiently goesOn call (2 * wakes) doublings else result

/-- How often the number of wakings is doubled before a call counts as stuck that mail wakes
for ever. Each waking takes up the outcome of a call that the report names, so a call with an
end is far from it. -/
def patience : Nat := 20

def Answer.ofResult {α : Type} (answer : α → Answer) : Except StageError α → Answer
  | .ok a => answer a
  | .error e => .failed e

def Answer.ofReply : Reply Unit → Answer
  | .done () => .done
  | .failed e => .failed e
  | .blocked => .blocked

/-- Whether the restoring of a stage would go on if calls were woken more often. -/
def Restoration.goesOn : Restoration → Bool
  | .refused _ => false
  | .built stage reply => Scene.goesOn stage reply

/-- Runs an operation of the stage. -/
def onStage (s : Scene) (operation : Stage → Stage × Answer) : Answer × Scene :=
  match s.stage with
  | none => (.noStage, s)
  | some stage =>
    let (stage, answer) := operation stage
    (answer, s.withStage stage)

/-- Runs an operation that may block, after the actions that happen meanwhile. If one of them
is for a call that is not there, nothing happens at all. -/
def onStageBlocking (s : Scene) (b : Blocking)
    (operation : Stage → Interference → Stage × Reply Unit) : Answer × Scene :=
  match s.stage with
  | none => (.noStage, s)
  | some _ =>
    match b.actions.foldlM act? s with
    | none => (.noCall, s)
    | some s =>
      s.onStage fun stage =>
        let call (wakes : Nat) := operation stage (interference b wakes)
        let (stage, reply) := patiently (fun r => goesOn r.1 r.2) call 16 patience
        (stage, Answer.ofReply reply)

/-- Drops the stage and begins another one. A stage that could not be filled again is dropped
as well. -/
def rebuild (s : Scene) (config : GivenConfig) (b : Blocking)
    (restore : Builder → Instant → (Nat → Interference) → Restoration) : Answer × Scene :=
  match b.actions.foldlM act? s with
  | none => (.noCall, s)
  | some s =>
    let s := s.dropStage
    match config with
    | none => (.unreadableConfig, s)
    | some config =>
      let s := s.beginStage
      let call (wakes : Nat) :=
        restore (s.scenario.builder s.stageNumber config) s.clock fun _ => interference b wakes
      match patiently Restoration.goesOn call 16 patience with
      | .refused e => (.failed e, s)
      | .built stage (.done ()) => (.done, s.withStage stage)
      | .built stage reply => (Answer.ofReply reply, (s.withStage stage).dropStage)

/-- The stage taken apart for what it has emitted. -/
def intoOutput (s : Scene) : Answer × Scene :=
  match s.stage with
  | none => (.noStage, s)
  | some stage =>
    let closed := stage.close
    (.elements closed.output.elements.toList, { s.follow closed with stage := none })

def takeOutput (s : Scene) : Answer × Scene :=
  match s.stage with
  | none => (.noStage, s)
  | some stage =>
    let (elements, stage) := stage.takeOutput
    (.elements elements, { s with stage := some stage, elementsSeen := 0 })

def takeSnapshot (s : Scene) : Answer × Scene :=
  match s.stage with
  | none => (.noStage, s)
  | some stage =>
    let (stage, bytes) := stage.snapshot
    (.bytes bytes, { s.withStage stage with lastSnapshot := bytes })

def checkpoint (s : Scene) (id : CheckpointId) (name : String) : Answer × Scene :=
  match s.stage, s.stores.get? name with
  | none, _ => (.noStage, s)
  | some _, none => (.unknownStep, s)
  | some stage, some store =>
    let (stage, store, result) := stage.checkpoint id store
    (Answer.ofResult (fun _ => .done) result,
      { s.withStage stage with stores := s.stores.insert name store })

def callStore (s : Scene) (name : String) (call : StoreCall) : Answer × Scene :=
  match s.stores.get? name with
  | none => (.unknownStep, s)
  | some store =>
    let (answer, store) := store.perform call
    (.stored answer, { s with stores := s.stores.insert name store })

def inspection (stage : Stage) : Inspection where
  stepId := stage.stepId
  capacity := stage.queue.capacity
  isEmpty := stage.queue.isEmpty
  outputSize := stage.output.size
  entries := stage.entries

/-- Performs a step. -/
def perform (s : Scene) : Step → Answer × Scene
  | .offer r =>
    s.onStage fun stage =>
      let (stage, result) := stage.offer r []
      (stage, Answer.ofResult (fun
        | .accepted => .accepted
        | .full r => .full r) result)
  | .put r b => s.onStageBlocking b fun stage i => stage.put r i
  | .watermark t b => s.onStageBlocking b fun stage i => stage.putWatermark t i
  | .finish b => s.onStageBlocking b Stage.finish
  | .status status =>
    s.onStage fun stage =>
      let (stage, result) := stage.forwardStatus status
      (stage, Answer.ofResult (fun _ => .done) result)
  | .poll =>
    s.onStage fun stage =>
      let (stage, result) := stage.poll
      (stage, Answer.ofResult (fun _ => .done) result)
  | .close => s.onStage fun stage => (stage.close, .done)
  | .drop => (.done, s.dropStage)
  | .intoOutput => s.intoOutput
  | .takeOutput => s.takeOutput
  | .advance nanos =>
    match s.clock.shift? nanos with
    | some t => (.done, s.setClock t)
    | none => (.outOfTime, s)
  | .setClock t => (.done, s.setClock t)
  | .complete p outcome =>
    match s.completeCall? p outcome with
    | some s => (.done, s)
    | none => (.noCall, s)
  | .abandon p =>
    match s.takeCall? p with
    | some (_, s) => (.done, s)
    | none => (.noCall, s)
  | .calls => (.calls (s.held.map Call.view), s)
  | .inspect => s.onStage fun stage => (stage, .inspection (inspection stage))
  | .pendingElements => s.onStage fun stage => (stage, .elements stage.pendingElements)
  | .snapshot => s.takeSnapshot
  | .checkpoint id name => s.checkpoint id name
  | .store name call => s.callStore name call
  | .restore state config b =>
    s.rebuild (config.getD s.scenario.config) b fun builder now around =>
      builder.restore now (state.getD s.lastSnapshot) around
  | .restoreFrom name config b =>
    match s.stores.get? name with
    | none => (.unknownStep, s)
    | some store =>
      s.rebuild (config.getD s.scenario.config) b fun builder now around =>
        builder.restoreFrom now store around
  | .metrics => (.metrics s.metrics, s)
  | .unknown => (.unknownStep, s)

/-! ## Reports -/

/-- Labels of calls that were cancelled and not reported. -/
def freshCancellations (calls : List Call) : List String :=
  (calls.filter fun c => c.cancelled && !c.reported).map fun c => Scenario.label c.value c.label

/-- Marks the cancelled calls as reported. -/
def markReported (calls : List Call) : List Call :=
  calls.map fun c => { c with reported := c.cancelled }

/-- Reports a step that was answered so, and leaves the scene ready for the next one. -/
def report (s : Scene) (answer : Answer) : StepReport × Scene :=
  let s := s.deliver
  let elements := (s.stage.map fun stage => stage.output.elements.toList).getD []
  let statuses := (s.stage.map fun stage => stage.output.statuses.toList).getD []
  let watched := if s.scenario.function == .immediate then s.completed else []
  ({ answer := answer
     standing := s.stage.map fun stage => ⟨stage.isRunning, stage.entries⟩
     elements := elements.drop s.elementsSeen
     statuses := statuses.drop s.statusesSeen
     invocations := s.invocations.toList
     cancelled := freshCancellations s.held ++ freshCancellations watched
     notices := s.notices.toList },
    { s with
      elementsSeen := elements.length
      statusesSeen := statuses.length
      held := markReported s.held
      completed := markReported s.completed
      invocations := #[]
      notices := #[] })

/-- Performs a step and reports it. -/
def step (s : Scene) (step : Step) : StepReport × Scene :=
  let (answer, s) := s.perform step
  s.report answer

/-- Performs steps one after the other. -/
def steps (s : Scene) : List Step → List StepReport × Scene
  | [] => ([], s)
  | first :: rest =>
    let (report, s) := s.step first
    let (reports, s) := s.steps rest
    (report :: reports, s)

/-- The scene before the first step, with the first stage if it could be built. -/
def opening (scenario : Scenario) : Answer × Scene :=
  let s : Scene :=
    { scenario := scenario, clock := scenario.start, stores := scenario.stores }
  match scenario.config with
  | none => (.unreadableConfig, s)
  | some config =>
    let s := s.beginStage
    match (scenario.builder s.stageNumber config).build s.clock with
    | .error e => (.failed (.configuration e), s)
    | .ok stage => (.done, s.withStage stage)

end Scene

end Scenario

/-- Runs a scenario. -/
def Scenario.run (s : Scenario) : Scenario.Report :=
  let (build, scene) := Scenario.Scene.opening s
  let (steps, scene) := scene.steps s.steps
  ⟨build, steps, scene.metrics⟩

end AsyncStage
