import AsyncStage.Event
import AsyncStage.Output
import AsyncStage.Queue
import AsyncStage.Timer

/-!
# A stage

A stage applies an asynchronous function to the records of a stream. It keeps an entry for
every element that it has admitted and not yet emitted, timers for their deadlines and
retries, and a mailbox where completed attempts leave their outcomes. It acts only when one
of its operations is called: between two calls nothing but its mailbox and its clock
changes.
-/

namespace AsyncStage

/-- What a stage is built from and never changes. -/
structure Setup where
  stepId : String
  /-- The mailbox of this stage, which is no other stage's. -/
  mailbox : MailboxId
  retry : RetryStrategy
  /-- The time from an entry's first attempt to its result. -/
  timeout : Option Duration
  /-- The output that takes the place of a failed entry's. -/
  fallback : Option (String → EntryError → List String)
  /-- Whether somebody listens to the use of the fallback. -/
  listening : Bool
  /-- The asynchronous function: the completions that it leaves in the mailbox before it
  returns. -/
  function : Invocation → List Completion

/-- Whether a stage still works, and if not, how it ended. -/
inductive Status where
  | running
  | closed
  | failed (failure : EntryFailure)
deriving DecidableEq

namespace Status

def isRunning : Status → Bool
  | .running => true
  | .closed => false
  | .failed _ => false

/-- The failure that ended the stage. -/
def failure? : Status → Option EntryFailure
  | .running => none
  | .closed => none
  | .failed failure => some failure

end Status

structure Stage where
  setup : Setup
  /-- The clock reading. -/
  now : Instant
  queue : Queue
  timers : TimerQueue := {}
  /-- Completions that have not been looked at, the oldest first. -/
  mailbox : List Completion := []
  /-- Whether retries are still allowed; turned off by the end of input. -/
  retrying : Bool := true
  nextId : EntryId := 0
  status : Status := .running
  output : Output := {}
  history : Array Note := #[]

/-- The call that is an attempt for a value. -/
def Setup.call (setup : Setup) (id : EntryId) (attempt : Nat) (value : String) : Invocation :=
  ⟨id, attempt, value, setup.mailbox⟩

@[simp] theorem Setup.entry_call (setup : Setup) (id : EntryId) (attempt : Nat) (value : String) :
    (setup.call id attempt value).entry = id := rfl

@[simp] theorem Setup.attempt_call (setup : Setup) (id : EntryId) (attempt : Nat) (value : String) :
    (setup.call id attempt value).attempt = attempt := rfl

/-- Something that happens outside a stage between two of its steps. -/
inductive Occurrence where
  /-- An attempt completes. -/
  | completes (completion : Completion)
  /-- The clock comes to read another instant. -/
  | clockReads (time : Instant)
deriving DecidableEq

namespace Stage

def stepId (s : Stage) : String := s.setup.stepId

def isRunning (s : Stage) : Bool := s.status.isRunning

/-- The entries in flight in the order of admission. -/
def entries (s : Stage) : List Entry := s.queue.toList

/-- The elements in flight in the order of admission. -/
def pendingElements (s : Stage) : List Element := s.entries.map Entry.element

/-- Adds an event to the history. -/
def note (s : Stage) (e : Event) : Stage := { s with history := s.history.push ⟨s.now, e⟩ }

def measure (s : Stage) (m : Measurement) : Stage := s.note (.measured m)

/-- The stage with an empty history, for those who keep what they need of it. -/
def forgetHistory (s : Stage) : Stage := { s with history := #[] }

/-- Leaves a completion in the mailbox. -/
def post (s : Stage) (c : Completion) : Stage :=
  { s with mailbox := s.mailbox ++ [c] }.note (.posted c)

/-- An outcome that is sent to a mailbox. It reaches the stage whose mailbox this is. -/
def receive (s : Stage) (mailbox : MailboxId) (c : Completion) : Stage :=
  if mailbox = s.setup.mailbox then s.post c else s

/-- Lets something happen outside the stage. -/
def undergo (s : Stage) : Occurrence → Stage
  | .completes c => s.post c
  | .clockReads t => { s with now := t }

/-- Lets several things happen, one after the other. -/
def undergoAll (s : Stage) (os : List Occurrence) : Stage := os.foldl undergo s

/-- Changes the record entry with this number. -/
def update (s : Stage) (id : EntryId) (f : RecordEntry → RecordEntry) : Stage :=
  { s with queue := s.queue.update id f }

end Stage

end AsyncStage
