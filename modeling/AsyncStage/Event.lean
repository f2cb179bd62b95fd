import AsyncStage.Entry
import AsyncStage.Metrics

/-!
# The history of a stage

A stage calls its function with an `Invocation`, which names the stage's mailbox, and is answered
by a `Completion` in this mailbox. Whatever it does is noted as an `Event` together with the clock
reading at the time. Nothing is ever taken back from a history, so the questions "what was
emitted", "how often was the function called" or "which attempts were cancelled" are questions
about a list.
-/

namespace AsyncStage

/-- Mailboxes are told apart by numbers. -/
abbrev MailboxId := Nat

/-- One call of the asynchronous function. -/
structure Invocation where
  entry : EntryId
  attempt : Nat
  value : String
  /-- Where the outcome of the call is to be left. -/
  mailbox : MailboxId
deriving DecidableEq, Repr

/-- The message by which an attempt gives its outcome. -/
structure Completion where
  entry : EntryId
  attempt : Nat
  outcome : Outcome
deriving DecidableEq, Repr

/-- The final result of an entry. -/
inductive Resolution where
  | values (values : List String)
  | error (error : EntryError)
deriving DecidableEq, Repr

/-- What the listener is told when fallback output takes the place of a result. -/
structure FallbackNotice where
  stepId : String
  input : String
  error : EntryError
  attempts : Nat
deriving DecidableEq, Repr

/-- Something that a stage did, or that was done to its mailbox. -/
inductive Event where
  /-- A completion was left in the mailbox. -/
  | posted (completion : Completion)
  /-- The element was put into the queue under this number. -/
  | admitted (id : EntryId) (element : Element)
  /-- The function was called. -/
  | invoked (call : Invocation)
  /-- The completion of an outstanding attempt was taken up. -/
  | applied (completion : Completion)
  /-- A retry was scheduled for the attempt after this one. -/
  | scheduled (id : EntryId) (attempt : Nat) (retryAt : Instant)
  /-- The cancel signal of an outstanding attempt was given. -/
  | cancelled (id : EntryId) (attempt : Nat)
  /-- The entry got its final result. -/
  | resolved (id : EntryId) (result : Resolution)
  /-- Fallback output took the place of an error. -/
  | substituted (notice : FallbackNotice)
  /-- The entry left the queue to be emitted. -/
  | released (entry : Entry)
  | measured (measurement : Measurement)
deriving DecidableEq

/-- An event and the clock reading at which it happened. -/
structure Note where
  time : Instant
  event : Event
deriving DecidableEq

namespace Resolution

/-- The result that an attempt's outcome stands for. -/
def ofOutcome : Outcome → Resolution
  | .values vs => .values vs
  | .failure e => .error (.invocation e)

end Resolution

namespace Event

def invocation? : Event → Option Invocation
  | .invoked call => some call
  | _ => none

/-- The attempt whose cancel signal was given. -/
def cancelled? : Event → Option (EntryId × Nat)
  | .cancelled id attempt => some (id, attempt)
  | _ => none

def notice? : Event → Option FallbackNotice
  | .substituted notice => some notice
  | _ => none

def measurement? : Event → Option Measurement
  | .measured m => some m
  | _ => none

end Event

end AsyncStage
