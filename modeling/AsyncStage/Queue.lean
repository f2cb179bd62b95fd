import AsyncStage.Config
import AsyncStage.Queue.Ordered
import AsyncStage.Queue.Unordered

/-!
# The queue of a stage

A queue holds a bounded number of entries and decides when each may leave: in the order of
admission, or as records are resolved between two watermarks.
-/

namespace AsyncStage

/-- The discipline by which entries leave, with the entries themselves. -/
inductive Discipline where
  | ordered (queue : OrderedQueue)
  | unordered (queue : UnorderedQueue)
deriving DecidableEq

/-- A queue with room for `capacity` entries. -/
structure Queue where
  capacity : Nat
  discipline : Discipline
deriving DecidableEq

namespace Queue

/-- The empty queue of a mode. -/
def empty (mode : OutputMode) (capacity : Nat) : Queue where
  capacity := capacity
  discipline :=
    match mode with
    | .ordered => .ordered {}
    | .unordered => .unordered {}

/-- The entries in the order of admission. -/
def toList (q : Queue) : List Entry :=
  match q.discipline with
  | .ordered o => o.toList
  | .unordered u => u.toList

def size (q : Queue) : Nat :=
  match q.discipline with
  | .ordered o => o.size
  | .unordered u => u.size

def isEmpty (q : Queue) : Bool := q.size == 0

def hasRoom (q : Queue) : Bool := q.size < q.capacity

/-- Adds an entry at the end, whether there is room or not. -/
def push (q : Queue) (e : Entry) : Queue :=
  { q with
    discipline :=
      match q.discipline with
      | .ordered o => .ordered (o.push e)
      | .unordered u => .unordered (u.push e) }

/-- Adds an entry at the end if there is room. -/
def put? (q : Queue) (e : Entry) : Option Queue := if q.hasRoom then some (q.push e) else none

/-- The record entry with this number. -/
def find? (q : Queue) (id : EntryId) : Option RecordEntry :=
  match q.discipline with
  | .ordered o => o.find? id
  | .unordered u => u.find? id

/-- Applies `f` to the record entry with this number. -/
def update (q : Queue) (id : EntryId) (f : RecordEntry → RecordEntry) : Queue :=
  { q with
    discipline :=
      match q.discipline with
      | .ordered o => .ordered (o.update id f)
      | .unordered u => .unordered (u.update id f) }

/-- Notes that the record entry `id` has its final result. -/
def markCompleted (q : Queue) (id : EntryId) : Queue :=
  { q with
    discipline :=
      match q.discipline with
      | .ordered o => .ordered o
      | .unordered u => .unordered (u.markCompleted id) }

/-- Whether an entry may leave. -/
def hasReady (q : Queue) : Bool :=
  match q.discipline with
  | .ordered o => o.hasReady
  | .unordered u => u.hasReady

/-- The entries that may leave, in the order in which they do, and the queue without them. -/
def drain (q : Queue) : List Entry × Queue :=
  match q.discipline with
  | .ordered o =>
    let (drained, o) := o.drain
    (drained, { q with discipline := .ordered o })
  | .unordered u =>
    let (drained, u) := u.drain
    (drained, { q with discipline := .unordered u })

/-- The queue without entries. -/
def clear (q : Queue) : Queue :=
  { q with
    discipline :=
      match q.discipline with
      | .ordered _ => .ordered {}
      | .unordered _ => .unordered {} }

end Queue

end AsyncStage
