import AsyncStage.Entry

/-!
# Emission in the order of admission

Entries leave only from the head. Identifiers grow along the queue, so an entry is found by
halving the range that can hold it.
-/

namespace AsyncStage

/-- Entries in the order of admission. -/
structure OrderedQueue where
  entries : Array Entry := #[]
deriving DecidableEq

namespace OrderedQueue

/-- The position of the entry `id` among the positions `lo` to `hi - 1`, by halving. -/
def search (entries : Array Entry) (id : EntryId) (lo hi : Nat) : Option Nat :=
  if _h : lo < hi then
    let mid := (lo + hi) / 2
    match entries[mid]? with
    | none => none
    | some e =>
      match compare id e.id with
      | .lt => search entries id lo mid
      | .eq => some mid
      | .gt => search entries id (mid + 1) hi
  else
    none
termination_by hi - lo

/-- The position of the entry `id`. -/
def position? (q : OrderedQueue) (id : EntryId) : Option Nat := search q.entries id 0 q.entries.size

/-- The record entry with this number. -/
def find? (q : OrderedQueue) (id : EntryId) : Option RecordEntry := do
  let i ← q.position? id
  let e ← q.entries[i]?
  e.record?

/-- Applies `f` to the record entry with this number. -/
def update (q : OrderedQueue) (id : EntryId) (f : RecordEntry → RecordEntry) : OrderedQueue :=
  match q.position? id with
  | some i => ⟨q.entries.modify i (Entry.mapRecord f)⟩
  | none => q

def toList (q : OrderedQueue) : List Entry := q.entries.toList

def size (q : OrderedQueue) : Nat := q.entries.size

def push (q : OrderedQueue) (e : Entry) : OrderedQueue := ⟨q.entries.push e⟩

/-- Whether the head may leave. -/
def hasReady (q : OrderedQueue) : Bool :=
  match q.toList with
  | [] => false
  | e :: _ => e.isDone

/-- The entries that may leave, up to the first that may not, and what stays. -/
def drain (q : OrderedQueue) : List Entry × OrderedQueue :=
  (q.toList.takeWhile Entry.isDone, ⟨(q.toList.dropWhile Entry.isDone).toArray⟩)

end OrderedQueue

end AsyncStage
