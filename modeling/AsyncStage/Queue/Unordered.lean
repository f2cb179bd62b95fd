import AsyncStage.Entry
import AsyncStage.Table

/-!
# Emission in the order of resolution

The queue is a sequence of segments. Each run of records between two watermarks is one
segment, and each watermark is a segment of its own. Only the first segment may emit:
records leave it as they are resolved, and once it is empty the watermark behind it leaves
and the next run of records takes its place. So a watermark leaves after every entry
admitted before it, and no record admitted after a watermark overtakes it.
-/

namespace AsyncStage

/-- A run of records, or one watermark. -/
inductive Segment where
  /-- Record entries by number, and the numbers of the resolved ones as they were resolved. -/
  | records (entries : Table EntryId RecordEntry) (ready : List EntryId)
  | watermark (id : EntryId) (time : Timestamp)
deriving DecidableEq

namespace Segment

def toList : Segment → List Entry
  | .records entries _ => entries.values.map .record
  | .watermark id time => [.watermark id time]

/-- Whether the record entry `id` is in this segment. -/
def holds (id : EntryId) : Segment → Bool
  | .records entries _ => entries.contains id
  | .watermark _ _ => false

/-- The record entry `id` of this segment. -/
def find? (id : EntryId) : Segment → Option RecordEntry
  | .records entries _ => entries.get? id
  | .watermark _ _ => none

end Segment

/-- Segments from the first admitted to the last, and the number of entries in them. -/
structure UnorderedQueue where
  segments : List Segment := []
  size : Nat := 0
deriving DecidableEq

namespace UnorderedQueue

def toList (q : UnorderedQueue) : List Entry := q.segments.flatMap Segment.toList

/-- Applies `f` to the first segment that holds the record entry `id`. -/
def updateSegment (id : EntryId) (f : Segment → Segment) : List Segment → List Segment
  | [] => []
  | s :: rest => if s.holds id then f s :: rest else s :: updateSegment id f rest

def find? (q : UnorderedQueue) (id : EntryId) : Option RecordEntry :=
  q.segments.findSome? (Segment.find? id)

/-- Applies `f` to the record entry with this number. -/
def update (q : UnorderedQueue) (id : EntryId) (f : RecordEntry → RecordEntry) : UnorderedQueue :=
  { q with
    segments := updateSegment id
      (fun
        | .records entries ready => .records (entries.modify id f) ready
        | .watermark id time => .watermark id time)
      q.segments }

/-- Adds a record to the last run of records, or to a new one after a watermark. -/
def pushRecord (e : RecordEntry) : List Segment → List Segment
  | [] => [.records (Table.empty.insert e.id e) (if e.isDone then [e.id] else [])]
  | [.records entries ready] =>
    [.records (entries.insert e.id e) (if e.isDone then ready ++ [e.id] else ready)]
  | s :: rest => s :: pushRecord e rest

def push (q : UnorderedQueue) : Entry → UnorderedQueue
  | .watermark id time => ⟨q.segments ++ [.watermark id time], q.size + 1⟩
  | .record e => ⟨pushRecord e q.segments, q.size + 1⟩

/-- Notes that the record entry `id` has been resolved. -/
def markCompleted (q : UnorderedQueue) (id : EntryId) : UnorderedQueue :=
  { q with
    segments := updateSegment id
      (fun
        | .records entries ready => .records entries (ready ++ [id])
        | .watermark id time => .watermark id time)
      q.segments }

/-- Whether an entry may leave: a record run with a resolved record, a run without records in
front of a watermark, or a watermark at the head. -/
def hasReady (q : UnorderedQueue) : Bool :=
  match q.segments with
  | [] => false
  | .watermark _ _ :: _ => true
  | .records entries ready :: rest => !ready.isEmpty || (entries.isEmpty && !rest.isEmpty)

/-- The entries with the listed numbers, and the table without them. -/
def takeReady (entries : Table EntryId RecordEntry) :
    List EntryId → List Entry × Table EntryId RecordEntry
  | [] => ([], entries)
  | id :: ready =>
    let (taken, left) := takeReady (entries.erase id) ready
    (((entries.get? id).map Entry.record).toList ++ taken, left)

/-- The entries that may leave the segments, and the segments that stay. -/
def drainSegments : List Segment → List Entry × List Segment
  | [] => ([], [])
  | .watermark id time :: rest =>
    let (drained, left) := drainSegments rest
    (.watermark id time :: drained, left)
  | .records entries ready :: rest =>
    let (taken, kept) := takeReady entries ready
    if kept.isEmpty then
      let (drained, left) := drainSegments rest
      (taken ++ drained, left)
    else
      (taken, .records kept [] :: rest)

/-- The entries that may leave, in the order in which they do, and what stays. -/
def drain (q : UnorderedQueue) : List Entry × UnorderedQueue :=
  let (drained, segments) := drainSegments q.segments
  (drained, ⟨segments, q.size - drained.length⟩)

end UnorderedQueue

end AsyncStage
