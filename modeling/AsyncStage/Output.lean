import AsyncStage.Element

/-!
# What a stage emits

An `Output` keeps everything that was emitted: the elements in order, and apart from them
the status markers in order.
-/

namespace AsyncStage

structure Output where
  elements : Array Element := #[]
  statuses : Array StreamStatus := #[]
deriving DecidableEq

namespace Output

def emit (o : Output) (e : Element) : Output := { o with elements := o.elements.push e }

def emitStatus (o : Output) (s : StreamStatus) : Output := { o with statuses := o.statuses.push s }

def records (o : Output) : List Record :=
  o.elements.toList.filterMap fun
    | .record r => some r
    | .watermark _ => none

/-- The values of the emitted records. -/
def values (o : Output) : List String := o.records.map (·.value)

def watermarks (o : Output) : List Timestamp :=
  o.elements.toList.filterMap fun
    | .record _ => none
    | .watermark t => some t

def size (o : Output) : Nat := o.elements.size

def isEmpty (o : Output) : Bool := o.elements.isEmpty

end Output

end AsyncStage
