import AsyncStage.Time.Timestamp

/-!
# Stream elements

A stream carries records and watermarks. A watermark says that no record with an earlier
event time follows it. Status markers travel beside the elements and say whether the
stream is idle.
-/

namespace AsyncStage

/-- A value with the event time it belongs to, if that is known. -/
structure Record where
  value : String
  timestamp : Option Timestamp := none
deriving DecidableEq, Inhabited

/-- What a stream carries in order. -/
inductive Element where
  | record (record : Record)
  | watermark (time : Timestamp)
deriving DecidableEq

/-- Whether a stream is expected to carry elements. -/
inductive StreamStatus where
  | idle
  | active
deriving DecidableEq, Repr

namespace Record

/-- The record with another value and the same event time. -/
def replace (r : Record) (value : String) : Record := { r with value }

end Record

namespace Element

def isRecord : Element → Bool
  | .record _ => true
  | .watermark _ => false

/-- The latest watermark among some elements. -/
def latestWatermark? (elements : List Element) : Option Timestamp :=
  elements.foldl
    (fun latest e =>
      match latest, e with
      | some t, .watermark t' => some (t.later t')
      | none, .watermark t' => some t'
      | _, .record _ => latest)
    none

end Element

end AsyncStage
