import AsyncStage.Element
import AsyncStage.Json.Fields
import AsyncStage.Json.Printer
import AsyncStage.Json.Reader
import AsyncStage.Time.TimestampText

/-!
# Stream elements as JSON

An element is an object with one member, named `Record` or `Watermark`. Event times are
texts.
-/

namespace AsyncStage

namespace Timestamp

def ofJson? (j : Json) : Option Timestamp := j.asText?.bind ofText?

def toJson (t : Timestamp) : Json := .text t.text

end Timestamp

namespace Record

/-- Reads a record. As an object it may leave out the event time, as an array it may not. -/
def ofJson? (j : Json) : Option Record := do
  match ← Json.record? ["value", "timestamp"] j with
  | [value, timestamp] =>
    if j.asList?.isSome && timestamp.isNone then none
    pure
      { value := ← value.required Json.asText?
        timestamp := ← timestamp.withDefault none (Json.nullable Timestamp.ofJson?) }
  | _ => none

def toJson (r : Record) : Json :=
  .fields
    [("value", .text r.value), ("timestamp", Json.orNull (r.timestamp.map Timestamp.toJson))]

end Record

namespace Element

def ofJson? : Json → Option Element
  | .object [(some "Record", j)] => (Record.ofJson? j).map .record
  | .object [(some "Watermark", j)] => (Timestamp.ofJson? j).map .watermark
  | _ => none

def toJson : Element → Json
  | .record r => .fields [("Record", r.toJson)]
  | .watermark t => .fields [("Watermark", t.toJson)]

/-- Reads the text of a list of elements. -/
def parseList? (s : String) : Option (List Element) := do
  let j ← Json.parse? s
  (← j.asList?).mapM ofJson?

/-- The compact text of a list of elements. -/
def listText (elements : List Element) : String := (Json.array (elements.map toJson)).render

end Element

end AsyncStage
