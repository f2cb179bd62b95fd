import AsyncStage.Json.Number

/-!
# Reading typed values

A record is read from an object, each of whose known members may occur once, or from an
array of its fields in order. Members that are not known are passed over. A tagged choice
is a record whose first field tells the variant; because its other members wait until the
tag is known, they all have to be values that can be kept, known or not.
-/

namespace AsyncStage.Json

def asText? : Json → Option String
  | .string t => t
  | _ => none

def asBool? : Json → Option Bool
  | .bool b => some b
  | _ => none

/-- A natural number below 2^64. -/
def asNat64? : Json → Option Nat
  | .number n => n.toNat64?
  | _ => none

/-- A natural number below 2^32. -/
def asUInt32? (j : Json) : Option UInt32 := do
  let n ← j.asNat64?
  if n < UInt32.size then some (UInt32.ofNat n) else none

/-- An integer from -2^63 to 2^64 - 1. -/
def asInt64? : Json → Option Int
  | .number n => n.toInt64?
  | _ => none

def asFloat? : Json → Option Float
  | .number n => n.toFloat?
  | _ => none

def asList? : Json → Option (List Json)
  | .array items => some items
  | _ => none

def isNull : Json → Bool
  | .null => true
  | _ => false

/-- Reads `null`, or a value that `read` accepts. -/
def nullable {α : Type} (read : Json → Option α) (j : Json) : Option (Option α) :=
  if j.isNull then some none else (read j).map some

/-- What a record gives for a field: nothing, its value, or a fault. -/
abbrev Field := Option Json

namespace Field

/-- The value of a field that has to be there. -/
def required {α : Type} (f : Field) (read : Json → Option α) : Option α := f.bind read

/-- The value of a field, or `default` if it is missing. -/
def withDefault {α : Type} (f : Field) (default : α) (read : Json → Option α) : Option α :=
  match f with
  | none => some default
  | some j => read j

end Field

/-- The values of the members of this name. -/
def membersNamed (name : String) (members : List (Option String × Json)) : List Json :=
  members.filterMap fun (k, v) => if k = some name then some v else none

/-- The fields of these names out of the members of an object; a name may occur once, and
every key has to be a text. -/
def fieldsOfMembers? (names : List String) (members : List (Option String × Json)) :
    Option (List Field) :=
  if members.all fun m => m.1.isSome then
    names.mapM fun name =>
      match membersNamed name members with
      | [] => some none
      | [v] => some (some v)
      | _ :: _ :: _ => none
  else
    none

/-- The fields of these names out of the items of an array, of which there may not be more. -/
def fieldsOfItems? (names : List String) (items : List Json) : Option (List Field) :=
  if items.length ≤ names.length then
    some (items.map some ++ List.replicate (names.length - items.length) none)
  else
    none

/-- The fields of a record. -/
def record? (names : List String) : Json → Option (List Field)
  | .object members => fieldsOfMembers? names members
  | .array items => fieldsOfItems? names items
  | _ => none

/-! ## Values that wait -/

mutual

/-- Whether a value can be kept: its strings have text, its numbers are in range, and it is
nested less than `depth` times. -/
def isKeepable (depth : Nat) : Json → Bool
  | .null => true
  | .bool _ => true
  | .number n => n.toInt64?.isSome || n.toFloat?.isSome
  | .string t => t.isSome
  | .array items => 1 < depth && areKeepable (depth - 1) items
  | .object members => 1 < depth && membersKeepable (depth - 1) members

/-- Whether each of some values can be kept. -/
def areKeepable (depth : Nat) : List Json → Bool
  | [] => true
  | v :: vs => isKeepable depth v && areKeepable depth vs

/-- Whether each of some members can be kept. -/
def membersKeepable (depth : Nat) : List (Option String × Json) → Bool
  | [] => true
  | (k, v) :: ms => k.isSome && isKeepable depth v && membersKeepable depth ms

end

/-- A choice whose tag has been read: the value under the tag and the rest of the record. -/
structure Tagged where
  tag : String
  rest : Json

/-- Reads a choice that stands at this depth: an object with one member named `name`, or an
array whose first item is the tag. -/
def tagged? (name : String) (depth : Nat) (j : Json) : Option Tagged :=
  if isKeepable depth j then
    match j with
    | .object members =>
      match membersNamed name members with
      | [tag] => do
        pure ⟨← tag.asText?, .object (members.filter fun m => m.1 != some name)⟩
      | _ => none
    | .array (tag :: items) => do pure ⟨← tag.asText?, .array items⟩
    | _ => none
  else
    none

end AsyncStage.Json
