import AsyncStage.Pattern.Escape

/-!
# Reading sets of characters

A set in brackets may be negated and holds characters, ranges, classes and further sets, which
`&&`, `--` and `~~` combine from left to right. Hyphens at the start and a bracket that closes
right there are characters. Brackets inside brackets are named classes, as in `[[:alpha:]]`,
or sets.
-/

namespace AsyncStage.Pattern

/-- A set whose closing bracket has not been reached. -/
structure OpenSet where
  negated : Bool
  /-- Whether only hyphens have been read. -/
  atStart : Bool := true
  /-- The set in front of the last operator, if there was one. -/
  left : Option (SetOperation × CharSet) := none
  /-- What stands behind it, the last first. -/
  items : List CharSet := []

namespace OpenSet

def push (s : OpenSet) (item : CharSet) : OpenSet := { s with items := item :: s.items }

/-- The set that has been read. -/
def value (s : OpenSet) : CharSet :=
  let right := CharSet.ofList s.items.reverse
  match s.left with
  | none => right
  | some (operation, left) => .combined operation left right

/-- What has been read becomes the left side of an operation. -/
def combine (s : OpenSet) (operation : SetOperation) : OpenSet :=
  { s with left := some (operation, s.value), items := [] }

/-- The set in its brackets. -/
def closed (s : OpenSet) : CharSet := .bracketed s.negated s.value

/-- Begins a set behind its opening bracket. -/
def begin (verbose : Bool) (cs : List Char) : OpenSet × List Char :=
  match skipFiller verbose cs with
  | '^' :: rest => ({ negated := true }, rest)
  | rest => ({ negated := false }, rest)

end OpenSet

/-- Reads a named class behind its opening bracket, as in `:alpha:]` or `:^alpha:]`. -/
def readAsciiClass? (cs : List Char) : Option (CharSet × List Char) := do
  let (negated, cs) ←
    match cs with
    | ':' :: '^' :: rest => some (true, rest)
    | ':' :: rest => some (false, rest)
    | _ => none
  let name ← AsciiClass.ofName? (String.ofList (cs.takeWhile (· != ':')))
  match cs.dropWhile (· != ':') with
  | ':' :: ']' :: rest => some (.ascii negated name, rest)
  | _ => none

/-- Reads a character or an escape inside brackets. -/
def readMember (verbose : Bool) : List Char → Option (Atom × List Char)
  | [] => none
  | '\\' :: rest => readEscape verbose rest
  | c :: rest => some (.literal { char := c }, rest)

/-- The character that shows what a hyphen means: the first behind it or, in a verbose pattern,
the first that is no blank. A number sign is passed over once, but the remark that it begins is
not. If only blanks follow, the first of them counts. -/
def behindHyphen (verbose : Bool) (rest : List Char) : Option Char :=
  if verbose then
    let shown :=
      match Text.skipBlanks rest with
      | '#' :: remark => Text.skipBlanks remark
      | shown => shown
    shown.head?.or rest.head?
  else rest.head?

/-- Reads a member or a range. A hyphen makes a range unless a bracket that closes or another
hyphen is behind it. -/
def readSetItem (verbose : Bool) (cs : List Char) : Option (CharSet × List Char) := do
  let (first, rest) ← readMember verbose cs
  let alone := first.toCharSet?.map fun set => (set, rest)
  match skipFiller verbose rest with
  | '-' :: rest =>
    let next := behindHyphen verbose rest
    if next == some ']' || next == some '-' then alone
    else
      match first, ← readMember verbose (skipFiller verbose rest) with
      | .literal first, (.literal last, rest) =>
        if first.char ≤ last.char then some (.range first last, rest) else none
      | _, _ => none
  | _ => alone

/-- Reads a set up to the bracket that closes it. The sets around it are in `outer`, the
innermost first; every step takes a character or ends the start of a set, so `fuel` can be
twice the length of the text. -/
def readOpenSet (verbose : Bool) : Nat → List OpenSet → OpenSet → List Char →
    Option (OpenSet × List Char)
  | 0, _, _, _ => none
  | fuel + 1, outer, set, cs =>
    let cs := skipFiller verbose cs
    if set.atStart then
      match cs with
      | '-' :: rest => readOpenSet verbose fuel outer (set.push (.literal { char := '-' })) rest
      | ']' :: rest =>
        let set := { set with atStart := false }
        if set.items.isEmpty then
          readOpenSet verbose fuel outer (set.push (.literal { char := ']' })) rest
        else readOpenSet verbose fuel outer set cs
      | _ => readOpenSet verbose fuel outer { set with atStart := false } cs
    else
      match cs with
      | [] => none
      | ']' :: rest =>
        match outer with
        | [] => some (set, rest)
        | parent :: outer => readOpenSet verbose fuel outer (parent.push set.closed) rest
      | '[' :: rest =>
        match readAsciiClass? rest with
        | some (item, rest) => readOpenSet verbose fuel outer (set.push item) rest
        | none =>
          let (inner, rest) := OpenSet.begin verbose rest
          readOpenSet verbose fuel (set :: outer) inner rest
      | '&' :: '&' :: rest => readOpenSet verbose fuel outer (set.combine .intersection) rest
      | '-' :: '-' :: rest => readOpenSet verbose fuel outer (set.combine .difference) rest
      | '~' :: '~' :: rest => readOpenSet verbose fuel outer (set.combine .symmetricDifference) rest
      | cs =>
        match readSetItem verbose cs with
        | some (item, rest) => readOpenSet verbose fuel outer (set.push item) rest
        | none => none

/-- Reads a set in brackets behind the first of them. -/
def readBracketed (verbose : Bool) (cs : List Char) : Option (Pattern × List Char) :=
  let (set, rest) := OpenSet.begin verbose cs
  (readOpenSet verbose (2 * cs.length + 2) [] set rest).map fun (set, rest) =>
    (.bracketed set.negated set.value, rest)

end AsyncStage.Pattern
