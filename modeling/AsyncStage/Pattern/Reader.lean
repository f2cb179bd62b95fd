import AsyncStage.Pattern.CharSet.Reader
import AsyncStage.Text.Alphanumeric

/-!
# Reading patterns

The text is read from left to right. A `Draft` is what one group holds so far: the branches
that are complete and the parts of the last one. The drafts of the groups around it wait until
their parentheses close. Since a pattern holds no brace that closes, no brace can begin a count.
-/

namespace AsyncStage.Pattern

/-! ## Groups -/

/-- Reads the letters of changed settings; those behind a minus sign are turned off. No setting
is changed twice, and something is behind the sign. -/
def readChanges (on : Bool) : List Char → Option (List Setting.Change)
  | [] => some []
  | '-' :: rest => if on && !rest.isEmpty then readChanges false rest else none
  | c :: rest => do
    let setting ← Setting.ofLetter? c
    let changes ← readChanges on rest
    if changes.any (·.setting == setting) then none else some ({ setting, on } :: changes)

/-- Whether the text can be the name of a group. -/
def isGroupName : List Char → Bool
  | [] => false
  | c :: cs =>
    (c == '_' || Text.isAlphabetic c) &&
      cs.all fun c => c == '_' || c == '.' || c == '[' || c == ']' || Text.isAlphanumeric c

/-- What an opening parenthesis begins. -/
inductive Opening where
  /-- Nothing: it only changes settings and is closed. -/
  | settings (changes : List Setting.Change)
  | group (kind : GroupKind)
deriving DecidableEq, Repr

/-- Reads the name of a group and the angle bracket that closes it. -/
def readName (cs : List Char) : Option (Opening × List Char) :=
  let name := cs.takeWhile (· != '>')
  match cs.dropWhile (· != '>') with
  | [] => none
  | _ :: rest =>
    if isGroupName name then some (.group (.named (String.ofList name)), rest) else none

/-- Reads changes of settings and the colon or parenthesis behind them. -/
def readSettings (cs : List Char) : Option (Opening × List Char) :=
  let isEnd (c : Char) : Bool := c == ':' || c == ')'
  match readChanges true (cs.takeWhile fun c => !isEnd c), cs.dropWhile fun c => !isEnd c with
  | some changes, ':' :: rest => some (.group (.plain changes), rest)
  | some (change :: changes), ')' :: rest => some (.settings (change :: changes), rest)
  | _, _ => none

/-- Reads what follows an opening parenthesis. -/
def readOpening (verbose : Bool) (cs : List Char) : Option (Opening × List Char) :=
  match skipFiller verbose cs with
  | '?' :: 'P' :: '<' :: rest => readName rest
  | '?' :: '<' :: rest => readName rest
  | '?' :: rest => readSettings rest
  | rest => some (.group .numbered, rest)

/-! ## The whole pattern -/

/-- What a group holds so far. -/
structure Draft where
  /-- The complete branches, the last first. -/
  branches : List Pattern := []
  /-- The parts of the branch that is being read, the last first. -/
  parts : List Pattern := []

namespace Draft

def push (d : Draft) (part : Pattern) : Draft := { d with parts := part :: d.parts }

/-- Completes a branch. -/
def nextBranch (d : Draft) : Draft :=
  { branches := Pattern.ofList d.parts.reverse :: d.branches }

/-- The pattern that has been read. -/
def value (d : Draft) : Pattern :=
  let last := Pattern.ofList d.parts.reverse
  if d.branches.isEmpty then last else .alternation (d.branches.reverse ++ [last])

/-- Repeats the last part, which has to be there and to be more than a change of settings. -/
def repeatLast? (d : Draft) (count : Count) (greedy : Bool) : Option Draft :=
  match d.parts with
  | [] => none
  | part :: parts =>
    if part.isSettings then none
    else some { d with parts := .repetition count greedy part :: parts }

end Draft

/-- A group whose closing parenthesis has not been reached. -/
structure OpenGroup where
  kind : GroupKind
  /-- What stands in front of the group. -/
  before : Draft
  /-- Whether the pattern was verbose there. -/
  verbose : Bool

/-- How far a pattern has been read. -/
structure Reading where
  verbose : Bool := false
  /-- The names of groups so far. -/
  names : List String := []
  /-- The groups that are open, the innermost first. -/
  outer : List OpenGroup := []
  /-- What the innermost group holds. -/
  draft : Draft := {}

namespace Reading

def push (r : Reading) (part : Pattern) : Reading := { r with draft := r.draft.push part }

/-- An opening parenthesis has been read. No two groups have one name. -/
def opened? (r : Reading) : Opening → Option Reading
  | .settings changes =>
    some { r.push (.settings changes) with verbose := Setting.verbose.after changes r.verbose }
  | .group kind =>
    let r' : Reading :=
      { r with
        verbose := Setting.verbose.after kind.changes r.verbose
        outer := { kind, before := r.draft, verbose := r.verbose } :: r.outer
        draft := {} }
    match kind with
    | .named name =>
      if r.names.contains name then none else some { r' with names := name :: r.names }
    | .numbered | .plain _ => some r'

/-- Closes the innermost group. -/
def closed? (r : Reading) : Option Reading :=
  match r.outer with
  | [] => none
  | g :: outer =>
    some
      { r with
        verbose := g.verbose
        outer
        draft := g.before.push (.group g.kind r.draft.value) }

/-- The pattern, if no group is open. -/
def value? (r : Reading) : Option Pattern :=
  if r.outer.isEmpty then some r.draft.value else none

/-- Repeats the last part. A question mark right behind the sign changes the greed. -/
def repeated? (r : Reading) (count : Count) (cs : List Char) : Option (Reading × List Char) :=
  let (greedy, rest) :=
    match cs with
    | '?' :: rest => (false, rest)
    | rest => (true, rest)
  (r.draft.repeatLast? count greedy).map fun draft => ({ r with draft }, rest)

/-- Reads one part or sign of the pattern, of which `cs` holds at least a character. -/
def step? (r : Reading) (cs : List Char) : Option (Reading × List Char) :=
  match cs with
  | '(' :: rest => do
    let (opening, rest) ← readOpening r.verbose rest
    pure (← r.opened? opening, rest)
  | ')' :: rest => r.closed?.map fun r => (r, rest)
  | '|' :: rest => some ({ r with draft := r.draft.nextBranch }, rest)
  | '[' :: rest => (readBracketed r.verbose rest).map fun (part, rest) => (r.push part, rest)
  | '?' :: rest => r.repeated? .optional rest
  | '*' :: rest => r.repeated? .any rest
  | '+' :: rest => r.repeated? .positive rest
  | '\x7b' :: _ => none
  | cs => (readAtom r.verbose cs).map fun (atom, rest) => (r.push atom.toPattern, rest)

/-- Reads the rest of the pattern. Every step takes a character, so `fuel` can be the length of
the text. -/
def read? : Nat → Reading → List Char → Option Pattern
  | 0, r, cs => if (skipFiller r.verbose cs).isEmpty then r.value? else none
  | fuel + 1, r, cs =>
    match skipFiller r.verbose cs with
    | [] => r.value?
    | cs => (r.step? cs).bind fun (r, cs) => read? fuel r cs

end Reading

/-- The pattern that the text is. -/
def parse? (cs : List Char) : Option Pattern := ({} : Reading).read? cs.length cs

end AsyncStage.Pattern
