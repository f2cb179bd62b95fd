import AsyncStage.Pattern.CharSet

/-!
# Patterns

A pattern is a regular expression. `Pattern` says what its text says: which settings hold
where, and how repetitions, groups, sequences and alternations lie inside each other, which
`Pattern.depth` measures.
-/

namespace AsyncStage

namespace Pattern

/-- What a pattern may turn on and off. -/
inductive Setting where
  /-- Letters match in either case. -/
  | anyCase
  /-- `^` and `$` match at every line. -/
  | multiLine
  /-- A dot matches a line end, too. -/
  | dotAll
  /-- Repetitions are lazy unless marked. -/
  | swapGreed
  /-- Patterns match characters, not bytes. -/
  | unicode
  /-- Lines end with a carriage return and a line feed. -/
  | crlf
  /-- Blanks and remarks between the parts of the pattern mean nothing. -/
  | verbose
deriving DecidableEq, Repr

namespace Setting

/-- The setting with this letter. -/
def ofLetter? : Char → Option Setting
  | 'i' => some .anyCase
  | 'm' => some .multiLine
  | 's' => some .dotAll
  | 'U' => some .swapGreed
  | 'u' => some .unicode
  | 'R' => some .crlf
  | 'x' => some .verbose
  | _ => none

/-- A setting with its new value. -/
structure Change where
  setting : Setting
  on : Bool
deriving DecidableEq, Repr

/-- The value of a setting after the changes, of which the first that concerns it counts. -/
def after (setting : Setting) (changes : List Change) (before : Bool) : Bool :=
  match changes.find? fun change => change.setting == setting with
  | some change => change.on
  | none => before

end Setting

/-- A place in a text. -/
inductive Anchor where
  | lineStart
  | lineEnd
  | textStart
  | textEnd
  | wordBoundary
  | noWordBoundary
  | wordStart
  | wordEnd
deriving DecidableEq, Repr

/-- Whether the place depends on which characters make up words. -/
def Anchor.concernsWords : Anchor → Bool
  | .lineStart | .lineEnd | .textStart | .textEnd => false
  | .wordBoundary | .noWordBoundary | .wordStart | .wordEnd => true

/-- How often the operand of a repetition may match. -/
inductive Count where
  | optional
  | any
  | positive
deriving DecidableEq, Repr

/-- What the parentheses of a group do besides grouping. -/
inductive GroupKind where
  | numbered
  | named (name : String)
  /-- Nothing, or change settings inside the group. -/
  | plain (changes : List Setting.Change)
deriving DecidableEq, Repr

/-- The changes of settings that hold inside the group. -/
def GroupKind.changes : GroupKind → List Setting.Change
  | .plain changes => changes
  | .numbered | .named _ => []

end Pattern

/-- A regular expression. -/
inductive Pattern where
  | empty
  /-- Changes of settings that hold up to the end of the group. -/
  | settings (changes : List Pattern.Setting.Change)
  | literal (l : Pattern.Literal)
  | dot
  | anchor (a : Pattern.Anchor)
  | category (negated : Bool) (name : Pattern.Category)
  | shorthand (negated : Bool) (name : Pattern.Shorthand)
  | bracketed (negated : Bool) (set : Pattern.CharSet)
  | repetition (count : Pattern.Count) (greedy : Bool) (operand : Pattern)
  | group (kind : Pattern.GroupKind) (body : Pattern)
  | sequence (parts : List Pattern)
  | alternation (branches : List Pattern)
deriving Repr

namespace Pattern

/-- The patterns one after the other, none and one of them being no sequence. -/
def ofList : List Pattern → Pattern
  | [] => .empty
  | [part] => part
  | parts => .sequence parts

/-- Whether the pattern only changes settings. -/
def isSettings : Pattern → Bool
  | .settings _ => true
  | _ => false

mutual

/-- How many compound patterns and sets lie inside each other. -/
def depth : Pattern → Nat
  | .bracketed _ set => set.depth + 1
  | .repetition _ _ operand => operand.depth + 1
  | .group _ body => body.depth + 1
  | .sequence parts => depthOfList parts + 1
  | .alternation branches => depthOfList branches + 1
  | _ => 0

/-- The depth of the deepest pattern. -/
def depthOfList : List Pattern → Nat
  | [] => 0
  | pattern :: patterns => max pattern.depth (depthOfList patterns)

end

end Pattern

end AsyncStage
