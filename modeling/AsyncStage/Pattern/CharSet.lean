/-!
# Sets of characters

A `CharSet` says what a set in brackets says: characters, ranges, classes and further sets, and
how they are combined. `CharSet.depth` measures how sets lie inside each other.
-/

namespace AsyncStage.Pattern

/-- A character that stands for itself. -/
structure Literal where
  char : Char
  /-- Whether it is written as one byte, by two hexadecimal digits. -/
  isByte : Bool := false
deriving DecidableEq, Repr

/-- A general category of characters. -/
inductive Category where
  | other
  | letter
  | mark
  | number
  | punctuation
  | symbol
  | separator
deriving DecidableEq, Repr

/-- The category with this letter, in either case. -/
def Category.ofLetter? (c : Char) : Option Category :=
  match c.toLower with
  | 'c' => some .other
  | 'l' => some .letter
  | 'm' => some .mark
  | 'n' => some .number
  | 'p' => some .punctuation
  | 's' => some .symbol
  | 'z' => some .separator
  | _ => none

/-- A class of characters with an escape of its own. -/
inductive Shorthand where
  | digit
  | blank
  | word
deriving DecidableEq, Repr

/-- A class of ASCII characters with a name of its own. -/
inductive AsciiClass where
  | alnum
  | alpha
  | ascii
  | blank
  | cntrl
  | digit
  | graph
  | lower
  | print
  | punct
  | space
  | upper
  | word
  | xdigit
deriving DecidableEq, Repr

def AsciiClass.ofName? : String → Option AsciiClass
  | "alnum" => some .alnum
  | "alpha" => some .alpha
  | "ascii" => some .ascii
  | "blank" => some .blank
  | "cntrl" => some .cntrl
  | "digit" => some .digit
  | "graph" => some .graph
  | "lower" => some .lower
  | "print" => some .print
  | "punct" => some .punct
  | "space" => some .space
  | "upper" => some .upper
  | "word" => some .word
  | "xdigit" => some .xdigit
  | _ => none

/-- How two sets are combined. -/
inductive SetOperation where
  | intersection
  | difference
  | symmetricDifference
deriving DecidableEq, Repr

/-- A set of characters. -/
inductive CharSet where
  | empty
  | literal (l : Literal)
  | range (first last : Literal)
  | ascii (negated : Bool) (name : AsciiClass)
  | category (negated : Bool) (name : Category)
  | shorthand (negated : Bool) (name : Shorthand)
  | bracketed (negated : Bool) (set : CharSet)
  | union (sets : List CharSet)
  | combined (operation : SetOperation) (left right : CharSet)
deriving Repr

namespace CharSet

/-- The union of some sets, none and one of them being no union. -/
def ofList : List CharSet → CharSet
  | [] => .empty
  | [set] => set
  | sets => .union sets

mutual

/-- How many brackets, unions and operations lie inside each other. -/
def depth : CharSet → Nat
  | .bracketed _ set => set.depth + 1
  | .union sets => depthOfList sets + 1
  | .combined _ left right => max left.depth right.depth + 1
  | _ => 0

/-- The depth of the deepest set. -/
def depthOfList : List CharSet → Nat
  | [] => 0
  | set :: sets => max set.depth (depthOfList sets)

end

end CharSet

end AsyncStage.Pattern
