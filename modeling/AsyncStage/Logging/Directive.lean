import AsyncStage.Logging.Field
import AsyncStage.Text.Alphanumeric
import AsyncStage.Text.Blank
import AsyncStage.Text.Bytes
import AsyncStage.Text.Digits

/-!
# Filter directives

A list of directives says which messages are logged. A directive is a level, or a target, a
span in brackets or both, after which a level may follow behind an equals sign. A span may
have a field in braces. A level is a name in any case or a number up to five; an empty one
stands for all messages.

Positions are those of the bytes of a directive without the blanks around it, but the field and
the level are cut out of the text with them. Where there are blanks in front, the field is
therefore what stands that much earlier, and a level is none.
-/

namespace AsyncStage.Logging

/-- A natural number, with or without a plus sign. -/
def readCount? (cs : List Char) : Option Nat :=
  let ds :=
    match cs with
    | '+' :: rest => rest
    | _ => cs
  if ds.isEmpty || !ds.all Text.isDigit then none else some (Text.ofDigits ds)

/-- Whether the text is a level. -/
def isLevel (cs : List Char) : Bool :=
  match readCount? cs with
  | some n => n ≤ 5
  | none =>
    ["", "error", "warn", "info", "debug", "trace", "off"].contains
      (String.ofList (cs.map Char.toLower))

/-- How far the reading of a directive has come. -/
inductive Progress where
  | start
  /-- In a level or a target. -/
  | name
  | span
  /-- In the field that starts at this position. -/
  | field (position : Nat)
  /-- Behind the braces of a span. -/
  | fields
  /-- Behind a span. -/
  | target
  /-- In the level that starts at this position. -/
  | level (position : Nat)

/-- Whether a directive may start with this character. -/
def mayStart (c : Char) : Bool := Text.isAlphanumeric c || c == '-' || c == ':' || c == '_'

/-- One more character of a directive, at position `i`. -/
def Progress.next (text : List Char) (i : Nat) (c : Char) : Progress → Option Progress
  | .start => if c == '[' then some .span else if mayStart c then some .name else none
  | .name => some (if c == '=' then .level (i + 1) else if c == '[' then .span else .name)
  | .span => some (if c == ']' then .target else if c == '\x7b' then .field (i + 1) else .span)
  | .field position =>
    if c == '\x7d' then
      if (Text.slice? position i text).any isField then some .fields else none
    else some (.field position)
  | .fields => if c == ']' then some .target else none
  | .target => if c == '=' then some (.level (i + 1)) else none
  | .level position => some (.level position)

/-- Reads the characters of a directive from position `i` on. -/
def Progress.read (text : List Char) (i : Nat) (p : Progress) : List Char → Option Progress
  | [] => some p
  | c :: cs => (p.next text i c).bind fun p => p.read text (i + c.utf8Size) cs

/-- The text without blanks at either end. -/
def trimBlanks (cs : List Char) : List Char :=
  (Text.skipBlanks (Text.skipBlanks cs).reverse).reverse

/-- Whether the text is a directive. Blanks may surround a name but not a level. -/
def isDirective (cs : List Char) : Bool :=
  match Progress.read cs 0 .start (trimBlanks cs) with
  | some .name => true
  | some .target => true
  | some (.level position) => (Text.dropBytes? position cs).any isLevel
  | _ => false

/-- Splits a text at commas. -/
def splitCommas : List Char → List (List Char)
  | [] => [[]]
  | c :: cs =>
    match c, splitCommas cs with
    | ',', parts => [] :: parts
    | c, part :: parts => (c :: part) :: parts
    | c, [] => [[c]]

/-- Whether every part between commas that is not empty is a directive. -/
def areDirectives (s : String) : Bool :=
  (splitCommas s.toList).all fun part => part.isEmpty || isDirective part

end AsyncStage.Logging
