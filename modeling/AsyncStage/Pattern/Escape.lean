import AsyncStage.Pattern.Basic
import AsyncStage.Text.Blank
import AsyncStage.Text.Digits

/-!
# Single parts of a pattern

An `Atom` is the smallest part of a pattern: a character, a dot, a place, a class of
characters. Where the pattern is verbose, filler (blanks and remarks) may stand between
atoms and also inside an escape. A pattern is written between braces and so holds none that
closes; escapes that need one are refused.
-/

namespace AsyncStage.Pattern

/-! ## Filler -/

/-- Skips blanks and remarks. A remark goes from a number sign to the end of the line. -/
def skipRemarks (inRemark : Bool) : List Char → List Char
  | [] => []
  | c :: cs =>
    if inRemark then skipRemarks (c != '\n') cs
    else if Text.isBlank c then skipRemarks false cs
    else if c == '#' then skipRemarks true cs
    else c :: cs

/-- Skips the filler in front, of which only a verbose pattern has any. -/
def skipFiller (verbose : Bool) (cs : List Char) : List Char :=
  if verbose then skipRemarks false cs else cs

/-! ## Escapes -/

/-- The smallest part of a pattern. -/
inductive Atom where
  | literal (l : Literal)
  | dot
  | anchor (a : Anchor)
  | category (negated : Bool) (name : Category)
  | shorthand (negated : Bool) (name : Shorthand)
deriving DecidableEq, Repr

def Atom.toPattern : Atom → Pattern
  | .literal l => .literal l
  | .dot => .dot
  | .anchor a => .anchor a
  | .category negated name => .category negated name
  | .shorthand negated name => .shorthand negated name

/-- The set of one atom. Neither a dot nor a place is a set. -/
def Atom.toCharSet? : Atom → Option CharSet
  | .literal l => some (.literal l)
  | .category negated name => some (.category negated name)
  | .shorthand negated name => some (.shorthand negated name)
  | .dot | .anchor _ => none

/-- Reads `n` hexadecimal digits behind those that make up `value`. -/
def readHex (verbose : Bool) : Nat → Nat → List Char → Option (Nat × List Char)
  | 0, value, cs => some (value, cs)
  | n + 1, value, cs =>
    match skipFiller verbose cs with
    | [] => none
    | c :: rest => (Text.hexValue? c).bind fun d => readHex verbose n (16 * value + d) rest

/-- Reads the character with the number that `n` hexadecimal digits give. -/
def readHexLiteral (verbose : Bool) (n : Nat) (cs : List Char) : Option (Atom × List Char) := do
  let (value, rest) ← readHex verbose n 0 cs
  if value.isValidChar then
    pure (.literal { char := Char.ofNat value, isByte := n == 2 }, rest)
  else none

/-- Reads the letter of a category. -/
def readCategory (verbose negated : Bool) (cs : List Char) : Option (Atom × List Char) :=
  match skipFiller verbose cs with
  | [] => none
  | c :: rest => (Category.ofLetter? c).map fun name => (.category negated name, rest)

/-- Whether a backslash takes the meaning from this character. -/
def isEscapable (c : Char) : Bool :=
  c.toNat < 128 && !c.isAlphanum && c != '<' && c != '>'

/-- The atom for a backslash and this character. -/
def simpleEscape? : Char → Option Atom
  | 'a' => some (.literal { char := '\x07' })
  | 'f' => some (.literal { char := '\x0c' })
  | 't' => some (.literal { char := '\t' })
  | 'n' => some (.literal { char := '\n' })
  | 'r' => some (.literal { char := '\r' })
  | 'v' => some (.literal { char := '\x0b' })
  | 'd' => some (.shorthand false .digit)
  | 'D' => some (.shorthand true .digit)
  | 's' => some (.shorthand false .blank)
  | 'S' => some (.shorthand true .blank)
  | 'w' => some (.shorthand false .word)
  | 'W' => some (.shorthand true .word)
  | 'A' => some (.anchor .textStart)
  | 'z' => some (.anchor .textEnd)
  | 'b' => some (.anchor .wordBoundary)
  | 'B' => some (.anchor .noWordBoundary)
  | '<' => some (.anchor .wordStart)
  | '>' => some (.anchor .wordEnd)
  | c => if isEscapable c then some (.literal { char := c }) else none

/-- Reads an escape behind its backslash. -/
def readEscape (verbose : Bool) : List Char → Option (Atom × List Char)
  | [] => none
  | 'x' :: rest => readHexLiteral verbose 2 rest
  | 'u' :: rest => readHexLiteral verbose 4 rest
  | 'U' :: rest => readHexLiteral verbose 8 rest
  | 'p' :: rest => readCategory verbose false rest
  | 'P' :: rest => readCategory verbose true rest
  | 'b' :: '\x7b' :: _ => none
  | c :: rest => (simpleEscape? c).map fun atom => (atom, rest)

/-- Reads an atom outside brackets. -/
def readAtom (verbose : Bool) : List Char → Option (Atom × List Char)
  | [] => none
  | '\\' :: rest => readEscape verbose rest
  | '.' :: rest => some (.dot, rest)
  | '^' :: rest => some (.anchor .lineStart, rest)
  | '$' :: rest => some (.anchor .lineEnd, rest)
  | c :: rest => some (.literal { char := c }, rest)

end AsyncStage.Pattern
