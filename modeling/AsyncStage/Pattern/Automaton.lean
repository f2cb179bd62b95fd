import AsyncStage.Pattern.Basic

/-!
# Patterns that an automaton can match

A matcher reads a text byte by byte, in one pass and with a finite memory. It has to match whole
characters only. Patterns that are about bytes can therefore ask for ASCII characters alone and
for no complement, and those that are about characters can not ask where words begin, since that
hangs on the bytes that follow.
-/

namespace AsyncStage.Pattern

/-- Whether the literal is an ASCII character. -/
def Literal.isAscii (l : Literal) : Bool := l.char.toNat < 128

namespace CharSet

mutual

/-- Whether the set, read as one of bytes, has ASCII characters only and no complement. -/
def isAscii : CharSet → Bool
  | .empty => true
  | .literal l => l.isAscii
  | .range first last => first.isAscii && last.isAscii
  | .ascii negated _ => !negated
  | .category _ _ => false
  | .shorthand negated _ => !negated
  | .bracketed negated set => !negated && set.isAscii
  | .union sets => areAscii sets
  | .combined _ left right => left.isAscii && right.isAscii

def areAscii : List CharSet → Bool
  | [] => true
  | set :: sets => set.isAscii && areAscii sets

end

end CharSet

mutual

/-- Whether an automaton can match the pattern, and whether the pattern behind it is about
characters; `unicode` says so of this one. -/
def unicodeBehind? (unicode : Bool) : Pattern → Option Bool
  | .empty => some unicode
  | .settings changes => some (Setting.unicode.after changes unicode)
  | .literal l => if unicode || l.isAscii || !l.isByte then some unicode else none
  | .dot => if unicode then some unicode else none
  | .anchor a => if unicode && a.concernsWords then none else some unicode
  | .category _ _ => if unicode then some unicode else none
  | .shorthand negated _ => if unicode || !negated then some unicode else none
  | .bracketed negated set =>
    if unicode || (!negated && set.isAscii) then some unicode else none
  | .repetition _ _ operand => operand.unicodeBehind? unicode
  | .group kind body =>
    (body.unicodeBehind? (Setting.unicode.after kind.changes unicode)).map fun _ => unicode
  | .sequence parts => unicodeBehindAll? unicode parts
  | .alternation branches => unicodeBehindAll? unicode branches

/-- The same of patterns one after the other. -/
def unicodeBehindAll? (unicode : Bool) : List Pattern → Option Bool
  | [] => some unicode
  | pattern :: patterns =>
    (pattern.unicodeBehind? unicode).bind fun unicode => unicodeBehindAll? unicode patterns

end

/-- How deep patterns and sets may lie inside each other. -/
def maxDepth : Nat := 250

/-- Whether the pattern can be used: it is not too deep, and an automaton can match it. -/
def isUsable (p : Pattern) : Bool := p.depth ≤ maxDepth && (p.unicodeBehind? true).isSome

end AsyncStage.Pattern
