import AsyncStage.Json.Value

/-!
# Reading JSON

The grammar is strict: no blanks but spaces, tabs and line ends, no leading zeros, no control
characters in strings, nothing behind the value. A string may hold escapes of surrogates
that do not pair up; it is then read as one without text.
-/

namespace AsyncStage.Json

open Text (hexValue? isDigit)

def isSpace (c : Char) : Bool := c == ' ' || c == '\n' || c == '\r' || c == '\t'

def skipSpace (cs : List Char) : List Char := cs.dropWhile isSpace

/-! ## Strings -/

/-- The value of four hexadecimal digits. -/
def hexValues? (a b c d : Char) : Option Nat := do
  pure (((← hexValue? a) * 16 + (← hexValue? b)) * 256 + (← hexValue? c) * 16 + (← hexValue? d))

/-- The character that a backslash and this character stand for. -/
def simpleEscape? (c : Char) : Option Char :=
  match c with
  | '"' => some '"'
  | '\\' => some '\\'
  | '/' => some '/'
  | 'b' => some '\x08'
  | 'f' => some '\x0c'
  | 'n' => some '\n'
  | 'r' => some '\r'
  | 't' => some '\t'
  | _ => none

/-- The part of a string that has been read. -/
structure PartialText where
  /-- The characters, the last first. -/
  chars : List Char := []
  /-- A leading surrogate that waits for its partner. -/
  leading : Option Nat := none
  /-- Whether every surrogate so far has its partner. -/
  whole : Bool := true

namespace PartialText

/-- Adds a character that is not a surrogate. -/
def push (t : PartialText) (c : Char) : PartialText where
  chars := c :: t.chars
  whole := t.whole && t.leading.isNone

/-- Adds a unit of UTF-16 written as an escape. -/
def pushUnit (t : PartialText) (u : Nat) : PartialText :=
  if 0xD800 ≤ u ∧ u < 0xDC00 then
    { chars := t.chars, leading := some u, whole := t.whole && t.leading.isNone }
  else if 0xDC00 ≤ u ∧ u < 0xE000 then
    match t.leading with
    | some l =>
      { chars := Char.ofNat (0x10000 + (l - 0xD800) * 0x400 + (u - 0xDC00)) :: t.chars,
        whole := t.whole }
    | none => { t with whole := false }
  else
    t.push (Char.ofNat u)

/-- The text, if every surrogate has its partner. -/
def text? (t : PartialText) : Option String :=
  if t.whole && t.leading.isNone then some (String.ofList t.chars.reverse) else none

end PartialText

/-- Reads a string behind its opening quote. -/
def readString (t : PartialText) : List Char → Option (Option String × List Char)
  | [] => none
  | '"' :: rest => some (t.text?, rest)
  | '\\' :: 'u' :: a :: b :: c :: d :: rest =>
    match hexValues? a b c d with
    | some u => readString (t.pushUnit u) rest
    | none => none
  | '\\' :: c :: rest =>
    match simpleEscape? c with
    | some c => readString (t.push c) rest
    | none => none
  | c :: rest => if c.toNat < 0x20 ∨ c = '\\' then none else readString (t.push c) rest

/-! ## Numbers -/

/-- Splits off the digits in front. -/
def spanDigits (cs : List Char) : List Char × List Char := (cs.takeWhile isDigit, cs.dropWhile isDigit)

/-- Reads the digits before the point: a zero alone, or digits that start with another. -/
def readWhole (cs : List Char) : Option (List Char × List Char) :=
  match spanDigits cs with
  | ([], _) => none
  | ('0' :: _ :: _, _) => none
  | (ds, rest) => some (ds, rest)

/-- Reads a point and digits, if there is a point. -/
def readFraction (cs : List Char) : Option (List Char × List Char) :=
  match cs with
  | '.' :: rest =>
    match spanDigits rest with
    | ([], _) => none
    | (ds, rest) => some (ds, rest)
  | _ => some ([], cs)

/-- Reads the digits of an exponent. -/
def readExponentDigits (negative : Bool) (cs : List Char) :
    Option (Option (Bool × List Char) × List Char) :=
  match spanDigits cs with
  | ([], _) => none
  | (ds, rest) => some (some (negative, ds), rest)

/-- Reads an exponent, if there is one. -/
def readExponent (cs : List Char) : Option (Option (Bool × List Char) × List Char) :=
  match cs with
  | 'e' :: '-' :: rest | 'E' :: '-' :: rest => readExponentDigits true rest
  | 'e' :: '+' :: rest | 'E' :: '+' :: rest => readExponentDigits false rest
  | 'e' :: rest | 'E' :: rest => readExponentDigits false rest
  | _ => some (none, cs)

/-- Reads a number behind its sign. -/
def readUnsigned (negative : Bool) (cs : List Char) : Option (Number × List Char) := do
  let (whole, cs) ← readWhole cs
  let (fraction, cs) ← readFraction cs
  let (exponent, cs) ← readExponent cs
  pure (⟨negative, whole, fraction, exponent⟩, cs)

def readNumber (cs : List Char) : Option (Number × List Char) :=
  match cs with
  | '-' :: rest => readUnsigned true rest
  | _ => readUnsigned false cs

/-! ## Values -/

mutual

/-- Reads a value; `fuel` bounds the nesting and the number of items. -/
def readValue (fuel : Nat) (cs : List Char) : Option (Json × List Char) :=
  match fuel with
  | 0 => none
  | fuel + 1 =>
    match skipSpace cs with
    | 'n' :: 'u' :: 'l' :: 'l' :: rest => some (.null, rest)
    | 't' :: 'r' :: 'u' :: 'e' :: rest => some (.bool true, rest)
    | 'f' :: 'a' :: 'l' :: 's' :: 'e' :: rest => some (.bool false, rest)
    | '"' :: rest => (readString {} rest).map fun (t, rest) => (.string t, rest)
    | '[' :: rest =>
      match skipSpace rest with
      | ']' :: rest => some (.array [], rest)
      | rest => readItems fuel [] rest
    | '\x7b' :: rest =>
      match skipSpace rest with
      | '\x7d' :: rest => some (.object [], rest)
      | rest => readMembers fuel [] rest
    | cs => (readNumber cs).map fun (n, rest) => (.number n, rest)

/-- Reads the items of an array behind those in `before`, the last first. -/
def readItems (fuel : Nat) (before : List Json) (cs : List Char) : Option (Json × List Char) :=
  match fuel with
  | 0 => none
  | fuel + 1 =>
    match readValue fuel cs with
    | none => none
    | some (v, rest) =>
      match skipSpace rest with
      | ',' :: rest => readItems fuel (v :: before) rest
      | ']' :: rest => some (.array (v :: before).reverse, rest)
      | _ => none

/-- Reads the members of an object behind those in `before`, the last first. -/
def readMembers (fuel : Nat) (before : List (Option String × Json)) (cs : List Char) :
    Option (Json × List Char) :=
  match fuel with
  | 0 => none
  | fuel + 1 =>
    match skipSpace cs with
    | '"' :: rest =>
      match readString {} rest with
      | none => none
      | some (key, rest) =>
        match skipSpace rest with
        | ':' :: rest =>
          match readValue fuel rest with
          | none => none
          | some (v, rest) =>
            match skipSpace rest with
            | ',' :: rest => readMembers fuel ((key, v) :: before) rest
            | '\x7d' :: rest => some (.object ((key, v) :: before).reverse, rest)
            | _ => none
        | _ => none
    | _ => none

end

/-- Reads a text that holds one value and nothing else. -/
def ofChars? (cs : List Char) : Option Json := do
  let (v, rest) ← readValue (2 * cs.length + 2) cs
  if (skipSpace rest).isEmpty then some v else none

/-- Reads a text that holds one value and nothing else. -/
def parse? (s : String) : Option Json := ofChars? s.toList

end AsyncStage.Json
