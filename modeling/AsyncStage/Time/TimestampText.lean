import AsyncStage.Text.Blank
import AsyncStage.Text.Digits
import AsyncStage.Time.Calendar
import AsyncStage.Time.Timestamp

/-!
# Texts of event times

An event time is written as `2022-01-01T00:00:00Z` with none, three, six or nine digits of
a fraction, as few as are exact. A year outside 0 to 9999 has a sign. Reading is more
lenient: numbers may lack leading zeros, blanks may stand before numbers and separators and
at the end, a fraction may have any number of digits, of which nine count, and any offset
from UTC is accepted.
-/

namespace AsyncStage.Timestamp

open Text (padded digits skipBlanks digitValue? ofDigits isDigit)

/-! ## Writing -/

/-- The year with four digits, and with a sign outside 0 to 9999. -/
def yearText (year : Int) : List Char :=
  if 0 ≤ year ∧ year ≤ 9999 then padded 4 year.toNat
  else (if year < 0 then '-' else '+') :: padded 4 year.natAbs

/-- A fraction of a second with as few digits as are exact out of none, three, six, nine. -/
def fractionText (nanos : Nat) : List Char :=
  if nanos = 0 then []
  else if nanos % 1000000 = 0 then '.' :: padded 3 (nanos / 1000000)
  else if nanos % 1000 = 0 then '.' :: padded 6 (nanos / 1000)
  else '.' :: padded 9 nanos

/-- The characters of an event time. A leap second is written as second 60. -/
def chars (t : Timestamp) : List Char :=
  let date := Date.ofDays (t.secs / 86400)
  let second := (t.secs % 86400).toNat
  let leap := 1000000000 ≤ t.nanos
  yearText date.year ++ '-' :: padded 2 date.month ++ '-' :: padded 2 date.day ++
    'T' :: padded 2 (second / 3600) ++ ':' :: padded 2 (second / 60 % 60) ++
    ':' :: padded 2 (second % 60 + if leap then 1 else 0) ++
    fractionText (if leap then t.nanos - 1000000000 else t.nanos) ++ ['Z']

def text (t : Timestamp) : String := String.ofList t.chars

/-! ## Reading -/

/-- Reads a number of at most `most` digits. -/
def readNumber (most : Nat) (cs : List Char) : Option (Nat × List Char) :=
  let run := (cs.take most).takeWhile isDigit
  if run.isEmpty then none else some (ofDigits run, cs.drop run.length)

/-- Reads a number of one or two digits after blanks. -/
def readField (cs : List Char) : Option (Nat × List Char) := readNumber 2 (skipBlanks cs)

/-- Reads a separator after blanks. -/
def readSeparator (c : Char) (cs : List Char) : Option (List Char) :=
  match skipBlanks cs with
  | d :: rest => if c = d then some rest else none
  | [] => none

/-- Reads a year: four digits at most, or any number of them after a sign. -/
def readYear (cs : List Char) : Option (Int × List Char) :=
  match skipBlanks cs with
  | '-' :: rest => (readNumber rest.length rest).map fun (n, rest) => (-(n : Int), rest)
  | '+' :: rest => (readNumber rest.length rest).map fun (n, rest) => ((n : Int), rest)
  | rest => (readNumber 4 rest).map fun (n, rest) => ((n : Int), rest)

def readDate (cs : List Char) : Option (Date × List Char) := do
  let (year, cs) ← readYear cs
  let cs ← readSeparator '-' cs
  let (month, cs) ← readField cs
  let cs ← readSeparator '-' cs
  let (day, cs) ← readField cs
  pure (⟨year, month, day⟩, cs)

/-- Reads a fraction of a second in nanoseconds: nothing, or a point and digits. -/
def readFraction (cs : List Char) : Option (Nat × List Char) :=
  match cs with
  | '.' :: rest =>
    let run := (rest.take 9).takeWhile isDigit
    if run.isEmpty then none
    else some (ofDigits run * Nat.pow 10 (9 - run.length), (rest.drop run.length).dropWhile isDigit)
  | _ => some (0, cs)

/-- A time of day as hour, minute, second and nanosecond; the second may be 60. -/
def readTime (cs : List Char) : Option ((Nat × Nat × Nat × Nat) × List Char) := do
  let (hour, cs) ← readField cs
  let cs ← readSeparator ':' cs
  let (minute, cs) ← readField cs
  let cs ← readSeparator ':' cs
  let (second, cs) ← readField cs
  let (nanos, cs) ← readFraction cs
  if hour ≤ 23 ∧ minute ≤ 59 ∧ second ≤ 60 then pure ((hour, minute, second, nanos), cs) else none

/-- Reads two digits. -/
def readPair (cs : List Char) : Option (Nat × List Char) :=
  match cs with
  | a :: b :: rest => do
    let m ← digitValue? a
    let n ← digitValue? b
    pure (10 * m + n, rest)
  | _ => none

/-- Reads hours and minutes of an offset, with colons and blanks between them, in seconds. -/
def readOffsetSize (cs : List Char) : Option (Nat × List Char) := do
  let (hours, cs) ← readPair cs
  let (minutes, cs) ← readPair (cs.dropWhile fun c => c == ':' || Text.isBlank c)
  if minutes ≤ 59 ∧ hours ≤ 23 then pure (hours * 3600 + minutes * 60, cs) else none

/-- Reads an offset from UTC in seconds: `UTC` or `Z` in either case, or a sign and a size. -/
def readOffset (cs : List Char) : Option (Int × List Char) :=
  match cs with
  | '+' :: rest => (readOffsetSize rest).map fun (n, rest) => ((n : Int), rest)
  | '-' :: rest => (readOffsetSize rest).map fun (n, rest) => (-(n : Int), rest)
  | '\u2212' :: rest => (readOffsetSize rest).map fun (n, rest) => (-(n : Int), rest)
  | 'Z' :: rest => some (0, rest)
  | 'z' :: rest => some (0, rest)
  | a :: b :: c :: rest =>
    if a.toUpper = 'U' ∧ b.toUpper = 'T' ∧ c.toUpper = 'C' then some (0, rest) else none
  | _ => none

/-- The event time of a local date and time at an offset. Both the local date and the date in
UTC have to be in range. -/
def ofLocal? (date : Date) (hour minute second nanos : Nat) (offset : Int) : Option Timestamp := do
  if !date.isValid then none
  let days := date.toDays
  let start ← ofUnix? (days * 86400) 0
  let ofDay := hour * 3600 + minute * 60 + min second 59
  ofUnix? (start.secs + ofDay - offset) (if second = 60 then nanos + 1000000000 else nanos)

/-- Reads an event time. -/
def ofChars? (cs : List Char) : Option Timestamp := do
  let (date, cs) ← readDate cs
  let cs ← match cs with
    | 'T' :: rest | 't' :: rest | ' ' :: rest => some rest
    | _ => none
  let ((hour, minute, second, nanos), cs) ← readTime cs
  let (offset, cs) ← readOffset (skipBlanks cs)
  if (skipBlanks cs).isEmpty then ofLocal? date hour minute second nanos offset else none

def ofText? (s : String) : Option Timestamp := ofChars? s.toList

end AsyncStage.Timestamp
