import AsyncStage.Text.Digits

/-!
# Lengths of time

A `Duration` is a whole number of nanoseconds, never negative. `Duration.text` writes it
in the largest unit of which it holds at least one, with no more fraction digits than it
needs: `1.5s`, `100ms`, `1.001µs`, `0ns`.
-/

namespace AsyncStage

/-- A length of time in nanoseconds. -/
structure Duration where
  nanos : Nat
deriving DecidableEq, Repr, Inhabited

namespace Duration

def zero : Duration := ⟨0⟩

def nanosPerSecond : Nat := 1000000000

def nanosPerMilli : Nat := 1000000

/-- The whole milliseconds of durations written in configurations stay below this bound. -/
def millisLimit : Nat := UInt64.size

def ofParts (secs nanos : Nat) : Duration := ⟨secs * nanosPerSecond + nanos⟩

def ofMillis (ms : Nat) : Duration := ⟨ms * nanosPerMilli⟩

/-- Whole seconds. -/
def secs (d : Duration) : Nat := d.nanos / nanosPerSecond

/-- Nanoseconds beyond the whole seconds. -/
def subsecNanos (d : Duration) : Nat := d.nanos % nanosPerSecond

/-- Whole milliseconds, rounded down and capped at the largest 64-bit number. -/
def wholeMillis (d : Duration) : Nat := min (d.nanos / nanosPerMilli) (millisLimit - 1)

def isZero (d : Duration) : Bool := d.nanos == 0

instance : LE Duration := ⟨fun a b => a.nanos ≤ b.nanos⟩

instance : LT Duration := ⟨fun a b => a.nanos < b.nanos⟩

instance (a b : Duration) : Decidable (a ≤ b) := inferInstanceAs (Decidable (a.nanos ≤ b.nanos))

instance (a b : Duration) : Decidable (a < b) := inferInstanceAs (Decidable (a.nanos < b.nanos))

/-- The longest span that arithmetic on instants works with: 2^63 - 1 milliseconds. -/
def maxSpan : Nat := (1 <<< 63 - 1) * nanosPerMilli

/-- The duration as a span of nanoseconds, capped at `maxSpan`. -/
def span (d : Duration) : Nat := min d.nanos maxSpan

/-- Seconds as a floating-point number: the whole seconds plus the rest over a billion. -/
def toSeconds (d : Duration) : Float :=
  Float.ofNat d.secs + Float.ofNat d.subsecNanos / 1e9

/-- Writes `whole` units and `rest` parts of `10 ^ places` to the unit, without final zeros. -/
def mixedText (whole rest places : Nat) : String :=
  match Text.trimZeros (Text.padded places rest) with
  | [] => Text.natText whole
  | fraction => Text.natText whole ++ "." ++ String.ofList fraction

/-- The duration in its largest whole unit. -/
def text (d : Duration) : String :=
  if nanosPerSecond ≤ d.nanos then
    mixedText (d.nanos / nanosPerSecond) (d.nanos % nanosPerSecond) 9 ++ "s"
  else if nanosPerMilli ≤ d.nanos then
    mixedText (d.nanos / nanosPerMilli) (d.nanos % nanosPerMilli) 6 ++ "ms"
  else if 1000 ≤ d.nanos then
    mixedText (d.nanos / 1000) (d.nanos % 1000) 3 ++ "µs"
  else
    Text.natText d.nanos ++ "ns"

end Duration

end AsyncStage
