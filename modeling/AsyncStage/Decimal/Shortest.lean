/-!
# The shortest decimal of a binary floating-point number

A finite number is m · 2^q with whole m and q. The decimals that read back as it fill an
interval around it whose ends belong to it when m is even. `shortest` takes the coarsest
decimal grid with a point in that interval, and of two points the nearer one; where both are
equally near, a `Tie` decides.
-/

namespace AsyncStage

/-- The decimal number `significand · 10 ^ exponent`. -/
structure Decimal where
  significand : Nat
  exponent : Int
deriving Repr, DecidableEq

namespace Decimal

/-- A finite positive number `mantissa · 2 ^ exponent` between its two neighbours. -/
structure Binary where
  mantissa : Nat
  exponent : Int
  /-- Whether the neighbour below is only half as far away as the one above. -/
  closerBelow : Bool
deriving Repr

/-- Which of two equally near significands is taken. -/
inductive Tie where
  | toEven
  | up
deriving Repr, DecidableEq

namespace Tie

/-- Whether a number halfway between `d` and `d + 1` becomes `d`. -/
def takesLower (tie : Tie) (d : Nat) : Bool :=
  match tie with
  | .toEven => d % 2 == 0
  | .up => false

end Tie

/-- What the bits of a floating-point number stand for. -/
inductive FloatParts where
  | nan
  | infinite (negative : Bool)
  | zero (negative : Bool)
  | finite (negative : Bool) (magnitude : Binary)
deriving Repr

/-- Reads the sign, the eleven exponent bits and the fifty-two fraction bits. -/
def FloatParts.ofBits (bits : Nat) : FloatParts :=
  let negative := (bits >>> 63) % 2 == 1
  let exponent : Nat := (bits >>> 52) % (1 <<< 11)
  let fraction : Nat := bits % (1 <<< 52)
  if exponent == 1 <<< 11 - 1 then
    if fraction == 0 then .infinite negative else .nan
  else if exponent == 0 then
    if fraction == 0 then .zero negative else .finite negative ⟨fraction, -1074, false⟩
  else
    .finite negative ⟨1 <<< 52 + fraction, (exponent : Int) - 1075, fraction == 0 && exponent != 1⟩

/-- Numerator and denominator of `n · base ^ e`. -/
def scaled (n : Nat) (base : Nat) (e : Int) : Nat × Nat :=
  if 0 ≤ e then (n * base.pow e.toNat, 1) else (n, base.pow (-e).toNat)

/-- Compares `a · 2 ^ p` with `d · 10 ^ e`. -/
def compareScaled (a : Nat) (p : Int) (d : Nat) (e : Int) : Ordering :=
  let (x, y) := scaled a 2 p
  let (z, w) := scaled d 10 e
  compare (x * w) (z * y)

namespace Binary

/-- Whether `d · 10 ^ e` reads back as `b`: four times the number and its ends are whole. -/
def holds (b : Binary) (d : Nat) (e : Int) : Bool :=
  let p := b.exponent - 2
  let low := if b.closerBelow then 4 * b.mantissa - 1 else 4 * b.mantissa - 2
  let high := 4 * b.mantissa + 2
  let fromLow := compareScaled low p d e
  let toHigh := compareScaled high p d e
  if b.mantissa % 2 == 0 then fromLow != .gt && toHigh != .lt
  else fromLow == .lt && toHigh == .gt

/-- The whole part of `b / 10 ^ e`. -/
def floorAt (b : Binary) (e : Int) : Nat :=
  let (x, y) := scaled b.mantissa 2 b.exponent
  let (z, w) := scaled 1 10 e
  x * w / (y * z)

/-- The power of ten of the leading digit, searched downwards from `top`. -/
def leadingPower (b : Binary) : Nat → Int → Int
  | 0, top => top
  | fuel + 1, top => if b.floorAt top = 0 then leadingPower b fuel (top - 1) else top

/-- Whether `d · 10 ^ e` and not `(d + 1) · 10 ^ e` is the one for `b`: the nearer, or by `tie`. -/
def takesLower (b : Binary) (tie : Tie) (d : Nat) (e : Int) : Bool :=
  match compareScaled (2 * b.mantissa) b.exponent (2 * d + 1) e with
  | .lt => true
  | .eq => tie.takesLower d
  | .gt => false

/-- The point of the grid `10 ^ e` that stands for `b`, if the grid has one. -/
def onGrid? (b : Binary) (tie : Tie) (e : Int) : Option Decimal :=
  let d := b.floorAt e
  match b.holds d e, b.holds (d + 1) e with
  | true, true => some ⟨if b.takesLower tie d e then d else d + 1, e⟩
  | true, false => some ⟨d, e⟩
  | false, true => some ⟨d + 1, e⟩
  | false, false => none

/-- The first grid with a point for `b` among `10 ^ e` and the `fuel` finer ones. -/
def searchGrids (b : Binary) (tie : Tie) : Nat → Int → Decimal
  | 0, e => ⟨b.floorAt e, e⟩
  | fuel + 1, e => (b.onGrid? tie e).getD (searchGrids b tie fuel (e - 1))

/-- The shortest decimal that reads back as `b`. -/
def shortest (b : Binary) (tie : Tie) : Decimal :=
  b.searchGrids tie 17 (b.leadingPower 640 309)

end Binary

/-- The decimal without zeros at the end of its significand. -/
def trimmed (fuel : Nat) (d : Decimal) : Decimal :=
  match fuel with
  | 0 => d
  | fuel + 1 =>
    if d.significand ≠ 0 ∧ d.significand % 10 = 0 then
      trimmed fuel ⟨d.significand / 10, d.exponent + 1⟩
    else d

end Decimal

end AsyncStage
