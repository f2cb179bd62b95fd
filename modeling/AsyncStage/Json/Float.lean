import AsyncStage.Decimal.Text
import AsyncStage.Json.Value

/-!
# Floating-point numbers in JSON

A floating-point number is written with the shortest digits that read back, and always with
a fraction or an exponent. Of two shortest texts that are equally near the one with an even
last digit is taken. A number has an exponent when its leading digit stands below 10^-5 or
above 10^15. What is not finite has no number.
-/

namespace AsyncStage.Json

open Decimal (FloatParts)

/-- The written form of a decimal: with a fraction, or with an exponent. -/
def Number.ofDecimal (negative : Bool) (d : Decimal) : Number :=
  let ds := Text.digits d.significand
  let leading := d.exponent + (ds.length - 1 : Nat)
  if -5 ≤ leading ∧ leading ≤ 15 then
    let (whole, fraction) := d.pointed
    { negative, whole, fraction := if fraction.isEmpty then ['0'] else fraction }
  else
    { negative
      whole := ds.take 1
      fraction := ds.drop 1
      exponent := some (leading < 0, Text.digits leading.natAbs) }

/-- The number for a floating-point number, if it is finite. -/
def Number.ofFloat? (x : Float) : Option Number :=
  match FloatParts.ofBits x.toBits.toNat with
  | .nan => none
  | .infinite _ => none
  | .zero negative => some { negative, whole := ['0'], fraction := ['0'] }
  | .finite negative magnitude =>
    some (.ofDecimal negative ((magnitude.shortest .toEven).trimmed 20))

/-- A floating-point number, or `null` if it is not finite. -/
def ofFloat (x : Float) : Json :=
  match Number.ofFloat? x with
  | some n => .number n
  | none => .null

end AsyncStage.Json
