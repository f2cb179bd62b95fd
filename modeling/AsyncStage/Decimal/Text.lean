import AsyncStage.Decimal.Shortest
import AsyncStage.Text.Digits

/-!
# Positional text of floating-point numbers

`positional` writes the shortest digits that read back, never with an exponent and with a
point only where there is a fraction. Of two shortest texts that are equally near it takes
the larger number.
-/

namespace AsyncStage.Decimal

/-- Digits before and after the decimal point of a decimal. -/
def pointed (d : Decimal) : List Char × List Char :=
  let ds := Text.digits d.significand
  if 0 ≤ d.exponent then (ds ++ List.replicate d.exponent.toNat '0', [])
  else
    let places := (-d.exponent).toNat
    let ds := List.replicate (places + 1 - ds.length) '0' ++ ds
    (ds.take (ds.length - places), ds.drop (ds.length - places))

/-- The sign of a negative number. -/
def signText (negative : Bool) : String := if negative then "-" else ""

/-- The number without an exponent, as short as it reads back: `0.5`, `-2`, `-0`, `NaN`. -/
def positional (x : Float) : String :=
  match FloatParts.ofBits x.toBits.toNat with
  | .nan => "NaN"
  | .infinite negative => signText negative ++ "inf"
  | .zero negative => signText negative ++ "0"
  | .finite negative magnitude =>
    let (whole, fraction) := ((magnitude.shortest .up).trimmed 20).pointed
    signText negative ++ String.ofList whole ++
      (if fraction.isEmpty then "" else "." ++ String.ofList fraction)

end AsyncStage.Decimal
