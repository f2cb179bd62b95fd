import AsyncStage.Json.Value

/-!
# What a number is good for

A number without fraction and exponent is a 64-bit integer if it fits into one; the zero
with a sign does not count as an integer. Every other number is a floating-point number:
the digits that fit into 64 bits, as a floating-point number, times or divided by a power
of ten. A number too large for the format is refused.
-/

namespace AsyncStage.Json.Number

open Text (ofDigits digitValue?)

/-- The natural number below 2^64 that is written. -/
def toNat64? (n : Number) : Option Nat :=
  if n.negative || !n.fraction.isEmpty || n.exponent.isSome then none
  else
    let value := ofDigits n.whole
    if value < UInt64.size then some value else none

/-- The negative integer of at least -2^63 that is written. -/
def toNegative64? (n : Number) : Option Int :=
  if !n.negative || !n.fraction.isEmpty || n.exponent.isSome then none
  else
    let value := ofDigits n.whole
    if 0 < value ∧ value ≤ 1 <<< 63 then some (-(value : Int)) else none

/-- The integer that is written, from -2^63 to 2^64 - 1. -/
def toInt64? (n : Number) : Option Int :=
  match n.toNat64? with
  | some value => some value
  | none => n.toNegative64?

/-- Digits collected so far, and the power of ten by which they are to be scaled. -/
structure Collected where
  significand : Nat
  exponent : Int

namespace Collected

/-- The significand with one more digit, if it still fits into 64 bits. -/
def push? (c : Collected) (d : Char) : Option Nat :=
  let next := 10 * c.significand + (digitValue? d).getD 0
  if next < UInt64.size then some next else none

/-- Collects digits before the point. Once one does not fit, it and all after it only scale. -/
def whole (c : Collected) : List Char → Collected
  | [] => c
  | d :: ds =>
    match c.push? d with
    | some next => whole ⟨next, c.exponent⟩ ds
    | none => ⟨c.significand, c.exponent + (ds.length + 1 : Nat)⟩

/-- Collects digits behind the point, up to the first that does not fit. -/
def fraction (c : Collected) : List Char → Collected
  | [] => c
  | d :: ds =>
    match c.push? d with
    | some next => fraction ⟨next, c.exponent - 1⟩ ds
    | none => c

end Collected

/-- The quotient `x / 10 ^ n`, in steps that a power of ten of the format can make. -/
def divideByPower (x : Float) (n : Nat) : Float :=
  if n ≤ 308 then x / Float.ofScientific 1 false n
  else if x == 0 then x
  else divideByPower (x / 1e308) (n - 308)
termination_by n

/-- The number `significand · 10 ^ exponent`, unless it is too large. -/
def scaleByPower (significand : Nat) (exponent : Int) : Option Float :=
  let x := Float.ofNat significand
  if exponent < 0 then some (divideByPower x exponent.natAbs)
  else if 308 < exponent then if x == 0 then some x else none
  else
    let y := x * Float.ofScientific 1 false exponent.natAbs
    if y.isInf then none else some y

/-- The value of a number that is not an integer of 64 bits. -/
def magnitude? (n : Number) : Option Float :=
  let c := ((⟨0, 0⟩ : Collected).whole n.whole).fraction n.fraction
  match n.exponent with
  | none => scaleByPower c.significand c.exponent
  | some (negative, ds) =>
    let size := ofDigits ds
    if size < 1 <<< 31 then
      let shift := if negative then c.exponent - size else c.exponent + size
      scaleByPower c.significand (max (-(1 <<< 31)) (min (1 <<< 31 - 1) shift))
    else if c.significand ≠ 0 ∧ !negative then none
    else some 0

/-- The floating-point number that is written. -/
def toFloat? (n : Number) : Option Float := n.magnitude?.map fun x => if n.negative then -x else x

end AsyncStage.Json.Number
