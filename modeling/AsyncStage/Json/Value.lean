import AsyncStage.Text.Digits

/-!
# JSON values

A `Json` value keeps what a text says without deciding what it is good for: a number keeps
its digits, and a string that holds a lone surrogate, which no text can hold, is kept as
one without text. Whoever reads a member decides whether such a value will do.
-/

namespace AsyncStage

namespace Json

/-- A number as it is written: sign, digits before and after the point, and exponent. -/
structure Number where
  negative : Bool := false
  whole : List Char
  fraction : List Char := []
  /-- The sign and the digits of the exponent. -/
  exponent : Option (Bool × List Char) := none
deriving DecidableEq, Repr

/-- The number as it is written for a natural number. -/
def Number.ofNat (n : Nat) : Number where whole := Text.digits n

/-- The number as it is written for an integer. -/
def Number.ofInt (n : Int) : Number where
  negative := n < 0
  whole := Text.digits n.natAbs

end Json

inductive Json where
  | null
  | bool (b : Bool)
  | number (n : Json.Number)
  /-- A string; `none` if it holds a surrogate without its partner. -/
  | string (text : Option String)
  | array (items : List Json)
  /-- The members in the order of the text. -/
  | object (members : List (Option String × Json))
deriving Inhabited

namespace Json

instance : Coe String Json := ⟨fun s => .string (some s)⟩

instance : Coe Bool Json := ⟨.bool⟩

/-- A string with text. -/
def text (s : String) : Json := .string (some s)

def nat (n : Nat) : Json := .number (.ofNat n)

def int (n : Int) : Json := .number (.ofInt n)

/-- An object with these members. -/
def fields (members : List (String × Json)) : Json :=
  .object (members.map fun (k, v) => (some k, v))

/-- Writes `null` in place of a missing value. -/
def orNull (v : Option Json) : Json := v.getD .null

end Json

end AsyncStage
