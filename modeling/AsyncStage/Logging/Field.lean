import AsyncStage.Pattern.Automaton
import AsyncStage.Pattern.Reader
import AsyncStage.Text.Digits

/-!
# Fields of spans

A directive may name a field of a span and, behind an equals sign, the value that it has to
have: a number or a pattern. Any name will do. Whatever stands behind a second equals sign is
passed over.
-/

namespace AsyncStage.Logging

/-- The text behind a sign, if there is one. -/
def skipSign (cs : List Char) : List Char :=
  match cs with
  | '+' :: rest => rest
  | '-' :: rest => rest
  | _ => cs

/-- Whether the text is the exponent of a number, or empty. -/
def isExponent : List Char → Bool
  | [] => true
  | e :: cs =>
    let ds := skipSign cs
    (e == 'e' || e == 'E') && !ds.isEmpty && ds.all Text.isDigit

/-- Whether the text is a number: digits with or without a sign, a point and an exponent, or a
word for what is not finite. -/
def isNumber (cs : List Char) : Bool :=
  let cs := skipSign cs
  let whole := cs.takeWhile Text.isDigit
  let rest := cs.dropWhile Text.isDigit
  let (fraction, rest) :=
    match rest with
    | '.' :: rest => (rest.takeWhile Text.isDigit, rest.dropWhile Text.isDigit)
    | rest => ([], rest)
  ["inf", "infinity", "nan"].contains (String.ofList (cs.map Char.toLower)) ||
    ((!whole.isEmpty || !fraction.isEmpty) && isExponent rest)

/-- Whether the text is the value of a field. Truth values are patterns, too. -/
def isFieldValue (cs : List Char) : Bool := isNumber cs || (Pattern.parse? cs).any Pattern.isUsable

/-- Whether the text is a field with or without a value. -/
def isField (cs : List Char) : Bool :=
  !cs.isEmpty &&
    match cs.dropWhile (· != '=') with
    | [] => true
    | _ :: value => isFieldValue (value.takeWhile (· != '='))

end AsyncStage.Logging
