import AsyncStage.Json.Value

/-!
# Writing JSON

The compact form has no blanks. In strings, quotes, backslashes and control characters are
escaped, and nothing else.
-/

namespace AsyncStage.Json

/-- A hexadecimal digit in lower case. -/
def hexDigit (n : Nat) : Char := if n < 10 then Char.ofNat (48 + n) else Char.ofNat (87 + n)

/-- The form of a character in a string. -/
def escapeChar (c : Char) : List Char :=
  match c with
  | '"' => ['\\', '"']
  | '\\' => ['\\', '\\']
  | '\x08' => ['\\', 'b']
  | '\x0c' => ['\\', 'f']
  | '\n' => ['\\', 'n']
  | '\r' => ['\\', 'r']
  | '\t' => ['\\', 't']
  | c =>
    if c.toNat < 0x20 then
      ['\\', 'u', '0', '0', hexDigit (c.toNat / 16), hexDigit (c.toNat % 16)]
    else
      [c]

def stringChars (s : String) : List Char := '"' :: (s.toList.flatMap escapeChar ++ ['"'])

/-- A string as it is written; one without text is written as `null`. -/
def textChars : Option String → List Char
  | some s => stringChars s
  | none => ['n', 'u', 'l', 'l']

def Number.chars (n : Number) : List Char :=
  (if n.negative then ['-'] else []) ++ n.whole ++
    (if n.fraction.isEmpty then [] else '.' :: n.fraction) ++
    (match n.exponent with
      | none => []
      | some (negative, ds) => 'e' :: (if negative then '-' else '+') :: ds)

mutual

/-- The compact form of a value. -/
def chars : Json → List Char
  | .null => ['n', 'u', 'l', 'l']
  | .bool true => ['t', 'r', 'u', 'e']
  | .bool false => ['f', 'a', 'l', 's', 'e']
  | .number n => n.chars
  | .string t => textChars t
  | .array [] => ['[', ']']
  | .array (v :: vs) => '[' :: (chars v ++ itemsChars vs)
  | .object [] => ['\x7b', '\x7d']
  | .object ((k, v) :: ms) => '\x7b' :: (textChars k ++ ':' :: (chars v ++ membersChars ms))

/-- The items behind the first, and the end of the array. -/
def itemsChars : List Json → List Char
  | [] => [']']
  | v :: vs => ',' :: (chars v ++ itemsChars vs)

/-- The members behind the first, and the end of the object. -/
def membersChars : List (Option String × Json) → List Char
  | [] => ['\x7d']
  | (k, v) :: ms => ',' :: (textChars k ++ ':' :: (chars v ++ membersChars ms))

end

/-- The compact text of a value. -/
def render (j : Json) : String := String.ofList j.chars

end AsyncStage.Json
