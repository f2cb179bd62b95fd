import AsyncStage.Text.Printable

/-!
# Quoted text

`quoted s` writes a text between double quotes. Quotes, backslashes, line ends, tabs and
zero characters have escapes of two characters; every other character that is not shown as
it is appears as its hexadecimal code point in braces.
-/

namespace AsyncStage.Text

/-- The lower-case hexadecimal digits of `n` without leading zeros. -/
def hexDigits (n : Nat) : List Char := Nat.toDigits 16 n

/-- The form of one character inside double quotes. -/
def quoteChar (c : Char) : List Char :=
  match c with
  | '"' => ['\\', '"']
  | '\\' => ['\\', '\\']
  | '\n' => ['\\', 'n']
  | '\r' => ['\\', 'r']
  | '\t' => ['\\', 't']
  | '\x00' => ['\\', '0']
  | c =>
    if isPrintable c then [c]
    else ['\\', 'u', '\x7b'] ++ hexDigits c.toNat ++ ['\x7d']

/-- The text between double quotes. -/
def quoted (s : String) : String :=
  String.ofList ('"' :: (s.toList.flatMap quoteChar ++ ['"']))

end AsyncStage.Text
