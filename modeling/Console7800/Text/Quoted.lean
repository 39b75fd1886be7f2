import Console7800.Text.Numeral
import Console7800.Text.Unprintable

/-!
# Quoted text

A text between double quotes, with everything in it visible: the quote, the backslash and four
controls have an escape of their own, and every other unprintable character is given by its code
point.
-/

namespace Console7800.Text

/-- A number in hexadecimal without leading zeros. -/
def lowerHex (n : Nat) : List Char :=
  if n < 16 then [lowerHexDigit n] else lowerHex (n / 16) ++ [lowerHexDigit (n % 16)]

/-- How a character stands inside quotes. -/
def quoteChar (c : Char) : List Char :=
  match c with
  | '\x00' => ['\\', '0']
  | '\t' => ['\\', 't']
  | '\n' => ['\\', 'n']
  | '\r' => ['\\', 'r']
  | '"' => ['\\', '"']
  | '\\' => ['\\', '\\']
  | c => if isUnprintable c then ['\\', 'u', '\x7b'] ++ lowerHex c.toNat ++ ['\x7d'] else [c]

def quoted (text : List Char) : List Char := '"' :: text.flatMap quoteChar ++ ['"']

end Console7800.Text
