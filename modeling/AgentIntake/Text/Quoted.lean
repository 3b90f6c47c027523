import AgentIntake.Text.Hex
import AgentIntake.Text.Unprintable

/-!
# Quoted text in messages

Messages name the text they object to between quotes.  Inside, the enclosing quote and the backslash
are escaped, five controls have short forms, and every other character without a visible form is
written as its code point in hexadecimal: the delete character is written with the digits 7f.
-/

namespace AgentIntake.Quoted

/-- The hexadecimal digits of a code point, without leading zeros. -/
def codePoint (n : Nat) : List Char :=
  (Nat.toDigits 16 n)

/-- One character, inside the quote `quote`. -/
def escape (quote c : Char) : List Char :=
  if c = quote ∨ c = '\\' then ['\\', c]
  else if c = '\n' then ['\\', 'n']
  else if c = '\r' then ['\\', 'r']
  else if c = '\t' then ['\\', 't']
  else if c = '\x00' then ['\\', '0']
  else if Unprintable.contains c.toNat then
    ['\\', 'u', '\x7b'] ++ codePoint c.toNat ++ ['\x7d']
  else [c]

/-- A string between double quotes. -/
def string (s : String) : String :=
  String.ofList (['\x22'] ++ s.toList.flatMap (escape '\x22') ++ ['\x22'])

/-- A character between single quotes. -/
def char (c : Char) : String :=
  String.ofList (['\x27'] ++ escape '\x27' c ++ ['\x27'])

end AgentIntake.Quoted
