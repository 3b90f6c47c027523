import AgentIntake.Decimal.Shortest
import AgentIntake.Json.Basic
import AgentIntake.Json.Byte
import AgentIntake.Text.Hex
import AgentIntake.Text.Utf8

/-!
# Writing JSON

One compact form: no white space, members in the order they stand, strings with as few escapes as
the grammar allows.  The quote, the backslash and the five controls with letters of their own are
escaped by those; the other controls below the space by their code point in four lower-case digits;
every other character is written as it is.
-/

namespace AgentIntake.Json

/-! ## 1.  Strings -/

/-- The bytes of one character of a string. -/
def escape (c : Char) : List UInt8 :=
  if c = '\x22' then [Byte.backslash, Byte.quote]
  else if c = '\\' then [Byte.backslash, Byte.backslash]
  else if c = '\x08' then [Byte.backslash, 0x62]
  else if c = '\x0c' then [Byte.backslash, 0x66]
  else if c = '\n' then [Byte.backslash, 0x6E]
  else if c = '\r' then [Byte.backslash, 0x72]
  else if c = '\t' then [Byte.backslash, 0x74]
  else if c.toNat < 0x20 then
    [Byte.backslash, Byte.letterU, Byte.zero, Byte.zero,
      (Hex.digit (c.toNat / 16)).toNat.toUInt8, (Hex.digit (c.toNat % 16)).toNat.toUInt8]
  else String.utf8EncodeChar c

/-- A string between its quotes. -/
def renderString (s : String) : List UInt8 :=
  Byte.quote :: (s.toList.flatMap escape ++ [Byte.quote])

/-! ## 2.  Numbers -/

/-- The decimal digits of a natural number. -/
def renderNat (n : Nat) : List UInt8 :=
  (Nat.toDigits 10 n).map fun c => c.toNat.toUInt8

/-- A whole number, with a minus sign when it is negative. -/
def renderInt (n : Int) : List UInt8 :=
  if n < 0 then Byte.minus :: renderNat n.natAbs else renderNat n.natAbs

/-- A number. -/
def renderNumber : Number → List UInt8
  | .whole n _ => renderInt n
  | .real x => Utf8.encode x.text

/-! ## 3.  Documents -/

mutual

/-- The compact form. -/
def render : Json → List UInt8
  | null => [0x6E, 0x75, 0x6C, 0x6C]
  | bool true => [0x74, 0x72, 0x75, 0x65]
  | bool false => [0x66, 0x61, 0x6C, 0x73, 0x65]
  | number n => renderNumber n
  | string s => renderString s
  | array [] => [Byte.openBracket, Byte.closeBracket]
  | array (item :: rest) => Byte.openBracket :: (item.render ++ renderItems rest)
  | object [] => [Byte.openBrace, Byte.closeBrace]
  | object ((key, value) :: rest) =>
    Byte.openBrace :: (renderString key ++ Byte.colon :: (value.render ++ renderMembers rest))

/-- Further items, a comma before each, and the closing bracket. -/
def renderItems : List Json → List UInt8
  | [] => [Byte.closeBracket]
  | item :: rest => Byte.comma :: (item.render ++ renderItems rest)

/-- Further members, a comma before each, and the closing brace. -/
def renderMembers : List (String × Json) → List UInt8
  | [] => [Byte.closeBrace]
  | (key, value) :: rest =>
    Byte.comma :: (renderString key ++ Byte.colon :: (value.render ++ renderMembers rest))

end

/-- The compact form as a string. -/
def toText (j : Json) : String :=
  (Utf8.decode? j.render).getD ""

end AgentIntake.Json
