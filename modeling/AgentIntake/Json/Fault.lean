import AgentIntake.Decimal.Shortest
import AgentIntake.Json.Basic
import AgentIntake.Json.Byte
import AgentIntake.Text.Quoted

/-!
# What can be wrong with a document

A `Cause` is one thing that can be wrong; `Cause.message` is its only wording.  A `Fault` adds
where: it remembers how many bytes were still unread, from which the line and the column follow once
the whole text is at hand (`Fault.message`).  Columns count the bytes since the last line feed.

A reader that stops at a byte faults either *here*, with that byte unread, or at the *next* byte, as
if it had been taken.  Faults in what the members of an object say, found after the text was read,
have no place.
-/

namespace AgentIntake.Json

/-! ## 1.  Causes -/

/-- The kind of value met where another was wanted. -/
inductive Found where
  | null
  | bool (b : Bool)
  | integer (n : Int)
  | float (x : Double)
  | string (s : String)
  | sequence
  | map

/-- One thing that can be wrong. -/
inductive Cause where
  | endInList
  | endInObject
  | endInString
  | endInValue
  | noColon
  | noCommaOrBracket
  | noCommaOrBrace
  | noLiteral
  | noValue
  | badEscape
  | badNumber
  | numberTooLarge
  | badCodePoint
  | controlCharacter
  | badKey
  | loneSurrogate
  | trailingComma
  | trailingCharacters
  | endOfEscape
  | tooDeep
  | wrongType (found : Found) (expected : String)
  | wrongValue (found : Found) (expected : String)
  | wrongLength (length : Nat) (expected : String)
  | missingField (name : String)
  | duplicateField (name : String)
  | unknownVariant (name : String) (known : List String)
  | oddDigits
  | badDigit (byte : UInt8) (place : Nat)

/-! ## 2.  Wording -/

/-- A kind of value, as messages name it. -/
def Found.text : Found → String
  | .null => "null"
  | .bool b => s!"boolean `{b}`"
  | .integer n => s!"integer `{n}`"
  | .float x => s!"floating point `{x.text}`"
  | .string s => s!"string {Quoted.string s}"
  | .sequence => "sequence"
  | .map => "map"

/-- The names that would have been known. -/
def oneOf : List String → String
  | [a] => s!"`{a}`"
  | [a, b] => s!"`{a}` or `{b}`"
  | names => "one of " ++ ", ".intercalate (names.map fun n => s!"`{n}`")

/-- The wording of a cause. -/
def Cause.message : Cause → String
  | .endInList => "EOF while parsing a list"
  | .endInObject => "EOF while parsing an object"
  | .endInString => "EOF while parsing a string"
  | .endInValue => "EOF while parsing a value"
  | .noColon => "expected `:`"
  | .noCommaOrBracket => "expected `,` or `]`"
  | .noCommaOrBrace => "expected `,` or `\x7d`"
  | .noLiteral => "expected ident"
  | .noValue => "expected value"
  | .badEscape => "invalid escape"
  | .badNumber => "invalid number"
  | .numberTooLarge => "number out of range"
  | .badCodePoint => "invalid unicode code point"
  | .controlCharacter => "control character (\\u0000-\\u001F) found while parsing a string"
  | .badKey => "key must be a string"
  | .loneSurrogate => "lone leading surrogate in hex escape"
  | .trailingComma => "trailing comma"
  | .trailingCharacters => "trailing characters"
  | .endOfEscape => "unexpected end of hex escape"
  | .tooDeep => "recursion limit exceeded"
  | .wrongType found expected => s!"invalid type: {found.text}, expected {expected}"
  | .wrongValue found expected => s!"invalid value: {found.text}, expected {expected}"
  | .wrongLength length expected => s!"invalid length {length}, expected {expected}"
  | .missingField name => s!"missing field `{name}`"
  | .duplicateField name => s!"duplicate field `{name}`"
  | .unknownVariant name known => s!"unknown variant `{name}`, expected {oneOf known}"
  | .oddDigits => "Odd number of digits"
  | .badDigit byte place =>
    let digit := Quoted.char (Char.ofNat byte.toNat)
    s!"Invalid character {digit} at position {place}"

/-! ## 3.  Places -/

/-- A cause, and how many bytes were unread, if it belongs to a place in the text. -/
structure Fault where
  cause : Cause
  left : Option Nat

/-- A fault before the rest `s`. -/
def Fault.here (cause : Cause) (s : List UInt8) : Fault :=
  ⟨cause, some s.length⟩

/-- A fault at the first byte of the rest `s`, or at its end when nothing is left. -/
def Fault.next (cause : Cause) (s : List UInt8) : Fault :=
  ⟨cause, some (s.length - 1)⟩

/-- A fault that belongs to no place. -/
def Fault.unplaced (cause : Cause) : Fault :=
  ⟨cause, none⟩

/-- The line of the place before which `taken` stands, counted from one. -/
def lineOf (taken : List UInt8) : Nat :=
  taken.count Byte.newline + 1

/-- The column of that place: the bytes since the last line feed. -/
def columnOf (taken : List UInt8) : Nat :=
  (taken.reverse.takeWhile (· != Byte.newline)).length

/-- The wording of a fault in the text `document`. -/
def Fault.message (document : List UInt8) (fault : Fault) : String :=
  match fault.left with
  | none => fault.cause.message
  | some left =>
    let taken := document.take (document.length - left)
    s!"{fault.cause.message} at line {lineOf taken} column {columnOf taken}"

end AgentIntake.Json
