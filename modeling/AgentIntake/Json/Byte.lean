/-!
# The bytes of JSON's punctuation
-/

namespace AgentIntake.Byte

/-- Space. -/
@[match_pattern] abbrev space : UInt8 := 0x20
/-- Horizontal tab. -/
@[match_pattern] abbrev tab : UInt8 := 0x09
/-- Line feed, which ends a line. -/
@[match_pattern] abbrev newline : UInt8 := 0x0A
/-- Carriage return. -/
@[match_pattern] abbrev carriageReturn : UInt8 := 0x0D
/-- The double quote. -/
@[match_pattern] abbrev quote : UInt8 := 0x22
/-- Plus. -/
@[match_pattern] abbrev plus : UInt8 := 0x2B
/-- Comma. -/
@[match_pattern] abbrev comma : UInt8 := 0x2C
/-- Minus. -/
@[match_pattern] abbrev minus : UInt8 := 0x2D
/-- The decimal point. -/
@[match_pattern] abbrev point : UInt8 := 0x2E
/-- The slash. -/
@[match_pattern] abbrev slash : UInt8 := 0x2F
/-- The digit zero. -/
@[match_pattern] abbrev zero : UInt8 := 0x30
/-- Colon. -/
@[match_pattern] abbrev colon : UInt8 := 0x3A
/-- The opening bracket. -/
@[match_pattern] abbrev openBracket : UInt8 := 0x5B
/-- The backslash. -/
@[match_pattern] abbrev backslash : UInt8 := 0x5C
/-- The closing bracket. -/
@[match_pattern] abbrev closeBracket : UInt8 := 0x5D
/-- The letter that begins a Unicode escape. -/
@[match_pattern] abbrev letterU : UInt8 := 0x75
/-- The opening brace. -/
@[match_pattern] abbrev openBrace : UInt8 := 0x7B
/-- The closing brace. -/
@[match_pattern] abbrev closeBrace : UInt8 := 0x7D

/-- A decimal digit. -/
def isDigit (b : UInt8) : Bool :=
  0x30 ≤ b && b ≤ 0x39

/-- The letter `e`, which begins an exponent, in either case. -/
def isExponent (b : UInt8) : Bool :=
  b == 0x65 || b == 0x45

/-- White space between the parts of a document. -/
def isBlank (b : UInt8) : Bool :=
  b == space || b == newline || b == tab || b == carriageReturn

end AgentIntake.Byte
