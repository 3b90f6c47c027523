/-!
# Blank characters

Two notions of white space meet in the collector.  Configured hosts are trimmed by the Unicode
property `White_Space`; a line of the wire format is blank when it holds ASCII white space only.
-/

namespace AgentIntake.Blank

/-- The code points of the Unicode property `White_Space`. -/
def whiteSpace : List Nat :=
  [0x09, 0x0A, 0x0B, 0x0C, 0x0D, 0x20, 0x85, 0xA0, 0x1680, 0x2000, 0x2001, 0x2002, 0x2003, 0x2004,
    0x2005, 0x2006, 0x2007, 0x2008, 0x2009, 0x200A, 0x2028, 0x2029, 0x202F, 0x205F, 0x3000]

/-- A character with the property `White_Space`. -/
def isBlank (c : Char) : Bool :=
  whiteSpace.contains c.toNat

/-- `cs` without leading white space. -/
def trimStart (cs : List Char) : List Char :=
  cs.dropWhile isBlank

/-- `s` without white space at either end. -/
def trim (s : String) : String :=
  String.ofList (trimStart (trimStart s.toList).reverse).reverse

/-- A byte of ASCII white space: space, tab, line feed, form feed, carriage return. -/
def isBlankByte (b : UInt8) : Bool :=
  b == 0x20 || b == 0x09 || b == 0x0A || b == 0x0C || b == 0x0D

end AgentIntake.Blank
