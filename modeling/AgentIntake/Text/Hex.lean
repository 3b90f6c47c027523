/-!
# Hexadecimal text

Payloads travel as hexadecimal strings, two digits a byte.  `encode` writes lower-case digits;
`decode` takes digits of either case and says where a text is not one.
-/

namespace AgentIntake.Hex

/-- A digit below sixteen, in lower case. -/
def digit (n : Nat) : Char :=
  if n < 10 then Char.ofNat (0x30 + n) else Char.ofNat (0x57 + n)

/-- Two digits for each byte, the high one first. -/
def encode (bytes : List UInt8) : String :=
  String.ofList (bytes.flatMap fun b => [digit (b.toNat / 16), digit (b.toNat % 16)])

/-- The value of a digit, given as the byte that writes it. -/
def value? (b : UInt8) : Option Nat :=
  if 0x30 ≤ b ∧ b ≤ 0x39 then some (b.toNat - 0x30)
  else if 0x61 ≤ b ∧ b ≤ 0x66 then some (b.toNat - 0x57)
  else if 0x41 ≤ b ∧ b ≤ 0x46 then some (b.toNat - 0x37)
  else none

/-- Why a text is not hexadecimal: it has an odd number of bytes, or the byte at a place is no
digit. -/
inductive Error where
  | oddLength
  | badDigit (byte : UInt8) (place : Nat)
  deriving DecidableEq, Repr

/-- Reads pairs of digits from `place` on, onto the bytes read so far, last first. -/
def decodeFrom (place : Nat) (done : List UInt8) : List UInt8 → Except Error (List UInt8)
  | [] => .ok done.reverse
  | [_] => .error .oddLength
  | a :: b :: rest =>
    match value? a, value? b with
    | none, _ => .error (.badDigit a place)
    | some _, none => .error (.badDigit b (place + 1))
    | some x, some y => decodeFrom (place + 2) (UInt8.ofNat (16 * x + y) :: done) rest

/-- The bytes written by the digits `text`, given as bytes.  An odd length is refused before any
digit is looked at. -/
def decode (text : List UInt8) : Except Error (List UInt8) :=
  if text.length % 2 = 1 then .error .oddLength else decodeFrom 0 [] text

end AgentIntake.Hex
