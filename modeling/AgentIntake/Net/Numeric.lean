import AgentIntake.Net.Address

/-!
# Numeric forms of addresses

A name lookup takes addresses of version 4 in forms that their usual text does not: one to four
numbers with points between, each decimal, octal after a zero or hexadecimal after `0x`, the last of
which fills all the bytes that the others leave.
-/

namespace AgentIntake.Address

/-- A number at the front, in the base that its first digits say. -/
def cNumber? (s : List Char) : Option (Nat × List Char) :=
  match s with
  | '0' :: x :: r =>
    if (x = 'x' ∨ x = 'X') ∧ (Digits.span 16 r).1 ≠ [] then
      some (Digits.toNat 16 (Digits.span 16 r).1, (Digits.span 16 r).2)
    else some (Digits.toNat 8 (Digits.span 8 s).1, (Digits.span 8 s).2)
  | s =>
    if (Digits.span 10 s).1 = [] then none
    else some (Digits.toNat 10 (Digits.span 10 s).1, (Digits.span 10 s).2)

/-- The value of the numbers before the last, each a byte, and of the last, when at most `more` come
before it. -/
def numbersFrom (value : Nat) : Nat → List Char → Option Nat
  | 0, s =>
    match cNumber? s with
    | some (n, []) => if n < 256 then some (value * 256 + n) else none
    | _ => none
  | more + 1, s =>
    match cNumber? s with
    | none => none
    | some (n, []) => if n < 1 <<< (8 * (more + 2)) then
        some (value <<< (8 * (more + 2)) + n) else none
    | some (n, c :: r) =>
      if c = '.' ∧ n < 256 then numbersFrom (value * 256 + n) more r else none

/-- The address of version 4 that a host is in one of its numeric forms. -/
def numeric? (host : String) : Option Ipv4 :=
  (numbersFrom 0 3 host.toList).map fun n =>
    ⟨UInt8.ofNat (n >>> 24), UInt8.ofNat ((n >>> 16) % 256), UInt8.ofNat ((n >>> 8) % 256),
      UInt8.ofNat (n % 256)⟩

end AgentIntake.Address
