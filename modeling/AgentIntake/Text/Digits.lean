/-!
# Digits

Numbers written with the digits of a base up to sixteen, letters in either case.  Addresses, command
lines and configuration files all write numbers; they differ in what else they allow around the
digits.
-/

namespace AgentIntake.Digits

/-- The value of a digit. -/
def value? (base : Nat) (c : Char) : Option Nat :=
  let value :=
    if '0' ≤ c ∧ c ≤ '9' then c.toNat - '0'.toNat
    else if 'a' ≤ c ∧ c ≤ 'f' then c.toNat - 'a'.toNat + 10
    else if 'A' ≤ c ∧ c ≤ 'F' then c.toNat - 'A'.toNat + 10
    else base
  if value < base then some value else none

/-- The digits at the front, and what follows them. -/
def span (base : Nat) (s : List Char) : List Nat × List Char :=
  ((s.takeWhile fun c => (value? base c).isSome).filterMap (value? base),
    s.dropWhile fun c => (value? base c).isSome)

/-- The number that digits make. -/
def toNat (base : Nat) (ds : List Nat) : Nat :=
  ds.foldl (fun n d => n * base + d) 0

/-- The number that a text is that holds nothing but digits, at least one. -/
def natural? (base : Nat) (s : List Char) : Option Nat :=
  match span base s with
  | ([], _) | (_, _ :: _) => none
  | (ds, []) => some (toNat base ds)

/-- The decimal number that a text is, after a plus if there is one. -/
def unsigned? : List Char → Option Nat
  | '+' :: r => natural? 10 r
  | s => natural? 10 s

/-- The decimal number that a text is, after a sign if there is one. -/
def signed? : List Char → Option Int
  | '-' :: r => (natural? 10 r).map fun n => -(n : Int)
  | s => (unsigned? s).map Int.ofNat

end AgentIntake.Digits
