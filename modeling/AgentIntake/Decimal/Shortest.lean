import AgentIntake.Decimal.Double

/-!
# The shortest decimal of a binary number

`Double.shortest` finds the decimal with the fewest digits that lies in the interval of reals
nearest to a number, and of those the nearest to the number itself.  For one digit, two digits and
so on it tests the two neighbours of the number on the grid of decimals with that many digits: if
any point of a grid lies in the interval, then one of these two does.

`Double.text` writes that decimal.  Exponents from -5 to 15 are written out in full, always with a
point; beyond them one digit stands before the point and the exponent has its sign.
-/

namespace AgentIntake

/-- The number `digits * 10 ^ exponent`. -/
structure Decimal where
  digits : Nat
  exponent : Int
  deriving DecidableEq, Repr

namespace Decimal

/-- Without zeros at the end of the digits, of which there are at most `fuel`. -/
def stripZeros : Nat → Decimal → Decimal
  | 0, d => d
  | fuel + 1, d =>
    if d.digits ≠ 0 ∧ d.digits % 10 = 0 then stripZeros fuel ⟨d.digits / 10, d.exponent + 1⟩ else d

end Decimal

namespace Double

/-! ## 1.  The interval that rounds to a number -/

/-- The reals that round to a number: the number and the two ends over the common denominator
`unit`, and whether the ends round to the number too, which they do if its significand is even. -/
structure Interval where
  low : Nat
  value : Nat
  high : Nat
  unit : Nat
  closed : Bool

/-- The reals that round to a number.  Below a power of two the gap to the next number halves. -/
def interval (x : Double) : Interval :=
  let (m, q) := x.parts
  let below := if m = 1 <<< 52 ∧ q ≠ -1074 then 1 else 2
  let scale := (q - 2).toNat
  ⟨(4 * m - below) <<< scale, (4 * m) <<< scale, (4 * m + 2) <<< scale,
    1 <<< (2 - q).toNat, m % 2 = 0⟩

/-- The decimal `n * 10 ^ k` lies in the interval. -/
def Interval.holds (i : Interval) (n : Nat) (k : Int) : Bool :=
  let n := n * powerOfTen k.toNat * i.unit
  let up := powerOfTen (-k).toNat
  if i.closed then i.low * up ≤ n && n ≤ i.high * up else i.low * up < n && n < i.high * up

/-! ## 2.  The search -/

/-- The exponent of the first digit of `n / d`, looked for upwards from `guess`. -/
def leadingPlace (n d : Nat) : Nat → Int → Int
  | 0, guess => guess
  | fuel + 1, guess =>
    if d * powerOfTen (guess + 1).toNat ≤ n * powerOfTen (-(guess + 1)).toNat then
      leadingPlace n d fuel (guess + 1)
    else guess

/-- The decimal of the interval nearest to its number among those with last digit at place `k`. -/
def Interval.at? (i : Interval) (k : Int) : Option Decimal :=
  let n := i.value * powerOfTen (-k).toNat
  let d := i.unit * powerOfTen k.toNat
  let below := n / d
  match i.holds below k, i.holds (below + 1) k with
  | false, false => none
  | true, false => some ⟨below, k⟩
  | false, true => some ⟨below + 1, k⟩
  | true, true => some ⟨roundDiv n d, k⟩

/-- The first hit with at most `fuel` digits, coarsest grid first. -/
def Interval.search (i : Interval) : Nat → Int → Decimal
  | 0, k => ⟨i.value * powerOfTen (-k).toNat / (i.unit * powerOfTen k.toNat), k⟩
  | fuel + 1, k => (i.at? k).getD (i.search fuel (k - 1))

/-- The shortest decimal that rounds to the magnitude of `x`, nearest to it among those. -/
def shortest (x : Double) : Decimal :=
  if x.isZero then ⟨0, 0⟩
  else
    let i := x.interval
    let guess : Int := ((i.value.log2 : Int) - i.unit.log2) * 30103 / 100000 - 2
    (i.search 17 (leadingPlace i.value i.unit 5 guess)).stripZeros 20

/-! ## 3.  Text -/

/-- Where numbers are written out in full: the least and the greatest exponent of a first digit. -/
structure Layout where
  least : Int
  greatest : Int

/-- Numbers from `0.00001` up to sixteen digits are written out. -/
def layout : Layout := ⟨-5, 15⟩

/-- The text of a decimal other than zero, by its digits and the exponent of the first one. -/
def Layout.write (l : Layout) (digits : List Char) (place : Int) : List Char :=
  if l.least ≤ place ∧ place ≤ l.greatest then
    if place < 0 then
      ['0', '.'] ++ List.replicate (place.natAbs - 1) '0' ++ digits
    else if digits.length ≤ place.toNat + 1 then
      digits ++ List.replicate (place.toNat + 1 - digits.length) '0' ++ ['.', '0']
    else digits.take (place.toNat + 1) ++ ['.'] ++ digits.drop (place.toNat + 1)
  else
    let point := if digits.length ≤ 1 then [] else ['.']
    let sign := if place < 0 then '-' else '+'
    digits.take 1 ++ point ++ digits.drop 1 ++ ['e', sign] ++ Nat.toDigits 10 place.natAbs

/-- The text of a number: its shortest decimal, laid out. -/
def text (x : Double) : String :=
  let d := x.shortest
  let digits := Nat.toDigits 10 d.digits
  let body :=
    if d.digits = 0 then ['0', '.', '0']
    else layout.write digits (d.exponent + (digits.length - 1 : Nat))
  String.ofList (if x.isNegative then '-' :: body else body)

end Double

end AgentIntake
