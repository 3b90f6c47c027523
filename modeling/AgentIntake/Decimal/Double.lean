/-!
# Finite binary64 numbers

A `Double` is a finite number of the format binary64, held as its bit pattern.  Its value is a sign
and `m * 2 ^ q` (`Double.parts`), and arithmetic is done on those in `Nat` and rounded once, to the
nearest number of the format with ties to an even significand (`Double.ofRatio?`); a result past the
largest finite number is `none`.

Reading a decimal (`Double.ofDecimal?`) takes two roundings, not one: the significand is rounded,
then multiplied or divided by the number nearest to a power of ten.  The result can therefore differ
from the nearest number in its last bit.
-/

namespace AgentIntake

/-- A finite binary64 number: sign, eleven bits of exponent, which are not all ones, and fifty-two
of significand. -/
structure Double where
  bits : UInt64
  finite : (bits.toNat >>> 52) % 2048 ≠ 2047
  deriving DecidableEq

namespace Double

/-! ## 1.  Value -/

/-- The sign bit. -/
def isNegative (x : Double) : Bool :=
  1 <<< 63 ≤ x.bits.toNat

/-- The magnitude as `m * 2 ^ q`; subnormal numbers share the least exponent. -/
def parts (x : Double) : Nat × Int :=
  let field : Nat := (x.bits.toNat >>> 52) % 2048
  let low : Nat := x.bits.toNat % (1 <<< 52)
  if field = 0 then (low, -1074) else (low + 1 <<< 52, Int.ofNat field - 1075)

/-- The magnitude as a fraction. -/
def ratio (x : Double) : Nat × Nat :=
  let (m, q) := x.parts
  (m <<< q.toNat, 1 <<< (-q).toNat)

/-- Either zero. -/
def isZero (x : Double) : Bool :=
  x.parts.1 == 0

instance : Inhabited Double := ⟨⟨0, by decide⟩⟩

/-- The number of a sign and a magnitude's bit pattern, unless that is past the finite ones. -/
def ofBits? (negative : Bool) (magnitude : Nat) : Option Double :=
  let bits := UInt64.ofNat (if negative then magnitude + 1 <<< 63 else magnitude)
  if h : (bits.toNat >>> 52) % 2048 ≠ 2047 then
    if magnitude < 2047 <<< 52 then some ⟨bits, h⟩ else none
  else none

/-! ## 2.  Rounding -/

/-- `n / d` to the nearest natural number, a half to the even neighbour. -/
def roundDiv (n d : Nat) : Nat :=
  let below := n / d
  let rest := n % d
  if d < 2 * rest ∨ (d = 2 * rest ∧ below % 2 = 1) then below + 1 else below

/-- `n / d` as a fraction over `2 ^ q`. -/
def scaled (n d : Nat) (q : Int) : Nat × Nat :=
  (n <<< (-q).toNat, d <<< q.toNat)

/-- The exponent at which the significand of `n / d` has fifty-three bits, or the least one. -/
def exponentOf (n d : Nat) : Int :=
  let guess : Int := (n.log2 : Int) - d.log2 - 53
  let (a, b) := scaled n d guess
  max (-1074) (if 1 <<< 53 ≤ a / b then guess + 1 else guess)

/-- The number nearest to `n / d` with the given sign, ties to even; `none` past the finite ones. -/
def ofRatio? (negative : Bool) (n d : Nat) : Option Double :=
  if n = 0 then ofBits? negative 0
  else
    let q := exponentOf n d
    let (a, b) := scaled n d q
    ofBits? negative ((q + 1074).toNat <<< 52 + roundDiv a b)

/-! ## 3.  Arithmetic -/

/-- The product, rounded. -/
def mul? (x y : Double) : Option Double :=
  let (a, b) := x.ratio
  let (c, d) := y.ratio
  ofRatio? (x.isNegative != y.isNegative) (a * c) (b * d)

/-- The quotient by a number other than zero, rounded. -/
def div? (x y : Double) : Option Double :=
  let (a, b) := x.ratio
  let (c, d) := y.ratio
  ofRatio? (x.isNegative != y.isNegative) (a * d) (b * c)

/-- The other sign: the top bit flipped. -/
def neg (x : Double) : Double where
  bits := UInt64.ofNat (x.bits.toNat + 1 <<< 63)
  finite := by
    have h := x.finite
    have hx := x.bits.toNat_lt
    simp only [UInt64.toNat_ofNat'] at *
    omega

/-! ## 4.  Decimals -/

/-- The largest power of ten below the largest finite number. -/
def largestPower : Nat := 308

/-- The natural number `10 ^ n`. -/
def powerOfTen (n : Nat) : Nat :=
  Nat.pow 10 n

/-- The number nearest to `10 ^ n`. -/
def tenTo? (n : Nat) : Option Double :=
  ofRatio? false (powerOfTen n) 1

/-- `x` divided `k` times over by the largest power of ten; zero stays what it is. -/
def scaledDown? (x : Double) : Nat → Option Double
  | 0 => some x
  | k + 1 =>
    if x.isZero then some x
    else ((tenTo? largestPower).bind x.div?).bind fun y => scaledDown? y k

/-- `x / 10 ^ n`, dividing by the largest power of ten as long as `n` exceeds it. -/
def dividedBy? (x : Double) (n : Nat) : Option Double :=
  let k := (n - 1) / largestPower
  (scaledDown? x k).bind fun y => (tenTo? (n - largestPower * k)).bind y.div?

/-- `significand * 10 ^ exponent`, the significand rounded first. -/
def ofDecimal? (significand : Nat) (exponent : Int) : Option Double := do
  let x ← ofRatio? false significand 1
  if exponent < 0 then x.dividedBy? exponent.natAbs
  else if exponent ≤ largestPower then (tenTo? exponent.natAbs).bind x.mul?
  else if x.isZero then some x
  else none

end Double

end AgentIntake
