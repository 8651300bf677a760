import AppConfig.Power

/-!
# AppConfig.Decimal.Binary64

Double-precision numbers as their 64 bits: sign, eleven bits of exponent, fifty-two bits of
fraction. Comparison with zero and equality are read off the bits, so they are facts about
natural numbers.

* `Binary64.ofRatio` — the number nearest to a quotient, halves to the even neighbour.
* `Binary64.ofDecimal` — the number nearest to `digits · 10 ^ exponent`.
* `Binary64.times`, `Binary64.dividedBy` — products and quotients of magnitudes, rounded the same way.
-/

namespace AppConfig

structure Binary64 where
  bits : UInt64
  deriving DecidableEq, Repr

namespace Binary64

def signBit (x : Binary64) : Bool := twoTo 63 ≤ x.bits.toNat

/-- The biased exponent. -/
def exponentField (x : Binary64) : Nat := x.bits.toNat / twoTo 52 % twoTo 11

def fraction (x : Binary64) : Nat := x.bits.toNat % twoTo 52

def isNaN (x : Binary64) : Bool := x.exponentField == 2047 && x.fraction != 0

def isInfinite (x : Binary64) : Bool := x.exponentField == 2047 && x.fraction == 0

def isFinite (x : Binary64) : Bool := x.exponentField != 2047

/-- Either zero. -/
def isZero (x : Binary64) : Bool := x.bits.toNat % twoTo 63 == 0

/-- Strictly below zero: the sign bit is set, and the number is neither `-0.0` nor a NaN. -/
def isNegative (x : Binary64) : Bool := x.signBit && !x.isZero && !x.isNaN

/-- Equality of map keys: a NaN equals a NaN, and the two zeros are equal. -/
def same (x y : Binary64) : Bool :=
  (x.isNaN && y.isNaN) || (x.isZero && y.isZero) || (x.bits == y.bits)

def ofBits (negative : Bool) (magnitude : Nat) : Binary64 :=
  ⟨UInt64.ofNat (if negative then twoTo 63 + magnitude else magnitude)⟩

def infinity (negative : Bool) : Binary64 := ofBits negative (2047 * twoTo 52)

def nan : Binary64 := ofBits false (2047 * twoTo 52 + twoTo 51)

/-- Rounds `num / den` to the nearest natural number, a half to the even one. -/
def roundDiv (num den : Nat) : Nat :=
  let q := num / den
  let r := num % den
  if 2 * r < den then q else if 2 * r = den ∧ q % 2 = 0 then q else q + 1

/-- `num / den` in units of `2 ^ e`, as a quotient of natural numbers. -/
def scaled (num den : Nat) (e : Int) : Nat × Nat :=
  if 0 ≤ e then (num, den * twoTo e.toNat) else (num * twoTo (-e).toNat, den)

/-- The number nearest to `num / den`, for positive `num` and `den`. -/
def ofRatio (negative : Bool) (num den : Nat) : Binary64 :=
  let guess : Int := (Nat.log2 num : Int) - (Nat.log2 den : Int) - 52
  -- the unit in the last place: the quotient in this unit has 53 bits, unless it is subnormal
  let fits (e : Int) : Bool :=
    let (n, d) := scaled num den e
    twoTo 52 ≤ n / d
  let unit : Int := if fits guess then guess else guess - 1
  let unit : Int := if unit < -1074 then -1074 else unit
  let (n, d) := scaled num den unit
  let m := roundDiv n d
  -- a carry into bit 53 is carried on into the exponent by the sum below
  let biased : Nat := (unit + 1074).toNat
  if m < twoTo 52 then ofBits negative m
  else
    let magnitude := (biased + 1) * twoTo 52 + (m - twoTo 52)
    if 2047 * twoTo 52 ≤ magnitude then infinity negative else ofBits negative magnitude

/-- The number nearest to `digits · 10 ^ exponent`. -/
def ofDecimal (negative : Bool) (digits : Nat) (exponent : Int) : Binary64 :=
  if digits = 0 then ofBits negative 0
  else
    let size : Int := (Nat.toDigits 10 digits).length
    if 400 < size + exponent then infinity negative
    else if size + exponent < -400 then ofBits negative 0
    else if 0 ≤ exponent then ofRatio negative (digits * tenTo exponent.toNat) 1
    else ofRatio negative digits (tenTo (-exponent).toNat)

/-- The nearest number to an integer. -/
def ofInt (i : Int) : Binary64 := ofDecimal (i < 0) i.natAbs 0

/-- A positive finite number is `significand · 2 ^ unit`. -/
def significand (x : Binary64) : Nat :=
  if x.exponentField = 0 then x.fraction else twoTo 52 + x.fraction

def unit (x : Binary64) : Int :=
  if x.exponentField = 0 then -1074 else (x.exponentField : Int) - 1075

/-- The magnitude of a finite number, as a quotient of natural numbers. -/
def ratio (x : Binary64) : Nat × Nat :=
  if 0 ≤ x.unit then (x.significand * twoTo x.unit.toNat, 1)
  else (x.significand, twoTo (-x.unit).toNat)

/-- The number nearest to `num / den`, for positive `den`. -/
def nearest (num den : Nat) : Binary64 := if num = 0 then ofBits false 0 else ofRatio false num den

/-- The product of the magnitudes of two finite numbers, rounded. -/
def times (x y : Binary64) : Binary64 :=
  nearest (x.ratio.1 * y.ratio.1) (x.ratio.2 * y.ratio.2)

/-- The quotient of the magnitudes of two finite numbers, rounded; the second is not zero. -/
def dividedBy (x y : Binary64) : Binary64 :=
  nearest (x.ratio.1 * y.ratio.2) (x.ratio.2 * y.ratio.1)

/-- The number with its sign turned. -/
def negate (x : Binary64) : Binary64 := ofBits (!x.signBit) (x.bits.toNat % twoTo 63)

end Binary64

end AppConfig
