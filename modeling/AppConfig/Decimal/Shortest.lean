import AppConfig.Decimal.Binary64

/-!
# AppConfig.Decimal.Shortest

The shortest decimal that reads back as a given double, and how it is written.

A double stands for an interval of reals, the ones that round to it. For one digit, two digits
and so on, the double's two neighbours on that decimal grid are tested for lying in the interval;
the first grid with a hit has the fewest digits, and of two hits the nearer is taken.
-/

namespace AppConfig.Decimal

/-- `digits · 10 ^ exponent`. -/
structure Numeral where
  digits : Nat
  exponent : Int
  deriving DecidableEq, Repr

/-- Moves trailing zeros of the digits into the exponent. -/
def Numeral.strip : Nat → Numeral → Numeral
  | 0, d => d
  | fuel + 1, d =>
    if d.digits ≠ 0 ∧ d.digits % 10 = 0 then strip fuel ⟨d.digits / 10, d.exponent + 1⟩ else d

/-- A positive double in a common unit: its value, and the ends of the reals that round to it. -/
structure Interval where
  low : Nat
  value : Nat
  high : Nat
  /-- How many of the common units make one. -/
  one : Nat
  /-- The ends round to the double too. -/
  closed : Bool

/-- The reals that round to a positive finite double; the gap below a power of two is half as
wide as the one above. -/
def Interval.of (x : Binary64) : Interval :=
  let m := x.significand
  let narrow := x.fraction == 0 && 1 < x.exponentField
  let e := x.unit - 2
  let scale : Nat := if 0 ≤ e then twoTo e.toNat else 1
  { low := (if narrow then 4 * m - 1 else 4 * m - 2) * scale
    value := 4 * m * scale
    high := (4 * m + 2) * scale
    one := if 0 ≤ e then 1 else twoTo (-e).toNat
    closed := m % 2 == 0 }

/-- Whether `n · 10 ^ e` lies in the interval. -/
def Interval.holds (i : Interval) (n : Nat) (e : Int) : Bool :=
  let (p, f) := if 0 ≤ e then (n * tenTo e.toNat * i.one, 1) else (n * i.one, tenTo (-e).toNat)
  if i.closed then i.low * f ≤ p && p ≤ i.high * f else i.low * f < p && p < i.high * f

/-- The grid point at or below the value, in units of `10 ^ e`, and whether the next one is
nearer; of two equally near points the even one counts as nearer. -/
def Interval.below (i : Interval) (e : Int) : Nat × Bool :=
  let (p, f) := if 0 ≤ e then (i.value, i.one * tenTo e.toNat) else (i.value * tenTo (-e).toNat, i.one)
  let q := p / f
  let r := p % f
  (q, f < 2 * r || (f == 2 * r && q % 2 == 1))

/-- The first grid of `n`, `n + 1`, … digits with a point in the interval. `top` is the decimal
exponent of the value's first digit. -/
def Interval.search (i : Interval) (top : Int) : Nat → Nat → Numeral
  | 0, n =>
    let e := top - n + 1
    ⟨(i.below e).1, e⟩
  | fuel + 1, n =>
    let e := top - n + 1
    let (q, up) := i.below e
    let lower := i.holds q e
    let upper := i.holds (q + 1) e
    if lower && upper then ⟨if up then q + 1 else q, e⟩
    else if lower then ⟨q, e⟩
    else if upper then ⟨q + 1, e⟩
    else i.search top fuel (n + 1)

/-- The decimal exponent of the first digit of `p / f`. -/
def firstDigitExponent (p f : Nat) : Int :=
  if f ≤ p then (Nat.toDigits 10 (p / f)).length - 1
  else
    -- `10 ^ k` times the quotient reaches one for the first time at the wanted `k`
    let k := (Nat.toDigits 10 (f / p)).length - 1
    if f ≤ p * tenTo k then -(k : Int) else -(k : Int) - 1

/-- The shortest decimal that reads back as a positive finite double. -/
def shortest (x : Binary64) : Numeral :=
  let i := Interval.of x
  (i.search (firstDigitExponent i.value i.one) 17 1).strip 20

/-- How numbers beyond the positional range are written. -/
structure Style where
  /-- What stands between the `e` and an exponent that is not negative. -/
  positiveSign : String
  deriving DecidableEq, Repr

/-- An exponent with its sign. -/
def Style.exponent (style : Style) (e : Int) : String :=
  if 0 ≤ e then style.positiveSign ++ toString e else toString e

/-- Writes a decimal: positional for up to sixteen places before the point and five after it,
with `.0` on whole numbers, and in scientific form beyond. -/
def Numeral.write (style : Style) (d : Numeral) : String :=
  let ds := Nat.toDigits 10 d.digits
  let n : Int := ds.length
  let point := n + d.exponent
  if 0 ≤ d.exponent ∧ point ≤ 16 then
    String.ofList (ds ++ List.replicate d.exponent.toNat '0') ++ ".0"
  else if 0 < point ∧ point ≤ 16 then
    String.ofList (ds.take point.toNat ++ '.' :: ds.drop point.toNat)
  else if -5 < point ∧ point ≤ 0 then
    String.ofList ('0' :: '.' :: List.replicate (-point).toNat '0' ++ ds)
  else
    let mantissa := match ds with
      | [] => []
      | [c] => [c]
      | c :: cs => c :: '.' :: cs
    String.ofList mantissa ++ "e" ++ style.exponent (point - 1)

/-- The text of a finite double. -/
def write (style : Style) (x : Binary64) : String :=
  let body := if x.isZero then "0.0"
    else (shortest ⟨UInt64.ofNat (x.bits.toNat % twoTo 63)⟩).write style
  if x.signBit then "-" ++ body else body

end AppConfig.Decimal
