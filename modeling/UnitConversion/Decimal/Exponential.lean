import UnitConversion.Decimal.Context

/-!
# Logarithm and exponential to a given number of digits

The natural logarithm and the exponential function, rounded to nearest with ties to even. Both are
computed in fixed point: an integer stands for itself divided by `10 ^ places`. A computed value
comes with a bound on its error, and is accepted when both ends of the interval round to the same
number; otherwise it is computed again with more places. A value that is not rational is settled
this way after finitely many rounds.
-/

namespace UnitConversion

-- Powers of natural numbers are those of core, also where other instances are at hand.
attribute [local instance (high)] instPowNat

/-- The sum of `term / (2 k + 1)` over `k`, each term being the one before it times `ratio`. -/
def arctanhSum (scale ratio : Int) : Nat → Int → Int → Int → Int
  | 0, _, _, sum => sum
  | fuel + 1, k, term, sum =>
    if term = 0 then sum
    else arctanhSum scale ratio fuel (k + 2) ((term * ratio).tdiv scale) (sum + term.tdiv k)

/-- Twice the inverse hyperbolic tangent of `n / d`, for `|n / d|` at most `0.6`. -/
def twiceArctanh (places : Nat) (n d : Int) : Int :=
  let scale : Int := 10 ^ places
  2 * arctanhSum scale ((n * n * scale).tdiv (d * d)) (3 * places + 10) 1 ((n * scale).tdiv d) 0

/-- The natural logarithm of ten. -/
def lnTen (places : Nat) : Int :=
  3 * twiceArctanh places 1 3 + twiceArctanh places 1 9

/-- A bound on the error of a fixed-point result that uses `k` times the logarithm of ten. -/
def fixedError (places : Nat) (k : Int) : Nat :=
  (k.natAbs + 1) * (100 * places + 100)

/-- Rounds `n * 10 ^ e` to at most `digits` digits, ties to even. -/
def roundSignificant (digits n : Nat) (e : Int) : Nat × Int :=
  let r := roundToDigits .even digits n
  (r.1, e + r.2)

/-- The number that both `n - error` and `n + error` round to, in units of `10 ^ e`, if it is
one. -/
def settled? (digits n error : Nat) (e : Int) : Option (Nat × Int) :=
  let low := roundSignificant digits (n - error) e
  let high := roundSignificant digits (n + error) e
  if digitCount low.1 = digits ∧ low = high then some high else none

/-- Repeats a computation with ever more places until its result is settled. -/
def settle (digits step : Nat) (compute : Nat → Nat × Nat × Int) : Nat → Nat → Nat × Int
  | 0, places =>
    let r := compute places
    roundSignificant digits r.1 r.2.2
  | fuel + 1, places =>
    let r := compute places
    match settled? digits r.1 r.2.1 r.2.2 with
    | some n => n
    | none => settle digits step compute fuel (places + step)

/-- The place of a number's leading digit, chosen so that the number divided by that power of ten
lies between about `0.316` and `3.16`. -/
def centre (c : Nat) (e : Int) : Int :=
  if 316 * 10 ^ (digitCount c - 1) ≤ 100 * c then Decimal.adjusted c e + 1 else Decimal.adjusted c e

/-- The natural logarithm of the positive number `c * 10 ^ e`. -/
def lnFixed (places c : Nat) (e : Int) : Int :=
  let k := centre c e
  let unit : Int := 10 ^ (k - e).toNat
  twiceArctanh places (c - unit) (c + unit) + k * lnTen places

/-- The natural logarithm of `c * 10 ^ e`, a positive number other than one, to `digits` digits:
sign, coefficient and exponent. The logarithm of a number close to one starts with as many zeros as
the number has digits; there may be up to `digits` of them. -/
def lnRounded (digits c : Nat) (e : Int) : Bool × Nat × Int :=
  let k := centre c e
  let start := 2 * digits + digitCount k.natAbs + 20
  let r := settle digits digits
    (fun places => ((lnFixed places c e).natAbs, fixedError places k, -(places : Int))) 20 start
  (Decimal.compareMagnitude c e 1 0 = .lt, r.1, r.2)

/-- The sum of the series of the exponential function from the term `term` on. -/
def expSum (scale r : Int) : Nat → Int → Int → Int → Int
  | 0, _, _, sum => sum
  | fuel + 1, k, term, sum =>
    if term = 0 then sum
    else expSum scale r fuel (k + 1) ((term * r).tdiv (scale * k)) (sum + term)

/-- The exponential of `y`, given in fixed point: a fixed-point mantissa and a power of ten. -/
def expFixed (places : Nat) (y : Int) : Nat × Int :=
  let scale : Int := 10 ^ places
  let ten := lnTen places
  let k := (2 * y + ten).fdiv (2 * ten)
  ((expSum scale (y - k * ten) (2 * places + 50) 1 scale 0).toNat, k)

/-- The number `± c * 10 ^ e` in fixed point, digits beyond the last place being cut off. -/
def toFixed (places : Nat) (negative : Bool) (c : Nat) (e : Int) : Int :=
  let shift := e + places
  let n : Int := if 0 ≤ shift then c * 10 ^ shift.toNat
    else if (digitCount c : Int) < -shift then 0 else c / 10 ^ (-shift).toNat
  if negative then -n else n

/-- How many digits `c * 10 ^ e` has in front of the point; zero has none. -/
def wholeDigits (c : Nat) (e : Int) : Nat :=
  if c = 0 then 0 else (Decimal.adjusted c e + 1).toNat

/-- The exponential of `± c * 10 ^ e`, a number other than zero, to `digits` digits: coefficient and
exponent. -/
def expRounded (digits : Nat) (negative : Bool) (c : Nat) (e : Int) : Nat × Int :=
  let start := digits + wholeDigits c e + 20
  settle digits digits
    (fun places =>
      let r := expFixed places (toFixed places negative c e)
      (r.1, fixedError places r.2, r.2 - places)) 20 start

end UnitConversion
