import UnitConversion.Binary64.Basic
import UnitConversion.Decimal.Arithmetic

/-!
# The shortest decimal that reads back

The decimal with the fewest digits among those that are nearest to a given positive double, and of
two such decimals the one closer to it.

All decimals that read back as `m * 2 ^ e` lie in an interval around it: half way to its two
neighbours, ends included exactly when `m` is even. For one digit, two digits and so on the two
multiples of a power of ten next to the number are tried, since whenever the interval holds some
multiple it holds one of these.
-/

namespace UnitConversion

-- Powers of natural numbers are those of core, also where other instances are at hand.
attribute [local instance (high)] instPowNat

namespace Binary64

/-- The interval of numbers that are read back as one double: all its parts are divided by `unit`,
and `closed` says that the ends belong to it. -/
structure Span where
  low : Nat
  middle : Nat
  high : Nat
  unit : Nat
  closed : Bool

/-- The span of the double `m * 2 ^ e`. Below a power of two the neighbour is half as far away. -/
def Span.of (m : Nat) (e : Int) : Span :=
  let narrow := m = 2 ^ (mantissaBits - 1) ∧ leastExponent < e
  let up := 2 ^ (e - 2).toNat
  { low := (4 * m - if narrow then 1 else 2) * up
    middle := 4 * m * up
    high := (4 * m + 2) * up
    unit := 2 ^ (2 - e).toNat
    closed := m % 2 = 0 }

/-- Whether the span holds `t * 10 ^ g`. -/
def Span.holds (span : Span) (t : Nat) (g : Int) : Bool :=
  let scaled := t * 10 ^ g.toNat * span.unit
  let down := 10 ^ (-g).toNat
  if span.closed then span.low * down ≤ scaled && scaled ≤ span.high * down
  else span.low * down < scaled && scaled < span.high * down

/-- The multiple of `10 ^ g` in the span that is closest to its middle, as a factor; a tie goes to
the even one. -/
def Span.onGrid? (span : Span) (g : Int) : Option Nat :=
  let n := span.middle * 10 ^ (-g).toNat
  let d := span.unit * 10 ^ g.toNat
  let t := n / d
  let near := roundQuotient .even n d
  let far := if near = t then t + 1 else t
  if span.holds near g then some near
  else if span.holds far g then some far
  else none

/-- Tries ever finer grids, starting with multiples of `10 ^ g`. -/
def Span.search (span : Span) : Nat → Int → Nat × Int
  | 0, g => (roundQuotient .even (span.middle * 10 ^ (-g).toNat) (span.unit * 10 ^ g.toNat), g)
  | fuel + 1, g =>
    match span.onGrid? g with
    | some t => (t, g)
    | none => span.search fuel (g - 1)

/-- The place of the leading decimal digit of `m * 2 ^ e`. -/
def leadingPlace (m : Nat) (e : Int) : Int :=
  Decimal.adjusted (m * 2 ^ e.toNat * 5 ^ (-e).toNat) (-((-e).toNat : Int))

/-- No double needs more digits than this to be read back. -/
def enoughDigits : Nat := 17

/-- The shortest decimal that is read back as the positive double `m * 2 ^ e`, as a coefficient and
its exponent of ten; the coefficient does not end in a zero. -/
def shortest (m : Nat) (e : Int) : Nat × Int :=
  let r := (Span.of m e).search (enoughDigits - 1) (leadingPlace m e)
  Decimal.stripZeros (digitCount r.1) r.1 r.2 (r.2 + digitCount r.1)

end Binary64

end UnitConversion
