import UnitConversion.Decimal.Basic
import UnitConversion.Rounding

/-!
# Double-precision numbers

A finite double is `± mantissa * 2 ^ exponent` with a mantissa below `2 ^ 53`. The exponent is as
small as the mantissa allows, but never below that of the least subnormal number, so every double
has one form.

* `Binary64.nearest`: the double nearest to a quotient of natural numbers, ties to the even
  mantissa. Quotients beyond the largest double become infinite.
* `Binary64.ofDecimal`: the double nearest to a decimal number. Numbers far outside the range are
  recognised by the place of their leading digit.
* `Binary64.compare?`: the order by value.
-/

namespace UnitConversion

-- Powers of natural numbers are those of core, also where other instances are at hand.
attribute [local instance (high)] instPowNat

/-- A double-precision datum. -/
inductive Binary64 where
  /-- The number `± mantissa * 2 ^ exponent`; the sign is kept for zero as well. -/
  | finite (negative : Bool) (mantissa : Nat) (exponent : Int)
  /-- One of the two infinities. -/
  | infinite (negative : Bool)
  /-- An undefined result. -/
  | nan
  deriving DecidableEq, Inhabited

namespace Binary64

/-- How many binary digits a mantissa holds. -/
def mantissaBits : Nat := 53

/-- The exponent of the subnormal numbers. -/
def leastExponent : Int := -1074

/-- The exponent of the largest numbers. -/
def greatestExponent : Int := 971

/-- A zero of either sign. -/
def zero (negative : Bool) : Binary64 := .finite negative 0 leastExponent

/-- Whether the datum is a finite number. -/
def isFinite : Binary64 → Bool
  | finite .. => true
  | _ => false

/-- The exponent `k` for which the positive quotient `n / d` lies in `[2 ^ k, 2 ^ (k + 1))`. -/
def leadingBit (n d : Nat) : Int :=
  let k : Int := (n.log2 : Int) - d.log2
  if n * 2 ^ (-k).toNat < d * 2 ^ k.toNat then k - 1 else k

/-- The double nearest to `± n / d`. -/
def nearest (negative : Bool) (n d : Nat) : Binary64 :=
  if n = 0 then zero negative
  else
    let e := max (leadingBit n d - (mantissaBits - 1)) leastExponent
    let m := roundQuotient .even (n * 2 ^ (-e).toNat) (d * 2 ^ e.toNat)
    let carried := m = 2 ^ mantissaBits
    let e' := if carried then e + 1 else e
    if greatestExponent < e' then .infinite negative
    else .finite negative (if carried then 2 ^ (mantissaBits - 1) else m) e'

/-- The double nearest to an integer. -/
def ofInt (i : Int) : Binary64 :=
  nearest (i < 0) i.natAbs 1

/-- A place so high that every number whose leading digit stands there is beyond the doubles, and
every number whose leading digit stands as far behind the point is below half of the least one. -/
def outerPlace : Int := 400

/-- The double nearest to `± c * 10 ^ e`. -/
def ofScaled (negative : Bool) (c : Nat) (e : Int) : Binary64 :=
  if c = 0 then zero negative
  else if outerPlace < Decimal.adjusted c e then .infinite negative
  else if Decimal.adjusted c e < -outerPlace then zero negative
  else nearest negative (c * 10 ^ e.toNat) (10 ^ (-e).toNat)

/-- The double nearest to a decimal datum. -/
def ofDecimal : Decimal → Binary64
  | .finite s c e => ofScaled s c e
  | .infinite s => .infinite s
  | .nan .. => .nan

/-- The order of two finite doubles by value. -/
def compareFinite (s₁ : Bool) (m₁ : Nat) (e₁ : Int) (s₂ : Bool) (m₂ : Nat) (e₂ : Int) : Ordering :=
  let e := min e₁ e₂
  compare (Decimal.signed s₁ (m₁ * 2 ^ (e₁ - e).toNat))
    (Decimal.signed s₂ (m₂ * 2 ^ (e₂ - e).toNat))

/-- The order of two data by value; nothing is comparable with an undefined result. -/
def compare? : Binary64 → Binary64 → Option Ordering
  | nan, _ => none
  | _, nan => none
  | infinite s₁, infinite s₂ => some (compare s₂.toNat s₁.toNat)
  | infinite s₁, finite .. => some (if s₁ then .lt else .gt)
  | finite .., infinite s₂ => some (if s₂ then .gt else .lt)
  | finite s₁ m₁ e₁, finite s₂ m₂ e₂ => some (compareFinite s₁ m₁ e₁ s₂ m₂ e₂)

/-- Whether `a` is below `b`. -/
def lt (a b : Binary64) : Bool :=
  compare? a b == some .lt

/-- Whether `a` is at most `b`. -/
def le (a b : Binary64) : Bool :=
  match compare? a b with
  | some .gt => false
  | some _ => true
  | none => false

/-- Whether two data have the same value. -/
def sameValue (a b : Binary64) : Bool :=
  compare? a b == some .eq

/-- The integer part of a finite number. -/
def truncate? : Binary64 → Option Int
  | finite s m e => some (Decimal.signed s (m * 2 ^ e.toNat / 2 ^ (-e).toNat))
  | _ => none

/-- The product of a datum with a power of two. -/
def scaleUp (power : Nat) : Binary64 → Binary64
  | finite s m e => nearest s (m * 2 ^ power * 2 ^ e.toNat) (2 ^ (-e).toNat)
  | d => d

/-- One minus a finite number between zero and one. -/
def complement : Binary64 → Binary64
  | finite _ m e => nearest false (2 ^ (-e).toNat - m * 2 ^ e.toNat) (2 ^ (-e).toNat)
  | d => d

end Binary64

end UnitConversion
