/-!
# Decimal numbers

A decimal number is a coefficient with an exponent of ten and a sign, so `1.5` and `1.50` are two
data with one value, and zero has a sign and an exponent too. Beside the finite numbers there are
two infinities and the undefined results, which may carry a payload.

* `digitCount`: the number of decimal digits of a natural number.
* `Decimal.compareFinite`: the order of two finite numbers by value, found without writing out more
  digits than the longer coefficient has.
* `Decimal.value`: the exact rational value of a finite number.
-/

namespace UnitConversion

-- Powers of natural numbers are those of core, also where other instances are at hand.
attribute [local instance (high)] instPowNat

/-- The leading digit of `n` to base `base`, and how many digits follow it. Squares the base at each
step, `fuel` times at most. -/
def leadingDigit : Nat → Nat → Nat → Nat × Nat
  | 0, _, n => (n, 0)
  | fuel + 1, base, n =>
    if n < base then (n, 0)
    else
      let r := leadingDigit fuel (base * base) n
      if r.1 < base then (r.1, 2 * r.2) else (r.1 / base, 2 * r.2 + 1)

/-- The number of decimal digits of `n`; zero has one digit. -/
def digitCount (n : Nat) : Nat :=
  (leadingDigit n.log2 10 n).2 + 1

/-- A decimal datum. A finite one has the value `± coefficient * 10 ^ exponent`. -/
inductive Decimal where
  /-- A finite number; the sign is kept for zero as well. -/
  | finite (negative : Bool) (coefficient : Nat) (exponent : Int)
  /-- One of the two infinities. -/
  | infinite (negative : Bool)
  /-- An undefined result. A signaling one refuses to take part in any operation. -/
  | nan (negative signaling : Bool) (payload : Nat)
  deriving DecidableEq, Inhabited

namespace Decimal

/-- The natural number `n`, with exponent zero. -/
def ofNat (n : Nat) : Decimal := .finite false n 0

/-- The integer `i`, with exponent zero. -/
def ofInt (i : Int) : Decimal := .finite (i < 0) i.natAbs 0

/-- Whether the datum is a finite number. -/
def isFinite : Decimal → Bool
  | finite .. => true
  | _ => false

/-- Whether the datum is undefined. -/
def isNaN : Decimal → Bool
  | nan .. => true
  | _ => false

/-- Whether the datum is a zero of either sign. -/
def isZero : Decimal → Bool
  | finite _ c _ => c = 0
  | _ => false

/-- Whether the datum carries a minus sign. -/
def isNegative : Decimal → Bool
  | finite s .. => s
  | infinite s => s
  | nan s .. => s

/-- The exponent of the leading digit of `coefficient * 10 ^ exponent`. -/
def adjusted (coefficient : Nat) (exponent : Int) : Int :=
  exponent + digitCount coefficient - 1

/-- The coefficient with its sign. -/
def signed (negative : Bool) (coefficient : Nat) : Int :=
  if negative then -(coefficient : Int) else coefficient

/-- The exact value of a finite number; the other data are given the value zero. -/
def value : Decimal → Rat
  | finite s c e => (signed s c : Rat) * (10 : Rat) ^ e
  | _ => 0

/-- The order of `c₁ * 10 ^ e₁` and `c₂ * 10 ^ e₂`. Leading digits decide first; only coefficients
whose leading digits stand at the same place are brought to one exponent. -/
def compareMagnitude (c₁ : Nat) (e₁ : Int) (c₂ : Nat) (e₂ : Int) : Ordering :=
  if c₁ = 0 then if c₂ = 0 then .eq else .lt
  else if c₂ = 0 then .gt
  else if adjusted c₁ e₁ < adjusted c₂ e₂ then .lt
  else if adjusted c₂ e₂ < adjusted c₁ e₁ then .gt
  else
    let e := min e₁ e₂
    compare (c₁ * 10 ^ (e₁ - e).toNat) (c₂ * 10 ^ (e₂ - e).toNat)

/-- The order of two finite numbers by value. -/
def compareFinite (s₁ : Bool) (c₁ : Nat) (e₁ : Int) (s₂ : Bool) (c₂ : Nat) (e₂ : Int) : Ordering :=
  if c₁ = 0 ∧ c₂ = 0 then .eq
  else if c₁ = 0 then if s₂ then .gt else .lt
  else if c₂ = 0 then if s₁ then .lt else .gt
  else match s₁, s₂ with
    | false, false => compareMagnitude c₁ e₁ c₂ e₂
    | true, true => compareMagnitude c₂ e₂ c₁ e₁
    | true, false => .lt
    | false, true => .gt

/-- The order of two data by value; nothing is comparable with an undefined result. -/
def compare? : Decimal → Decimal → Option Ordering
  | nan .., _ => none
  | _, nan .. => none
  | infinite s₁, infinite s₂ => some (compare s₂.toNat s₁.toNat)
  | infinite s₁, finite .. => some (if s₁ then .lt else .gt)
  | finite .., infinite s₂ => some (if s₂ then .gt else .lt)
  | finite s₁ c₁ e₁, finite s₂ c₂ e₂ => some (compareFinite s₁ c₁ e₁ s₂ c₂ e₂)

/-- Whether two data have the same value; an undefined result equals nothing. -/
def sameValue (a b : Decimal) : Bool :=
  compare? a b == some .eq

/-- Whether `a` is at least `b`; false when either is undefined. -/
def atLeast (a b : Decimal) : Bool :=
  match compare? a b with
  | some .gt => true
  | some .eq => true
  | _ => false

/-- Whether `a` is below `b`; false when either is undefined. -/
def below (a b : Decimal) : Bool :=
  compare? a b == some .lt

end Decimal

end UnitConversion
