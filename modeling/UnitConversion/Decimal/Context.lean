import UnitConversion.Decimal.Basic
import UnitConversion.Rounding

/-!
# Arithmetic contexts

A context fixes how many digits a result keeps, which way a tie is rounded, and which conditions
stop a computation. All contexts share one exponent range.

`Context.finish` brings an exact result into a context: it keeps results that fit as they are,
rounds those with too many digits, lets tiny results lose digits gradually, and stops at an overflow
or, where the context asks for it, at an underflow.
-/

namespace UnitConversion

-- Powers of natural numbers are those of core, also where other instances are at hand.
attribute [local instance (high)] instPowNat

/-- A condition that stops a computation. -/
inductive Signal where
  | invalidOperation
  | divisionByZero
  | overflow
  | underflow
  deriving DecidableEq

/-- The rules of an arithmetic: digits kept, rounding of ties, and whether an inexact tiny result
stops the computation. -/
structure Context where
  precision : Nat
  tie : Tie
  trapsUnderflow : Bool
  deriving DecidableEq

/-- The exponent of the leading digit of the largest numbers. -/
def maxExponent : Int := 999999

/-- The exponent of the leading digit of the smallest numbers that have all their digits. -/
def minExponent : Int := -999999

namespace Context

/-- The context of conversions and formulas: forty digits, ties away from zero. -/
def conversion : Context := ⟨40, .up, true⟩

/-- The context of comparisons around a conversion: twenty-eight digits, ties to even. -/
def ambient : Context := ⟨28, .even, false⟩

/-- The least exponent of a result. -/
def leastExponent (ctx : Context) : Int :=
  minExponent - ((ctx.precision : Int) - 1)

end Context

/-- The integer nearest to `n / 10 ^ k`. A number with fewer than `k` digits is below half. -/
def dropDigits (tie : Tie) (n k : Nat) : Nat :=
  if digitCount n < k then 0 else roundQuotient tie n (10 ^ k)

/-- Whether `n` is a multiple of `10 ^ k`. -/
def endsInZeros (n k : Nat) : Bool :=
  n = 0 || (k < digitCount n && n % 10 ^ k = 0)

/-- Rounds `n` to at most `digits` digits: the coefficient and how many digits were dropped. A carry
that makes the coefficient one digit longer drops one more. -/
def roundToDigits (tie : Tie) (digits n : Nat) : Nat × Nat :=
  if digitCount n ≤ digits then (n, 0)
  else
    let k := digitCount n - digits
    let q := dropDigits tie n k
    if digits < digitCount q then (q / 10, k + 1) else (q, k)

namespace Context

/-- Brings the exact number `± c * 10 ^ e` into the context. -/
def finish (ctx : Context) (negative : Bool) (c : Nat) (e : Int) : Except Signal Decimal :=
  if c = 0 then
    .ok (.finite negative 0 (max ctx.leastExponent (min e maxExponent)))
  else if maxExponent < Decimal.adjusted c e then .error .overflow
  else if Decimal.adjusted c e < minExponent then
    if e < ctx.leastExponent then
      let k := (ctx.leastExponent - e).toNat
      if ctx.trapsUnderflow && !endsInZeros c k then .error .underflow
      else .ok (.finite negative (dropDigits ctx.tie c k) ctx.leastExponent)
    else .ok (.finite negative c e)
  else
    let r := roundToDigits ctx.tie ctx.precision c
    let e' := e + r.2
    if maxExponent < Decimal.adjusted r.1 e' then .error .overflow
    else .ok (.finite negative r.1 e')

/-- Brings a datum into the context; infinities and quiet undefined results stay as they are. -/
def finishDatum (ctx : Context) : Decimal → Except Signal Decimal
  | .finite s c e => ctx.finish s c e
  | .nan _ true _ => .error .invalidOperation
  | d => .ok d

end Context

end UnitConversion
