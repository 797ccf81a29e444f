import UnitConversion.Decimal.Arithmetic

/-!
# Square roots

The square root of a decimal number, rounded to nearest with ties to even. The coefficient is scaled
so that the integer part of its root has one digit more than the context keeps; an exact root is
brought back towards half the exponent of the operand.

* `integerRoot`: the integer part of a square root, by Newton's iteration from above.
-/

namespace UnitConversion

-- Powers of natural numbers are those of core, also where other instances are at hand.
attribute [local instance (high)] instPowNat

/-- Newton's iteration for the integer part of the root of `n`, started at or above it. -/
def integerRootFrom : Nat → Nat → Nat → Nat
  | 0, _, guess => guess
  | fuel + 1, n, guess =>
    if guess = 0 then 0
    else
      let q := n / guess
      if guess ≤ q then guess else integerRootFrom fuel n ((guess + q) / 2)

/-- The integer part of the square root of `n`. -/
def integerRoot (n : Nat) : Nat :=
  integerRootFrom (n.log2 + 2) n (2 ^ (n.log2 / 2 + 1))

namespace Decimal

/-- The root of the nonzero number `c * 10 ^ e` to one digit more than `precision`, as a coefficient
and its exponent. -/
def rootParts (precision c : Nat) (e : Int) : Nat × Int :=
  let half := e.fdiv 2
  let c₁ := if e % 2 = 0 then c else c * 10
  let pairs := if e % 2 = 0 then (digitCount c + 1) / 2 else digitCount c / 2 + 1
  let shift : Int := (precision : Int) + 1 - pairs
  let up := 100 ^ shift.toNat
  let down := 100 ^ (-shift).toNat
  let n := c₁ * up / down
  let root := integerRoot n
  if c₁ * up % down = 0 ∧ root * root = n then
    (if 0 ≤ shift then root / 10 ^ shift.toNat else root * 10 ^ (-shift).toNat, half)
  else (sticky root 1, half - shift)

/-- The square root of a datum. -/
def sqrt (ctx : Context) : Decimal → Except Signal Decimal
  | finite s c e =>
    let ctx := { ctx with tie := .even }
    if c = 0 then ctx.finish s 0 (e.fdiv 2)
    else if s then .error .invalidOperation
    else
      let r := rootParts ctx.precision c e
      ctx.finish false r.1 r.2
  | infinite s => if s then .error .invalidOperation else .ok (infinite false)
  | d => ctx.finishDatum d

end Decimal

end UnitConversion
