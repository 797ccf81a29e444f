import UnitConversion.Decimal.Root
import UnitConversion.Decimal.Exponential

/-!
# Powers

The power of two decimal numbers in a context.

* A whole exponent is worked off by squaring, with enough extra digits that the rounding of the
  products is not seen in the result.
* Any other exponent goes through the logarithm and the exponential function, each rounded correctly
  with extra digits; the result always has all the digits of the context.
* Special operands are decided first: `0 ^ 0` is refused, zero to a negative power is infinite, and
  a negative base takes whole exponents only.
* A power that must leave the exponent range is recognised from the leading digits of the operands,
  so that no huge number is ever written out.
-/

namespace UnitConversion

-- Powers of natural numbers are those of core, also where other instances are at hand.
attribute [local instance (high)] instPowNat

namespace Decimal

/-- Whether `c * 10 ^ e` is a whole number. -/
def isWhole (c : Nat) (e : Int) : Bool :=
  c = 0 || 0 ≤ e || (-e < digitCount c && c % 10 ^ (-e).toNat = 0)

/-- Whether the whole number `c * 10 ^ e` is odd. -/
def isOddWhole (c : Nat) (e : Int) : Bool :=
  if c = 0 || 0 < e then false else c / 10 ^ (-e).toNat % 2 = 1

/-- The whole number `c * 10 ^ e` as a natural number. -/
def wholeNat (c : Nat) (e : Int) : Nat :=
  if 0 ≤ e then c * 10 ^ e.toNat else c / 10 ^ (-e).toNat

/-- One, written with `places` zeros after the point. -/
def paddedOne (negative : Bool) (places : Nat) : Decimal :=
  .finite negative (10 ^ places) (-(places : Int))

/-- The bits of `n` below its leading one, the highest first. -/
def lowerBits (n : Nat) : List Bool :=
  (List.range n.log2).reverse.map n.testBit

/-- Squares `r`, and multiplies by `base` for every bit that is set. -/
def powerBits (ctx : Context) (base : Decimal) : List Bool → Decimal → Except Signal Decimal
  | [], r => .ok r
  | bit :: bits, r => do
    let square ← mul ctx r r
    let next ← if bit then mul ctx square base else pure square
    powerBits ctx base bits next

/-- Multiplies `r` by the powers of `base` that the bits of `n` ask for, the lowest bit first. -/
def powerFromLow (ctx : Context) : Nat → Decimal → Nat → Decimal → Except Signal Decimal
  | 0, _, _, r => .ok r
  | fuel + 1, base, n, r => do
    let next ← if n % 2 = 1 then mul ctx r base else pure r
    if n / 2 = 0 then pure next
    else
      let square ← mul ctx base base
      powerFromLow ctx fuel square (n / 2) next

/-- The power of a positive base to the positive whole exponent `n`. Exponents of more than
sixty-four bits are worked off from their lowest bit. -/
def powerNat (ctx : Context) (base : Decimal) (n : Nat) : Except Signal Decimal :=
  if n < 2 ^ (64 : Nat) then powerBits ctx base (lowerBits n) base
  else powerFromLow ctx (n.log2 + 1) base n (.ofNat 1)

/-- Gives a finite datum the sign `negative`. -/
def withSign (negative : Bool) : Decimal → Decimal
  | finite _ c e => finite negative c e
  | infinite _ => infinite negative
  | d => d

/-- The power of `c₁ * 10 ^ e₁`, neither zero nor one, to the whole exponent `± c₂ * 10 ^ e₂`, with
the sign `sign`. -/
def powWhole (ctx : Context) (sign : Bool) (c₁ : Nat) (e₁ : Int) (s₂ : Bool) (c₂ : Nat) (e₂ : Int) :
    Except Signal Decimal := do
  let extra := ((digitCount c₂ : Int) + e₂ + 2).toNat + (if s₂ then 1 else 0)
  let work : Context := { ctx with precision := ctx.precision + extra, tie := .even }
  let base ← if s₂ then div work (.ofNat 1) (.finite false c₁ e₁) else pure (.finite false c₁ e₁)
  let r ← powerNat work base (wholeNat c₂ e₂)
  ctx.finishDatum (withSign sign r)

/-- The power of the positive number `c₁ * 10 ^ e₁`, not one, to an exponent that is not whole. What
leads to the result is rounded to its own number of digits, and has no range to leave. -/
def powReal (ctx : Context) (c₁ : Nat) (e₁ : Int) (s₂ : Bool) (c₂ : Nat) (e₂ : Int) :
    Except Signal Decimal :=
  let digits := max (digitCount c₁) ctx.precision + 23
  let ln := lnRounded digits c₁ e₁
  let product := roundSignificant digits (ln.2.1 * c₂) (ln.2.2 + e₂)
  let power := expRounded digits (ln.1 ^^ s₂) product.1 product.2
  if compareMagnitude power.1 power.2 1 0 = .eq then .ok (paddedOne false (ctx.precision - 1))
  else ctx.finish false power.1 power.2

/-- The place of the leading digit of the logarithm to base ten of `c * 10 ^ e`, at least from
below. -/
def logPlace (c : Nat) (e : Int) : Int :=
  let lead := adjusted c e
  if 0 < lead then (digitCount lead.natAbs : Int) - 1
  else if lead < -1 then (digitCount (lead + 1).natAbs : Int) - 1
  else
    let low := min e 0
    let difference := ((c * 10 ^ (e - low).toNat : Nat) : Int) - ((10 ^ (-low).toNat : Nat) : Int)
    adjusted difference.natAbs low - 1

/-- The outcome of a power whose operands alone show that it leaves the exponent range. -/
def outOfRange? (ctx : Context) (sign : Bool) (c₁ : Nat) (e₁ : Int) (s₂ : Bool)
    (c₂ : Nat) (e₂ : Int) :
    Option (Except Signal Decimal) :=
  let place := logPlace c₁ e₁ + adjusted c₂ e₂
  if (adjusted c₁ e₁ < 0) = !s₂ then
    if (digitCount ctx.leastExponent.natAbs : Int) < place then
      some (if ctx.trapsUnderflow then .error .underflow
      else .ok (.finite sign 0 ctx.leastExponent))
    else none
  else if (digitCount maxExponent.natAbs : Int) < place then some (.error .overflow)
  else none

/-- How many zeros the power of a one written with exponent `e₁` keeps: the product of its places
with the exponent, but no more than the context has room for. -/
def onePlaces (ctx : Context) (e₁ : Int) (c₂ : Nat) (e₂ : Int) : Nat :=
  if e₁ = 0 then 0
  else if (digitCount ctx.precision : Int) ≤ adjusted c₂ e₂ then ctx.precision - 1
  else min (wholeNat c₂ e₂ * e₁.natAbs) (ctx.precision - 1)

/-- The power of two finite numbers of which the first is not zero. -/
def powFinite (ctx : Context) (s₁ : Bool) (c₁ : Nat) (e₁ : Int) (s₂ : Bool) (c₂ : Nat) (e₂ : Int) :
    Except Signal Decimal :=
  let whole := isWhole c₂ e₂
  let sign := s₁ && whole && isOddWhole c₂ e₂
  if s₁ && !whole then .error .invalidOperation
  else if c₂ = 0 then .ok (.finite sign 1 0)
  else if compareMagnitude c₁ e₁ 1 0 = .eq then
    if !whole then .ok (paddedOne sign (ctx.precision - 1))
    else if s₂ then .ok (.finite sign 1 0)
    else .ok (paddedOne sign (onePlaces ctx e₁ c₂ e₂))
  else match outOfRange? ctx sign c₁ e₁ s₂ c₂ e₂ with
    | some r => r
    | none => if whole then powWhole ctx sign c₁ e₁ s₂ c₂ e₂ else powReal ctx c₁ e₁ s₂ c₂ e₂

/-- The power of zero with sign `s₁`. -/
def powZero (s₁ : Bool) : Decimal → Except Signal Decimal
  | finite s₂ c₂ e₂ =>
    let sign := s₁ && isWhole c₂ e₂ && isOddWhole c₂ e₂
    if c₂ = 0 then .error .invalidOperation
    else if s₂ then .ok (infinite sign)
    else .ok (finite sign 0 0)
  | b => if b.isNegative then .ok (infinite false) else .ok (finite false 0 0)

/-- The power of a nonzero number to an infinite exponent. -/
def powInfiniteExponent (ctx : Context) (s₁ : Bool) (c₁ : Nat) (e₁ : Int) (s₂ : Bool) :
    Except Signal Decimal :=
  if s₁ then .error .invalidOperation
  else match compareMagnitude c₁ e₁ 1 0 with
    | .eq => .ok (paddedOne false (ctx.precision - 1))
    | .lt => .ok (if s₂ then infinite false else finite false 0 0)
    | .gt => .ok (if s₂ then finite false 0 0 else infinite false)

/-- The power of an infinity. -/
def powInfiniteBase (s₁ : Bool) : Decimal → Except Signal Decimal
  | finite s₂ c₂ e₂ =>
    let whole := isWhole c₂ e₂
    let sign := s₁ && whole && isOddWhole c₂ e₂
    if s₁ && !whole then .error .invalidOperation
    else if c₂ = 0 then .ok (finite sign 1 0)
    else if s₂ then .ok (finite sign 0 0)
    else .ok (infinite sign)
  | b =>
    if s₁ then .error .invalidOperation
    else if b.isNegative then .ok (finite false 0 0)
    else .ok (infinite false)

/-- The first datum raised to the power of the second. -/
def pow (ctx : Context) (a b : Decimal) : Except Signal Decimal :=
  match undefined? a b with
  | some r => r
  | none =>
    match a, b with
    | finite s₁ c₁ e₁, b =>
      if c₁ = 0 then powZero s₁ b
      else match b with
        | finite s₂ c₂ e₂ => powFinite ctx s₁ c₁ e₁ s₂ c₂ e₂
        | _ => powInfiniteExponent ctx s₁ c₁ e₁ b.isNegative
    | a, b => powInfiniteBase a.isNegative b

end Decimal

end UnitConversion
