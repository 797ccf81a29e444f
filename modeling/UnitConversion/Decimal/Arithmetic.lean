import UnitConversion.Decimal.Context

/-!
# Addition, multiplication, division and remainder

Each operation computes the exact result, or a stand-in that rounds to the same number, and brings
it into the context. Undefined operands come first: a signaling one stops the computation, a quiet
one is the result.

* `Decimal.add`, `Decimal.sub`: an operand far below the last digit that matters is replaced by a
  single unit just below it, so exponents of any size cost nothing.
* `Decimal.div`: the quotient to one digit more than the context keeps, its last digit made to show
  whether anything was cut off.
* `Decimal.rem`: the remainder of the integer quotient, with the sign of the dividend.
* `Decimal.least`, `Decimal.greatest`: the first of the extreme operands, not rounded.
-/

namespace UnitConversion

-- Powers of natural numbers are those of core, also where other instances are at hand.
attribute [local instance (high)] instPowNat

namespace Decimal

/-- The result that undefined operands force, if there is one. -/
def undefined? : Decimal → Decimal → Option (Except Signal Decimal)
  | nan _ true _, _ => some (.error .invalidOperation)
  | _, nan _ true _ => some (.error .invalidOperation)
  | nan s false p, _ => some (.ok (nan s false p))
  | _, nan s false p => some (.ok (nan s false p))
  | _, _ => none

/-- The number `c * 10 ^ e` as seen by an addition to `high * 10 ^ highExponent`, whose exponent is
the larger one: itself, or one unit below every digit that can matter. -/
def visible (precision high : Nat) (highExponent : Int) (c : Nat) (e : Int) : Nat × Int :=
  let excess : Int :=
    if precision < digitCount high then 0 else (digitCount high : Int) - precision - 1
  let floor := highExponent - 1 + excess
  if high ≠ 0 ∧ adjusted c e < floor then (if c = 0 then 0 else 1, floor) else (c, e)

/-- Adds signed numbers of which the first has the larger exponent. A zero sum of unlike signs is
positive. -/
def addAligned (ctx : Context) (s₁ : Bool) (c₁ : Nat) (e₁ : Int) (s₂ : Bool) (c₂ : Nat) (e₂ : Int) :
    Except Signal Decimal :=
  let low := visible ctx.precision c₁ e₁ c₂ e₂
  let high := if c₁ = 0 then 0 else c₁ * 10 ^ (e₁ - low.2).toNat
  let sum := signed s₁ high + signed s₂ low.1
  let negative := if sum = 0 then s₁ && s₂ else sum < 0
  ctx.finish negative sum.natAbs low.2

/-- The sum of two data. -/
def add (ctx : Context) (a b : Decimal) : Except Signal Decimal :=
  match undefined? a b with
  | some r => r
  | none =>
    match a, b with
    | finite s₁ c₁ e₁, finite s₂ c₂ e₂ =>
      if e₁ < e₂ then addAligned ctx s₂ c₂ e₂ s₁ c₁ e₁ else addAligned ctx s₁ c₁ e₁ s₂ c₂ e₂
    | infinite s₁, infinite s₂ => if s₁ = s₂ then .ok a else .error .invalidOperation
    | infinite _, _ => .ok a
    | _, _ => .ok b

/-- The datum with the other sign, not rounded. -/
def flip : Decimal → Decimal
  | finite s c e => finite (!s) c e
  | infinite s => infinite (!s)
  | nan s q p => nan s q p

/-- The difference of two data. -/
def sub (ctx : Context) (a b : Decimal) : Except Signal Decimal :=
  add ctx a (flip b)

/-- The datum rounded to the context; a negative zero loses its sign. -/
def plus (ctx : Context) : Decimal → Except Signal Decimal
  | finite s c e => ctx.finish (if c = 0 then false else s) c e
  | d => ctx.finishDatum d

/-- The negated datum, rounded to the context; a zero comes out positive. -/
def neg (ctx : Context) : Decimal → Except Signal Decimal
  | finite s c e => ctx.finish (if c = 0 then false else !s) c e
  | infinite s => .ok (infinite (!s))
  | d => ctx.finishDatum d

/-- The magnitude of the datum, rounded to the context. -/
def abs (ctx : Context) : Decimal → Except Signal Decimal
  | finite _ c e => ctx.finish false c e
  | infinite _ => .ok (infinite false)
  | d => ctx.finishDatum d

/-- The product of two data. -/
def mul (ctx : Context) (a b : Decimal) : Except Signal Decimal :=
  match undefined? a b with
  | some r => r
  | none =>
    match a, b with
    | finite s₁ c₁ e₁, finite s₂ c₂ e₂ => ctx.finish (s₁ ^^ s₂) (c₁ * c₂) (e₁ + e₂)
    | infinite s₁, b =>
      if b.isZero then .error .invalidOperation else .ok (infinite (s₁ ^^ b.isNegative))
    | a, infinite s₂ =>
      if a.isZero then .error .invalidOperation else .ok (infinite (a.isNegative ^^ s₂))
    | a, _ => .ok a

/-- Strips trailing zeros off `c`, at most `fuel` of them, raising the exponent up to `ideal`. -/
def stripZeros : Nat → Nat → Int → Int → Nat × Int
  | 0, c, e, _ => (c, e)
  | fuel + 1, c, e, ideal =>
    if e < ideal ∧ c % 10 = 0 then stripZeros fuel (c / 10) (e + 1) ideal else (c, e)

/-- A quotient whose last digit shows that something was cut off: a last digit that could be
mistaken for an exact end or a tie is raised by one. -/
def sticky (quotient remainder : Nat) : Nat :=
  if remainder ≠ 0 ∧ quotient % 5 = 0 then quotient + 1 else quotient

/-- The quotient of two nonzero coefficients to one digit more than `precision`, and its exponent.
An exact quotient is shortened towards the exponent `ideal`. -/
def quotient (precision c₁ c₂ : Nat) (ideal : Int) : Nat × Int :=
  let shift : Int := (digitCount c₂ : Int) - digitCount c₁ + precision + 1
  let n := if 0 < shift then c₁ * 10 ^ shift.toNat else c₁
  let d := if shift < 0 then c₂ * 10 ^ (-shift).toNat else c₂
  let q := n / d
  let e := ideal - shift
  if n % d = 0 then stripZeros (digitCount q) q e ideal else (sticky q (n % d), e)

/-- The quotient of two data. -/
def div (ctx : Context) (a b : Decimal) : Except Signal Decimal :=
  match undefined? a b with
  | some r => r
  | none =>
    match a, b with
    | finite s₁ c₁ e₁, finite s₂ c₂ e₂ =>
      if c₂ = 0 then .error (if c₁ = 0 then .invalidOperation else .divisionByZero)
      else if c₁ = 0 then ctx.finish (s₁ ^^ s₂) 0 (e₁ - e₂)
      else
        let q := quotient ctx.precision c₁ c₂ (e₁ - e₂)
        ctx.finish (s₁ ^^ s₂) q.1 q.2
    | infinite _, infinite _ => .error .invalidOperation
    | infinite s₁, b => .ok (infinite (s₁ ^^ b.isNegative))
    | a, _ => .ok (finite (a.isNegative ^^ b.isNegative) 0 ctx.leastExponent)

/-- The remainder of two finite numbers of which the second is not zero. -/
def remFinite (ctx : Context) (s : Bool) (c₁ : Nat) (e₁ : Int) (c₂ : Nat) (e₂ : Int) :
    Except Signal Decimal :=
  let e := min e₁ e₂
  if c₁ = 0 then ctx.finish s 0 e
  else
    let lead := adjusted c₁ e₁ - adjusted c₂ e₂
    if lead < 0 then ctx.finish s (c₁ * 10 ^ (e₁ - e).toNat) e
    else if (ctx.precision : Int) < lead then .error .invalidOperation
    else
      let n := c₁ * 10 ^ (e₁ - e).toNat
      let d := c₂ * 10 ^ (e₂ - e).toNat
      if ctx.precision < digitCount (n / d) then .error .invalidOperation
      else ctx.finish s (n % d) e

/-- The remainder of the integer quotient of two data, with the sign of the first. -/
def rem (ctx : Context) (a b : Decimal) : Except Signal Decimal :=
  match undefined? a b with
  | some r => r
  | none =>
    match a, b with
    | finite s₁ c₁ e₁, finite _ c₂ e₂ =>
      if c₂ = 0 then .error .invalidOperation else remFinite ctx s₁ c₁ e₁ c₂ e₂
    | finite .., _ => ctx.finishDatum a
    | _, _ => .error .invalidOperation

/-- Replaces `best` by `d` when `d` stands to it in the order `wanted`. -/
def better (wanted : Ordering) (best d : Decimal) : Except Signal Decimal :=
  match compare? d best with
  | none => .error .invalidOperation
  | some o => .ok (if o = wanted then d else best)

/-- The first of the least data of a list that starts with `d`. -/
def least (d : Decimal) (ds : List Decimal) : Except Signal Decimal :=
  ds.foldlM (better .lt) d

/-- The first of the greatest data of a list that starts with `d`. -/
def greatest (d : Decimal) (ds : List Decimal) : Except Signal Decimal :=
  ds.foldlM (better .gt) d

end Decimal

end UnitConversion
