import UnitConversion.Decimal.Text

/-!
# Numbers with a fixed number of digits

Two ways to write a decimal number for reading, both with ties rounded away from zero.

* `Decimal.toPlaces`: the number rounded to a given count of digits behind the point, refused when
  the rounded number has more digits than a context keeps.
* `Decimal.exponentialText`: seven significant digits and an exponent.
* `stripTrailingZeros`: what is left of a text with a point when its last zeros are cut off.
-/

namespace UnitConversion

-- Powers of natural numbers are those of core, also where other instances are at hand.
attribute [local instance (high)] instPowNat

namespace Decimal

/-- The number `± c * 10 ^ e` rounded to `places` digits behind the point. -/
def toPlaces (ctx : Context) (places : Nat) (negative : Bool) (c : Nat) (e : Int) :
    Except Signal Decimal :=
  let shift := e + places
  if c = 0 then .ok (.finite negative 0 (-(places : Int)))
  else if (ctx.precision : Int) < digitCount c + shift then .error .invalidOperation
  else
    let n := if 0 ≤ shift then c * 10 ^ shift.toNat else dropDigits .up c (-shift).toNat
    if ctx.precision < digitCount n then .error .invalidOperation
    else .ok (.finite negative n (-(places : Int)))

/-- The text without its last zeros, and without a point that would then stand at its end. A text
without a point stays as it is. -/
def stripTrailingZeros (cs : List Char) : List Char :=
  if cs.contains '.' then Text.dropWhileEnd (· == '.') (Text.dropWhileEnd (· == '0') cs) else cs

/-- Plain notation of `± c * 10 ^ -places`. -/
def fixedText (negative : Bool) (c places : Nat) : List Char :=
  signText negative ++ withPoint (digitsOf c) places

/-- How many digits the exponential notation shows. -/
def exponentialDigits : Nat := 7

/-- The coefficient with exactly `exponentialDigits` digits and the exponent of its leading digit,
for the nonzero number `c * 10 ^ e`. -/
def exponentialParts (c : Nat) (e : Int) : Nat × Int :=
  if digitCount c ≤ exponentialDigits then
    (c * 10 ^ (exponentialDigits - digitCount c), adjusted c e)
  else
    let r := roundToDigits .up exponentialDigits c
    (r.1, adjusted r.1 (e + r.2))

/-- Exponential notation of the nonzero number `± c * 10 ^ e`, the zeros at the end of its digits
cut off. -/
def exponentialText (negative : Bool) (c : Nat) (e : Int) : List Char :=
  let parts := exponentialParts c e
  stripTrailingZeros (signText negative ++ withLeadingPoint (digitsOf parts.1))
    ++ 'e' :: signedExponent parts.2

end Decimal

end UnitConversion
