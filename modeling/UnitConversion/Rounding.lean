/-!
# Rounding a quotient to a whole number

The one rounding step that every inexact operation of the library comes down to: the whole number
nearest to a quotient of natural numbers, with a rule for ties.
-/

namespace UnitConversion

/-- Where a number half way between two neighbours goes. -/
inductive Tie where
  /-- To the neighbour of larger magnitude. -/
  | up
  /-- To the neighbour whose last digit is even. -/
  | even
  deriving DecidableEq

/-- The integer nearest to `n / d`, a tie going as `tie` says. -/
def roundQuotient (tie : Tie) (n d : Nat) : Nat :=
  let q := n / d
  let r := n % d
  if 2 * r < d then q
  else if d < 2 * r then q + 1
  else match tie with
    | .up => q + 1
    | .even => q + q % 2

end UnitConversion
