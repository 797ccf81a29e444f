import UnitConversion.Formula.Basic
import UnitConversion.Json.Basic

/-!
# Formulas and arguments given as values

A formula and its argument may come as document values. The argument is the decimal number that the
value is, or that its text denotes.
-/

namespace UnitConversion

namespace Formula

/-- Why a formula given as a value has no value at an argument given as one. -/
inductive Failure where
  /-- The text is no formula. -/
  | fault (fault : Fault)
  /-- The formula has no value at the argument. -/
  | noValue (reason : NoValue)
  /-- The argument is no decimal number. -/
  | argument
  /-- A list or an object cannot be looked up as a formula. -/
  | wrongKind
  deriving DecidableEq

/-- Reads a formula from a value. -/
def ofJson : Json → Except Failure Formula
  | .text s => (ofText s).mapError .fault
  | .list _ => .error .wrongKind
  | .object _ => .error .wrongKind
  | _ => .error (.fault .empty)

/-- The decimal number that an argument is. -/
def argument? : Json → Option Decimal
  | .decimal d => some d
  | value => Decimal.ofText? value.inline

/-- The value of a formula at an argument. -/
def applyTo (f : Formula) (x : Json) : Except Failure Decimal :=
  match argument? x with
  | none => .error .argument
  | some x => (f.evaluate x).mapError .noValue

/-- The value of a formula given as a value, at an argument. -/
def evaluateJson (formula x : Json) : Except Failure Decimal := do
  let f ← ofJson formula
  f.applyTo x

/-- The value of a formula as a finite double, if there is one. That the argument is no number is a
failure all the same. -/
def toDouble (formula x : Json) : Except Failure (Option Binary64) :=
  match evaluateJson formula x with
  | .ok d =>
    let r := Binary64.ofDecimal d
    .ok (if r.isFinite then some r else none)
  | .error .argument => .error .argument
  | .error _ => .ok none

end Formula

end UnitConversion
