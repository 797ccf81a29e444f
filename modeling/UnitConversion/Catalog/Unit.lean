import UnitConversion.Formula.Basic

/-!
# Units and categories

A unit belongs to a category, whose units all measure the same thing. Each unit says how a number of
it is turned into a number of the category's base unit and back: by a factor, or by two formulas.
-/

namespace UnitConversion

/-- How numbers of a unit relate to numbers of the base unit. -/
inductive Rule where
  /-- A number of the base unit is a number of the unit times the factor. -/
  | factor (factor : Decimal)
  /-- One formula for each direction. -/
  | formulas (toBase fromBase : Formula)

/-- Why a rule gives no number. -/
inductive Rule.NoValue where
  | signal (signal : Signal)
  | formula (reason : Formula.NoValue)
  deriving DecidableEq

namespace Rule

/-- Whether the rule consists of formulas. -/
def hasFormulas : Rule → Bool
  | factor _ => false
  | formulas .. => true

/-- A number of the base unit for a number of the unit. -/
def toBase (rule : Rule) (x : Decimal) : Except NoValue Decimal :=
  match rule with
  | factor f => (Decimal.mul .conversion x f).mapError .signal
  | formulas f _ => (f.evaluate x).mapError .formula

/-- A number of the unit for a number of the base unit. -/
def fromBase (rule : Rule) (x : Decimal) : Except NoValue Decimal :=
  match rule with
  | factor f => (Decimal.div .conversion x f).mapError .signal
  | formulas _ f => (f.evaluate x).mapError .formula

end Rule

/-- A unit of measurement. Its factor is known for a rule with formulas too, when the formula to the
base unit has a value at one. -/
structure MeasurementUnit where
  key : String
  name : String
  symbol : String
  aliases : List String
  rule : Rule
  factor : Option Decimal
  description : Option String
  precision : Option Nat

/-- Units that measure the same thing, with the key of the unit that all of them are related to. -/
structure Category where
  name : String
  baseUnit : String
  units : List MeasurementUnit
  description : Option String

namespace Category

/-- The unit with the given key. -/
def unit? (category : Category) (key : String) : Option MeasurementUnit :=
  category.units.find? (·.key == key)

end Category

end UnitConversion
