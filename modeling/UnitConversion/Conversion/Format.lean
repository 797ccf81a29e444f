import UnitConversion.Decimal.Arithmetic
import UnitConversion.Decimal.Layout
import UnitConversion.Settings

/-!
# Results as text

Large and small results are written with seven significant digits and an exponent, others with the
fewer places behind the point the larger they are; zeros at the end are cut off. Which way a result
is written depends on its magnitude alone.
-/

namespace UnitConversion.Conversion

/-- How many places a result of each magnitude has: the first entry whose magnitude it reaches
counts. -/
def bands : List (Decimal × Nat) :=
  [(.finite false 1000 0, 2), (.finite false 1 0, 4), (.finite false 1 (-3), 6)]

/-- The places of results below all bands. -/
def smallPlaces : Nat := 8

/-- The places of a result of the given magnitude. -/
def placesFor (magnitude : Decimal) : Nat :=
  match bands.find? fun band => Decimal.atLeast magnitude band.1 with
  | some band => band.2
  | none => smallPlaces

/-- A datum that is no number in exponential notation, which for it consists of its name. -/
def exponentialName (d : Decimal) : List Char :=
  d.toChars ++ ['e']

/-- A nonzero datum in exponential notation. -/
def exponential : Decimal → List Char
  | .finite s c e => Decimal.exponentialText s c e
  | d => exponentialName d

/-- A finite number with a fixed count of places, without zeros at its end. -/
def positional (places : Nat) : Decimal → Except Signal (List Char)
  | .finite s c e => do
    match ← Decimal.toPlaces .conversion places s c e with
    | .finite s c _ =>
      let text := Decimal.stripTrailingZeros (Decimal.fixedText s c places)
      return if text = ['-', '0'] then ['0'] else text
    | d => return d.toChars
  | _ => .error .invalidOperation

/-- Whether `a` is at least `b`; nothing undefined can be asked. -/
def reaches (a b : Decimal) : Except Signal Bool :=
  match Decimal.compare? a b with
  | none => .error .invalidOperation
  | some o => .ok (o != .lt)

/-- Whether a result of the given magnitude has an exponent. -/
def hasExponent (settings : Settings) (magnitude : Decimal) : Except Signal Bool := do
  if ← reaches magnitude settings.exponentialUpper then return true
  let plain ← reaches magnitude settings.exponentialLower
  return !plain

/-- A result as text, in characters. -/
def formatChars (settings : Settings) (value : Decimal) : Except Signal (List Char) := do
  if value.isZero then return ['0']
  let magnitude ← Decimal.abs .ambient value
  if ← hasExponent settings magnitude then return exponential value
  positional (placesFor magnitude) value

/-- A result as text. -/
def format (settings : Settings) (value : Decimal) : Except Signal String :=
  (formatChars settings value).map String.ofList

end UnitConversion.Conversion
