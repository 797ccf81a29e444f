import UnitConversion.Decimal.Arithmetic
import UnitConversion.Decimal.Text

/-!
# Numerals

The numbers that a request can start with: decimals, with or without an exponent; fractions of two
whole numbers; and mixed numbers, a whole number and a fraction with blanks between them. Decimals
are read exactly; a fraction is one division, and a mixed number a sum after it, in the context of
conversions.
-/

namespace UnitConversion

/-- A numeral, by its digits. -/
inductive Numeral where
  /-- A decimal as it is written. -/
  | decimal (text : List Char)
  | fraction (numerator denominator : Nat)
  | mixed (whole numerator denominator : Nat)
  deriving DecidableEq

namespace Numeral

/-- Whether characters are digits, at least one. -/
def isWhole (cs : List Char) : Bool :=
  !cs.isEmpty && cs.all Decimal.isDigitChar

/-- Whether characters are an exponent: its letter, perhaps a sign, and digits. -/
def isExponent (cs : List Char) : Bool :=
  match cs with
  | [] => false
  | c :: cs => (c == 'e' || c == 'E') && isWhole (Decimal.splitSign cs).2

/-- Whether characters are a decimal: perhaps a sign, digits, perhaps a point and digits, and
perhaps an exponent. -/
def isDecimal (cs : List Char) : Bool :=
  let whole := Decimal.splitDigits (Decimal.splitSign cs).2
  let rest := match whole.2 with
    | '.' :: cs =>
      let fraction := Decimal.splitDigits cs
      if fraction.1.isEmpty then '.' :: cs else fraction.2
    | cs => cs
  !whole.1.isEmpty && (rest.isEmpty || isExponent rest)

/-- The two whole numbers of a fraction. -/
def fraction? (cs : List Char) : Option (Nat × Nat) :=
  let numerator := cs.takeWhile (· != '/')
  match cs.dropWhile (· != '/') with
  | '/' :: denominator =>
    if isWhole numerator && isWhole denominator then
      some (Text.digitsValue numerator, Text.digitsValue denominator)
    else none
  | _ => none

/-- The parts of a mixed number. -/
def mixed? (cs : List Char) : Option Numeral :=
  let whole := Decimal.splitDigits cs
  match whole.2 with
  | c :: _ =>
    if Text.isBlank c && !whole.1.isEmpty then
      (fraction? (whole.2.dropWhile Text.isBlank)).map fun f =>
        .mixed (Text.digitsValue whole.1) f.1 f.2
    else none
  | [] => none

/-- The numeral that characters without blanks around them are. -/
def ofChars? (cs : List Char) : Option Numeral :=
  if isDecimal cs then some (.decimal cs)
  else match fraction? cs with
    | some f => some (.fraction f.1 f.2)
    | none => mixed? cs

/-- A fraction as a decimal number, unless it divides by zero or leaves the range of numbers. -/
def quotient? (numerator denominator : Nat) : Option Decimal :=
  if denominator = 0 then none
  else (Decimal.div .conversion (.ofNat numerator) (.ofNat denominator)).toOption

/-- The number that a numeral denotes, if it is in the range of numbers. -/
def value? : Numeral → Option Decimal
  | decimal text => Decimal.ofChars? text
  | fraction n d => quotient? n d
  | mixed w n d => (quotient? n d).bind fun q => (Decimal.add .conversion (.ofNat w) q).toOption

end Numeral

/-- The number that a text denotes, blanks around it not counting. -/
def numericValue? (cs : List Char) : Option Decimal :=
  (Numeral.ofChars? (Text.trimChars cs)).bind Numeral.value?

end UnitConversion
