import UnitConversion.Decimal.Context
import UnitConversion.Text.Trim

/-!
# Decimal numbers as text

Writing a decimal number so that every digit and the exponent can be read off, and reading one.

* `Decimal.toText`: plain notation when the exponent is at most zero and the leading digit stands no
  more than six places behind the point, otherwise one digit before the point and an exponent.
* `Decimal.ofText?`: blanks around the number are cut off, underscores are dropped wherever they
  stand, digits of any script count, and the names of the infinities and of undefined results are
  known in any case. A number whose exponents leave the range of `largestExponent` is refused;
  nothing is rounded.
-/

namespace UnitConversion

namespace Decimal

/-- The largest exponent of a leading digit that can be written down at all. -/
def largestExponent : Int := 999999999999999999

/-- The least exponent that can be written down at all. -/
def smallestExponent : Int := -1999999999999999997

/-- The digits of `c`. -/
def digitsOf (c : Nat) : List Char :=
  Nat.toDigits 10 c

/-- The digits `ds` with a point in front of the last `places` of them, zeros being added where
digits are missing. -/
def withPoint (ds : List Char) (places : Nat) : List Char :=
  if places = 0 then ds
  else
    let padded := List.replicate (places + 1 - ds.length) '0' ++ ds
    padded.take (padded.length - places) ++ '.' :: padded.drop (padded.length - places)

/-- The digits `ds` with a point behind the first of them, if there is more than one. -/
def withLeadingPoint : List Char → List Char
  | [] => []
  | [d] => [d]
  | d :: ds => d :: '.' :: ds

/-- A minus sign for negative data. -/
def signText (negative : Bool) : List Char :=
  if negative then ['-'] else []

/-- An integer with its sign always written. -/
def signedExponent (e : Int) : List Char :=
  (if e < 0 then '-' else '+') :: digitsOf e.natAbs

/-- The text of a datum, as a list of characters. -/
def toChars : Decimal → List Char
  | finite s c e =>
    let ds := digitsOf c
    if e ≤ 0 ∧ -6 ≤ adjusted c e then signText s ++ withPoint ds e.natAbs
    else signText s ++ withLeadingPoint ds ++ 'E' :: signedExponent (adjusted c e)
  | infinite s => signText s ++ "Infinity".toList
  | nan s signaling payload =>
    signText s ++ (if signaling then "sNaN" else "NaN").toList
      ++ (if payload = 0 then [] else digitsOf payload)

/-- The text of a datum. -/
def toText (d : Decimal) : String :=
  String.ofList d.toChars

/-- Whether `c` is an ASCII digit. -/
def isDigitChar (c : Char) : Bool :=
  '0' ≤ c && c ≤ '9'

/-- The character with a digit of any script brought to ASCII; other characters beyond ASCII are not
part of a number. -/
def toAsciiDigit? (c : Char) : Option Char :=
  if c.toNat < 128 then some c
  else (Text.decimalDigit? c).map fun d => Char.ofNat (48 + d)

/-- Splits off a sign: whether it is a minus, and the rest. -/
def splitSign : List Char → Bool × List Char
  | '-' :: cs => (true, cs)
  | '+' :: cs => (false, cs)
  | cs => (false, cs)

/-- Splits off the leading ASCII digits. -/
def splitDigits (cs : List Char) : List Char × List Char :=
  (cs.takeWhile isDigitChar, cs.dropWhile isDigitChar)

/-- Reads what may follow the digits of a number: nothing, or an exponent. -/
def exponentOf? : List Char → Option Int
  | [] => some 0
  | c :: cs =>
    if c = 'e' ∨ c = 'E' then
      let sign := splitSign cs
      let digits := splitDigits sign.2
      if digits.1.isEmpty || !digits.2.isEmpty then none
      else some (signed sign.1 (Text.digitsValue digits.1))
    else none

/-- The finite number `± c * 10 ^ e`, unless its exponents cannot be written down. -/
def ofParts? (negative : Bool) (c : Nat) (e : Int) : Option Decimal :=
  if smallestExponent ≤ e ∧ adjusted c e ≤ largestExponent then
    some (.finite negative c e) else none

/-- Reads an unsigned number: digits with an optional point, and an optional exponent. -/
def numberOf? (negative : Bool) (cs : List Char) : Option Decimal :=
  let whole := splitDigits cs
  let fraction := match whole.2 with
    | '.' :: rest => splitDigits rest
    | rest => ([], rest)
  if whole.1.isEmpty && fraction.1.isEmpty then none
  else do
    let e ← exponentOf? fraction.2
    ofParts? negative (Text.digitsValue (whole.1 ++ fraction.1)) (e - fraction.1.length)

/-- Reads the name of an infinity or of an undefined result, given in lower case. -/
def specialOf? (negative : Bool) (cs : List Char) : Option Decimal :=
  if cs = "inf".toList ∨ cs = "infinity".toList then some (.infinite negative)
  else
    let named : Option (Bool × List Char) := match cs with
      | 'n' :: 'a' :: 'n' :: rest => some (false, rest)
      | 's' :: 'n' :: 'a' :: 'n' :: rest => some (true, rest)
      | _ => none
    match named with
    | some (signaling, payload) =>
      if payload.all isDigitChar then
        some (.nan negative signaling (Text.digitsValue payload)) else none
    | none => none

/-- Reads a number in ASCII, without blanks and underscores. -/
def ofAscii? (cs : List Char) : Option Decimal :=
  let sign := splitSign cs
  match specialOf? sign.1 (sign.2.map Char.toLower) with
  | some d => some d
  | none => numberOf? sign.1 sign.2

/-- Reads a decimal number. -/
def ofChars? (cs : List Char) : Option Decimal :=
  (((Text.trimChars cs).filter (· != '_')).mapM toAsciiDigit?).bind ofAscii?

/-- Reads a decimal number. -/
def ofText? (s : String) : Option Decimal :=
  ofChars? s.toList

end Decimal

end UnitConversion
