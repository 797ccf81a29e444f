import UnitConversion.Binary64.Shortest
import UnitConversion.Decimal.Text

/-!
# Doubles as text

* `Binary64.toText` writes the fewest digits that read back. Numbers from `0.0001` up to `10 ^ 16`
  stand in plain notation, always with a point; others have one digit before the point and an
  exponent of at least two digits.
* `Binary64.ofText?` reads digits with an optional point and exponent, or the name of an infinity or
  of an undefined result. Spacing around the number is cut off, digits of any script count, and an
  underscore may stand between two digits.
-/

namespace UnitConversion

-- Powers of natural numbers are those of core, also where other instances are at hand.
attribute [local instance (high)] instPowNat

namespace Binary64

/-- The exponent of the leading digit from which on a number is written with an exponent. -/
def positionalEnd : Int := 16

/-- The least exponent of a leading digit in plain notation. -/
def positionalStart : Int := -4

/-- An exponent with its sign and at least two digits. -/
def exponentChars (e : Int) : List Char :=
  let ds := Decimal.digitsOf e.natAbs
  (if e < 0 then '-' else '+') :: (if ds.length < 2 then '0' :: ds else ds)

/-- Whether a number whose leading digit stands at `lead` is written in plain notation. -/
def isPositional (lead : Int) : Bool :=
  positionalStart ≤ lead && lead < positionalEnd

/-- The digits `ds` times `10 ^ e` in plain notation, with at least one digit on either side of the
point. -/
def positional (ds : List Char) (e : Int) : List Char :=
  if 0 ≤ e then ds ++ List.replicate e.toNat '0' ++ ['.', '0']
  else Decimal.withPoint ds (-e).toNat

/-- The text of a datum, as a list of characters. -/
def toChars : Binary64 → List Char
  | finite s m e =>
    if m = 0 then Decimal.signText s ++ ['0', '.', '0']
    else
      let r := shortest m e
      let ds := Decimal.digitsOf r.1
      let lead := Decimal.adjusted r.1 r.2
      Decimal.signText s ++
        if isPositional lead then positional ds r.2
        else Decimal.withLeadingPoint ds ++ 'e' :: exponentChars lead
  | infinite s => Decimal.signText s ++ ['i', 'n', 'f']
  | nan => ['n', 'a', 'n']

/-- The text of a datum. -/
def toText (d : Binary64) : String :=
  String.ofList d.toChars

/-- The decimal number that the text of the datum denotes, digit for digit. -/
def toDecimal : Binary64 → Decimal
  | finite s m e =>
    if m = 0 then .finite s 0 (-1)
    else
      let r := shortest m e
      if isPositional (Decimal.adjusted r.1 r.2) && 0 ≤ r.2 then
        .finite s (r.1 * 10 ^ (r.2 + 1).toNat) (-1)
      else .finite s r.1 r.2
  | infinite s => .infinite s
  | nan => .nan false false 0

/-- Drops the underscores that stand between two digits; any other underscore makes the text
unreadable. `before` says that the last character was a digit. -/
def dropSeparators? (before : Bool) : List Char → Option (List Char)
  | [] => some []
  | c :: cs =>
    if c = '_' then
      match cs with
      | d :: _ => if before && Decimal.isDigitChar d then dropSeparators? false cs else none
      | [] => none
    else (dropSeparators? (Decimal.isDigitChar c) cs).map (c :: ·)

/-- Reads the name of an infinity or of an undefined result, given in lower case. -/
def specialOf? (negative : Bool) (cs : List Char) : Option Binary64 :=
  if cs = ['i', 'n', 'f'] ∨ cs = ['i', 'n', 'f', 'i', 'n', 'i', 't', 'y'] then
    some (.infinite negative)
  else if cs = ['n', 'a', 'n'] then some .nan
  else none

/-- Reads an unsigned number: digits with an optional point, and an optional exponent. -/
def numberOf? (negative : Bool) (cs : List Char) : Option Binary64 :=
  let whole := Decimal.splitDigits cs
  let fraction := match whole.2 with
    | '.' :: rest => Decimal.splitDigits rest
    | rest => ([], rest)
  if whole.1.isEmpty && fraction.1.isEmpty then none
  else (Decimal.exponentOf? fraction.2).map fun e =>
    ofScaled negative (Text.digitsValue (whole.1 ++ fraction.1)) (e - fraction.1.length)

/-- Reads a double. -/
def ofChars? (cs : List Char) : Option Binary64 := do
  let ascii ← (Text.trimSpacing cs).mapM Decimal.toAsciiDigit?
  let plain ← dropSeparators? false ascii
  let sign := Decimal.splitSign plain
  match specialOf? sign.1 (sign.2.map Char.toLower) with
  | some d => some d
  | none => numberOf? sign.1 sign.2

/-- Reads a double. -/
def ofText? (s : String) : Option Binary64 :=
  ofChars? s.toList

end Binary64

end UnitConversion
