import UnitConversion.Schema

/-!
# Checking whole numbers

Whole numbers may be given as numbers without a fraction, as truth values, and as texts. A text is
read plainly at first, and only if that fails without the things that may be left out: spacing
around it, a plus sign, leading zeros with underscores among them, a point with zeros behind it, and
single underscores between digits. Digits are too many only for the plain reading.
-/

namespace UnitConversion.Schema

-- Powers of natural numbers are those of core, also where other instances are at hand.
attribute [local instance (high)] instPowNat

/-- The most characters of a whole number that is written plainly. -/
def longestInteger : Nat := 4300

/-- Reads a whole number that is written plainly: an optional minus sign, and one zero or digits
that do not start with a zero. It is too long or not, whatever follows it. -/
def plainInteger (cs : List Char) : Except Issue Int :=
  let negative := cs.head? == some '-'
  let body := if negative then cs.drop 1 else cs
  match body with
  | ['0'] => .ok 0
  | '0' :: _ => .error .unreadableInteger
  | body =>
    let digits := Decimal.splitDigits body
    if digits.1.isEmpty then .error .unreadableInteger
    else if longestInteger < cs.length - digits.2.length then .error .longInteger
    else if digits.2.isEmpty then .ok (Decimal.signed negative (Text.digitsValue digits.1))
    else .error .unreadableInteger

/-- What is left behind a leading zero; `before` is the character in front of `cs`, a zero or an
underscore. One such character stays in front of a point and at the end. A minus sign may follow the
zeros. -/
def behindZeros? (before : Char) : List Char → Option (List Char)
  | [] => some [before]
  | c :: cs =>
    if c = '0' ∨ c = '_' then behindZeros? c cs
    else if c = '.' then some (before :: c :: cs)
    else if c = '-' ∨ Decimal.isDigitChar c then some (c :: cs)
    else none

/-- A whole number without its leading zeros; it has to start with a digit. -/
def withoutLeadingZeros? : List Char → Option (List Char)
  | [] => none
  | c :: cs =>
    if c = '0' then behindZeros? c cs
    else if Decimal.isDigitChar c then some (c :: cs)
    else none

/-- The characters in front of a point that only zeros follow, and at least one. -/
def withoutZeroFraction (cs : List Char) : List Char :=
  match cs.dropWhile (· != '.') with
  | '.' :: zero :: zeros => if (zero :: zeros).all (· == '0') then cs.takeWhile (· != '.') else cs
  | _ => cs

/-- Whether two underscores stand next to each other. -/
def hasDoubleUnderscore : List Char → Bool
  | '_' :: '_' :: _ => true
  | _ :: cs => hasDoubleUnderscore cs
  | [] => false

/-- The characters without underscores, if these stand alone and neither first nor last. -/
def withoutUnderscores (cs : List Char) : List Char :=
  if cs.head? = some '_' ∨ cs.getLast? = some '_' ∨ hasDoubleUnderscore cs then cs
  else cs.filter (· != '_')

/-- A whole number without what may be left out behind its sign. -/
def tidyBody? (cs : List Char) : Option (List Char) :=
  (withoutLeadingZeros? cs).map fun body => withoutUnderscores (withoutZeroFraction body)

/-- A whole number without what may be left out. -/
def tidy? (cs : List Char) : Option (List Char) :=
  match Text.trimSpacing cs with
  | '+' :: body => tidyBody? body
  | '-' :: body => (tidyBody? body).map ('-' :: ·)
  | body => tidyBody? body

/-- Reads a whole number. -/
def integerOfChars (cs : List Char) : Checked Int :=
  match plainInteger cs with
  | .ok i => .ok i
  | .error .longInteger => .fail .longInteger
  | .error _ =>
    match (tidy? cs).map plainInteger with
    | some (.ok i) => .ok i
    | _ => .fail .unreadableInteger

/-- The whole number that a finite decimal number is. -/
def integerOfDecimal (negative : Bool) (c : Nat) (e : Int) : Checked Int :=
  if 0 ≤ e then .ok (Decimal.signed negative (c * 10 ^ e.toNat))
  else if endsInZeros c (-e).toNat then .ok (Decimal.signed negative (c / 10 ^ (-e).toNat))
  else .fail .fractionalInteger

/-- A whole number. -/
def integer : Json → Checked Int
  | .integer i => .ok i
  | .bool b => .ok b.toNat
  | .decimal (.finite s c e) => integerOfDecimal s c e
  | .decimal _ => .fail .notFinite
  | .real r =>
    match r.toDecimal with
    | .finite s c e => integerOfDecimal s c e
    | _ => .fail .notFinite
  | .text s => if Text.hasSurrogate s.toList then .fail .brokenText else integerOfChars s.toList
  | _ => .fail .notInteger

/-- A whole number that is not negative. -/
def natural (value : Json) : Checked Nat :=
  match integer value with
  | .ok i => if i < 0 then .fail .negative else .ok i.toNat
  | .error findings => .error findings

end UnitConversion.Schema
