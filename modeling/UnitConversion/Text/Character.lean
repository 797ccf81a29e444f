import UnitConversion.Text.WordTable
import UnitConversion.Text.InvisibleTable

/-!
# Classes of characters

Which characters are blank, belong to a word, are digits, or have no visible form. Each class is a
membership test in a table of closed intervals of code points, so it can be decided for any
character.

* `isBlank`: the characters that separate words and are cut off at both ends of a text.
* `isWord`: letters, numbers and the underscore.
* `decimalDigit?`: the value of a digit of any script that writes numbers in base ten.
* `isDigit`: the decimal digits together with raised, lowered and enclosed ones.
-/

namespace UnitConversion.Text

-- Powers of natural numbers are those of core, also where other instances are at hand.
attribute [local instance (high)] instPowNat

/-- Whether `n` lies in one of the closed intervals. -/
def memIntervals (intervals : List (Nat × Nat)) (n : Nat) : Bool :=
  intervals.any fun i => i.1 ≤ n && n ≤ i.2

/-- The intervals of blank code points. -/
def blankIntervals : List (Nat × Nat) :=
  [(9, 13), (28, 32), (133, 133), (160, 160), (5760, 5760), (8192, 8202),
    (8232, 8233), (8239, 8239), (8287, 8287), (12288, 12288)]

/-- Blank characters: spaces, line breaks, tabs and the four information separators. -/
def isBlank (c : Char) : Bool :=
  memIntervals blankIntervals c.toNat

/-- Characters of a word: letters and numbers of any script, and the underscore. -/
def isWord (c : Char) : Bool :=
  if c.toNat < 128 then c.isAlphanum || c == '_' else memIntervals wordIntervals c.toNat

/-- The zeros of the scripts with decimal digits; each is followed by its nine other digits. -/
def digitZeros : List Nat :=
  [48, 1632, 1776, 1984, 2406, 2534, 2662, 2790, 2918, 3046, 3174, 3302, 3430, 3558,
    3664, 3792, 3872, 4160, 4240, 6112, 6160, 6470, 6608, 6784, 6800, 6992, 7088, 7232, 7248, 42528,
    43216, 43264, 43472,
   43504, 43600, 44016, 65296, 66720, 68912, 69734, 69872, 69942, 70096, 70384, 70736, 70864, 71248,
   71360, 71472, 71904, 72016, 72784, 73040, 73120, 92768, 92864, 93008, 120782, 120792,
   120802, 120812, 120822, 123200, 123632, 125264, 130032]

/-- The value of a decimal digit, in any script. -/
def decimalDigit? (c : Char) : Option Nat :=
  (digitZeros.find? fun z => z ≤ c.toNat && c.toNat < z + 10).map fun z => c.toNat - z

/-- The intervals of digits that are written raised, lowered or enclosed. -/
def ornamentedDigitIntervals : List (Nat × Nat) :=
  [(178, 179), (185, 185), (4969, 4977), (6618, 6618), (8304, 8304), (8308, 8313), (8320, 8329),
   (9312, 9320), (9332, 9340), (9352, 9360), (9450, 9450), (9461, 9469), (9471, 9471),
   (10102, 10110),
   (10112, 10120), (10122, 10130), (68160, 68163), (69216, 69224), (69714, 69722), (127232, 127242)]

/-- Digits in the wide sense, raised and enclosed ones included. -/
def isDigit (c : Char) : Bool :=
  (decimalDigit? c).isSome || memIntervals ornamentedDigitIntervals c.toNat

/-- Characters that a quoted text has to write as an escape. -/
def isInvisible (c : Char) : Bool :=
  memIntervals invisibleIntervals c.toNat

/-- The value of an ASCII digit. -/
def asciiDigitValue (c : Char) : Nat :=
  c.toNat - 48

/-- The number that a run of ASCII digits denotes, the run being halved `halvings` times before its
digits are read one by one. -/
def digitsValueBy : Nat → List Char → Nat
  | 0, digits => digits.foldl (fun n c => 10 * n + asciiDigitValue c) 0
  | halvings + 1, digits =>
    let low := digits.length / 2
    let high := digits.length - low
    digitsValueBy halvings (digits.take high) * 10 ^ low + digitsValueBy halvings (digits.drop high)

/-- The number that a run of ASCII digits denotes, the first digit being the most significant. Only
long runs are halved. -/
def digitsValue (digits : List Char) : Nat :=
  digitsValueBy (digits.length.log2 - 6) digits

/-- The value of a hexadecimal digit. -/
def hexValue? (c : Char) : Option Nat :=
  if '0' ≤ c && c ≤ '9' then some (c.toNat - 48)
  else if 'a' ≤ c && c ≤ 'f' then some (c.toNat - 87)
  else if 'A' ≤ c && c ≤ 'F' then some (c.toNat - 55)
  else none

end UnitConversion.Text
