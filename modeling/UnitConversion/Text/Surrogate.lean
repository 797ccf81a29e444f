import UnitConversion.Text.Character

/-!
# Lone surrogates

UTF-16 writes the characters beyond the first 65536 as pairs of surrogates. A text from outside can
hold a surrogate that belongs to no pair: escapes in JSON texts may denote one, and so may file
names. It is no character, but it is echoed like one, so a text holds a character in its place: the
one 720896 places after its code. These characters, U+BD800 to U+BDFFF, are assigned to nothing, and
a text is never taken to mean them. So wherever a definition or a theorem speaks of every text, a
text with one of them is to be read as one with a lone surrogate. The schemas of documents and
payloads refuse such texts.
-/

namespace UnitConversion.Text

/-- Whether a code is the first half of a pair. -/
def isHighHalf (n : Nat) : Bool :=
  0xD800 ≤ n && n ≤ 0xDBFF

/-- Whether a code is the second half of a pair. -/
def isLowHalf (n : Nat) : Bool :=
  0xDC00 ≤ n && n ≤ 0xDFFF

/-- The character of a pair of halves. -/
def charOfPair (high low : Nat) : Char :=
  Char.ofNat (0x10000 + (high - 0xD800) * 0x400 + (low - 0xDC00))

/-- How far the characters that stand for surrogates lie behind their codes. -/
def surrogateShift : Nat := 0xB0000

/-- The character of a code; a surrogate has the one that stands for it. -/
def charOfCode (n : Nat) : Char :=
  if isHighHalf n || isLowHalf n then Char.ofNat (surrogateShift + n) else Char.ofNat n

/-- The code of the surrogate that a character stands for, if it stands for one. -/
def surrogate? (c : Char) : Option Nat :=
  let n := c.toNat - surrogateShift
  if surrogateShift ≤ c.toNat && (isHighHalf n || isLowHalf n) then some n else none

/-- Whether characters hold a lone surrogate. -/
def hasSurrogate (cs : List Char) : Bool :=
  cs.any fun c => (surrogate? c).isSome

/-- Whether a surrogate stands for a byte of a file name that encodes nothing. -/
def isByteSurrogate (n : Nat) : Bool :=
  0xDC80 ≤ n && n ≤ 0xDCFF

end UnitConversion.Text
