import UnitConversion.Text.Surrogate

/-!
# Quoted text

A text between quotation marks, with escapes for everything that could not be read back or seen: the
mark itself, the backslash, line breaks, tabs and characters without a visible form. Single quotes
are the usual mark; double quotes are taken when the text holds a single quote and no double quote.
-/

namespace UnitConversion.Text

/-- `n` in lower-case hexadecimal, with zeros in front up to `width` digits. -/
def paddedHex (width n : Nat) : List Char :=
  let ds := Nat.toDigits 16 n
  List.replicate (width - ds.length) '0' ++ ds

/-- The escape of a character that has no visible form, as short as its code allows. -/
def codeEscape (c : Char) : List Char :=
  let n := (surrogate? c).getD c.toNat
  if n < 256 then '\\' :: 'x' :: paddedHex 2 n
  else if n < 65536 then '\\' :: 'u' :: paddedHex 4 n
  else '\\' :: 'U' :: paddedHex 8 n

/-- A character as it stands between two marks `mark`. -/
def quotedChar (mark c : Char) : List Char :=
  if c = mark ∨ c = '\\' then ['\\', c]
  else if c = '\n' then ['\\', 'n']
  else if c = '\r' then ['\\', 'r']
  else if c = '\t' then ['\\', 't']
  else if isInvisible c then codeEscape c
  else [c]

/-- The mark to put around a text. -/
def markFor (cs : List Char) : Char :=
  if cs.contains '\'' && !cs.contains '"' then '"' else '\''

/-- The text between quotation marks. -/
def quoted (s : String) : String :=
  let mark := markFor s.toList
  String.ofList (mark :: s.toList.flatMap (quotedChar mark) ++ [mark])

end UnitConversion.Text
