import UnitConversion.Text.LowerCase
import UnitConversion.Text.Trim

/-!
# The normal form of a unit's name

Two spellings name the same unit when they have one normal form: lower case, no blanks at the ends,
one space between words, and plain letters in place of the signs that units are written with.
-/

namespace UnitConversion.UnitText

/-- What stands for a character in a normal form. -/
def plainGlyph (c : Char) : List Char :=
  if c = '°' ∨ c = 'º' then ['d', 'e', 'g']
  else if c = 'µ' ∨ c = 'μ' then ['u']
  else if c = 'å' ∨ c = 'Å' ∨ c = '\u212B' then ['a', 'n', 'g', 's', 't', 'r', 'o', 'm']
  else if c = '“' ∨ c = '”' ∨ c = '″' then ['"']
  else if c = '‘' ∨ c = '’' ∨ c = '′' then ['\'']
  else if c = '–' ∨ c = '—' then ['-']
  else if c = '²' then ['2']
  else if c = '³' then ['3']
  else if c = '·' then ['*']
  else [c]

/-- The normal form of a text, as a list of characters. -/
def normalChars (cs : List Char) : List Char :=
  Text.trimChars (Text.collapseBlanks ((Text.lower (Text.trimChars cs)).flatMap plainGlyph))

/-- The normal form of a text. -/
def normalize (s : String) : String :=
  String.ofList (normalChars s.toList)

end UnitConversion.UnitText
