import UnitConversion.Text.Character

/-!
# Blanks at the ends and between words

Cutting blanks off a text, collapsing runs of them, and splitting at them or at line feeds. All
functions work on lists of characters; `trim` on strings is the one that the rest of the library
calls.
-/

namespace UnitConversion.Text

/-- The text without the characters at its end that satisfy `p`. -/
def dropWhileEnd (p : Char → Bool) (cs : List Char) : List Char :=
  (cs.reverse.dropWhile p).reverse

/-- The text without the blanks at both ends. -/
def trimChars (cs : List Char) : List Char :=
  dropWhileEnd isBlank (cs.dropWhile isBlank)

/-- The string without the blanks at both ends. -/
def trim (s : String) : String :=
  String.ofList (trimChars s.toList)

/-- Blanks other than the information separators. -/
def isSpacing (c : Char) : Bool :=
  isBlank c && !(28 ≤ c.toNat && c.toNat ≤ 31)

/-- The text without the spacing at both ends. -/
def trimSpacing (cs : List Char) : List Char :=
  dropWhileEnd isSpacing (cs.dropWhile isSpacing)

/-- Whether the string holds nothing but blanks. -/
def isBlankText (s : String) : Bool :=
  s.toList.all isBlank

/-- Writes one space for every run of blanks. `gap` says that the last character read was blank. -/
def collapseFrom (gap : Bool) : List Char → List Char
  | [] => []
  | c :: cs =>
    if isBlank c then
      if gap then collapseFrom true cs else ' ' :: collapseFrom true cs
    else c :: collapseFrom false cs

/-- The text with every run of blanks replaced by one space. -/
def collapseBlanks (cs : List Char) : List Char :=
  collapseFrom false cs

/-- The pieces of the text between characters that satisfy `p`; there is always at least one. -/
def splitWhere (p : Char → Bool) : List Char → List (List Char)
  | [] => [[]]
  | c :: cs =>
    if p c then [] :: splitWhere p cs
    else match splitWhere p cs with
      | [] => [[c]]
      | piece :: pieces => (c :: piece) :: pieces

/-- The lines of a text: its pieces between line feeds, the empty ones included. -/
def lines (s : String) : List String :=
  (splitWhere (· == '\n') s.toList).map String.ofList

/-- The maximal runs of non-blank characters. -/
def words (cs : List Char) : List (List Char) :=
  (splitWhere isBlank cs).filter (! ·.isEmpty)

end UnitConversion.Text
