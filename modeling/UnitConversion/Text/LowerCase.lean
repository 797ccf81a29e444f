import UnitConversion.Text.Character
import UnitConversion.Text.CaseTable

/-!
# Lower case

The full map of a text to lower case. Every character is mapped on its own, with two exceptions: the
dotted capital I becomes two characters, and a capital sigma becomes a final sigma where it ends a
word.

A capital sigma ends a word when the nearest character before it that is not ignored is cased, and
the nearest one after it is not.
-/

namespace UnitConversion.Text

/-- The capital sigma, whose lower-case form depends on its neighbours. -/
def capitalSigma : Char := 'Σ'

/-- The offset from an upper-case code point to its lower-case form. -/
def CaseRun.offset? (run : CaseRun) (n : Nat) : Option Int :=
  if run.first ≤ n && n ≤ run.last && (n - run.first) % run.step == 0 then some run.offset else none

/-- The lower-case form of a character, taken without its neighbours. -/
def lowerChar (c : Char) : List Char :=
  if c.toNat < 128 then [c.toLower]
  else if c.toNat = 304 then ['i', '\u0307']
  else match lowerCaseRuns.findSome? (·.offset? c.toNat) with
    | some offset => [Char.ofNat (c.toNat + offset).toNat]
    | none => [c]

/-- Whether a search for case skips the character. -/
def isCaseIgnorable (c : Char) : Bool :=
  memIntervals caseIgnorableIntervals c.toNat

/-- Whether the first character that a search for case does not skip is cased. -/
def meetsCased (cs : List Char) : Bool :=
  match cs.dropWhile isCaseIgnorable with
  | [] => false
  | c :: _ => memIntervals casedIntervals c.toNat

/-- Maps the rest of a text to lower case; `before` holds the characters already read, the last one
first. -/
def lowerFrom (before : List Char) : List Char → List Char
  | [] => []
  | c :: cs =>
    let lowered :=
      if c = capitalSigma then
        if meetsCased before && !meetsCased cs then ['ς'] else ['σ']
      else lowerChar c
    lowered ++ lowerFrom (c :: before) cs

/-- The text in lower case. -/
def lower (cs : List Char) : List Char :=
  lowerFrom [] cs

/-- The string in lower case. -/
def lowerString (s : String) : String :=
  String.ofList (lower s.toList)

end UnitConversion.Text
