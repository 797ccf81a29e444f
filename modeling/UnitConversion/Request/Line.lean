import UnitConversion.Json.Basic
import UnitConversion.Problem
import UnitConversion.Request.Numeral
import UnitConversion.UnitText

/-!
# Requests in plain text

A request is one line: a numeral, the unit that it counts, the word `to` or `as`, and the unit
wanted, with blanks between them. Units may consist of several words, so where a line can be divided
in more than one way the shortest first unit counts.
-/

namespace UnitConversion

/-- A request, its units in normal form, with the text that it was read from. -/
structure Request where
  value : Decimal
  source : String
  target : String
  text : String
  deriving DecidableEq

namespace Request

/-- Letters beyond ASCII, and other signs, that a unit can start with. -/
def unitStartCodes : List Nat :=
  [0xB0, 0xB5, 0xC5, 0xE5, 0x130, 0x131, 0x17F, 0x39C, 0x3BC, 0x212A, 0x212B]

/-- The characters that a unit can start with. -/
def isUnitStart (c : Char) : Bool :=
  c.isAlpha || unitStartCodes.contains c.toNat

/-- The signs that a unit can contain. -/
def unitSigns : List Char :=
  ['"', '\'', '-', '.', '/', '^', '°', '·', '‘', '’', '“', '”', '′', '″']

/-- The characters that a unit can contain. -/
def isUnitChar (c : Char) : Bool :=
  Text.isWord c || Text.isBlank c || unitSigns.contains c

/-- Whether characters are a unit. -/
def isUnit : List Char → Bool
  | [] => false
  | c :: cs => isUnitStart c && cs.all isUnitChar

/-- Whether two characters are the word between the units, in any case. -/
def isConnective (a b : Char) : Bool :=
  ((a == 't' || a == 'T') && (b == 'o' || b == 'O'))
    || ((a == 'a' || a == 'A') && (b == 's' || b == 'S' || b == 'ſ'))

/-- The unit wanted, if characters start with a blank and go on with the connective word, blanks and
a unit up to their end. -/
def targetOf? (cs : List Char) : Option (List Char) :=
  match cs with
  | c :: _ =>
    if Text.isBlank c then
      match cs.dropWhile Text.isBlank with
      | a :: b :: d :: rest =>
        let unit := rest.dropWhile Text.isBlank
        if isConnective a b && Text.isBlank d && isUnit unit then some unit else none
      | _ => none
    else none
  | [] => none

/-- Divides characters, of which the first part is the rest of a unit, at the first place where the
wanted unit can be read. -/
def divide? : List Char → Option (List Char × List Char)
  | [] => none
  | c :: cs =>
    match targetOf? (c :: cs) with
    | some target => some ([], target)
    | none => if isUnitChar c then (divide? cs).map fun d => (c :: d.1, d.2) else none

/-- The two units that characters name. -/
def units? : List Char → Option (List Char × List Char)
  | [] => none
  | c :: cs => if isUnitStart c then (divide? cs).map fun d => (c :: d.1, d.2) else none

/-- Splits off the characters in front of the first blank. -/
def splitWord (cs : List Char) : List Char × List Char :=
  (cs.takeWhile (! Text.isBlank ·), cs.dropWhile (! Text.isBlank ·))

/-- Splits off a numeral: one word, or the two words of a mixed number. -/
def splitNumeral? (cs : List Char) : Option (List Char × List Char) :=
  let first := splitWord cs
  if Numeral.isDecimal first.1 || (Numeral.fraction? first.1).isSome then
    let rest := first.2.dropWhile Text.isBlank
    let second := splitWord rest
    if Numeral.isWhole first.1 && (Numeral.fraction? second.1).isSome then
      some (first.1 ++ first.2.takeWhile Text.isBlank ++ second.1, second.2)
    else some first
  else none

/-- The three parts of a line without blanks around it: numeral, source and target. -/
def parts? (cs : List Char) : Option (List Char × List Char × List Char) :=
  match splitNumeral? cs with
  | none => none
  | some (numeral, rest) => (units? (rest.dropWhile Text.isBlank)).map fun u => (numeral, u.1, u.2)

/-- The request with the given parts. -/
def ofParts (numeral source target text : List Char) : Except Problem Request :=
  match numericValue? numeral with
  | none => .error (Problem.invalidNumber (String.ofList numeral))
  | some value =>
    let source := UnitText.normalChars source
    let target := UnitText.normalChars target
    if source = target then .error (Problem.sameUnits (String.ofList source))
    else .ok ⟨value, String.ofList source, String.ofList target, String.ofList text⟩

/-- Reads a request of at most `limit` characters. -/
def ofText (limit : Int) (line : String) : Except Problem Request :=
  let cs := Text.trimChars line.toList
  if cs.isEmpty then .error Problem.emptyInput
  else if limit < cs.length then .error (Problem.longInput limit)
  else match parts? cs with
    | none => .error (Problem.invalidFormat none)
    | some (numeral, source, target) => ofParts numeral source target cs

/-- Reads a request from a value. One that is no text asks for nothing. -/
def ofJson (limit : Int) : Json → Except Problem Request
  | .text line => ofText limit line
  | _ => .error Problem.emptyInput

/-- The words that are never taken for a unit. -/
def smallWords : List (List Char) :=
  [['t', 'o'], ['a', 's'], ['i', 'n']]

/-- The words of a text that look like units: in lower case, each once, without those that start
with a digit. -/
def unitWords (text : String) : List String :=
  let words := (Text.words (Text.lower text.toList)).filter fun w =>
    !smallWords.contains w && !(w.head?.any Text.isDigit)
  (words.foldl (fun seen w => if seen.contains w then seen else seen ++ [w]) []).map String.ofList

end Request

end UnitConversion
