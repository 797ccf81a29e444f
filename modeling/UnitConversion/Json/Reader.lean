import UnitConversion.Json.Basic
import UnitConversion.Text.Surrogate

/-!
# Reading document values

A JSON text is read from left to right; the first place where it cannot go on decides the error. A
place is stored as the number of characters that are left there, and turned into a line and a column
at the end.

Beside the values of the JSON grammar the names `NaN`, `Infinity` and `-Infinity` are read as
doubles. A repeated key keeps its first place and its last value. Three things stop the reader that
are not errors of the grammar: a whole number with too many digits, an exact decimal whose exponent
cannot be written down, and lists and objects that are nested deeper than the stack has room for.

How much room that is, in calls, is an argument: it depends on the machine and on who asks for the
text to be read. A list or an object takes one call for as long as it is open, an exact decimal or
the name of a number one while it is made, and the description of a fault three.
-/

namespace UnitConversion

namespace Json

/-- How numbers with a point or an exponent are read. -/
inductive FractionStyle where
  /-- As exact decimals. -/
  | exact
  /-- As the nearest doubles. -/
  | binary
  /-- As the nearest doubles, if they have a point and a sign in front of any exponent. Otherwise
  they are texts, and so are the names of numbers. -/
  | marked
  deriving DecidableEq

/-- What is wrong with a text that is not JSON. -/
inductive Fault where
  | byteOrderMark
  | expectedName
  | expectedColon
  | expectedComma
  | expectedValue
  | unterminatedString
  | controlCharacter
  | unknownEscape
  | badCodeEscape
  | extraData
  deriving DecidableEq

/-- The wording of a fault. -/
def Fault.message : Fault → String
  | byteOrderMark => "Unexpected UTF-8 BOM (decode using utf-8-sig)"
  | expectedName => "Expecting property name enclosed in double quotes"
  | expectedColon => "Expecting ':' delimiter"
  | expectedComma => "Expecting ',' delimiter"
  | expectedValue => "Expecting value"
  | unterminatedString => "Unterminated string starting at"
  | controlCharacter => "Invalid control character at"
  | unknownEscape => "Invalid \\escape"
  | badCodeEscape => "Invalid \\uXXXX escape"
  | extraData => "Extra data"

/-- What the stack had no room for. -/
inductive Overrun where
  /-- The call of a function. -/
  | call
  /-- The frame of a function that was called. -/
  | frame
  /-- A list inside other values. -/
  | list
  /-- An object inside other values. -/
  | object
  deriving DecidableEq

/-- The wording of an overrun. `callNote` is what the machine adds to it where a call was
refused. -/
def Overrun.message (callNote : String) : Overrun → String
  | call => "maximum recursion depth exceeded" ++ callNote
  | frame => "maximum recursion depth exceeded"
  | list => "maximum recursion depth exceeded while decoding a JSON array from a unicode string"
  | object => "maximum recursion depth exceeded while decoding a JSON object from a unicode string"

/-- Why reading stopped. -/
inductive Stop where
  /-- The text is not JSON; `left` characters remain at the place of the fault. -/
  | fault (fault : Fault) (left : Nat)
  /-- A whole number has more digits than can be read. -/
  | longInteger
  /-- An exact decimal has an exponent that cannot be written down. -/
  | wildDecimal
  /-- Values are nested deeper than the stack has room for. -/
  | nested (overrun : Overrun)
  deriving DecidableEq

/-- The stop that a fault is where the stack has room for some more calls: describing it takes
three. -/
def faultWithin (room : Nat) (fault : Fault) (left : Nat) : Stop :=
  match room with
  | 0 | 2 => .nested .call
  | 1 => .nested .frame
  | _ + 3 => .fault fault left

/-- A stop that is noticed where the stack has room for some more calls. -/
def Stop.within (room : Nat) : Stop → Stop
  | fault f left => faultWithin room f left
  | stop => stop

/-- The blanks of the JSON grammar. -/
def isGap (c : Char) : Bool :=
  c == ' ' || c == '\t' || c == '\n' || c == '\r'

/-- Drops blanks. -/
def skipGap (cs : List Char) : List Char :=
  cs.dropWhile isGap

/-- The code that four hexadecimal digits denote. -/
def fourHex? (a b c d : Char) : Option Nat := do
  let a ← Text.hexValue? a
  let b ← Text.hexValue? b
  let c ← Text.hexValue? c
  let d ← Text.hexValue? d
  some (((a * 16 + b) * 16 + c) * 16 + d)

/-- The character that a one-letter escape stands for. -/
def simpleEscape? (c : Char) : Option Char :=
  match c with
  | '"' => some '"'
  | '\\' => some '\\'
  | '/' => some '/'
  | 'b' => some '\x08'
  | 'f' => some '\x0c'
  | 'n' => some '\n'
  | 'r' => some '\r'
  | 't' => some '\t'
  | _ => none

/-- The character of a code escape and what follows it. `cs` starts behind the letter `u`. A pair of
halves counts only if a character follows it; otherwise its first half stands alone. -/
def codeEscape (cs : List Char) : Except Stop (Char × List Char) :=
  let here := Stop.fault .badCodeEscape (cs.length + 1)
  match cs with
  | a :: b :: c :: d :: rest =>
    if rest.isEmpty then .error here
    else match fourHex? a b c d with
      | none => .error here
      | some n =>
        match rest with
        | '\\' :: 'u' :: e :: f :: g :: h :: after =>
          if Text.isHighHalf n && !after.isEmpty then
            match fourHex? e f g h with
            | none => .error (.fault .badCodeEscape (after.length + 5))
            | some m => if Text.isLowHalf m then .ok (Text.charOfPair n m, after)
              else .ok (Text.charOfCode n, rest)
          else .ok (Text.charOfCode n, rest)
        | _ => .ok (Text.charOfCode n, rest)
  | _ => .error here

/-- Reads a string up to its closing mark. `start` characters were left at the opening mark; `read`
holds the characters read so far, the last one first. -/
def readString (start : Nat) : Nat → List Char → List Char → Except Stop (String × List Char)
  | 0, _, _ => .error (.fault .unterminatedString start)
  | _ + 1, _, [] => .error (.fault .unterminatedString start)
  | fuel + 1, read, c :: cs =>
    if c = '"' then .ok (String.ofList read.reverse, cs)
    else if c = '\\' then
      match cs with
      | [] => .error (.fault .unterminatedString start)
      | 'u' :: rest =>
        match codeEscape rest with
        | .error e => .error e
        | .ok (d, rest) => readString start fuel (d :: read) rest
      | e :: rest =>
        match simpleEscape? e with
        | some d => readString start fuel (d :: read) rest
        | none => .error (.fault .unknownEscape (rest.length + 2))
    else if c.toNat < 32 then .error (.fault .controlCharacter (cs.length + 1))
    else readString start fuel (c :: read) cs

/-- Reads a string; `cs` starts behind the opening mark. -/
def stringFrom (cs : List Char) : Except Stop (String × List Char) :=
  readString (cs.length + 1) (cs.length + 1) [] cs

/-- Splits off the fraction of a number: a point with at least one digit behind it. -/
def splitFraction : List Char → List Char × List Char
  | '.' :: cs =>
    let digits := Decimal.splitDigits cs
    if digits.1.isEmpty then ([], '.' :: cs) else ('.' :: digits.1, digits.2)
  | cs => ([], cs)

/-- Splits off the exponent of a number: its letter, perhaps a sign, and at least one digit. -/
def splitExponent : List Char → List Char × List Char
  | [] => ([], [])
  | c :: cs =>
    if c = 'e' ∨ c = 'E' then
      let sign := match cs with
        | '+' :: rest => (['+'], rest)
        | '-' :: rest => (['-'], rest)
        | rest => ([], rest)
      let digits := Decimal.splitDigits sign.2
      if digits.1.isEmpty then ([], c :: cs) else (c :: sign.1 ++ digits.1, digits.2)
    else ([], c :: cs)

/-- Splits off the whole part of a number: one zero, or digits that do not start with a zero. -/
def splitWhole? : List Char → Option (List Char × List Char)
  | '0' :: cs => some (['0'], cs)
  | cs =>
    let digits := Decimal.splitDigits cs
    if digits.1.isEmpty then none else some digits

/-- Whether a number that is not whole has a point and a sign in front of any exponent. -/
def isMarked (cs : List Char) : Bool :=
  cs.contains '.' &&
    match cs.dropWhile fun c => c != 'e' && c != 'E' with
    | _ :: c :: _ => c == '+' || c == '-'
    | _ => true

/-- The nearest double to a number, from its characters. -/
def doubleValue (cs : List Char) : Json :=
  .real ((Binary64.ofChars? cs).getD .nan)

/-- The value of a number that is not whole, from its characters. Making an exact decimal takes a
call. -/
def fractionValue (style : FractionStyle) (room : Nat) (cs : List Char) : Except Stop Json :=
  match style with
  | .exact =>
    if room = 0 then .error (.nested .call)
    else match Decimal.ofChars? cs with
      | some d => .ok (.decimal d)
      | none => .error .wildDecimal
  | .binary => .ok (doubleValue cs)
  | .marked => .ok (if isMarked cs then doubleValue cs else .text (String.ofList cs))

/-- Reads a number; `negative` says that a minus sign was read before, and `left` characters were
left there. -/
def readNumber (style : FractionStyle) (room left : Nat) (negative : Bool) (cs : List Char) :
    Except Stop (Json × List Char) :=
  match splitWhole? cs with
  | none => .error (.fault .expectedValue left)
  | some (whole, rest) =>
    let fraction := splitFraction rest
    let exponent := splitExponent fraction.2
    if fraction.1.isEmpty && exponent.1.isEmpty then
      if longestInteger < whole.length then .error .longInteger
      else .ok (.integer (Decimal.signed negative (Text.digitsValue whole)), rest)
    else
      let text := Decimal.signText negative ++ whole ++ fraction.1 ++ exponent.1
      match fractionValue style room text with
      | .error e => .error e
      | .ok value => .ok (value, exponent.2)

/-- Reads the name of a number, behind which `rest` is left. Looking a double up by its name takes a
call. -/
def readName (style : FractionStyle) (room : Nat) (name : String) (r : Binary64)
    (rest : List Char) :
    Except Stop (Json × List Char) :=
  match style, room with
  | .marked, _ => .ok (.text name, rest)
  | _, 0 => .error (.nested .call)
  | _, _ + 1 => .ok (.real r, rest)

/-- Reads a value that is neither a string nor a list nor an object. -/
def readAtom (style : FractionStyle) (room : Nat) : List Char → Except Stop (Json × List Char)
  | 'n' :: 'u' :: 'l' :: 'l' :: cs => .ok (.null, cs)
  | 't' :: 'r' :: 'u' :: 'e' :: cs => .ok (.bool true, cs)
  | 'f' :: 'a' :: 'l' :: 's' :: 'e' :: cs => .ok (.bool false, cs)
  | 'N' :: 'a' :: 'N' :: cs => readName style room "NaN" .nan cs
  | 'I' :: 'n' :: 'f' :: 'i' :: 'n' :: 'i' :: 't' :: 'y' :: cs =>
    readName style room "Infinity" (.infinite false) cs
  | '-' :: 'I' :: 'n' :: 'f' :: 'i' :: 'n' :: 'i' :: 't' :: 'y' :: cs =>
    readName style room "-Infinity" (.infinite true) cs
  | '-' :: cs => readNumber style room (cs.length + 1) true cs
  | cs => readNumber style room cs.length false cs

mutual

/-- Reads a value where the stack has room for `room` more calls. -/
def readValue (style : FractionStyle) : Nat → Nat → List Char → Except Stop (Json × List Char)
  | 0, _, cs => .error (.fault .expectedValue cs.length)
  | fuel + 1, room, cs =>
    match cs with
    | '"' :: rest =>
      match stringFrom rest with
      | .error e => .error (e.within room)
      | .ok (s, rest) => .ok (.text s, rest)
    | '[' :: rest =>
      match room with
      | 0 => .error (.nested .list)
      | room + 1 =>
        match skipGap rest with
        | ']' :: rest => .ok (.list [], rest)
        | rest => readItems style fuel room [] rest
    | '{' :: rest =>
      match room with
      | 0 => .error (.nested .object)
      | room + 1 =>
        match skipGap rest with
        | '}' :: rest => .ok (.object [], rest)
        | rest => readMembers style fuel room [] rest
    | cs => readAtom style room cs

/-- Reads the items of a list from the next one on; `read` holds those before it, the last one
first. -/
def readItems (style : FractionStyle) : Nat → Nat → List Json → List Char →
    Except Stop (Json × List Char)
  | 0, _, _, cs => .error (.fault .expectedValue cs.length)
  | fuel + 1, room, read, cs =>
    match readValue style fuel room cs with
    | .error e => .error e
    | .ok (value, rest) =>
      match skipGap rest with
      | ']' :: rest => .ok (.list (value :: read).reverse, rest)
      | ',' :: rest => readItems style fuel room (value :: read) (skipGap rest)
      | rest => .error (faultWithin room .expectedComma rest.length)

/-- Reads the members of an object from the next one on; `read` holds those before it. -/
def readMembers (style : FractionStyle) : Nat → Nat → List (String × Json) → List Char →
    Except Stop (Json × List Char)
  | 0, room, _, cs => .error (faultWithin room .expectedName cs.length)
  | fuel + 1, room, read, cs =>
    match cs with
    | '"' :: rest =>
      match stringFrom rest with
      | .error e => .error (e.within room)
      | .ok (key, rest) =>
        match skipGap rest with
        | ':' :: rest =>
          match readValue style fuel room (skipGap rest) with
          | .error e => .error e
          | .ok (value, rest) =>
            let read := Association.put read key value
            match skipGap rest with
            | '}' :: rest => .ok (.object read, rest)
            | ',' :: rest => readMembers style fuel room read (skipGap rest)
            | rest => .error (faultWithin room .expectedComma rest.length)
        | rest => .error (faultWithin room .expectedColon rest.length)
    | cs => .error (faultWithin room .expectedName cs.length)

end

/-- Reads a whole JSON text, whose outermost value has room for `room` calls. A missing value is
described one call further out, and what follows the text another one: there is room for as many
calls more. -/
def read (style : FractionStyle) (room : Nat) (cs : List Char) : Except Stop Json :=
  match cs with
  | '\uFEFF' :: _ => .error (.fault .byteOrderMark cs.length)
  | cs =>
    match readValue style (2 * cs.length + 2) room (skipGap cs) with
    | .error (.fault .expectedValue left) => .error (faultWithin (room + 1) .expectedValue left)
    | .error e => .error e
    | .ok (value, rest) =>
      match skipGap rest with
      | [] => .ok value
      | rest => .error (faultWithin (room + 2) .extraData rest.length)

/-- The line and the column, both counted from one, of the place where `left` characters of a text
are left. -/
def location (cs : List Char) (left : Nat) : Nat × Nat :=
  let before := cs.take (cs.length - left)
  (before.count '\n' + 1, (before.reverse.takeWhile (· != '\n')).length + 1)

end Json

end UnitConversion
