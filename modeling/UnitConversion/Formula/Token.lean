import UnitConversion.Decimal.Text

/-!
# Tokens of formulas

A formula is cut into numbers, names, keywords and signs. Spaces, tabs and form feeds separate
tokens, and so do line breaks, but these only inside parentheses.

Numbers may be whole, have a point or an exponent, be written to base two, eight or sixteen, or be
imaginary; single underscores may stand between digits. Of a whole number only zeros may follow a
leading zero, except directly in front of the keyword `else`, whose first letter could begin an
exponent. No letter, digit or underscore may follow a number directly, unless a keyword starts there
that can stand behind a number.
-/

namespace UnitConversion.Formula

/-- The words that cannot be names. -/
inductive Keyword where
  | if_
  | else_
  | or_
  | and_
  | not_
  | in_
  | is_
  | for_
  | async_
  | await_
  | yield_
  | from_
  /-- A keyword that no formula can contain. -/
  | reserved
  deriving DecidableEq

/-- The tokens of a formula. -/
inductive Token where
  /-- A number as it is written. -/
  | number (text : List Char) (imaginary : Bool)
  | name (text : List Char)
  | keyword (keyword : Keyword)
  /-- A name for a fixed value that is no number. -/
  | constant
  | leftParen
  | rightParen
  | comma
  | point
  | ellipsis
  | plus
  | minus
  | star
  | doubleStar
  | slash
  | doubleSlash
  | percent
  deriving DecidableEq

namespace Token

/-- The keyword that a word is, if it is one. -/
def keywordOf? (word : List Char) : Option Keyword :=
  match String.ofList word with
  | "if" => some .if_
  | "else" => some .else_
  | "or" => some .or_
  | "and" => some .and_
  | "not" => some .not_
  | "in" => some .in_
  | "is" => some .is_
  | "for" => some .for_
  | "async" => some .async_
  | "await" => some .await_
  | "yield" => some .yield_
  | "from" => some .from_
  | "as" | "assert" | "break" | "class" | "continue" | "def" | "del" | "elif" | "except" | "finally"
  | "global" | "import" | "lambda" | "nonlocal" | "pass" | "raise" | "return" | "try" | "while"
  | "with" => some .reserved
  | _ => none

/-- The names of fixed values that are no numbers. -/
def isConstant (word : List Char) : Bool :=
  word == "True".toList || word == "False".toList || word == "None".toList

/-- The token of a word. -/
def ofWord (word : List Char) : Token :=
  match keywordOf? word with
  | some k => .keyword k
  | none => if isConstant word then .constant else .name word

/-- The characters of names. -/
def isNameChar (c : Char) : Bool :=
  c.isAlphanum || c == '_'

/-- The characters that a name can start with. -/
def isNameStart (c : Char) : Bool :=
  c.isAlpha || c == '_'

/-- The digits of base sixteen. -/
def isHexDigit (c : Char) : Bool :=
  c.isDigit || ('a' ≤ c && c ≤ 'f') || ('A' ≤ c && c ≤ 'F')

/-- The digits of base eight. -/
def isOctalDigit (c : Char) : Bool :=
  '0' ≤ c && c ≤ '7'

/-- The digits of base two. -/
def isBinaryDigit (c : Char) : Bool :=
  c == '0' || c == '1'

/-- Splits off digits with single underscores in front of or between them. An underscore without a
digit behind it is an error. -/
def digits? (isDigit : Char → Bool) : List Char → Option (List Char × List Char)
  | [] => some ([], [])
  | c :: cs =>
    if isDigit c then (digits? isDigit cs).map fun r => (c :: r.1, r.2)
    else if c = '_' then
      match cs with
      | d :: _ =>
        if isDigit d then (digits? isDigit cs).map fun r => (c :: r.1, r.2) else none
      | [] => none
    else some ([], c :: cs)

/-- The keywords that may follow a number directly, as far as they are looked at. -/
def afterNumber : List (List Char) :=
  ["and", "else", "for", "if", "in", "is", "or", "not"].map String.toList

/-- Whether a number may end in front of `cs`. -/
def endsNumber (cs : List Char) : Bool :=
  match cs with
  | [] => true
  | c :: _ => !isNameChar c || afterNumber.any (·.isPrefixOf cs)

/-- Splits off the point and the digits of a fraction. Digits are not needed. -/
def fraction? : List Char → Option (List Char × List Char)
  | '.' :: c :: cs =>
    if c.isDigit then (digits? Char.isDigit (c :: cs)).map fun r => ('.' :: r.1, r.2)
    else some (['.'], c :: cs)
  | ['.'] => some (['.'], [])
  | cs => some ([], cs)

/-- Splits off an exponent. A letter without a digit behind it belongs to what follows, but one with
a sign and without a digit is an error. -/
def exponent? : List Char → Option (List Char × List Char)
  | [] => some ([], [])
  | c :: cs =>
    if c = 'e' ∨ c = 'E' then
      match cs with
      | s :: d :: rest =>
        if s = '+' ∨ s = '-' then
          if d.isDigit then (digits? Char.isDigit (d :: rest)).map fun r =>
            (c :: s :: r.1, r.2) else none
        else if s.isDigit then (digits? Char.isDigit cs).map fun r => (c :: r.1, r.2)
        else some ([], c :: cs)
      | [s] =>
        if s = '+' ∨ s = '-' then none
        else if s.isDigit then some ([c, s], []) else some ([], c :: cs)
      | [] => some ([], c :: cs)
    else some ([], c :: cs)

/-- Splits off the letter of an imaginary number. -/
def imaginaryUnit (cs : List Char) : List Char × List Char :=
  match cs with
  | c :: rest => if c = 'j' ∨ c = 'J' then ([c], rest) else ([], cs)
  | [] => ([], [])

/-- A number to another base, behind its two-character start. -/
def basedNumber? (start : List Char) (isDigit : Char → Bool) (cs : List Char) :
    Option (Token × List Char) := do
  let (ds, rest) ← digits? isDigit cs
  if ds.isEmpty || !endsNumber rest then none
  else some (.number (start ++ ds) false, rest)

/-- Whether the digits of a whole number have a leading zero in front of other digits. -/
def hasLeadingZero (whole : List Char) : Bool :=
  match whole with
  | '0' :: ds => ds.any fun d => d != '0' && d != '_'
  | _ => false

/-- A number to base ten. -/
def decimalNumber? (cs : List Char) : Option (Token × List Char) := do
  let (whole, rest) ← digits? Char.isDigit cs
  let (fraction, rest) ← fraction? rest
  let (exponent, rest) ← exponent? rest
  let (unit, rest) := imaginaryUnit rest
  if !endsNumber rest then none
  else if hasLeadingZero whole && fraction.isEmpty && exponent.isEmpty && unit.isEmpty
      && rest.head? != some 'e' then none
  else some (.number (whole ++ fraction ++ exponent ++ unit) (!unit.isEmpty), rest)

/-- The number that starts a text. -/
def number? (cs : List Char) : Option (Token × List Char) :=
  match cs with
  | '0' :: 'x' :: rest => basedNumber? ['0', 'x'] isHexDigit rest
  | '0' :: 'X' :: rest => basedNumber? ['0', 'X'] isHexDigit rest
  | '0' :: 'o' :: rest => basedNumber? ['0', 'o'] isOctalDigit rest
  | '0' :: 'O' :: rest => basedNumber? ['0', 'O'] isOctalDigit rest
  | '0' :: 'b' :: rest => basedNumber? ['0', 'b'] isBinaryDigit rest
  | '0' :: 'B' :: rest => basedNumber? ['0', 'B'] isBinaryDigit rest
  | cs => decimalNumber? cs

/-- The sign that starts a text. -/
def sign? : List Char → Option (Token × List Char)
  | '(' :: cs => some (.leftParen, cs)
  | ')' :: cs => some (.rightParen, cs)
  | ',' :: cs => some (.comma, cs)
  | '.' :: '.' :: '.' :: cs => some (.ellipsis, cs)
  | '.' :: cs => some (.point, cs)
  | '+' :: cs => some (.plus, cs)
  | '-' :: cs => some (.minus, cs)
  | '*' :: '*' :: cs => some (.doubleStar, cs)
  | '*' :: cs => some (.star, cs)
  | '/' :: '/' :: cs => some (.doubleSlash, cs)
  | '/' :: cs => some (.slash, cs)
  | '%' :: cs => some (.percent, cs)
  | _ => none

/-- Whether a number starts here: with a digit, or with a point in front of a digit. -/
def startsNumber : List Char → Bool
  | '.' :: c :: _ => c.isDigit
  | c :: _ => c.isDigit
  | [] => false

/-- The token that starts a text, and the rest of the text. -/
def next? (cs : List Char) : Option (Token × List Char) :=
  if startsNumber cs then number? cs
  else match cs with
    | c :: _ =>
      if isNameStart c then some (ofWord (cs.takeWhile isNameChar), cs.dropWhile isNameChar)
      else sign? cs
    | [] => none

/-- The level of nesting behind a token. -/
def depthAfter (depth : Nat) : Token → Nat
  | .leftParen => depth + 1
  | .rightParen => depth - 1
  | _ => depth

/-- The tokens of a text that starts inside `depth` parentheses. -/
def scanFrom : Nat → Nat → List Char → Option (List Token)
  | 0, _, _ => none
  | _ + 1, _, [] => some []
  | fuel + 1, depth, c :: cs =>
    if c = ' ' ∨ c = '\t' ∨ c = '\x0c' then scanFrom fuel depth cs
    else if c = '\n' ∨ c = '\r' then
      if depth = 0 then none else scanFrom fuel depth cs
    else
      match next? (c :: cs) with
      | none => none
      | some (t, rest) => (scanFrom fuel (t.depthAfter depth) rest).map (t :: ·)

/-- The tokens of a text, unless some part of it is no token. -/
def scan? (cs : List Char) : Option (List Token) :=
  scanFrom (cs.length + 1) 0 cs

end Token

end UnitConversion.Formula
