import UnitConversion.Proofs.Formula.Literal

/-!
# Expressions as text

How an expression is written: its operators between the operands, functions with their arguments in
parentheses, and no parentheses but those that the precedence of operators asks for. A power binds
tightest and groups to the right; its left operand is an atom or a call, its right operand may have
a sign or be a power. Next come signs, then products, quotients and remainders, and last sums and
differences, which both group to the left.

* `Literal`: a numeral as it is written, and the number that it denotes.
* `Expr.level`, `Expr.tokens`: how tightly an expression holds together, and the tokens that it is
  written with.
* `Expr.text`: the text of an expression.
-/

namespace UnitConversion.Formula

/-! ### Numerals -/

/-- Digits, perhaps with single underscores between them. -/
inductive DigitRun : List Char → Prop where
  | single {d : Char} (hd : d.isDigit = true) : DigitRun [d]
  | cons {d : Char} {ds : List Char} (hd : d.isDigit = true) (hds : DigitRun ds) :
      DigitRun (d :: ds)
  | underscore {d : Char} {ds : List Char} (hd : d.isDigit = true) (hds : DigitRun ds) :
      DigitRun (d :: '_' :: ds)

/-- What a numeral can have behind its whole part: nothing, a point, or a point and digits. -/
inductive IsFraction : List Char → Prop where
  | none : IsFraction []
  | point : IsFraction ['.']
  | digits {ds : List Char} (hds : DigitRun ds) : IsFraction ('.' :: ds)

/-- What a numeral can end with: nothing, or an exponent, perhaps with a sign. -/
inductive IsExponent : List Char → Prop where
  | none : IsExponent []
  | unsigned {mark : Char} {ds : List Char} (hmark : mark = 'e' ∨ mark = 'E') (hds : DigitRun ds) :
      IsExponent (mark :: ds)
  | signed {mark sign : Char} {ds : List Char} (hmark : mark = 'e' ∨ mark = 'E')
      (hsign : sign = '+' ∨ sign = '-') (hds : DigitRun ds) : IsExponent (mark :: sign :: ds)

/-- A numeral to base ten, and the decimal number that it denotes. -/
structure Literal where
  whole : List Char
  fraction : List Char
  exponent : List Char
  number : Decimal
  whole_digits : whole = [] ∨ DigitRun whole
  isFraction : IsFraction fraction
  isExponent : IsExponent exponent
  /-- There are digits, if not in front of the point, then behind it. -/
  has_digits : whole = [] → 1 < fraction.length
  /-- In a whole number only zeros follow a leading zero. -/
  leading_zero : fraction = [] → exponent = [] →
    whole.head? = some '0' → ∀ c ∈ whole, c = '0' ∨ c = '_'
  denotes : Decimal.ofChars? (whole ++ fraction ++ exponent) = some number

/-- A numeral as it is written. -/
def Literal.text (n : Literal) : List Char :=
  n.whole ++ n.fraction ++ n.exponent

/-! ### Tokens of an expression -/

/-- The characters of a token that expressions are written with. -/
def Token.spell : Token → List Char
  | .number text _ => text
  | .name text => text
  | .leftParen => ['(']
  | .rightParen => [')']
  | .comma => [',']
  | .plus => ['+']
  | .minus => ['-']
  | .star => ['*']
  | .doubleStar => ['^']
  | .slash => ['/']
  | .percent => ['%']
  | _ => []

/-- How tightly an operator binds: 0 for sums, 1 for products, 3 for powers. Signs have level 2, and
what needs no parentheses anywhere has level 4. -/
def Operator.level : Operator → Nat
  | add | subtract => 0
  | multiply | divide | remainder => 1
  | power => 3

/-- How tightly the left operand of an operator has to hold together. -/
def Operator.leftLevel : Operator → Nat
  | add | subtract => 0
  | multiply | divide | remainder => 1
  | power => 4

/-- How tightly the right operand of an operator has to hold together. -/
def Operator.rightLevel : Operator → Nat
  | add | subtract => 1
  | multiply | divide | remainder => 2
  | power => 2

/-- The sign of an operator. -/
def Operator.token : Operator → Token
  | add => .plus
  | subtract => .minus
  | multiply => .star
  | divide => .slash
  | remainder => .percent
  | power => .doubleStar

/-- The name of a function of one argument. -/
def UnaryFunction.name : UnaryFunction → List Char
  | abs => ['a', 'b', 's']
  | neg => ['n', 'e', 'g']
  | sqrt => ['s', 'q', 'r', 't']

/-- The name of a choice. -/
def Choice.name : Choice → List Char
  | least => ['m', 'i', 'n']
  | greatest => ['m', 'a', 'x']

/-- The name of the power as a function. -/
def powerName : List Char :=
  ['p', 'o', 'w']

namespace Expr

/-- How tightly an expression holds together. -/
def level {α : Type} : Expr α → Nat
  | sign _ _ => 2
  | binary op _ _ => op.level
  | _ => 4

/-- Tokens of an expression of some level where another is needed, in parentheses if they do not
hold together tightly enough. -/
def enclose (needed level : Nat) (ts : List Token) : List Token :=
  if needed ≤ level then ts else .leftParen :: (ts ++ [.rightParen])

/-- The tokens of a call. -/
def callTokens (name : List Char) (first : List Token) (others : List (List Token)) : List Token :=
  .name name :: .leftParen :: (first ++ (others.flatMap (.comma :: ·) ++ [.rightParen]))

mutual

/-- The tokens that an expression is written with. -/
def tokens : Expr Literal → List Token
  | literal n => [.number n.text false]
  | unknown => [.name ['x']]
  | sign negative e => (if negative then .minus else .plus) :: enclose 2 e.level e.tokens
  | binary op l r =>
    enclose op.leftLevel l.level l.tokens ++ op.token :: enclose op.rightLevel r.level r.tokens
  | call f e => callTokens f.name e.tokens []
  | powerCall b e => callTokens powerName b.tokens [e.tokens]
  | choice c e es => callTokens c.name e.tokens (tokensAll es)

/-- The tokens that some expressions are written with. -/
def tokensAll : List (Expr Literal) → List (List Token)
  | [] => []
  | e :: es => e.tokens :: tokensAll es

end

/-- The text of an expression. -/
def text (e : Expr Literal) : String :=
  String.ofList (e.tokens.flatMap Token.spell)

mutual

/-- The expression with its literals replaced. -/
def map {α β : Type} (f : α → β) : Expr α → Expr β
  | literal a => literal (f a)
  | unknown => unknown
  | sign negative e => sign negative (e.map f)
  | binary op l r => binary op (l.map f) (r.map f)
  | call g e => call g (e.map f)
  | powerCall b e => powerCall (b.map f) (e.map f)
  | choice c e es => choice c (e.map f) (mapAll f es)

/-- Some expressions with their literals replaced. -/
def mapAll {α β : Type} (f : α → β) : List (Expr α) → List (Expr β)
  | [] => []
  | e :: es => e.map f :: mapAll f es

end

end Expr

end UnitConversion.Formula
