import UnitConversion.Formula.Grammar

/-!
# Formulas

A formula is an expression in one unknown, written as text. Reading one takes four steps: the
characters and the length of the text, the grammar, the constructions that a formula may use, and
last the literals, which all have to be decimal numbers. The first step that fails decides the
fault.

* `Formula.ofText` reads a formula.
* `Formula.evaluate` gives its value at a number: a finite number that fits the context of
  conversions.
-/

namespace UnitConversion

namespace Formula

/-- Why a text is no formula. -/
inductive Fault where
  | empty
  | tooLong
  | badCharacter
  | unreadable
  | operator
  | unaryOperator
  | unnamedFunction
  | namedArguments
  | unknownFunction (name : List Char)
  | argumentCount (name : List Char)
  | unpacking
  | unknownName (name : List Char)
  | notNumeric
  | unsupported
  | literal (text : List Char)
  deriving DecidableEq

/-- The wording of a fault. -/
def Fault.message : Fault → String
  | empty => "Transform expression must be a non-empty string"
  | tooLong => "Transform expression is too long"
  | badCharacter => "Invalid characters in transform expression"
  | unreadable => "Could not parse transform expression"
  | operator => "Operator not permitted in transform expression"
  | unaryOperator => "Unary operator not permitted in transform expression"
  | unnamedFunction => "Only named functions are permitted"
  | namedArguments => "Keyword arguments are not supported"
  | unknownFunction name =>
    "Unsupported function '" ++ String.ofList name ++ "' in transform expression"
  | argumentCount name => "Wrong number of arguments for '" ++ String.ofList name ++ "'"
  | unpacking => "Argument unpacking is not supported"
  | unknownName name => "Unknown identifier: " ++ String.ofList name
  | notNumeric => "Only numeric literals are allowed"
  | unsupported => "Unsupported syntax in transform expression"
  | literal text => "Unsupported numeric literal '" ++ String.ofList text ++ "'"

/-- Why a formula has no value at a number. -/
inductive NoValue where
  | divisionByZero
  | overflow
  | underflow
  | invalidOperation
  | notFinite
  deriving DecidableEq

/-- The wording of a missing value. -/
def NoValue.message : NoValue → String
  | divisionByZero => "Division by zero in transform expression"
  | overflow => "Transform result overflowed"
  | underflow => "Transform result underflowed"
  | invalidOperation => "Invalid arithmetic operation in transform expression"
  | notFinite => "Transform result is not finite"

/-- The signal that stopped an evaluation, as a reason for a missing value. -/
def NoValue.ofSignal : Signal → NoValue
  | .divisionByZero => divisionByZero
  | .overflow => overflow
  | .underflow => underflow
  | .invalidOperation => invalidOperation

/-- The most characters of a formula. -/
def longest : Nat := 256

/-- The signs that may occur in a formula. -/
def signs : List Char :=
  ['+', '-', '*', '/', '(', ')', '.', ',', '^', '%', '_']

/-- The characters that may occur in a formula. -/
def isFormulaChar (c : Char) : Bool :=
  c.isAlphanum || signs.contains c || Text.isBlank c

/-- Writes every caret as the operator that it stands for. -/
def expandCarets (cs : List Char) : List Char :=
  cs.flatMap fun c => if c = '^' then ['*', '*'] else [c]

/-- The text of a formula without the blanks around it and without carets, if its characters and its
length are as they must be. -/
def normalForm (cs : List Char) : Except Fault (List Char) :=
  if cs.all Text.isBlank then .error .empty
  else if longest < cs.length then .error .tooLong
  else if !cs.all isFormulaChar then .error .badCharacter
  else .ok (expandCarets (Text.trimChars cs))

/-- The functions that a formula can call. -/
inductive Function where
  | unary (f : UnaryFunction)
  | power
  | choice (c : Choice)

/-- The function of a given name. -/
def functionOf? (name : List Char) : Option Function :=
  match String.ofList name with
  | "abs" => some (.unary .abs)
  | "neg" => some (.unary .neg)
  | "sqrt" => some (.unary .sqrt)
  | "pow" => some .power
  | "min" => some (.choice .least)
  | "max" => some (.choice .greatest)
  | _ => none

/-- Whether a function takes that many arguments. -/
def Function.takes : Function → Nat → Bool
  | unary _, n => n == 1
  | power, n => n == 2
  | choice _, n => 1 ≤ n

/-- The call of a function, if it takes the arguments. -/
def Function.apply? {α : Type} : Function → List (Expr α) → Option (Expr α)
  | unary f, [e] => some (.call f e)
  | power, [b, e] => some (.powerCall b e)
  | choice c, e :: es => some (.choice c e es)
  | _, _ => none

/-- Whether a name stands for the unknown. -/
def isUnknown (name : List Char) : Bool :=
  name == ['x'] || name == ['X']

/-- The function that a call names, if that is one that can be called with so many arguments. -/
def calledFunction (f : Phrase) (arguments : Nat) (named : Bool) :
    Except Fault (List Char × Function) :=
  match f with
  | .name name =>
    if named then .error .namedArguments
    else match functionOf? name with
      | none => .error (.unknownFunction name)
      | some g => if g.takes arguments then .ok (name, g) else .error (.argumentCount name)
  | _ => .error .unnamedFunction

mutual

/-- The expression that a phrase is, if it uses nothing but what formulas may use. The outermost and
then leftmost fault decides. -/
def ofPhrase : Phrase → Except Fault (Expr (List Char))
  | .number text imaginary => if imaginary then .error .notNumeric else .ok (.literal text)
  | .constant => .error .notNumeric
  | .name name => if isUnknown name then .ok .unknown else .error (.unknownName name)
  | .sign negative operand => do
    let e ← ofPhrase operand
    .ok (.sign negative e)
  | .negation _ => .error .unaryOperator
  | .binary none _ _ => .error .operator
  | .binary (some op) left right => do
    let l ← ofPhrase left
    let r ← ofPhrase right
    .ok (.binary op l r)
  | .call f arguments named => do
    let (name, g) ← calledFunction f arguments.length named
    let es ← ofPhrases arguments
    match g.apply? es with
    | some e => .ok e
    | none => .error (.argumentCount name)
  | .unpacked => .error .unpacking
  | .other => .error .unsupported

/-- The expressions that some phrases are. -/
def ofPhrases : List Phrase → Except Fault (List (Expr (List Char)))
  | [] => .ok []
  | p :: ps => do
    let e ← ofPhrase p
    let es ← ofPhrases ps
    .ok (e :: es)

end

/-- The expression with its literals read. The first unreadable literal, outer ones first, is a
fault. -/
def readLiterals (e : Expr (List Char)) : Except Fault (Expr Decimal) :=
  match e.literals.find? fun text => (Decimal.ofChars? text).isNone with
  | some text => .error (.literal text)
  | none =>
    match e.mapLiterals? Decimal.ofChars? with
    | some e => .ok e
    | none => .error .unsupported

/-- The expression that a text in normal form denotes. -/
def parse (cs : List Char) : Except Fault (Expr Decimal) :=
  match (Token.scan? cs).bind Phrase.ofTokens? with
  | none => .error .unreadable
  | some p => do
    let e ← ofPhrase p
    readLiterals e

end Formula

/-- A formula: its text, the normal form of the text, and the expression that it denotes. -/
structure Formula where
  source : String
  normalized : String
  expr : Formula.Expr Decimal

namespace Formula

/-- Reads a formula. -/
def ofText (s : String) : Except Fault Formula := do
  let normalized ← normalForm s.toList
  let expr ← parse normalized
  .ok ⟨s, String.ofList normalized, expr⟩

/-- The value of an expression, brought into the context of conversions. -/
def value (e : Expr Decimal) (x : Decimal) : Except Signal Decimal := do
  let r ← e.evaluate x
  Decimal.plus .conversion r

/-- The value of a formula at `x`. -/
def evaluate (f : Formula) (x : Decimal) : Except NoValue Decimal :=
  match value f.expr x with
  | .error s => .error (.ofSignal s)
  | .ok r => if r.isFinite then .ok r else .error .notFinite

end Formula

end UnitConversion
