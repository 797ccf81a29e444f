import UnitConversion.Decimal.Power

/-!
# Expressions in one unknown

The expressions that a formula can be: literals, the unknown, signs, the binary operators and six
functions, each with as many arguments as it takes. The literals are of any type: as they are
written, or as the numbers that they denote.

`Expr.evaluate` computes the value of an expression in the context of conversions, and stops at the
first operation that has no finite result it could go on with.
-/

namespace UnitConversion.Formula

/-- The binary operators. -/
inductive Operator where
  | add
  | subtract
  | multiply
  | divide
  | remainder
  | power
  deriving DecidableEq

/-- The functions of one argument. -/
inductive UnaryFunction where
  | abs
  | neg
  | sqrt
  deriving DecidableEq

/-- The functions that choose one of their arguments. -/
inductive Choice where
  | least
  | greatest
  deriving DecidableEq

/-- An expression in one unknown with literals of type `α`. -/
inductive Expr (α : Type) where
  | literal (a : α)
  | unknown
  /-- An expression behind a sign, which is a minus if `negative` holds. -/
  | sign (negative : Bool) (operand : Expr α)
  | binary (op : Operator) (left right : Expr α)
  | call (f : UnaryFunction) (argument : Expr α)
  | powerCall (base exponent : Expr α)
  | choice (c : Choice) (first : Expr α) (others : List (Expr α))

namespace Expr

/-- The literal that an expression is, if it is one. -/
def literal? {α : Type} : Expr α → Option α
  | literal a => some a
  | _ => none

/-- The operands and arguments of an expression, in order. -/
def children {α : Type} : Expr α → List (Expr α)
  | literal _ => []
  | unknown => []
  | sign _ e => [e]
  | binary _ l r => [l, r]
  | call _ e => [e]
  | powerCall b e => [b, e]
  | choice _ e es => e :: es

mutual

/-- How deeply an expression is nested. -/
def depth {α : Type} : Expr α → Nat
  | literal _ => 1
  | unknown => 1
  | sign _ e => e.depth + 1
  | binary _ l r => max l.depth r.depth + 1
  | call _ e => e.depth + 1
  | powerCall b e => max b.depth e.depth + 1
  | choice _ e es => max e.depth (depthAll es) + 1

/-- The greatest depth of some expressions. -/
def depthAll {α : Type} : List (Expr α) → Nat
  | [] => 0
  | e :: es => max e.depth (depthAll es)

end

/-- The literals of some expressions, outer ones first, those of one level from left to right. -/
def literalsByLevel {α : Type} : Nat → List (Expr α) → List α
  | 0, _ => []
  | fuel + 1, es => es.filterMap literal? ++ literalsByLevel fuel (es.flatMap children)

/-- The literals of an expression, outer ones first. -/
def literals {α : Type} (e : Expr α) : List α :=
  literalsByLevel e.depth [e]

mutual

/-- Replaces the literals of an expression, if each has a replacement. -/
def mapLiterals? {α β : Type} (f : α → Option β) : Expr α → Option (Expr β)
  | literal a => (f a).map .literal
  | unknown => some .unknown
  | sign s e => (e.mapLiterals? f).map (.sign s)
  | binary op l r => do
    let l ← l.mapLiterals? f
    let r ← r.mapLiterals? f
    some (.binary op l r)
  | call g e => (e.mapLiterals? f).map (.call g)
  | powerCall b e => do
    let b ← b.mapLiterals? f
    let e ← e.mapLiterals? f
    some (.powerCall b e)
  | choice c e es => do
    let e ← e.mapLiterals? f
    let es ← mapAll? f es
    some (.choice c e es)

/-- Replaces the literals of some expressions. -/
def mapAll? {α β : Type} (f : α → Option β) : List (Expr α) → Option (List (Expr β))
  | [] => some []
  | e :: es => do
    let e ← e.mapLiterals? f
    let es ← mapAll? f es
    some (e :: es)

end

/-- The result of a binary operator. -/
def applyOperator (op : Operator) (a b : Decimal) : Except Signal Decimal :=
  match op with
  | .add => Decimal.add .conversion a b
  | .subtract => Decimal.sub .conversion a b
  | .multiply => Decimal.mul .conversion a b
  | .divide => Decimal.div .conversion a b
  | .remainder => Decimal.rem .conversion a b
  | .power => Decimal.pow .conversion a b

/-- The result of a sign. -/
def applySign (negative : Bool) (a : Decimal) : Except Signal Decimal :=
  if negative then Decimal.neg .conversion a else Decimal.plus .conversion a

/-- The result of a function of one argument. -/
def applyFunction (f : UnaryFunction) (a : Decimal) : Except Signal Decimal :=
  match f with
  | .abs => Decimal.abs .conversion a
  | .neg => Decimal.neg .conversion a
  | .sqrt => Decimal.sqrt .conversion a

/-- The argument that a choice selects; it is not rounded. -/
def applyChoice (c : Choice) (a : Decimal) (others : List Decimal) : Except Signal Decimal :=
  match c with
  | .least => Decimal.least a others
  | .greatest => Decimal.greatest a others

mutual

/-- The value of an expression whose unknown stands for `x`. Operands and arguments are evaluated
from left to right. -/
def evaluate (x : Decimal) : Expr Decimal → Except Signal Decimal
  | literal d => .ok d
  | unknown => .ok x
  | sign s e => do
    let a ← e.evaluate x
    applySign s a
  | binary op l r => do
    let a ← l.evaluate x
    let b ← r.evaluate x
    applyOperator op a b
  | call f e => do
    let a ← e.evaluate x
    applyFunction f a
  | powerCall b e => do
    let a ← b.evaluate x
    let b ← e.evaluate x
    applyOperator .power a b
  | choice c e es => do
    let a ← e.evaluate x
    let as ← evaluateAll x es
    applyChoice c a as

/-- The values of some expressions. -/
def evaluateAll (x : Decimal) : List (Expr Decimal) → Except Signal (List Decimal)
  | [] => .ok []
  | e :: es => do
    let a ← e.evaluate x
    let as ← evaluateAll x es
    .ok (a :: as)

end

end Expr

end UnitConversion.Formula
