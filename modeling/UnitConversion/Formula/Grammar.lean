import UnitConversion.Formula.Token
import UnitConversion.Formula.Expr

/-!
# The grammar of formulas

The grammar admits more than formulas mean: comparisons, conditions, tuples, attributes, generators
and argument unpacking are read too, so that they can be refused for what they are. A `Phrase` keeps
of them only what a later refusal has to tell apart.

From loose to tight the operators are: the conditional, `or`, `and`, `not`, comparisons, `+` and
`-`, then `*`, `/`, `//` and `%`, signs, and `**`. All binary operators group to the left, except
that the right operand of `**` may be signed and groups to the right.

Every function reads a phrase from the start of a list of tokens and returns what is left. The
numbers that bound the recursion are steps: each call takes one.
-/

namespace UnitConversion.Formula

/-- What the grammar reads. -/
inductive Phrase where
  /-- A number as it is written. -/
  | number (text : List Char) (imaginary : Bool)
  /-- A fixed value that is no number. -/
  | constant
  | name (text : List Char)
  | sign (negative : Bool) (operand : Phrase)
  | negation (operand : Phrase)
  /-- A binary operator; the whole quotient is none of those that formulas know. -/
  | binary (op : Option Operator) (left right : Phrase)
  /-- A call; `named` says that it unpacks named arguments. -/
  | call (f : Phrase) (arguments : List Phrase) (named : Bool)
  /-- An argument that is unpacked. -/
  | unpacked
  /-- Any other construction. -/
  | other
  deriving Inhabited

namespace Phrase

/-- A result of the grammar: a phrase and the tokens behind it. -/
abbrev Reading := Option (Phrase × List Token)

/-- The name behind the point of an attribute. -/
def attribute? : List Token → Option (List Token)
  | .name _ :: ts => some ts
  | _ => none

/-- The operators of a sum. -/
def sumOperator? : Token → Option Operator
  | .plus => some .add
  | .minus => some .subtract
  | _ => none

/-- The operators of a term; the inner value is missing for the whole quotient. -/
def termOperator? : Token → Option (Option Operator)
  | .star => some (some .multiply)
  | .slash => some (some .divide)
  | .doubleSlash => some none
  | .percent => some (some .remainder)
  | _ => none

/-- Reads the words of a comparison. -/
def comparison? : List Token → Option (List Token)
  | .keyword .in_ :: ts => some ts
  | .keyword .not_ :: .keyword .in_ :: ts => some ts
  | .keyword .is_ :: .keyword .not_ :: ts => some ts
  | .keyword .is_ :: ts => some ts
  | _ => none

/-- Reads the words that open a clause of a generator. -/
def clauseStart? : List Token → Option (List Token)
  | .keyword .for_ :: ts => some ts
  | .keyword .async_ :: .keyword .for_ :: ts => some ts
  | _ => none

/-- Whether something stands here that makes what is before it a part of a larger target. -/
def continuesTarget : List Token → Bool
  | .leftParen :: _ => true
  | .point :: _ => true
  | _ => false

mutual

/-- An expression: a disjunction, perhaps with a condition and an alternative. -/
def expression : Nat → List Token → Reading
  | 0, _ => none
  | n + 1, ts =>
    match disjunction n ts with
    | some (_, .keyword .if_ :: ts) =>
      match disjunction n ts with
      | some (_, .keyword .else_ :: ts) => (expression n ts).map fun r => (.other, r.2)
      | _ => none
    | r => r

/-- A conjunction, perhaps with others behind `or`. -/
def disjunction : Nat → List Token → Reading
  | 0, _ => none
  | n + 1, ts =>
    match conjunction n ts with
    | some (_, .keyword .or_ :: ts) => (disjunction n ts).map fun r => (.other, r.2)
    | r => r

/-- A negation, perhaps with others behind `and`. -/
def conjunction : Nat → List Token → Reading
  | 0, _ => none
  | n + 1, ts =>
    match negated n ts with
    | some (_, .keyword .and_ :: ts) => (conjunction n ts).map fun r => (.other, r.2)
    | r => r

/-- A comparison, perhaps behind `not`. -/
def negated : Nat → List Token → Reading
  | 0, _ => none
  | n + 1, .keyword .not_ :: ts => (negated n ts).map fun r => (.negation r.1, r.2)
  | n + 1, ts => comparison n ts

/-- A sum, perhaps compared with others. -/
def comparison : Nat → List Token → Reading
  | 0, _ => none
  | n + 1, ts =>
    match sum n ts with
    | some (p, ts) =>
      match comparison? ts with
      | some ts => (comparison n ts).map fun r => (.other, r.2)
      | none => some (p, ts)
    | none => none

/-- A sum of terms. -/
def sum : Nat → List Token → Reading
  | 0, _ => none
  | n + 1, ts =>
    match term n ts with
    | some (p, ts) => sumRest n p ts
    | none => none

/-- What follows the first terms of a sum. -/
def sumRest : Nat → Phrase → List Token → Reading
  | 0, _, _ => none
  | _ + 1, p, [] => some (p, [])
  | n + 1, p, t :: ts =>
    match sumOperator? t with
    | some op =>
      match term n ts with
      | some (q, ts) => sumRest n (.binary (some op) p q) ts
      | none => none
    | none => some (p, t :: ts)

/-- A term: factors with operators between them. -/
def term : Nat → List Token → Reading
  | 0, _ => none
  | n + 1, ts =>
    match factor n ts with
    | some (p, ts) => termRest n p ts
    | none => none

/-- What follows the first factors of a term. -/
def termRest : Nat → Phrase → List Token → Reading
  | 0, _, _ => none
  | _ + 1, p, [] => some (p, [])
  | n + 1, p, t :: ts =>
    match termOperator? t with
    | some op =>
      match factor n ts with
      | some (q, ts) => termRest n (.binary op p q) ts
      | none => none
    | none => some (p, t :: ts)

/-- A power, perhaps behind signs. -/
def factor : Nat → List Token → Reading
  | 0, _ => none
  | n + 1, .plus :: ts => (factor n ts).map fun r => (.sign false r.1, r.2)
  | n + 1, .minus :: ts => (factor n ts).map fun r => (.sign true r.1, r.2)
  | n + 1, ts => power n ts

/-- A primary, perhaps raised to a factor. -/
def power : Nat → List Token → Reading
  | 0, _ => none
  | n + 1, ts =>
    match awaited n ts with
    | some (p, .doubleStar :: ts) => (factor n ts).map fun r => (.binary (some .power) p r.1, r.2)
    | r => r

/-- A primary, perhaps behind `await`. -/
def awaited : Nat → List Token → Reading
  | 0, _ => none
  | n + 1, .keyword .await_ :: ts => (primary n ts).map fun r => (.other, r.2)
  | n + 1, ts => primary n ts

/-- An atom with attributes and calls behind it. -/
def primary : Nat → List Token → Reading
  | 0, _ => none
  | n + 1, ts =>
    match atom n ts with
    | some (p, ts) => primaryRest n p ts
    | none => none

/-- The attributes and calls behind a phrase. -/
def primaryRest : Nat → Phrase → List Token → Reading
  | 0, _, _ => none
  | n + 1, _, .point :: ts =>
    match attribute? ts with
    | some ts => primaryRest n .other ts
    | none => none
  | n + 1, p, .leftParen :: ts =>
    match callRest n p ts with
    | some (p, ts) => primaryRest n p ts
    | none => none
  | _ + 1, p, ts => some (p, ts)

/-- The arguments of a call of `f`, up to the closing parenthesis. -/
def callRest : Nat → Phrase → List Token → Reading
  | 0, _, _ => none
  | _ + 1, f, .rightParen :: ts => some (.call f [] false, ts)
  | n + 1, f, .star :: ts => arguments n f [] (.star :: ts)
  | n + 1, f, .doubleStar :: ts => arguments n f [] (.doubleStar :: ts)
  | n + 1, f, ts =>
    match expression n ts with
    | some (p, rest) =>
      match clauseStart? rest with
      | some rest =>
        match clauses n rest with
        | some (.rightParen :: ts) => some (.call f [.other] false, ts)
        | _ => none
      | none => argumentsRest n f [p] rest
    | none => none

/-- The next argument of a call of `f`; `before` holds those already read, the last one first. -/
def arguments : Nat → Phrase → List Phrase → List Token → Reading
  | 0, _, _, _ => none
  | n + 1, f, before, .star :: ts =>
    match expression n ts with
    | some (_, ts) => argumentsRest n f (.unpacked :: before) ts
    | none => none
  | n + 1, f, before, .doubleStar :: ts =>
    match expression n ts with
    | some (_, ts) => namedRest n f before ts
    | none => none
  | n + 1, f, before, ts =>
    match expression n ts with
    | some (p, ts) => argumentsRest n f (p :: before) ts
    | none => none

/-- What follows an argument: the end of the call, or a comma with or without a further argument. -/
def argumentsRest : Nat → Phrase → List Phrase → List Token → Reading
  | 0, _, _, _ => none
  | _ + 1, f, before, .rightParen :: ts => some (.call f before.reverse false, ts)
  | _ + 1, f, before, .comma :: .rightParen :: ts => some (.call f before.reverse false, ts)
  | n + 1, f, before, .comma :: ts => arguments n f before ts
  | _ + 1, _, _, _ => none

/-- What follows named arguments that are unpacked: the end of the call, or more of them. -/
def namedRest : Nat → Phrase → List Phrase → List Token → Reading
  | 0, _, _, _ => none
  | _ + 1, f, before, .rightParen :: ts => some (.call f before.reverse true, ts)
  | _ + 1, f, before, .comma :: .rightParen :: ts => some (.call f before.reverse true, ts)
  | n + 1, f, before, .comma :: .doubleStar :: ts =>
    match expression n ts with
    | some (_, ts) => namedRest n f before ts
    | none => none
  | _ + 1, _, _, _ => none

/-- A number, a name, a fixed value, or something in parentheses. -/
def atom : Nat → List Token → Reading
  | 0, _ => none
  | _ + 1, .number text imaginary :: ts => some (.number text imaginary, ts)
  | _ + 1, .name text :: ts => some (.name text, ts)
  | _ + 1, .constant :: ts => some (.constant, ts)
  | _ + 1, .ellipsis :: ts => some (.constant, ts)
  | n + 1, .leftParen :: ts => parenthesized n ts
  | _ + 1, _ => none

/-- What stands behind an opening parenthesis: a tuple, a suspended value, a generator, or an
expression, which stays what it is. -/
def parenthesized : Nat → List Token → Reading
  | 0, _ => none
  | _ + 1, .rightParen :: ts => some (.other, ts)
  | n + 1, .keyword .yield_ :: ts => suspended n ts
  | n + 1, .star :: ts =>
    match sum n ts with
    | some (_, .comma :: ts) => tupleRest n ts
    | _ => none
  | n + 1, ts =>
    match expression n ts with
    | some (p, .rightParen :: ts) => some (p, ts)
    | some (_, .comma :: ts) => tupleRest n ts
    | some (_, rest) =>
      match clauseStart? rest with
      | some rest =>
        match clauses n rest with
        | some (.rightParen :: ts) => some (.other, ts)
        | _ => none
      | none => none
    | none => none

/-- The further items of a tuple, behind a comma. -/
def tupleRest : Nat → List Token → Reading
  | 0, _ => none
  | _ + 1, .rightParen :: ts => some (.other, ts)
  | n + 1, ts =>
    match tupleItem n ts with
    | some (.rightParen :: ts) => some (.other, ts)
    | some (.comma :: ts) => tupleRest n ts
    | _ => none

/-- An item of a tuple, perhaps unpacked. -/
def tupleItem : Nat → List Token → Option (List Token)
  | 0, _ => none
  | n + 1, .star :: ts => (sum n ts).map (·.2)
  | n + 1, ts => (expression n ts).map (·.2)

/-- A suspended value in parentheses, behind its keyword. -/
def suspended : Nat → List Token → Reading
  | 0, _ => none
  | _ + 1, .rightParen :: ts => some (.other, ts)
  | n + 1, .keyword .from_ :: ts =>
    match expression n ts with
    | some (_, .rightParen :: ts) => some (.other, ts)
    | _ => none
  | n + 1, ts =>
    match tupleItem n ts with
    | some (.rightParen :: ts) => some (.other, ts)
    | some (.comma :: ts) => tupleRest n ts
    | _ => none

/-- The clauses of a generator, behind the word that opens the first of them. -/
def clauses : Nat → List Token → Option (List Token)
  | 0, _ => none
  | n + 1, ts =>
    match targets n ts with
    | some (.keyword .in_ :: ts) =>
      match disjunction n ts with
      | some (_, ts) => clausesRest n ts
      | none => none
    | _ => none

/-- The conditions and further clauses of a generator. -/
def clausesRest : Nat → List Token → Option (List Token)
  | 0, _ => none
  | n + 1, .keyword .if_ :: ts =>
    match disjunction n ts with
    | some (_, ts) => clausesRest n ts
    | none => none
  | n + 1, ts =>
    match clauseStart? ts with
    | some ts => clauses n ts
    | none => some ts

/-- Targets with commas between them, perhaps with a comma at the end. -/
def targets : Nat → List Token → Option (List Token)
  | 0, _ => none
  | n + 1, ts =>
    match target n ts with
    | some (.comma :: ts) =>
      match targets n ts with
      | some rest => some rest
      | none => some ts
    | r => r

/-- A target, perhaps unpacked. -/
def target : Nat → List Token → Option (List Token)
  | 0, _ => none
  | n + 1, .star :: ts => plainTarget n ts
  | n + 1, ts => plainTarget n ts

/-- A target without a star: a name, targets in parentheses, or an attribute of any atom. -/
def plainTarget : Nat → List Token → Option (List Token)
  | 0, _ => none
  | n + 1, ts =>
    match attributeTarget n ts with
    | some rest => some rest
    | none =>
      match ts with
      | .name _ :: rest => some rest
      | .leftParen :: .rightParen :: rest => some rest
      | .leftParen :: .star :: rest =>
        match plainTarget n rest with
        | some (.comma :: rest) => closedTargets n rest
        | _ => none
      | .leftParen :: rest =>
        match plainTarget n rest with
        | some (.rightParen :: rest) => some rest
        | some (.comma :: rest) => closedTargets n rest
        | _ => none
      | _ => none

/-- Further targets up to a closing parenthesis. -/
def closedTargets : Nat → List Token → Option (List Token)
  | 0, _ => none
  | _ + 1, .rightParen :: ts => some ts
  | n + 1, ts =>
    match targets n ts with
    | some (.rightParen :: ts) => some ts
    | _ => none

/-- An attribute of an atom, of a call or of another attribute. -/
def attributeTarget : Nat → List Token → Option (List Token)
  | 0, _ => none
  | n + 1, ts =>
    match atom n ts with
    | some (_, ts) => attributeTargetRest n ts
    | none => none

/-- What follows the start of an attribute: it has to end with a point and a name. -/
def attributeTargetRest : Nat → List Token → Option (List Token)
  | 0, _ => none
  | n + 1, .point :: ts =>
    match attribute? ts with
    | some ts => if continuesTarget ts then attributeTargetRest n ts else some ts
    | none => none
  | n + 1, .leftParen :: ts =>
    match callRest n .other ts with
    | some (_, ts) => attributeTargetRest n ts
    | none => none
  | _ + 1, _ => none

end

/-- How many steps the longest reading of that many tokens can take. -/
def stepsFor (tokens : Nat) : Nat :=
  16 * tokens + 16

/-- Reads expressions with commas between them, up to the end. -/
def tupleItems (steps : Nat) : Nat → List Token → Option Unit
  | 0, _ => none
  | _ + 1, [] => some ()
  | n + 1, ts =>
    match expression steps ts with
    | some (_, []) => some ()
    | some (_, .comma :: ts) => tupleItems steps n ts
    | _ => none

/-- The phrase that all the tokens together are. -/
def ofTokens? (ts : List Token) : Option Phrase :=
  let steps := stepsFor ts.length
  match expression steps ts with
  | some (p, []) => some p
  | some (_, .comma :: rest) => (tupleItems steps (ts.length + 1) rest).map fun _ => .other
  | _ => none

end Phrase

end UnitConversion.Formula
