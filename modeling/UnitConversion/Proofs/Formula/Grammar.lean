import UnitConversion.Formula.Grammar
import Mathlib.Tactic.Common

/-!
# The numbers of a phrase

Whatever the grammar reads, it makes up no numbers: those of a phrase stand among the tokens that it
was read from. So does whatever is left to read. There is one case for each function of the grammar,
by induction on the steps.

* `Phrase.EachNumber`, `Token.EachNumber`: a property of all numbers of a phrase, and of some
  tokens.
* `Phrase.eachNumber_of_ofTokens?`: a property of the numbers among the tokens is one of the numbers
  of the phrase.
-/

namespace UnitConversion.Formula

/-- Whether all numbers among some tokens have a property. -/
def Token.EachNumber (P : List Char → Prop) (ts : List Token) : Prop :=
  ∀ text imaginary, Token.number text imaginary ∈ ts → P text

variable {P : List Char → Prop}

theorem Token.eachNumber_cons (t : Token) (ts : List Token) : EachNumber P (t :: ts) ↔
    (∀ text imaginary, t = .number text imaginary → P text) ∧ EachNumber P ts := by
  simp only [EachNumber, List.mem_cons]
  grind

namespace Phrase

mutual

/-- Whether all numbers that are operands or arguments in a phrase have a property. -/
def EachNumber (P : List Char → Prop) : Phrase → Prop
  | .number text _ => P text
  | .sign _ operand => operand.EachNumber P
  | .negation operand => operand.EachNumber P
  | .binary _ left right => left.EachNumber P ∧ right.EachNumber P
  | .call _ arguments _ => EachNumberAll P arguments
  | .constant => True
  | .name _ => True
  | .unpacked => True
  | .other => True

/-- Whether all numbers in some phrases have a property. -/
def EachNumberAll (P : List Char → Prop) : List Phrase → Prop
  | [] => True
  | p :: ps => p.EachNumber P ∧ EachNumberAll P ps

end

theorem eachNumberAll_iff {ps : List Phrase} : EachNumberAll P ps ↔ ∀ p ∈ ps, p.EachNumber P := by
  induction ps with
  | nil => simp [EachNumberAll]
  | cons p ps ih => simp [EachNumberAll, ih]

/-- Whether what reads a phrase from tokens whose numbers have a property keeps it, in the phrase
and in the tokens that are left. -/
def Keeps (P : List Char → Prop) (read : List Token → Reading) : Prop :=
  ∀ ts r, Token.EachNumber P ts → read ts = some r → r.1.EachNumber P ∧ Token.EachNumber P r.2

/-- Whether what skips tokens leaves numbers with a property, if it is given such numbers. -/
def Leaves (P : List Char → Prop) (skip : List Token → Option (List Token)) : Prop :=
  ∀ ts rest, Token.EachNumber P ts → skip ts = some rest → Token.EachNumber P rest

section

attribute [local grind =] EachNumber eachNumberAll_iff Token.eachNumber_cons Option.map_eq_some_iff

theorem attribute?_leaves : Leaves P attribute? := by
  intro ts rest hts h
  unfold attribute? at h
  grind

theorem comparison?_leaves : Leaves P comparison? := by
  intro ts rest hts h
  unfold comparison? at h
  grind

theorem clauseStart?_leaves : Leaves P clauseStart? := by
  intro ts rest hts h
  unfold clauseStart? at h
  grind

mutual

theorem expression_keeps : ∀ n : Nat, Keeps P (expression n)
  | 0 => by rintro _ _ - ⟨⟩
  | n + 1 => by
      have hdisjunction := disjunction_keeps n
      have hexpression := expression_keeps n
      intro ts r hts h
      unfold expression at h
      grind [Keeps, Leaves]

theorem disjunction_keeps : ∀ n : Nat, Keeps P (disjunction n)
  | 0 => by rintro _ _ - ⟨⟩
  | n + 1 => by
      have hconjunction := conjunction_keeps n
      have hdisjunction := disjunction_keeps n
      intro ts r hts h
      unfold disjunction at h
      grind [Keeps, Leaves]

theorem conjunction_keeps : ∀ n : Nat, Keeps P (conjunction n)
  | 0 => by rintro _ _ - ⟨⟩
  | n + 1 => by
      have hnegated := negated_keeps n
      have hconjunction := conjunction_keeps n
      intro ts r hts h
      unfold conjunction at h
      grind [Keeps, Leaves]

theorem negated_keeps : ∀ n : Nat, Keeps P (negated n)
  | 0 => by rintro _ _ - ⟨⟩
  | n + 1 => by
      have hnegated := negated_keeps n
      have hcomparison := comparison_keeps n
      intro ts r hts h
      unfold negated at h
      grind [Keeps, Leaves]

theorem comparison_keeps : ∀ n : Nat, Keeps P (comparison n)
  | 0 => by rintro _ _ - ⟨⟩
  | n + 1 => by
      have hsum := sum_keeps n
      have hcomparison := comparison_keeps n
      have hwords := @comparison?_leaves P
      intro ts r hts h
      unfold comparison at h
      grind [Keeps, Leaves]

theorem sum_keeps : ∀ n : Nat, Keeps P (sum n)
  | 0 => by rintro _ _ - ⟨⟩
  | n + 1 => by
      have hterm := term_keeps n
      have hsumRest := @sumRest_keeps n
      intro ts r hts h
      unfold sum at h
      grind [Keeps, Leaves]

theorem sumRest_keeps : ∀ (n : Nat) {p : Phrase}, p.EachNumber P → Keeps P (sumRest n p)
  | 0, _, _ => by rintro _ _ - ⟨⟩
  | n + 1, p, hp => by
      have hterm := term_keeps n
      have hsumRest := @sumRest_keeps n
      intro ts r hts h
      unfold sumRest at h
      grind [Keeps, Leaves]

theorem term_keeps : ∀ n : Nat, Keeps P (term n)
  | 0 => by rintro _ _ - ⟨⟩
  | n + 1 => by
      have hfactor := factor_keeps n
      have htermRest := @termRest_keeps n
      intro ts r hts h
      unfold term at h
      grind [Keeps, Leaves]

theorem termRest_keeps : ∀ (n : Nat) {p : Phrase}, p.EachNumber P → Keeps P (termRest n p)
  | 0, _, _ => by rintro _ _ - ⟨⟩
  | n + 1, p, hp => by
      have hfactor := factor_keeps n
      have htermRest := @termRest_keeps n
      intro ts r hts h
      unfold termRest at h
      grind [Keeps, Leaves]

theorem factor_keeps : ∀ n : Nat, Keeps P (factor n)
  | 0 => by rintro _ _ - ⟨⟩
  | n + 1 => by
      have hfactor := factor_keeps n
      have hpower := power_keeps n
      intro ts r hts h
      unfold factor at h
      grind [Keeps, Leaves]

theorem power_keeps : ∀ n : Nat, Keeps P (power n)
  | 0 => by rintro _ _ - ⟨⟩
  | n + 1 => by
      have hawaited := awaited_keeps n
      have hfactor := factor_keeps n
      intro ts r hts h
      unfold power at h
      grind [Keeps, Leaves]

theorem awaited_keeps : ∀ n : Nat, Keeps P (awaited n)
  | 0 => by rintro _ _ - ⟨⟩
  | n + 1 => by
      have hprimary := primary_keeps n
      intro ts r hts h
      unfold awaited at h
      grind [Keeps, Leaves]

theorem primary_keeps : ∀ n : Nat, Keeps P (primary n)
  | 0 => by rintro _ _ - ⟨⟩
  | n + 1 => by
      have hatom := atom_keeps n
      have hprimaryRest := @primaryRest_keeps n
      intro ts r hts h
      unfold primary at h
      grind [Keeps, Leaves]

theorem primaryRest_keeps : ∀ (n : Nat) {p : Phrase}, p.EachNumber P → Keeps P (primaryRest n p)
  | 0, _, _ => by rintro _ _ - ⟨⟩
  | n + 1, p, hp => by
      have hprimaryRest := @primaryRest_keeps n
      have hcallRest := @callRest_keeps n
      have hname := @attribute?_leaves P
      intro ts r hts h
      unfold primaryRest at h
      grind [Keeps, Leaves]

theorem callRest_keeps : ∀ (n : Nat) {f : Phrase}, Keeps P (callRest n f)
  | 0, _ => by rintro _ _ - ⟨⟩
  | n + 1, f => by
      have hexpression := expression_keeps n
      have harguments := @arguments_keeps n
      have hargumentsRest := @argumentsRest_keeps n
      have hclauses := clauses_leaves n
      have hwords := @clauseStart?_leaves P
      have hother : (Phrase.call f [.other] false).EachNumber P := by
        simp [EachNumber, EachNumberAll]
      intro ts r hts h
      unfold callRest at h
      grind [Keeps, Leaves]

theorem arguments_keeps :
    ∀ (n : Nat) {f : Phrase} {before : List Phrase}, (∀ p ∈ before, p.EachNumber P) →
    Keeps P (arguments n f before)
  | 0, _, _, _ => by rintro _ _ - ⟨⟩
  | n + 1, f, before, hbefore => by
      have hexpression := expression_keeps n
      have hargumentsRest := @argumentsRest_keeps n
      have hnamedRest := @namedRest_keeps n
      intro ts r hts h
      unfold arguments at h
      grind [Keeps, Leaves]

theorem argumentsRest_keeps : ∀ (n : Nat) {f : Phrase} {before : List Phrase},
    (∀ p ∈ before, p.EachNumber P) → Keeps P (argumentsRest n f before)
  | 0, _, _, _ => by rintro _ _ - ⟨⟩
  | n + 1, f, before, hbefore => by
      have harguments := @arguments_keeps n
      intro ts r hts h
      unfold argumentsRest at h
      grind [Keeps, Leaves]

theorem namedRest_keeps :
    ∀ (n : Nat) {f : Phrase} {before : List Phrase}, (∀ p ∈ before, p.EachNumber P) →
    Keeps P (namedRest n f before)
  | 0, _, _, _ => by rintro _ _ - ⟨⟩
  | n + 1, f, before, hbefore => by
      have hexpression := expression_keeps n
      have hnamedRest := @namedRest_keeps n
      intro ts r hts h
      unfold namedRest at h
      grind [Keeps, Leaves]

theorem atom_keeps : ∀ n : Nat, Keeps P (atom n)
  | 0 => by rintro _ _ - ⟨⟩
  | n + 1 => by
      have hparenthesized := parenthesized_keeps n
      intro ts r hts h
      unfold atom at h
      grind [Keeps, Leaves]

theorem parenthesized_keeps : ∀ n : Nat, Keeps P (parenthesized n)
  | 0 => by rintro _ _ - ⟨⟩
  | n + 1 => by
      have hexpression := expression_keeps n
      have hsum := sum_keeps n
      have htupleRest := tupleRest_keeps n
      have hsuspended := suspended_keeps n
      have hclauses := clauses_leaves n
      have hwords := @clauseStart?_leaves P
      intro ts r hts h
      unfold parenthesized at h
      grind [Keeps, Leaves]

theorem tupleRest_keeps : ∀ n : Nat, Keeps P (tupleRest n)
  | 0 => by rintro _ _ - ⟨⟩
  | n + 1 => by
      have htupleItem := tupleItem_leaves n
      have htupleRest := tupleRest_keeps n
      intro ts r hts h
      unfold tupleRest at h
      grind [Keeps, Leaves]

theorem tupleItem_leaves : ∀ n : Nat, Leaves P (tupleItem n)
  | 0 => by rintro _ _ - ⟨⟩
  | n + 1 => by
      have hsum := sum_keeps n
      have hexpression := expression_keeps n
      intro ts r hts h
      unfold tupleItem at h
      grind [Keeps, Leaves]

theorem suspended_keeps : ∀ n : Nat, Keeps P (suspended n)
  | 0 => by rintro _ _ - ⟨⟩
  | n + 1 => by
      have hexpression := expression_keeps n
      have htupleItem := tupleItem_leaves n
      have htupleRest := tupleRest_keeps n
      intro ts r hts h
      unfold suspended at h
      grind [Keeps, Leaves]

theorem clauses_leaves : ∀ n : Nat, Leaves P (clauses n)
  | 0 => by rintro _ _ - ⟨⟩
  | n + 1 => by
      have htargets := targets_leaves n
      have hdisjunction := disjunction_keeps n
      have hclausesRest := clausesRest_leaves n
      intro ts r hts h
      unfold clauses at h
      grind [Keeps, Leaves]

theorem clausesRest_leaves : ∀ n : Nat, Leaves P (clausesRest n)
  | 0 => by rintro _ _ - ⟨⟩
  | n + 1 => by
      have hdisjunction := disjunction_keeps n
      have hclausesRest := clausesRest_leaves n
      have hclauses := clauses_leaves n
      have hwords := @clauseStart?_leaves P
      intro ts r hts h
      unfold clausesRest at h
      grind [Keeps, Leaves]

theorem targets_leaves : ∀ n : Nat, Leaves P (targets n)
  | 0 => by rintro _ _ - ⟨⟩
  | n + 1 => by
      have htarget := target_leaves n
      have htargets := targets_leaves n
      intro ts r hts h
      unfold targets at h
      grind [Keeps, Leaves]

theorem target_leaves : ∀ n : Nat, Leaves P (target n)
  | 0 => by rintro _ _ - ⟨⟩
  | n + 1 => by
      have hplainTarget := plainTarget_leaves n
      intro ts r hts h
      unfold target at h
      grind [Keeps, Leaves]

theorem plainTarget_leaves : ∀ n : Nat, Leaves P (plainTarget n)
  | 0 => by rintro _ _ - ⟨⟩
  | n + 1 => by
      have hattributeTarget := attributeTarget_leaves n
      have hplainTarget := plainTarget_leaves n
      have hclosedTargets := closedTargets_leaves n
      intro ts r hts h
      unfold plainTarget at h
      grind [Keeps, Leaves]

theorem closedTargets_leaves : ∀ n : Nat, Leaves P (closedTargets n)
  | 0 => by rintro _ _ - ⟨⟩
  | n + 1 => by
      have htargets := targets_leaves n
      intro ts r hts h
      unfold closedTargets at h
      grind [Keeps, Leaves]

theorem attributeTarget_leaves : ∀ n : Nat, Leaves P (attributeTarget n)
  | 0 => by rintro _ _ - ⟨⟩
  | n + 1 => by
      have hatom := atom_keeps n
      have hattributeTargetRest := attributeTargetRest_leaves n
      intro ts r hts h
      unfold attributeTarget at h
      grind [Keeps, Leaves]

theorem attributeTargetRest_leaves : ∀ n : Nat, Leaves P (attributeTargetRest n)
  | 0 => by rintro _ _ - ⟨⟩
  | n + 1 => by
      have hcallRest := @callRest_keeps n
      have hattributeTargetRest := attributeTargetRest_leaves n
      have hname := @attribute?_leaves P
      intro ts r hts h
      unfold attributeTargetRest at h
      grind [Keeps, Leaves]

end

/-- The numbers of what all the tokens together are stand among them. -/
theorem eachNumber_of_ofTokens? {ts : List Token} {p : Phrase} (hts : Token.EachNumber P ts)
    (h : ofTokens? ts = some p) : p.EachNumber P := by
  have hexpression := expression_keeps (P := P) (stepsFor ts.length)
  unfold ofTokens? at h
  grind [Keeps]

end

end Phrase

end UnitConversion.Formula
