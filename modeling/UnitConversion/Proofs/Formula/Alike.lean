import UnitConversion.Formula.Basic
import UnitConversion.Proofs.Decimal.Power

/-!
# Formulas at alike numbers

The value of a formula depends on the number that its unknown stands for, not on how the number is
written: at alike numbers every step of the evaluation agrees, and so does the value, or the reason
why there is none.

There is one exception. A power whose exponent is not whole is computed with as many digits as its
base has, so a base that is longer than the context may give another last digit than the same number
without the zeros at its end. Results of operations are never so long. Only the unknown itself, or
what a choice makes of it, can be.

* `Expr.levelPowers`: whether no power of an expression takes notice of how two numbers are written.
* `Expr.evaluate_agree`: an expression with level powers has values that agree.
* `Expr.levelPowers_of_alike`: numbers that the context has room for make the powers of every
  expression level.
* `Formula.evaluate_agree_of_level`, `Formula.evaluate_agree`: the values of formulas.
-/

namespace UnitConversion.Formula

open Decimal

/-- Whether two data differ only in how a number of the context of conversions is written. -/
abbrev Alike : Decimal → Decimal → Prop :=
  Decimal.Alike Context.conversion.precision

namespace Expr

/-- Whether a power takes no notice of which of two results its base has. -/
def levelResults : Except Signal Decimal → Except Signal Decimal → Except Signal Decimal → Bool
  | .ok base, .ok base', .ok exponent => levelBases Context.conversion.precision base base' exponent
  | _, _, _ => true

mutual

/-- Whether no power of an expression takes notice of which of the two numbers `x` and `y` the
unknown stands for: each has a whole exponent, or bases that are equally long as far as they have
more digits than the context. -/
def levelPowers (x y : Decimal) : Expr Decimal → Bool
  | literal _ => true
  | unknown => true
  | sign _ e => e.levelPowers x y
  | binary op l r => l.levelPowers x y && r.levelPowers x y &&
      (op != .power || levelResults (l.evaluate x) (l.evaluate y) (r.evaluate x))
  | call _ e => e.levelPowers x y
  | powerCall b e => b.levelPowers x y && e.levelPowers x y &&
      levelResults (b.evaluate x) (b.evaluate y) (e.evaluate x)
  | choice _ e es => e.levelPowers x y && levelPowersAll x y es

/-- Whether this holds of some expressions. -/
def levelPowersAll (x y : Decimal) : List (Expr Decimal) → Bool
  | [] => true
  | e :: es => e.levelPowers x y && levelPowersAll x y es

end

variable {digits : Nat} {a a' b b' : Decimal}

section

variable (hdigits : Context.conversion.precision ≤ digits)

include hdigits

theorem applyOperator_agree (op : Operator) (ha : Decimal.Alike digits a a')
    (hb : Decimal.Alike digits b b')
    (hlevel : op = .power → levelBases Context.conversion.precision a a' b = true) :
    Agree (Decimal.Alike digits) (applyOperator op a b) (applyOperator op a' b') := by
  have hprecision : 0 < Context.conversion.precision := by decide
  cases op with
  | add => exact add_agree hprecision hdigits ha hb
  | subtract => exact sub_agree hprecision hdigits ha hb
  | multiply => exact mul_agree hprecision hdigits ha hb
  | divide => exact div_agree hprecision hdigits ha hb
  | remainder => exact rem_agree hprecision hdigits ha hb
  | power => exact pow_agree hprecision hdigits ha hb (hlevel rfl)

theorem applySign_agree (negative : Bool) (ha : Decimal.Alike digits a a') :
    Agree (Decimal.Alike digits) (applySign negative a) (applySign negative a') := by
  have hprecision : 0 < Context.conversion.precision := by decide
  cases negative with
  | true => exact neg_agree hprecision hdigits ha
  | false => exact plus_agree hprecision hdigits ha

theorem applyFunction_agree (f : UnaryFunction) (ha : Decimal.Alike digits a a') :
    Agree (Decimal.Alike digits) (applyFunction f a) (applyFunction f a') := by
  have hprecision : 0 < Context.conversion.precision := by decide
  cases f with
  | abs => exact abs_agree hprecision hdigits ha
  | neg => exact neg_agree hprecision hdigits ha
  | sqrt => exact sqrt_agree hprecision hdigits ha

/-- Results that agree, with bases that make the power level, have powers that agree. -/
theorem bind_power_agree {r₁ r₁' r₂ r₂' : Except Signal Decimal}
    (h₁ : Agree (Decimal.Alike digits) r₁ r₁') (h₂ : Agree (Decimal.Alike digits) r₂ r₂')
    {op : Operator} (hlevel : op = .power → levelResults r₁ r₁' r₂ = true) :
    Agree (Decimal.Alike digits) (r₁ >>= fun a => r₂ >>= fun b => applyOperator op a b)
      (r₁' >>= fun a => r₂' >>= fun b => applyOperator op a b) := by
  cases h₁ with
  | error signal => exact .error signal
  | ok ha =>
      cases h₂ with
      | error signal => exact .error signal
      | ok hb => exact applyOperator_agree hdigits op ha hb hlevel

end

theorem applyChoice_agree (c : Choice) {as as' : List Decimal} (ha : Decimal.Alike digits a a')
    (has : List.Forall₂ (Decimal.Alike digits) as as') :
    Agree (Decimal.Alike digits) (applyChoice c a as) (applyChoice c a' as') := by
  cases c with
  | least => exact foldlM_better_agree .lt ha has
  | greatest => exact foldlM_better_agree .gt ha has

mutual

/-- One case for each construction: what is evaluated first agrees, so the step that follows is
taken at alike numbers, or is not taken. -/
theorem evaluate_agree (hdigits : Context.conversion.precision ≤ digits) {x y : Decimal}
    (h : Decimal.Alike digits x y) : ∀ e : Expr Decimal, e.levelPowers x y = true →
    Agree (Decimal.Alike digits) (e.evaluate x) (e.evaluate y)
  | .literal d, _ => .ok (.refl d)
  | .unknown, _ => .ok h
  | .sign negative e, hlevel =>
      (evaluate_agree hdigits h e hlevel).bind fun _ _ ha => applySign_agree hdigits negative ha
  | .binary op l r, hlevel => by
      simp only [levelPowers, Bool.and_eq_true, Bool.or_eq_true, bne_iff_ne] at hlevel
      obtain ⟨⟨hl, hr⟩, hpower⟩ := hlevel
      exact bind_power_agree hdigits (evaluate_agree hdigits h l hl)
        (evaluate_agree hdigits h r hr) fun hop =>
        hpower.resolve_left fun hne => hne hop
  | .call f e, hlevel =>
      (evaluate_agree hdigits h e hlevel).bind fun _ _ ha => applyFunction_agree hdigits f ha
  | .powerCall b e, hlevel => by
      simp only [levelPowers, Bool.and_eq_true] at hlevel
      obtain ⟨⟨hb, he⟩, hpower⟩ := hlevel
      exact bind_power_agree hdigits (evaluate_agree hdigits h b hb) (evaluate_agree hdigits h e he)
        fun _ => hpower
  | .choice c e es, hlevel => by
      simp only [levelPowers, Bool.and_eq_true] at hlevel
      exact (evaluate_agree hdigits h e hlevel.1).bind fun _ _ ha =>
        (evaluateAll_agree hdigits h es hlevel.2).bind fun _ _ has => applyChoice_agree c ha has

theorem evaluateAll_agree (hdigits : Context.conversion.precision ≤ digits) {x y : Decimal}
    (h : Decimal.Alike digits x y) : ∀ es : List (Expr Decimal), levelPowersAll x y es = true →
    Agree (List.Forall₂ (Decimal.Alike digits)) (evaluateAll x es) (evaluateAll y es)
  | [], _ => .ok .nil
  | e :: es, hlevel => by
      simp only [levelPowersAll, Bool.and_eq_true] at hlevel
      exact (evaluate_agree hdigits h e hlevel.1).bind fun _ _ ha =>
        (evaluateAll_agree hdigits h es hlevel.2).bind fun _ _ has => .ok (.cons ha has)

end

/-- Bases that agree within the context make every power level. -/
theorem levelResults_of_agree {r r' : Except Signal Decimal} (h : Agree Alike r r')
    (exponent : Except Signal Decimal) : levelResults r r' exponent = true := by
  cases h with
  | error signal => rfl
  | ok ha =>
      cases exponent with
      | error signal => rfl
      | ok b => exact ha.levelBases b

mutual

/-- No operation has a result that is longer than the context has room for, so if the unknown is not
either, then no base of a power is. -/
theorem levelPowers_of_alike {x y : Decimal} (h : Alike x y) :
    ∀ e : Expr Decimal, e.levelPowers x y = true
  | .literal _ => rfl
  | .unknown => rfl
  | .sign _ e => levelPowers_of_alike h e
  | .binary op l r => by
      have hl := levelPowers_of_alike h l
      have hbase := levelResults_of_agree (evaluate_agree le_rfl h l hl) (r.evaluate x)
      simp [levelPowers, hl, levelPowers_of_alike h r, hbase]
  | .call _ e => levelPowers_of_alike h e
  | .powerCall b e => by
      have hb := levelPowers_of_alike h b
      have hbase := levelResults_of_agree (evaluate_agree le_rfl h b hb) (e.evaluate x)
      simp [levelPowers, hb, levelPowers_of_alike h e, hbase]
  | .choice _ e es => by
      simp [levelPowers, levelPowers_of_alike h e, levelPowersAll_of_alike h es]

theorem levelPowersAll_of_alike {x y : Decimal} (h : Alike x y) :
    ∀ es : List (Expr Decimal), levelPowersAll x y es = true
  | [] => rfl
  | e :: es => by simp [levelPowersAll, levelPowers_of_alike h e, levelPowersAll_of_alike h es]

end

end Expr

/-- At alike numbers a formula with level powers has values that are alike, or has none for the same
reason. -/
theorem evaluate_agree_of_level (f : Formula) {digits : Nat}
    (hdigits : Context.conversion.precision ≤ digits) {x y : Decimal} (h : Decimal.Alike digits x y)
    (hlevel : f.expr.levelPowers x y = true) :
    Agree Alike (f.evaluate x) (f.evaluate y) := by
  have hvalue : Agree Alike (value f.expr x) (value f.expr y) :=
    (Expr.evaluate_agree hdigits h f.expr hlevel).bind fun _ _ ha =>
      plus_agree (by decide) le_rfl ha
  -- A value that is infinite or undefined is refused, and it is so in both ways of writing.
  unfold evaluate
  generalize value f.expr x = r at hvalue
  generalize value f.expr y = r' at hvalue
  cases hvalue with
  | error signal => exact .error _
  | ok hr =>
      simp only [hr.isFinite_eq]
      split
      · exact .ok hr
      · exact .error _

/-- Numbers of the context that are alike need no look at the powers. -/
theorem evaluate_agree (f : Formula) {x y : Decimal} (h : Alike x y) :
    Agree Alike (f.evaluate x) (f.evaluate y) :=
  f.evaluate_agree_of_level le_rfl h (f.expr.levelPowers_of_alike h)

end UnitConversion.Formula
