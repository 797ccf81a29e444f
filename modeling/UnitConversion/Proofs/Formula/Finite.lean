import UnitConversion.Proofs.Decimal.Finite
import UnitConversion.Proofs.Formula.Literal

/-!
# Values on the way

A formula is given a value only if the last result is finite. The results before it are finite too,
unless zero is raised to a negative power somewhere: that is an infinity without a signal, and a
quotient, a least or a greatest value can make it disappear again.

* `RaisesZero`: whether an expression is such a power.
* `Formula.hasNumber_parts_iff`: all parts of a formula with a value have finite values, just in
  case none of them is such a power.
* `Formula.infinite_part_disappears`: a formula with a value that has a part with an infinite value.
-/

namespace UnitConversion.Formula

/-- Whether an expression raises zero to a negative power, if its unknown stands for `x`. -/
def RaisesZero (x : Decimal) (e : Expr Decimal) : Prop :=
  ∃ base exponent a b, (e = .binary .power base exponent ∨ e = .powerCall base exponent) ∧
    base.evaluate x = .ok a ∧ exponent.evaluate x = .ok b ∧
    a.isZero = true ∧ b.below (.ofNat 0) = true

/-- Whether an expression has a finite value, if its unknown stands for `x`. -/
def HasNumber (x : Decimal) (e : Expr Decimal) : Prop :=
  ∃ a, e.evaluate x = .ok a ∧ a.isFinite = true

theorem HasNumber.isFinite {x a : Decimal} {e : Expr Decimal} (h : HasNumber x e)
    (ha : e.evaluate x = .ok a) :
    a.isFinite = true := by
  obtain ⟨b, hb, hfinite⟩ := h
  obtain rfl := Except.ok.inj (hb.symm.trans ha)
  exact hfinite

namespace Expr

variable {x a b d : Decimal}

theorem applyOperator_yieldsNumber {op : Operator} (hop : op ≠ .power) (ha : a.isFinite = true)
    (hb : b.isFinite = true) : YieldsNumber (applyOperator op a b) := by
  cases op with
  | add => exact Decimal.add_yieldsNumber ha hb
  | subtract => exact Decimal.sub_yieldsNumber ha hb
  | multiply => exact Decimal.mul_yieldsNumber ha hb
  | divide => exact Decimal.div_yieldsNumber ha hb
  | remainder => exact Decimal.rem_yieldsNumber ha hb
  | power => exact absurd rfl hop

theorem applySign_yieldsNumber (negative : Bool) (ha : a.isFinite = true) :
    YieldsNumber (applySign negative a) := by
  cases negative with
  | true => exact Decimal.neg_yieldsNumber ha
  | false => exact Decimal.plus_yieldsNumber ha

theorem applyFunction_yieldsNumber (f : UnaryFunction) (ha : a.isFinite = true) :
    YieldsNumber (applyFunction f a) := by
  cases f with
  | abs => exact Decimal.abs_yieldsNumber ha
  | neg => exact Decimal.neg_yieldsNumber ha
  | sqrt => exact Decimal.sqrt_yieldsNumber ha

theorem applyChoice_yieldsNumber (c : Choice) {as : List Decimal} (ha : a.isFinite = true)
    (has : ∀ b ∈ as, b.isFinite = true) : YieldsNumber (applyChoice c a as) := by
  cases c with
  | least => exact Decimal.foldlM_better_yieldsNumber ha has
  | greatest => exact Decimal.foldlM_better_yieldsNumber ha has

/-! ### Parts of an expression with a value -/

/-- Whether nothing but the values of its operands can keep an expression from having a finite
value. -/
def IsProper (x : Decimal) (e : Expr Decimal) : Prop :=
  (∀ d, e = .literal d → d.isFinite = true) ∧ ¬RaisesZero x e

mutual

/-- The parts of an expression with a value have finite values, if they are proper. One case for
each construction: the operands have finite values, and so has what is made of them. -/
theorem hasNumber_of_isProper (hx : x.isFinite = true) :
    ∀ (e : Expr Decimal) {d : Decimal}, e.evaluate x = .ok d →
    (∀ p ∈ e.parts, IsProper x p) → ∀ p ∈ e.parts, HasNumber x p
  | .literal d, _, _, hproper => by
      simp only [parts, List.forall_mem_singleton] at hproper ⊢
      exact ⟨d, rfl, hproper.1 d rfl⟩
  | .unknown, _, _, _ => by
      simp only [parts, List.forall_mem_singleton]
      exact ⟨x, rfl, hx⟩
  | .sign negative e, d, hvalue, hproper => by
      obtain ⟨a, ha, hd⟩ := bind_eq_ok hvalue
      rw [parts, List.forall_mem_cons] at hproper ⊢
      have he := hasNumber_of_isProper hx e ha hproper.2
      have hfinite := (he e e.mem_parts_self).isFinite ha
      exact ⟨⟨d, hvalue, applySign_yieldsNumber negative hfinite d hd⟩, he⟩
  | .binary op l r, d, hvalue, hproper => by
      obtain ⟨a, ha, hrest⟩ := bind_eq_ok hvalue
      obtain ⟨b, hb, hd⟩ := bind_eq_ok hrest
      rw [parts, List.forall_mem_cons, List.forall_mem_append] at hproper ⊢
      obtain ⟨⟨-, hpower⟩, hl, hr⟩ := hproper
      have hl := hasNumber_of_isProper hx l ha hl
      have hr := hasNumber_of_isProper hx r hb hr
      have hleft := (hl l l.mem_parts_self).isFinite ha
      have hright := (hr r r.mem_parts_self).isFinite hb
      refine ⟨⟨d, hvalue, ?_⟩, hl, hr⟩
      by_cases hop : op = .power
      · subst hop
        exact Decimal.pow_yieldsNumber hleft hright
          (fun ⟨hzero, hnegative⟩ => hpower ⟨l, r, a, b, .inl rfl, ha, hb, hzero, hnegative⟩) d hd
      · exact applyOperator_yieldsNumber hop hleft hright d hd
  | .call f e, d, hvalue, hproper => by
      obtain ⟨a, ha, hd⟩ := bind_eq_ok hvalue
      rw [parts, List.forall_mem_cons] at hproper ⊢
      have he := hasNumber_of_isProper hx e ha hproper.2
      have hfinite := (he e e.mem_parts_self).isFinite ha
      exact ⟨⟨d, hvalue, applyFunction_yieldsNumber f hfinite d hd⟩, he⟩
  | .powerCall base exponent, d, hvalue, hproper => by
      obtain ⟨a, ha, hrest⟩ := bind_eq_ok hvalue
      obtain ⟨b, hb, hd⟩ := bind_eq_ok hrest
      rw [parts, List.forall_mem_cons, List.forall_mem_append] at hproper ⊢
      obtain ⟨⟨-, hpower⟩, hl, hr⟩ := hproper
      have hl := hasNumber_of_isProper hx base ha hl
      have hr := hasNumber_of_isProper hx exponent hb hr
      have hleft := (hl base base.mem_parts_self).isFinite ha
      have hright := (hr exponent exponent.mem_parts_self).isFinite hb
      refine ⟨⟨d, hvalue, ?_⟩, hl, hr⟩
      exact Decimal.pow_yieldsNumber hleft hright
        (fun ⟨hzero, hnegative⟩ =>
          hpower ⟨base, exponent, a, b, .inr rfl, ha, hb, hzero, hnegative⟩) d hd
  | .choice c e es, d, hvalue, hproper => by
      obtain ⟨a, ha, hrest⟩ := bind_eq_ok hvalue
      obtain ⟨as, has, hd⟩ := bind_eq_ok hrest
      rw [parts, List.forall_mem_cons, List.forall_mem_append] at hproper ⊢
      obtain ⟨-, hfirst, hothers⟩ := hproper
      have hfirst := hasNumber_of_isProper hx e ha hfirst
      obtain ⟨hothers, hfinite⟩ := hasNumber_of_isProperAll hx es has hothers
      have hleft := (hfirst e e.mem_parts_self).isFinite ha
      exact ⟨⟨d, hvalue, applyChoice_yieldsNumber c hleft hfinite d hd⟩, hfirst, hothers⟩

theorem hasNumber_of_isProperAll (hx : x.isFinite = true) :
    ∀ (es : List (Expr Decimal)) {ds : List Decimal},
    evaluateAll x es = .ok ds → (∀ p ∈ partsAll es, IsProper x p) →
      (∀ p ∈ partsAll es, HasNumber x p) ∧ ∀ d ∈ ds, d.isFinite = true
  | [], _, hvalues, _ => by
      obtain rfl := Except.ok.inj hvalues
      simp [partsAll]
  | e :: es, _, hvalues, hproper => by
      obtain ⟨a, ha, hrest⟩ := bind_eq_ok hvalues
      obtain ⟨as, has, hds⟩ := bind_eq_ok hrest
      obtain rfl := Except.ok.inj hds
      rw [partsAll, List.forall_mem_append] at hproper ⊢
      have hfirst := hasNumber_of_isProper hx e ha hproper.1
      obtain ⟨hothers, hfinite⟩ := hasNumber_of_isProperAll hx es has hproper.2
      have hleft := (hfirst e e.mem_parts_self).isFinite ha
      exact ⟨⟨hfirst, hothers⟩, List.forall_mem_cons.2 ⟨hleft, hfinite⟩⟩

end

end Expr

theorem RaisesZero.not_hasNumber {x : Decimal} {e : Expr Decimal} (h : RaisesZero x e) :
    ¬HasNumber x e := by
  obtain ⟨base, exponent, a, b, he, hbase, hexponent, hzero, hnegative⟩ := h
  have hvalue : e.evaluate x = Decimal.pow .conversion a b := by
    rcases he with rfl | rfl <;> rw [Expr.evaluate, hbase, hexponent] <;> rfl
  intro hnumber
  obtain ⟨s, hinfinite⟩ := Decimal.exists_pow_eq_infinite hzero hnegative
  exact absurd (hnumber.isFinite (hvalue.trans hinfinite)) (by simp [Decimal.isFinite])

theorem exists_evaluate_of_evaluate {f : Formula} {x d : Decimal} (h : f.evaluate x = .ok d) :
    ∃ a, f.expr.evaluate x = .ok a := by
  unfold Formula.evaluate at h
  split at h
  · cases h
  · next r hr =>
      obtain ⟨a, ha, -⟩ := bind_eq_ok hr
      exact ⟨a, ha⟩

/-- If a formula has a value at a number, then all its parts have finite values there, unless one of
them raises zero to a negative power. -/
theorem hasNumber_parts_iff {text : String} {f : Formula} {x d : Decimal}
    (hread : ofText text = .ok f) (hx : x.isFinite = true) (hvalue : f.evaluate x = .ok d) :
    (∀ e ∈ f.expr.parts, HasNumber x e) ↔ ∀ e ∈ f.expr.parts, ¬RaisesZero x e := by
  constructor
  · intro hnumbers e he hraises
    exact hraises.not_hasNumber (hnumbers e he)
  · intro hpowers
    obtain ⟨a, ha⟩ := exists_evaluate_of_evaluate hvalue
    refine Expr.hasNumber_of_isProper hx f.expr ha fun p hp => ⟨?_, hpowers p hp⟩
    rintro d rfl
    exact isFinite_of_literal_mem_parts hread hp

/-- A formula with a negative power of a number other than zero. -/
theorem hasNumber_parts_reciprocalSquare : ∃ f d, ofText "(x^-2 + 1)/x" = .ok f ∧
    (Decimal.ofNat 2).isFinite = true ∧ f.evaluate (.ofNat 2) = .ok d ∧
    ((∀ e ∈ f.expr.parts, HasNumber (.ofNat 2) e) ↔
      ∀ e ∈ f.expr.parts, ¬RaisesZero (.ofNat 2) e) := by
  have hread : (ofText "(x^-2 + 1)/x").toOption.any (fun f =>
      (f.evaluate (.ofNat 2)).toOption.any fun d => d = .finite false 625 (-3)) = true := by
    decide +kernel
  obtain ⟨f, hf, hvalue⟩ := exists_ok_of_any hread
  obtain ⟨d, hd, -⟩ := exists_ok_of_any hvalue
  exact ⟨f, d, hf, rfl, hd, hasNumber_parts_iff hf rfl hd⟩

/-- A formula whose value is zero, although a part of it has an infinite value. -/
theorem infinite_part_disappears :
    ∃ f d, ofText "1/x^-1" = .ok f ∧ (Decimal.ofNat 0).isFinite = true ∧
    f.evaluate (.ofNat 0) = .ok d ∧ d.isZero = true ∧
    ∃ e ∈ f.expr.parts, e.evaluate (.ofNat 0) = .ok (.infinite false) := by
  have hread : (ofText "1/x^-1").toOption.any
      (fun f => (f.evaluate (.ofNat 0)).toOption.any Decimal.isZero &&
      f.expr.parts.any fun e => (e.evaluate (.ofNat 0)).toOption.any
        (· = .infinite false)) = true := by
    decide +kernel
  obtain ⟨f, hf, hread⟩ := exists_ok_of_any hread
  rw [Bool.and_eq_true, List.any_eq_true] at hread
  obtain ⟨hvalue, e, he, hpart⟩ := hread
  obtain ⟨d, hd, hzero⟩ := exists_ok_of_any hvalue
  obtain ⟨a, ha, hinfinite⟩ := exists_ok_of_any hpart
  exact ⟨f, d, hf, rfl, hd, hzero, e, he, of_decide_eq_true hinfinite ▸ ha⟩

end UnitConversion.Formula
