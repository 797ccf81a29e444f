import UnitConversion.Proofs.Decimal.Order
import UnitConversion.Proofs.Formula.Affine
import UnitConversion.Proofs.Formula.Soundness

/-!
# Formulas that need no rounding

A formula that is built from literals, the unknown, signs, the four operations, absolute values and
choices has an exact value at a rational, unless a divisor is zero. If the exact value of every part
of it is a number that the context has room for, then no step of an evaluation rounds, and what
comes out is the exact value.

* `Expr.rational?`: the exact value of an expression.
* `Presentable`: the rationals that the context of conversions has room for, subnormal numbers
  apart.
* `Context.Rounds.denotes`: a rounding leaves a presentable number as it is.
* `Expr.evaluate_denotes`: an expression whose parts are presentable is evaluated to its exact
  value.
* `Formula.evaluate_eq_rational`: so is a formula.
-/

namespace UnitConversion

/-- Whether a rational is zero or of normal size, and can be written with as many digits as the
context of conversions keeps. -/
structure Presentable (q : Rat) : Prop where
  size : q = 0 ∨ 10 ^ minExponent ≤ |q| ∧ |q| ≤ 10 ^ maxExponent
  digits : ∃ n e : Int, |n| < 10 ^ Context.conversion.precision ∧ q = n * 10 ^ e

namespace Presentable

variable {q : Rat}

/-- A presentable number is one of the context. -/
theorem exists_fits (h : Presentable q) : ∃ d, Context.conversion.Fits d ∧ d.value = q := by
  rcases h.size with rfl | ⟨hlow, hhigh⟩
  · have hfits : Context.conversion.Fits (.finite false 0 0) :=
      ⟨by decide, by decide, fun hne => absurd rfl hne⟩
    exact ⟨_, hfits, (Decimal.value_finite_eq_zero_iff ..).2 rfl⟩
  obtain ⟨n, e, hn, rfl⟩ := h.digits
  have hvalue : (Decimal.finite (decide (n < 0)) n.natAbs e).value = n * 10 ^ e := by
    rw [Decimal.value_eq_signed, Decimal.signed_natAbs n _ fun _ => rfl]
  rw [← hvalue, Decimal.abs_value_finite] at hlow hhigh
  have hcoefficient : n.natAbs ≠ 0 := by
    intro hzero
    rw [hzero, Decimal.magnitude_zero] at hlow
    exact absurd hlow (not_le.2 (by positivity))
  have hcount : digitCount n.natAbs ≤ Context.conversion.precision := by
    rw [digitCount_le_iff (by decide)]
    zify
    exact hn
  -- The leading digit is in range, so the last one, which is at most thirty-nine places below, is
  -- too.
  have hleast : minExponent ≤ Decimal.adjusted n.natAbs e :=
    (Decimal.le_adjusted_iff hcoefficient e _).2 hlow
  have hgreatest : Decimal.adjusted n.natAbs e < maxExponent + 1 :=
    (Decimal.adjusted_lt_iff hcoefficient e _).2
      (hhigh.trans_lt (zpow_lt_zpow_right₀ (by norm_num) (by omega)))
  refine ⟨.finite (decide (n < 0)) n.natAbs e, ⟨hcount, by omega, fun _ => ?_⟩, hvalue⟩
  unfold Decimal.adjusted at hleast
  unfold Context.leastExponent
  omega

/-- A number with few digits is presentable, if they stand far from the ends of the range of
exponents. -/
theorem of_scaled {n e : Int} (hn : |n| < 10 ^ Context.conversion.precision) (he : |e| ≤ 1000) :
    Presentable (n * 10 ^ e) := by
  refine ⟨?_, n, e, hn, rfl⟩
  obtain ⟨hleast, hgreatest⟩ := abs_le.1 he
  by_cases hzero : n = 0
  · left
    rw [hzero, Int.cast_zero, zero_mul]
  right
  have hpow : (0 : Rat) < 10 ^ e := by positivity
  have hlow : (1 : Rat) ≤ |(n : Rat)| := by exact_mod_cast Int.one_le_abs hzero
  have hhigh : |(n : Rat)| ≤ 10 ^ (40 : Int) := by exact_mod_cast hn.le
  rw [abs_mul, abs_of_pos hpow]
  constructor
  · calc (10 : Rat) ^ minExponent ≤ 10 ^ e :=
      zpow_le_zpow_right₀ (by norm_num) (by unfold minExponent; omega)
      _ ≤ |(n : Rat)| * 10 ^ e := le_mul_of_one_le_left hpow.le hlow
  · calc |(n : Rat)| * 10 ^ e ≤ 10 ^ (40 : Int) * 10 ^ e := by gcongr
      _ = 10 ^ (40 + e) := (zpow_add₀ (by norm_num) _ _).symm
      _ ≤ 10 ^ maxExponent := zpow_le_zpow_right₀ (by norm_num) (by unfold maxExponent; omega)

end Presentable

/-- What rounds a presentable number returns it. -/
theorem Context.Rounds.denotes {result : Except Signal Decimal} {q : Rat}
    (h : Context.conversion.Rounds result q) (hq : Presentable q) :
    ∃ d, result = .ok d ∧ Denotes d q := by
  obtain ⟨d, hfits, rfl⟩ := hq.exists_fits
  obtain ⟨r, hr, hfinite, hvalue⟩ := h.exists_same hfits
  exact ⟨r, hr, hfinite, hvalue⟩

namespace Formula

/-! ### Exact values -/

/-- The exact result of an operator, where it has one. Remainders and powers are not looked at. -/
def Operator.rational? (op : Operator) (a b : Rat) : Option Rat :=
  match op with
  | add => some (a + b)
  | subtract => some (a - b)
  | multiply => some (a * b)
  | divide => if b = 0 then none else some (a / b)
  | remainder => none
  | power => none

/-- The exact result of a function, where it has one. Square roots are not looked at. -/
def UnaryFunction.rational? (f : UnaryFunction) (a : Rat) : Option Rat :=
  match f with
  | abs => some |a|
  | neg => some (-a)
  | sqrt => none

/-- The one of some rationals that is chosen. -/
def Choice.rational (c : Choice) (a : Rat) (others : List Rat) : Rat :=
  match c with
  | least => others.foldl min a
  | greatest => others.foldl max a

namespace Expr

mutual

/-- The exact value of an expression at a rational, where it has one. -/
def rational? (x : Rat) : Expr Decimal → Option Rat
  | literal d => if d.isFinite then some d.value else none
  | unknown => some x
  | sign negative e => (e.rational? x).map fun a => if negative then -a else a
  | binary op l r => do
    let a ← l.rational? x
    let b ← r.rational? x
    op.rational? a b
  | call f e => (e.rational? x).bind f.rational?
  | powerCall _ _ => none
  | choice c e es => do
    let a ← e.rational? x
    let as ← rationals? x es
    some (c.rational a as)

/-- The exact values of some expressions. -/
def rationals? (x : Rat) : List (Expr Decimal) → Option (List Rat)
  | [] => some []
  | e :: es => do
    let a ← e.rational? x
    let as ← rationals? x es
    some (a :: as)

end

mutual

/-- The expressions that an expression is made of, itself included. -/
def parts {α : Type} : Expr α → List (Expr α)
  | literal a => [literal a]
  | unknown => [unknown]
  | sign negative e => sign negative e :: e.parts
  | binary op l r => binary op l r :: (l.parts ++ r.parts)
  | call f e => call f e :: e.parts
  | powerCall b e => powerCall b e :: (b.parts ++ e.parts)
  | choice c e es => choice c e es :: (e.parts ++ partsAll es)

/-- The expressions that some expressions are made of. -/
def partsAll {α : Type} : List (Expr α) → List (Expr α)
  | [] => []
  | e :: es => e.parts ++ partsAll es

end

/-! ### Steps -/

variable {a b : Decimal} {p q r : Rat}

theorem applyOperator_denotes {op : Operator} (ha : Denotes a p) (hb : Denotes b q)
    (h : op.rational? p q = some r) (hr : Presentable r) :
    ∃ d, applyOperator op a b = .ok d ∧ Denotes d r := by
  obtain ⟨ha, rfl⟩ := ha
  obtain ⟨hb, rfl⟩ := hb
  have hprecision : 0 < Context.conversion.precision := by decide
  cases op with
  | add =>
      obtain rfl := Option.some.inj h
      exact (Decimal.add_rounds hprecision ha hb).denotes hr
  | subtract =>
      obtain rfl := Option.some.inj h
      exact (Decimal.sub_rounds hprecision ha hb).denotes hr
  | multiply =>
      obtain rfl := Option.some.inj h
      exact (Decimal.mul_rounds hprecision ha hb).denotes hr
  | divide =>
      obtain ⟨hzero, rfl⟩ : b.value ≠ 0 ∧ a.value / b.value = r := by
        simpa [Operator.rational?] using h
      exact (Decimal.div_rounds hprecision ha hb hzero).denotes hr
  | remainder => cases h
  | power => cases h

theorem applySign_denotes (negative : Bool) (ha : Denotes a p)
    (hp : Presentable (if negative then -p else p)) :
    ∃ d, applySign negative a = .ok d ∧ Denotes d (if negative then -p else p) := by
  obtain ⟨ha, rfl⟩ := ha
  cases negative with
  | true => exact (Decimal.neg_rounds (by decide) ha).denotes hp
  | false => exact (Decimal.plus_rounds (by decide) ha).denotes hp

theorem applyFunction_denotes {f : UnaryFunction} (ha : Denotes a p) (h : f.rational? p = some r)
    (hr : Presentable r) : ∃ d, applyFunction f a = .ok d ∧ Denotes d r := by
  obtain ⟨ha, rfl⟩ := ha
  cases f with
  | abs =>
      obtain rfl := Option.some.inj h
      exact (Decimal.abs_rounds (by decide) ha).denotes hr
  | neg =>
      obtain rfl := Option.some.inj h
      exact (Decimal.neg_rounds (by decide) ha).denotes hr
  | sqrt => cases h

/-- Choosing the better one of two numbers over and over chooses the better one of their values. -/
theorem foldlM_better_denotes {wanted : Ordering} {select : Rat → Rat → Rat}
    (hselect : ∀ p q, select p q = if compare q p = wanted then q else p) {as : List Decimal}
    {ps : List Rat} (ha : Denotes a p) (has : List.Forall₂ Denotes as ps) :
    ∃ d, as.foldlM (Decimal.better wanted) a = .ok d ∧ Denotes d (ps.foldl select p) := by
  induction has generalizing a p with
  | nil => exact ⟨a, rfl, ha⟩
  | @cons b q as ps hb _ ih =>
      have hbetter : Decimal.better wanted a b = .ok (if compare q p = wanted then b else a) := by
        rw [Decimal.better, Decimal.compare?_eq hb.finite ha.finite, hb.value, ha.value]
      have hchosen : Denotes (if compare q p = wanted then b else a) (select p q) := by
        rw [hselect]
        split
        · exact hb
        · exact ha
      obtain ⟨d, hd, hvalue⟩ := ih hchosen
      exact ⟨d, by rw [List.foldlM_cons, hbetter]; exact hd, hvalue⟩

theorem applyChoice_denotes (c : Choice) {as : List Decimal} {ps : List Rat} (ha : Denotes a p)
    (has : List.Forall₂ Denotes as ps) :
    ∃ d, applyChoice c a as = .ok d ∧ Denotes d (c.rational p ps) := by
  cases c with
  | least =>
      refine foldlM_better_denotes (fun p q => ?_) ha has
      split
      · next hlt => exact min_eq_right (compare_lt_iff_lt.1 hlt).le
      · next hle => exact min_eq_left (not_lt.1 (mt compare_lt_iff_lt.2 hle))
  | greatest =>
      refine foldlM_better_denotes (fun p q => ?_) ha has
      split
      · next hgt => exact max_eq_right (compare_gt_iff_gt.1 hgt).le
      · next hle => exact max_eq_left (not_lt.1 (mt compare_gt_iff_gt.2 hle))

/-! ### Runs -/

/-- Whether an expression has an exact value at a number, and is evaluated to it. -/
def IsExact (x : Decimal) (e : Expr Decimal) : Prop :=
  ∃ d q, e.evaluate x = .ok d ∧ e.rational? x.value = some q ∧ Denotes d q

/-- Whether the exact values of all parts of an expression are presentable. -/
def PresentableParts (x : Rat) (parts : List (Expr Decimal)) : Prop :=
  ∀ e ∈ parts, ∃ q, e.rational? x = some q ∧ Presentable q

mutual

/-- One case for each construction: what it is made of has been evaluated exactly, and its own exact
value is presentable, so the step is not rounded. -/
theorem evaluate_denotes {x : Decimal} (hx : x.isFinite = true) :
    ∀ e : Expr Decimal, PresentableParts x.value e.parts → IsExact x e
  | .literal d, h => by
      obtain ⟨q, hq, -⟩ := h _ List.mem_cons_self
      obtain ⟨hd, rfl⟩ : d.isFinite = true ∧ d.value = q := by simpa [rational?] using hq
      exact ⟨d, d.value, rfl, hq, hd, rfl⟩
  | .unknown, _ => ⟨x, x.value, rfl, rfl, hx, rfl⟩
  | .sign negative e, h => by
      obtain ⟨q, hq, hpresentable⟩ := h _ List.mem_cons_self
      obtain ⟨a, p, ha, hp, hdenotes⟩ := evaluate_denotes hx e fun d hd =>
        h d (List.mem_cons_of_mem _ hd)
      obtain rfl : (if negative then -p else p) = q := by simpa [rational?, hp] using hq
      obtain ⟨d, hd, hvalue⟩ := applySign_denotes negative hdenotes hpresentable
      exact ⟨d, _, by rw [evaluate, ha]; exact hd, hq, hvalue⟩
  | .binary op l r, h => by
      obtain ⟨q, hq, hpresentable⟩ := h _ List.mem_cons_self
      obtain ⟨a, p₁, ha, hp₁, hdenotes₁⟩ := evaluate_denotes hx l fun d hd =>
        h d (List.mem_cons_of_mem _ (List.mem_append_left _ hd))
      obtain ⟨b, p₂, hb, hp₂, hdenotes₂⟩ := evaluate_denotes hx r fun d hd =>
        h d (List.mem_cons_of_mem _ (List.mem_append_right _ hd))
      have hop : op.rational? p₁ p₂ = some q := by simpa [rational?, hp₁, hp₂] using hq
      obtain ⟨d, hd, hvalue⟩ := applyOperator_denotes hdenotes₁ hdenotes₂ hop hpresentable
      exact ⟨d, q, by rw [evaluate, ha, hb]; exact hd, hq, hvalue⟩
  | .call f e, h => by
      obtain ⟨q, hq, hpresentable⟩ := h _ List.mem_cons_self
      obtain ⟨a, p, ha, hp, hdenotes⟩ := evaluate_denotes hx e fun d hd =>
        h d (List.mem_cons_of_mem _ hd)
      have hf : f.rational? p = some q := by simpa [rational?, hp] using hq
      obtain ⟨d, hd, hvalue⟩ := applyFunction_denotes hdenotes hf hpresentable
      exact ⟨d, q, by rw [evaluate, ha]; exact hd, hq, hvalue⟩
  | .powerCall b e, h => by
      obtain ⟨q, hq, -⟩ := h _ List.mem_cons_self
      cases hq
  | .choice c e es, h => by
      obtain ⟨a, p, ha, hp, hdenotes⟩ := evaluate_denotes hx e fun d hd =>
        h d (List.mem_cons_of_mem _ (List.mem_append_left _ hd))
      obtain ⟨as, ps, has, hps, hall⟩ := evaluateAll_denotes hx es fun d hd =>
        h d (List.mem_cons_of_mem _ (List.mem_append_right _ hd))
      obtain ⟨d, hd, hvalue⟩ := applyChoice_denotes c hdenotes hall
      exact ⟨d, c.rational p ps, by rw [evaluate, ha, has]; exact hd,
        by simp [rational?, hp, hps], hvalue⟩

theorem evaluateAll_denotes {x : Decimal} (hx : x.isFinite = true) :
    ∀ es : List (Expr Decimal), PresentableParts x.value (partsAll es) →
      ∃ ds qs, evaluateAll x es = .ok ds ∧ rationals? x.value es = some qs ∧
        List.Forall₂ Denotes ds qs
  | [], _ => ⟨[], [], rfl, rfl, .nil⟩
  | e :: es, h => by
      obtain ⟨a, p, ha, hp, hdenotes⟩ := evaluate_denotes hx e fun d hd =>
        h d (List.mem_append_left _ hd)
      obtain ⟨as, ps, has, hps, hall⟩ := evaluateAll_denotes hx es fun d hd =>
        h d (List.mem_append_right _ hd)
      exact ⟨a :: as, p :: ps, by rw [evaluateAll, ha, has]; rfl, by simp [rationals?, hp, hps],
        .cons hdenotes hall⟩

end

theorem mem_parts_self (e : Expr Decimal) : e ∈ e.parts := by
  cases e <;> exact List.mem_cons_self

end Expr

/-- A formula whose parts all have presentable exact values at a number is evaluated to its exact
value. -/
theorem evaluate_eq_rational (f : Formula) {x : Decimal} (hx : x.isFinite = true)
    (hparts : ∀ e ∈ f.expr.parts, ∃ q, e.rational? x.value = some q ∧ Presentable q) :
    ∃ d q, f.evaluate x = .ok d ∧ f.expr.rational? x.value = some q ∧
      d.isFinite = true ∧ d.value = q := by
  obtain ⟨a, q, ha, hq, hdenotes⟩ := f.expr.evaluate_denotes hx hparts
  obtain ⟨q', hq', hpresentable⟩ := hparts f.expr f.expr.mem_parts_self
  obtain rfl : q = q' := Option.some.inj (hq.symm.trans hq')
  -- Bringing the value into the context is the last step.
  have hrounds : Context.conversion.Rounds (Decimal.plus .conversion a) q :=
    hdenotes.value ▸ Decimal.plus_rounds (by decide) hdenotes.finite
  obtain ⟨d, hd, hfinite, hvalue⟩ := hrounds.denotes hpresentable
  have hresult : value f.expr x = .ok d := by
    rw [value, ha]
    exact hd
  refine ⟨d, q, ?_, hq, hfinite, hvalue⟩
  rw [evaluate, hresult]
  exact if_pos hfinite

/-- A formula that has no part which has to be rounded at `212`, where its value is `100`. -/
theorem boiling_denotes :
    ∃ f d, ofText "max(x - 32, 0) / 1.8" = .ok f ∧ f.evaluate (.ofNat 212) = .ok d ∧
    d.value = 100 := by
  have hread : (ofText "max(x - 32, 0) / 1.8").toOption.any (fun f =>
      f.expr.parts.map (·.rational? 212) = [100, 180, 180, 212, 32, 0, 9 / 5].map some ∧
        f.expr.rational? 212 = some 100) = true := by
    decide +kernel
  obtain ⟨f, hf, hread⟩ := exists_ok_of_any hread
  obtain ⟨hvalues, hvalue⟩ := of_decide_eq_true hread
  have hwhole (n : Int) (hn : |n| < 10 ^ 40) : Presentable n := by
    simpa using Presentable.of_scaled (e := 0) hn (by norm_num)
  have hpresentable : ∀ q ∈ [100, 180, 180, 212, 32, 0, 9 / 5], Presentable q := by
    have hdifference : Presentable 180 := hwhole 180 (by norm_num)
    have hfactor : Presentable (9 / 5) := by
      convert Presentable.of_scaled (n := 18) (e := -1) (by decide) (by decide) using 1
      norm_num
    simp only [List.forall_mem_cons]
    exact ⟨hwhole 100 (by norm_num), hdifference, hdifference, hwhole 212 (by norm_num),
      hwhole 32 (by norm_num), hwhole 0 (by norm_num), hfactor, by simp⟩
  have hboiling : (Decimal.ofNat 212).value = 212 := by
    norm_num [Decimal.ofNat, Decimal.value, Decimal.signed]
  have hparts : ∀ e ∈ f.expr.parts, ∃ q, e.rational? (Decimal.ofNat 212).value = some q ∧
      Presentable q := by
    intro e he
    have hmem : e.rational? 212 ∈ [100, 180, 180, 212, 32, 0, 9 / 5].map some :=
      hvalues ▸ List.mem_map_of_mem he
    obtain ⟨q, hq, hsome⟩ := List.mem_map.1 hmem
    exact ⟨q, by rw [hboiling, ← hsome], hpresentable q hq⟩
  obtain ⟨d, q, hd, hq, -, rfl⟩ := f.evaluate_eq_rational (x := .ofNat 212) rfl hparts
  rw [hboiling, hvalue] at hq
  exact ⟨f, d, hf, hd, (Option.some.inj hq).symm⟩

end Formula

end UnitConversion
