import UnitConversion.Formula.Expr
import UnitConversion.Proofs.Decimal.Relative

/-!
# Formulas that multiply and divide by constants

Most formulas only multiply by constants and divide by them, or divide a constant by the unknown.
Such a formula stands for a monomial: a coefficient times the unknown or times its reciprocal.
`Expr.monomial?` finds it, and counts the operations on the way.

* `Within k x`: the size of `x` lies between `10 ^ -k` and `10 ^ k`.
* `Expr.evaluate_near`: an expression with a monomial has a value at every number of moderate size,
  and the value is that of the monomial up to one rounding for each operation.
-/

namespace UnitConversion

/-- Whether the size of a number is between two powers of ten. -/
def Within (k : Nat) (x : Rat) : Prop :=
  1 ≤ |x| * 10 ^ k ∧ |x| ≤ 10 ^ k

namespace Within

variable {j k : Nat} {a b : Rat}

theorem ne_zero (h : Within k a) : a ≠ 0 := by
  rintro rfl
  norm_num [Within] at h

theorem mul (ha : Within j a) (hb : Within k b) : Within (j + k) (a * b) := by
  obtain ⟨halow, hahigh⟩ := ha
  obtain ⟨hblow, hbhigh⟩ := hb
  rw [Within, abs_mul, pow_add]
  constructor
  · calc (1 : Rat) = 1 * 1 := (one_mul 1).symm
      _ ≤ |a| * 10 ^ j * (|b| * 10 ^ k) := mul_le_mul halow hblow zero_le_one (by positivity)
      _ = |a| * |b| * (10 ^ j * 10 ^ k) := by ring
  · exact mul_le_mul hahigh hbhigh (abs_nonneg b) (by positivity)

theorem inv (h : Within k a) : Within k a⁻¹ := by
  have hpos : 0 < |a| := abs_pos.2 h.ne_zero
  obtain ⟨hlow, hhigh⟩ := h
  rw [Within, abs_inv, inv_mul_eq_div, le_div_iff₀ hpos, one_mul,
    inv_le_iff_one_le_mul₀ hpos, mul_comm]
  exact ⟨hhigh, hlow⟩

theorem div (ha : Within j a) (hb : Within k b) : Within (j + k) (a / b) := by
  rw [div_eq_mul_inv]
  exact ha.mul hb.inv

theorem of_near_of_le {n : Nat} (hb : Within k b) (hnear : Near n a b) (hn : n ≤ 32) :
    Within (k + 1) a := by
  have hupper := hnear.le_two_mul hn
  have hlower := hnear.half_le hn
  obtain ⟨hlow, hhigh⟩ := hb
  rw [Within, pow_succ]
  constructor
  · nlinarith [pow_pos (show (0 : Rat) < 10 by norm_num) k]
  · linarith [pow_pos (show (0 : Rat) < 10 by norm_num) k]

theorem mono (hjk : j ≤ k) (h : Within j a) : Within k a := by
  have hpow : (10 : Rat) ^ j ≤ 10 ^ k := pow_le_pow_right₀ (by norm_num) hjk
  exact ⟨h.1.trans (mul_le_mul_of_nonneg_left hpow (abs_nonneg a)), h.2.trans hpow⟩

/-- A number of moderate size is far from the ends of the exponent range. -/
theorem roundable (h : Within k a) (hk : k ≤ 1000) : Roundable a := by
  obtain ⟨hlow, hhigh⟩ := h.mono hk
  have hmin : (10 : Rat) ^ minExponent ≤ 10 ^ (-1000 : Int) :=
    zpow_le_zpow_right₀ (by norm_num) (by norm_num [minExponent])
  have hmax : (10 : Rat) ^ (1000 : Int) < 10 ^ maxExponent :=
    zpow_lt_zpow_right₀ (by norm_num) (by norm_num [maxExponent])
  refine ⟨Or.inr (hmin.trans ?_), lt_of_le_of_lt (by exact_mod_cast hhigh) hmax⟩
  rw [zpow_neg, inv_le_iff_one_le_mul₀ (by positivity)]
  exact_mod_cast hlow

end Within

/-- A coefficient times a number, or times its reciprocal, found in some operations. -/
structure Monomial where
  coefficient : Rat
  inverse : Bool
  operations : Nat

namespace Monomial

/-- The value at a number. -/
def value (m : Monomial) (x : Rat) : Rat :=
  if m.inverse then m.coefficient / x else m.coefficient * x

/-- The monomial after one more operation, as long as neither its coefficient nor the number of
operations gets out of hand. -/
def next? (m : Monomial) (coefficient : Rat) (inverse : Bool) : Option Monomial :=
  if 1 ≤ coefficient * 10 ^ 20 ∧ coefficient ≤ 10 ^ 20 ∧ m.operations < 4 then
    some ⟨coefficient, inverse, m.operations + 1⟩
  else none

/-- The unknown itself. -/
def unknown : Monomial := ⟨1, false, 0⟩

/-- Whether the coefficient is of moderate size and the operations are few. -/
structure Tame (m : Monomial) : Prop where
  coefficient : Within 20 m.coefficient
  operations : m.operations ≤ 4

variable {m m' : Monomial} {k x y : Rat}

theorem next?_eq_some {inverse : Bool} (h : m.next? k inverse = some m') :
    m' = ⟨k, inverse, m.operations + 1⟩ ∧ m'.Tame := by
  unfold next? at h
  split at h
  · next hk =>
      obtain rfl := Option.some.inj h
      have hpos : 0 < k := by linarith [hk.1]
      refine ⟨rfl, ⟨?_, by simp; omega⟩⟩
      rw [Within, abs_of_pos hpos]
      exact ⟨hk.1, hk.2.1⟩
  · cases h

theorem unknown_tame : unknown.Tame := by
  refine ⟨?_, by decide⟩
  norm_num [Within, unknown]

theorem Tame.within_value {j : Nat} (hm : m.Tame) (hx : Within j x) :
    Within (20 + j) (m.value x) := by
  unfold Monomial.value
  split
  · exact hm.coefficient.div hx
  · exact hm.coefficient.mul hx

theorem near_value {n : Nat} (m : Monomial) (h : Near n x y) : Near n (m.value x) (m.value y) := by
  unfold Monomial.value
  split
  · exact h.div_left m.coefficient
  · exact h.mul_left m.coefficient

theorem value_mul (m : Monomial) (k x : Rat) (n : Nat) :
    (⟨m.coefficient * k, m.inverse, n⟩ : Monomial).value x = m.value x * k := by
  simp only [Monomial.value]
  split <;> ring

theorem value_div (m : Monomial) (k x : Rat) (n : Nat) :
    (⟨m.coefficient / k, m.inverse, n⟩ : Monomial).value x = m.value x / k := by
  simp only [Monomial.value]
  split <;> ring

theorem value_reciprocal (m : Monomial) (k x : Rat) (n : Nat) :
    (⟨k / m.coefficient, !m.inverse, n⟩ : Monomial).value x = k / m.value x := by
  cases hinverse : m.inverse
  · simp only [Monomial.value, hinverse, Bool.not_false, if_true, Bool.false_eq_true, if_false]
    rw [div_div]
  · simp only [Monomial.value, hinverse, Bool.not_true, if_true, Bool.false_eq_true, if_false]
    rw [div_div_eq_mul_div]
    ring

end Monomial

namespace Formula.Expr

/-- The monomial that an expression stands for, if it only multiplies by constants, divides by them
or divides a constant. -/
def monomial? : Expr Decimal → Option Monomial
  | unknown => some .unknown
  | binary .multiply e (literal d) =>
    e.monomial?.bind fun m => m.next? (m.coefficient * d.value) m.inverse
  | binary .divide e (literal d) =>
    e.monomial?.bind fun m => m.next? (m.coefficient / d.value) m.inverse
  | binary .divide (literal d) e =>
    e.monomial?.bind fun m => m.next? (d.value / m.coefficient) (!m.inverse)
  | _ => none

theorem monomial?_tame {e : Expr Decimal} {m : Monomial} (h : e.monomial? = some m) : m.Tame := by
  fun_induction monomial? e generalizing m with
  | case1 =>
      obtain rfl := Option.some.inj h
      exact Monomial.unknown_tame
  | case2 e d ih =>
      obtain ⟨m', -, hnext⟩ := Option.bind_eq_some_iff.1 h
      exact (Monomial.next?_eq_some hnext).2
  | case3 e d ih =>
      obtain ⟨m', -, hnext⟩ := Option.bind_eq_some_iff.1 h
      exact (Monomial.next?_eq_some hnext).2
  | case4 d e hd ih =>
      obtain ⟨m', -, hnext⟩ := Option.bind_eq_some_iff.1 h
      exact (Monomial.next?_eq_some hnext).2
  | case5 => cases h

/-- One more operation on a value that is close to that of a monomial has a result that is close to
the value of the next one. -/
private theorem exists_next {result : Except Signal Decimal} {q x : Rat} {m : Monomial} {n : Nat}
    (hrounds : Context.conversion.Rounds result q) (hq : Near n q (m.value x)) (hm : m.Tame)
    (hcount : m.operations = n + 1) (hx : Within 600 x) :
    ∃ y, result = .ok y ∧ y.isFinite = true ∧ Near m.operations y.value (m.value x) := by
  have hfew : n ≤ 32 := by
    have := hm.operations
    omega
  have hroundable : Roundable q :=
    ((hm.within_value hx).of_near_of_le hq hfew).roundable (by norm_num)
  obtain ⟨y, hy, hfits, hnear⟩ := Decimal.exists_near hrounds hroundable
  refine ⟨y, hy, Context.isFinite_of_fits hfits, ?_⟩
  rw [hcount, add_comm]
  exact hnear.trans hq

/-- An expression that stands for a monomial has a value at every number of moderate size: the value
of the monomial, up to a rounding for each operation. -/
theorem evaluate_near {e : Expr Decimal} {m : Monomial} (h : e.monomial? = some m) {x : Decimal}
    (hfinite : x.isFinite = true) (hx : Within 600 x.value) :
    ∃ y, e.evaluate x = .ok y ∧ y.isFinite = true ∧
      Near m.operations y.value (m.value x.value) := by
  fun_induction monomial? e generalizing m with
  | case1 =>
      obtain rfl := Option.some.inj h
      refine ⟨x, rfl, hfinite, ?_⟩
      simpa [Monomial.unknown, Monomial.value] using Near.refl x.value
  | case2 e d ih =>
      obtain ⟨m', hm', hnext⟩ := Option.bind_eq_some_iff.1 h
      obtain ⟨rfl, htame⟩ := Monomial.next?_eq_some hnext
      obtain ⟨y, hy, hyfinite, hnear⟩ := ih hm'
      have hd : d.isFinite = true :=
        Decimal.isFinite_of_value_ne_zero (right_ne_zero_of_mul htame.coefficient.ne_zero)
      have hq := hnear.mul_left d.value
      rw [mul_comm d.value, mul_comm d.value, ← m'.value_mul _ _ (m'.operations + 1)] at hq
      obtain ⟨z, hz, hresult⟩ :=
        exists_next (Decimal.mul_rounds (by decide) hyfinite hd) hq htame rfl hx
      exact ⟨z, by rw [evaluate, hy]; exact hz, hresult⟩
  | case3 e d ih =>
      obtain ⟨m', hm', hnext⟩ := Option.bind_eq_some_iff.1 h
      obtain ⟨rfl, htame⟩ := Monomial.next?_eq_some hnext
      obtain ⟨y, hy, hyfinite, hnear⟩ := ih hm'
      have hzero : d.value ≠ 0 := (div_ne_zero_iff.1 htame.coefficient.ne_zero).2
      have hq := hnear.mul_left d.value⁻¹
      rw [inv_mul_eq_div, inv_mul_eq_div, ← m'.value_div _ _ (m'.operations + 1)] at hq
      obtain ⟨z, hz, hresult⟩ := exists_next
        (Decimal.div_rounds (by decide) hyfinite (Decimal.isFinite_of_value_ne_zero hzero) hzero)
        hq htame rfl hx
      exact ⟨z, by rw [evaluate, hy]; exact hz, hresult⟩
  | case4 d e hd ih =>
      obtain ⟨m', hm', hnext⟩ := Option.bind_eq_some_iff.1 h
      obtain ⟨rfl, htame⟩ := Monomial.next?_eq_some hnext
      obtain ⟨y, hy, hyfinite, hnear⟩ := ih hm'
      have hdzero : d.value ≠ 0 := (div_ne_zero_iff.1 htame.coefficient.ne_zero).1
      have hyzero : y.value ≠ 0 :=
        hnear.ne_zero ((monomial?_tame hm').within_value hx).ne_zero
      have hq := hnear.div_left d.value
      rw [← m'.value_reciprocal _ _ (m'.operations + 1)] at hq
      obtain ⟨z, hz, hresult⟩ := exists_next
        (Decimal.div_rounds (by decide) (Decimal.isFinite_of_value_ne_zero hdzero) hyfinite hyzero)
        hq htame rfl hx
      exact ⟨z, by rw [evaluate, hy]; exact hz, hresult⟩
  | case5 => cases h

end Formula.Expr

end UnitConversion
