import UnitConversion.Formula.Basic
import UnitConversion.Proofs.Decimal.Relative

/-!
# Formulas with offsets

Adding a constant can cancel leading digits, so the result of a formula with offsets is not close to
the exact one in relation to its own size. Its error is bounded in relation to a margin `M` that all
numbers on the way stay below, and every operation has to be shown not to underflow: its exact
result is zero or no smaller than a gap.

* `Clear g q`: the number `q` is zero, or at least `g` in size.
* `clear_add_of_fits`: numbers of forty digits do not come close to a constant without meeting it.
* `Evaluation`: the value of an expression beside the exact value, and how far apart they may be.
* `Evaluation.add`, `Evaluation.subtract`, `Evaluation.multiply`, `Evaluation.divide`: one more
  operation.
-/

namespace UnitConversion

/-- Whether a number is zero, or at least `g` in size. -/
def Clear (g q : Rat) : Prop :=
  q = 0 ∨ g ≤ |q|

theorem Clear.mono {g g' q : Rat} (h : Clear g q) (hg : g' ≤ g) : Clear g' q :=
  h.imp_right hg.trans

theorem Clear.mul {g q k : Rat} (h : Clear g q) (hk : 0 < k) : Clear (g * k) (q * k) := by
  rcases h with rfl | h
  · exact Or.inl (zero_mul k)
  · right
    rw [abs_mul, abs_of_pos hk]
    gcongr

theorem Clear.div {g q k : Rat} (h : Clear g q) (hk : 0 < k) : Clear (g / k) (q / k) := by
  rw [div_eq_mul_inv, div_eq_mul_inv]
  exact h.mul (inv_pos.2 hk)

/-- A number that is a multiple of a power of ten is zero, or at least that power. -/
theorem clear_of_multiple {i e : Int} : Clear ((10 : Rat) ^ e) (i * 10 ^ e) := by
  by_cases hi : i = 0
  · left
    simp [hi]
  · right
    have hone : (1 : Rat) ≤ |(i : Rat)| := by exact_mod_cast Int.one_le_abs hi
    rw [abs_mul, abs_of_pos (show (0 : Rat) < 10 ^ e by positivity)]
    exact le_mul_of_one_le_left (by positivity) hone

/-- A number of forty digits is at least `10 ^ -38` away from a constant of at least ten with at
most thirty-eight places, if it is not that constant. -/
theorem clear_add_of_fits {y : Decimal} (hy : Context.conversion.Fits y) {v : Rat} {i : Int}
    (hi : v = i / 100) (hv : 20 ≤ |v|) : Clear ((10 : Rat) ^ (-38 : Int)) (y.value + v) := by
  cases y with
  | infinite s => exact hy.elim
  | nan s q p => exact hy.elim
  | finite s c e =>
      by_cases he : -38 ≤ e
      · -- Both numbers are multiples of the last place.
        have hsum : (Decimal.finite s c e).value + v =
            ((Decimal.signed s c * 10 ^ (e + 38).toNat + i * 10 ^ 36 : Int) : Rat) *
              10 ^ (-38 : Int) := by
          have hpow : (10 : Rat) ^ e = 10 ^ (e + 38).toNat * 10 ^ (-38 : Int) := by
            rw [← zpow_natCast, ← zpow_add₀ (by norm_num)]
            congr 1
            omega
          rw [Decimal.value, hpow, hi]
          push_cast
          rw [add_mul, mul_assoc]
          norm_num
          ring
        rw [hsum]
        exact clear_of_multiple
      · -- The number is below ten, so it is far from the constant.
        right
        have hsmall : |(Decimal.finite s c e).value| < 10 := by
          have hcount : digitCount c ≤ 40 := hy.1
          rw [Decimal.abs_value_finite]
          refine (Decimal.lt_pow_adjusted c e).trans_le ?_
          rw [show (10 : Rat) = 10 ^ (1 : Int) by norm_num, ← zpow_mul, one_mul]
          refine zpow_le_zpow_right₀ (by norm_num) ?_
          simp only [Decimal.adjusted]
          omega
        have htriangle := abs_sub_abs_le_abs_add v (Decimal.finite s c e).value
        rw [add_comm] at htriangle
        have hgap : (10 : Rat) ^ (-38 : Int) ≤ 1 := by norm_num
        linarith

theorem clear_sub_of_fits {y : Decimal} (hy : Context.conversion.Fits y) {v : Rat} {i : Int}
    (hi : v = i / 100) (hv : 20 ≤ |v|) : Clear ((10 : Rat) ^ (-38 : Int)) (y.value - v) := by
  have hneg : -v = ((-i : Int) : Rat) / 100 := by
    rw [hi]
    push_cast
    ring
  rw [sub_eq_add_neg]
  exact clear_add_of_fits hy hneg (by rwa [abs_neg])

/-- The numbers on the way of a computation stay below the margin `M`, and those that are not zero
above the gap `g`, which leaves room above the least normal number. -/
structure Margin (M g : Rat) : Prop where
  one_le : 1 ≤ M
  le_pow : M ≤ 10 ^ 300
  normal_le : 2 * 10 ^ minExponent ≤ g
  gap_le : g ≤ 10 ^ (-38 : Int)

variable {M g c : Rat}

/-- What rounds a clear value below ten thousand margins has a result that is close to it, and next
to no closer to zero. -/
theorem Margin.exists_close (hmargin : Margin M g) {result : Except Signal Decimal} {q : Rat}
    (hrounds : Context.conversion.Rounds result q) (hclear : Clear c q) (hc : 10 ^ minExponent ≤ c)
    (hsize : |q| ≤ 10 ^ 4 * M) :
    ∃ z, result = .ok z ∧ Context.conversion.Fits z ∧ Clear (99 / 100 * c) z.value ∧
      |z.value - q| ≤ M / 10 ^ 35 := by
  have hhigh : |q| < 10 ^ maxExponent := by
    calc |q| ≤ 10 ^ 4 * 10 ^ 300 := hsize.trans (by gcongr; exact hmargin.le_pow)
      _ = 10 ^ (304 : Int) := by rw [← pow_add]; rfl
      _ < 10 ^ maxExponent := zpow_lt_zpow_right₀ (by norm_num) (by norm_num [maxExponent])
  obtain ⟨z, hz, hfits, hnear⟩ := Decimal.exists_near hrounds ⟨hclear.mono hc, hhigh⟩
  obtain ⟨θ, hθ, hlow, hhigh⟩ := hnear
  rw [pow_one, unitRoundoff_eq] at hlow hhigh
  refine ⟨z, hz, hfits, ?_, ?_⟩
  · have hfactor : 99 / 100 ≤ |θ| := by
      rw [abs_of_pos (by linarith)]
      linarith
    rcases hclear with rfl | hclear
    · left
      rw [hθ, mul_zero]
    · right
      rw [hθ, abs_mul]
      calc 99 / 100 * c ≤ 99 / 100 * |q| := by gcongr
        _ ≤ |θ| * |q| := by gcongr
  · have hfactor : |θ - 1| ≤ 1 / 10 ^ 39 := by
      rw [abs_le]
      constructor <;> linarith
    calc |z.value - q| = |θ - 1| * |q| := by rw [hθ, ← abs_mul, sub_mul, one_mul]
      _ ≤ 1 / 10 ^ 39 * (10 ^ 4 * M) := by gcongr
      _ = M / 10 ^ 35 := by ring

/-- The number that a literal denotes. -/
structure Denotes (d : Decimal) (v : Rat) : Prop where
  finite : d.isFinite = true
  value : d.value = v

namespace Formula

/-- The value `y` of an expression at `x` beside the exact value `w`: they are at most `k` roundings
of a number of ten thousand margins apart. -/
structure Evaluation (M : Rat) (e : Expr Decimal) (x y : Decimal) (w k : Rat) : Prop where
  value : e.evaluate x = .ok y
  finite : y.isFinite = true
  error : |y.value - w| ≤ k * (M / 10 ^ 35)

/-- The value of an expression that is the result of an operation: a number of forty digits, and
clear of zero. -/
structure Result (M : Rat) (e : Expr Decimal) (x y : Decimal) (w k c : Rat) : Prop
    extends Evaluation M e x y w k where
  fits : Context.conversion.Fits y
  clear : Clear c y.value

namespace Evaluation

variable {e : Expr Decimal} {x y d : Decimal} {w k v : Rat}

theorem unknown (M : Rat) (hx : x.isFinite = true) : Evaluation M .unknown x x x.value 0 :=
  ⟨rfl, hx, by simp⟩

private theorem exists_result (hmargin : Margin M g) {op : Operator} {q w' l : Rat}
    (h : Evaluation M e x y w k) (hrounds : Context.conversion.Rounds (Expr.applyOperator op y d) q)
    (hclear : Clear c q) (hc : 10 ^ minExponent ≤ c) (hsize : |q| ≤ 10 ^ 4 * M)
    (herror : |q - w'| ≤ l * (M / 10 ^ 35)) :
    ∃ z, Result M (.binary op e (.literal d)) x z w' (l + 1) (99 / 100 * c) := by
  obtain ⟨z, hz, hfits, hapart, hclose⟩ := hmargin.exists_close hrounds hclear hc hsize
  refine ⟨z, ⟨?_, Context.isFinite_of_fits hfits, ?_⟩, hfits, hapart⟩
  · rw [Expr.evaluate, h.value]
    exact hz
  · calc |z.value - w'| ≤ |z.value - q| + |q - w'| := abs_sub_le _ _ _
      _ ≤ M / 10 ^ 35 + l * (M / 10 ^ 35) := add_le_add hclose herror
      _ = (l + 1) * (M / 10 ^ 35) := by ring

theorem add (h : Evaluation M e x y w k) (hmargin : Margin M g) (hd : Denotes d v)
    (hclear : Clear c (y.value + v)) (hc : 10 ^ minExponent ≤ c)
    (hsize : |y.value + v| ≤ 10 ^ 4 * M) :
    ∃ z, Result M (.binary .add e (.literal d)) x z (w + v) (k + 1) (99 / 100 * c) := by
  obtain rfl := hd.value
  refine exists_result hmargin h (Decimal.add_rounds (by decide) h.finite hd.finite)
    hclear hc hsize ?_
  rw [add_sub_add_right_eq_sub]
  exact h.error

theorem subtract (h : Evaluation M e x y w k) (hmargin : Margin M g) (hd : Denotes d v)
    (hclear : Clear c (y.value - v)) (hc : 10 ^ minExponent ≤ c)
    (hsize : |y.value - v| ≤ 10 ^ 4 * M) :
    ∃ z, Result M (.binary .subtract e (.literal d)) x z (w - v) (k + 1) (99 / 100 * c) := by
  obtain rfl := hd.value
  refine exists_result hmargin h (Decimal.sub_rounds (by decide) h.finite hd.finite)
    hclear hc hsize ?_
  rw [sub_sub_sub_cancel_right]
  exact h.error

theorem multiply (h : Evaluation M e x y w k) (hmargin : Margin M g) (hd : Denotes d v) (hv : 0 < v)
    (hclear : Clear c y.value) (hc : 10 ^ minExponent ≤ c * v)
    (hsize : |y.value * v| ≤ 10 ^ 4 * M) :
    ∃ z, Result M (.binary .multiply e (.literal d)) x z (w * v) (k * v + 1)
      (99 / 100 * (c * v)) := by
  obtain rfl := hd.value
  refine exists_result hmargin h (Decimal.mul_rounds (by decide) h.finite hd.finite)
    (hclear.mul hv) hc hsize ?_
  calc |y.value * d.value - w * d.value| = |y.value - w| * d.value := by
        rw [← sub_mul, abs_mul, abs_of_pos hv]
    _ ≤ k * (M / 10 ^ 35) * d.value := by gcongr; exact h.error
    _ = k * d.value * (M / 10 ^ 35) := by ring

theorem divide (h : Evaluation M e x y w k) (hmargin : Margin M g) (hd : Denotes d v) (hv : 0 < v)
    (hclear : Clear c y.value) (hc : 10 ^ minExponent ≤ c / v)
    (hsize : |y.value / v| ≤ 10 ^ 4 * M) :
    ∃ z, Result M (.binary .divide e (.literal d)) x z (w / v) (k / v + 1)
      (99 / 100 * (c / v)) := by
  obtain rfl := hd.value
  refine exists_result hmargin h (Decimal.div_rounds (by decide) h.finite hd.finite hv.ne')
    (hclear.div hv) hc hsize ?_
  calc |y.value / d.value - w / d.value| = |y.value - w| / d.value := by
        rw [← sub_div, abs_div, abs_of_pos hv]
    _ ≤ k * (M / 10 ^ 35) / d.value := by gcongr; exact h.error
    _ = k / d.value * (M / 10 ^ 35) := by ring

/-- Bringing the value into the context is the last rounding. -/
theorem finish {f : Formula} (h : Evaluation M f.expr x y w k) (hmargin : Margin M g)
    (hclear : Clear c y.value) (hc : 10 ^ minExponent ≤ c) (hsize : |y.value| ≤ 10 ^ 4 * M) :
    ∃ z, f.evaluate x = .ok z ∧ Context.conversion.Fits z ∧
      |z.value - w| ≤ (k + 1) * (M / 10 ^ 35) ∧
      Clear (99 / 100 * c) z.value := by
  obtain ⟨z, hz, hfits, hapart, hclose⟩ :=
    hmargin.exists_close (Decimal.plus_rounds (by decide) h.finite) hclear hc hsize
  have hvalue : Formula.value f.expr x = .ok z := by
    rw [Formula.value, h.value]
    exact hz
  refine ⟨z, ?_, hfits, ?_, hapart⟩
  · rw [Formula.evaluate, hvalue]
    exact if_pos (Context.isFinite_of_fits hfits)
  · calc |z.value - w| ≤ |z.value - y.value| + |y.value - w| := abs_sub_le _ _ _
      _ ≤ M / 10 ^ 35 + k * (M / 10 ^ 35) := add_le_add hclose h.error
      _ = (k + 1) * (M / 10 ^ 35) := by ring

end Evaluation

end Formula

end UnitConversion
