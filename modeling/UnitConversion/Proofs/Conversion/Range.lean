import UnitConversion.Conversion.Basic
import UnitConversion.Proofs.Binary64.Nearest
import UnitConversion.Proofs.Decimal.Digits

/-!
# The range of doubles

A finite decimal number below `2 ^ 1023` has a finite nearest double, however many digits it has and
however small it is, so a conversion can start and end at it.
-/

namespace UnitConversion

namespace Conversion

/-- Numbers of at most three hundred digits are far from the end of the range of doubles. -/
theorem two_mul_pow_lt : (2 : Rat) * 10 ^ 300 < 2 ^ (1023 : Int) := by
  calc (2 : Rat) * 10 ^ 300 = 2 * (10 ^ 3) ^ 100 := by rw [← pow_mul]
    _ < 2 * (2 ^ 10) ^ 100 := by gcongr; norm_num
    _ = 2 ^ (1001 : Int) := by rw [← pow_mul, ← pow_succ']; rfl
    _ < 2 ^ (1023 : Int) := zpow_lt_zpow_right₀ (by norm_num) (by norm_num)

/-- A number of moderate size is within the range of doubles. -/
theorem isRepresentable_of_abs_lt {x : Decimal} (hx : x.isFinite = true)
    (hlt : |x.value| < 2 ^ (1023 : Int)) : isRepresentable x = true := by
  obtain ⟨s, c, e, rfl⟩ := Decimal.exists_of_isFinite hx
  rw [Decimal.abs_value_finite] at hlt
  simp only [isRepresentable, Binary64.ofDecimal, Binary64.ofScaled]
  by_cases hc : c = 0
  · rw [if_pos hc]
    rfl
  · have hplace : ¬ Binary64.outerPlace < Decimal.adjusted c e := by
      have hlow := Decimal.pow_adjusted_le hc e
      have hpow := Binary64.pow_lt_rangeEnd.trans Binary64.rangeEnd_lt_ten_pow
      have := (zpow_lt_zpow_iff_right₀ (by norm_num)).mp (hlow.trans_lt (hlt.trans hpow))
      simp only [Binary64.outerPlace]
      omega
    rw [if_neg hc, if_neg hplace]
    split
    · rfl
    · rw [Binary64.isFinite_nearest_iff s _ (by positivity)]
      have hquotient : ((c * 10 ^ e.toNat : Nat) : Rat) / ((10 ^ (-e).toNat : Nat) : Rat) =
          Decimal.magnitude c e := by
        rw [Decimal.magnitude, zpow_eq_div (by norm_num)]
        push_cast
        ring
      rw [hquotient]
      exact hlt.trans Binary64.pow_lt_rangeEnd

/-- A conversion ends with the result of the two rules if that is a number below `2 ^ 1023`. -/
theorem apply_eq_ok {source target : MeasurementUnit} {x y r : Decimal}
    (hy : source.rule.toBase x = .ok y) (hr : target.rule.fromBase y = .ok r)
    (hfinite : r.isFinite = true) (hlt : |r.value| < 2 ^ (1023 : Int)) :
    apply source target x = .ok r := by
  simp only [apply, hy, Except.bind, hr, hfinite, isRepresentable_of_abs_lt hfinite hlt]
  rfl

end Conversion

end UnitConversion
