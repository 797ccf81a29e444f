import Mathlib.Data.Int.Log
import Mathlib.Data.Rat.Floor
import Mathlib.Tactic
import UnitConversion.Decimal.Basic

/-!
# Counting digits

The number of digits of a coefficient and the place of its leading digit, said as powers of ten.

* `digitCount_eq_log`: the number of digits is one more than the logarithm to base ten.
* `pow_adjusted_le`, `lt_pow_adjusted`: the leading digit of `c * 10 ^ e` stands at the place
  `Decimal.adjusted c e`.
* `adjusted_lt_iff`, `le_adjusted_iff`: places are compared by comparing values with powers of ten.
-/

namespace UnitConversion

/-- The search for the leading digit divides by the largest power of the base that does not exceed
the number, provided the squarings that are left suffice to reach it. -/
theorem leadingDigit_spec (fuel base n : Nat) (hbase : 2 ≤ base) (hn : n ≠ 0)
    (hfuel : n < base ^ 2 ^ fuel) :
    (leadingDigit fuel base n).1 = n / base ^ (leadingDigit fuel base n).2 ∧
      base ^ (leadingDigit fuel base n).2 ≤ n ∧ n < base ^ ((leadingDigit fuel base n).2 + 1) := by
  induction fuel generalizing base with
  | zero =>
      simp only [leadingDigit, pow_zero, Nat.div_one, true_and]
      exact ⟨by omega, by simpa using hfuel⟩
  | succ fuel ih =>
      unfold leadingDigit
      split
      · next hsmall => exact ⟨by simp, by simp; omega, by simpa using hsmall⟩
      · have hsquare : n < (base * base) ^ 2 ^ fuel := by
          have hpow : base ^ 2 ^ (fuel + 1) = (base * base) ^ 2 ^ fuel := by
            rw [← pow_two, ← pow_mul, pow_succ, mul_comm (2 ^ fuel) 2]
          rwa [← hpow]
        obtain ⟨hquotient, hlow, hhigh⟩ := ih (base * base) (by nlinarith) hsquare
        generalize leadingDigit fuel (base * base) n = r at hquotient hlow hhigh
        have heven : (base * base) ^ r.2 = base ^ (2 * r.2) := by rw [← pow_two, ← pow_mul]
        rw [heven] at hquotient hlow
        have hpos : 0 < base ^ (2 * r.2) := by positivity
        dsimp only
        split
        · next hdigit =>
          refine ⟨hquotient, hlow, ?_⟩
          rw [hquotient, Nat.div_lt_iff_lt_mul hpos] at hdigit
          rw [pow_succ, mul_comm]
          exact hdigit
        · next hdigit =>
          rw [hquotient, not_lt, Nat.le_div_iff_mul_le hpos] at hdigit
          refine ⟨?_, ?_, ?_⟩
          · rw [hquotient, Nat.div_div_eq_div_mul, pow_succ]
          · rw [pow_succ, mul_comm]
            exact hdigit
          · have hodd : (base * base) ^ (r.2 + 1) = base ^ (2 * r.2 + 1 + 1) := by
              rw [← pow_two, ← pow_mul]
              ring_nf
            rwa [hodd] at hhigh

theorem digitCount_eq_log (n : Nat) : digitCount n = Nat.log 10 n + 1 := by
  by_cases hn : n = 0
  · subst hn
    decide
  · have hfuel : n < 10 ^ 2 ^ n.log2 := by
      have hlog : n < 2 ^ (n.log2 + 1) := Nat.lt_log2_self
      have hexp : n.log2 + 1 ≤ 2 ^ n.log2 := Nat.lt_two_pow_self
      calc
        n < 2 ^ (n.log2 + 1) := hlog
        _ ≤ 2 ^ 2 ^ n.log2 := Nat.pow_le_pow_right (by omega) hexp
        _ ≤ 10 ^ 2 ^ n.log2 := Nat.pow_le_pow_left (by omega) _
    obtain ⟨-, hlow, hhigh⟩ := leadingDigit_spec n.log2 10 n (by omega) hn hfuel
    rw [digitCount, Nat.log_eq_of_pow_le_of_lt_pow hlow hhigh]

theorem digitCount_pos (n : Nat) : 0 < digitCount n := by
  rw [digitCount_eq_log]
  omega

theorem pow_digitCount_le {n : Nat} (hn : n ≠ 0) : 10 ^ (digitCount n - 1) ≤ n := by
  rw [digitCount_eq_log, Nat.add_sub_cancel]
  exact Nat.pow_log_le_self 10 hn

theorem lt_pow_digitCount (n : Nat) : n < 10 ^ digitCount n := by
  rw [digitCount_eq_log]
  exact Nat.lt_pow_succ_log_self (by omega) n

/-- A number has at most `k` digits exactly when it is below the power of ten with exponent `k`. -/
theorem digitCount_le_iff {n k : Nat} (hk : 0 < k) : digitCount n ≤ k ↔ n < 10 ^ k := by
  constructor
  · intro h
    exact (lt_pow_digitCount n).trans_le (Nat.pow_le_pow_right (by omega) h)
  · intro h
    rw [digitCount_eq_log]
    by_cases hn : n = 0
    · subst hn
      simp only [Nat.log_zero_right]
      omega
    · have := (Nat.log_lt_iff_lt_pow (by omega) hn).2 h
      omega

/-- Digits are counted exactly by the two powers of ten around a number. -/
theorem digitCount_eq_of_pow {n k : Nat} (hlow : 10 ^ k ≤ n) (hhigh : n < 10 ^ (k + 1)) :
    digitCount n = k + 1 := by
  rw [digitCount_eq_log, Nat.log_eq_of_pow_le_of_lt_pow hlow hhigh]

theorem digitCount_mul_pow {n : Nat} (hn : n ≠ 0) (k : Nat) :
    digitCount (n * 10 ^ k) = digitCount n + k := by
  have hlow := pow_digitCount_le hn
  have hhigh := lt_pow_digitCount n
  have hpos := digitCount_pos n
  have hcount : digitCount (n * 10 ^ k) = digitCount n - 1 + k + 1 := by
    apply digitCount_eq_of_pow
    · rw [pow_add]
      exact Nat.mul_le_mul_right _ hlow
    · rw [show digitCount n - 1 + k + 1 = digitCount n + k by omega, pow_add]
      exact Nat.mul_lt_mul_of_pos_right hhigh (by positivity)
  omega

namespace Decimal

/-- The magnitude of `c * 10 ^ e`. -/
def magnitude (c : Nat) (e : Int) : Rat := (c : Rat) * 10 ^ e

theorem magnitude_nonneg (c : Nat) (e : Int) : 0 ≤ magnitude c e := by
  unfold magnitude
  positivity

@[simp] theorem magnitude_zero (e : Int) : magnitude 0 e = 0 := by
  simp [magnitude]

theorem magnitude_pos {c : Nat} (hc : c ≠ 0) (e : Int) : 0 < magnitude c e := by
  have : 0 < c := Nat.pos_of_ne_zero hc
  unfold magnitude
  positivity

theorem magnitude_eq_zero_iff (c : Nat) (e : Int) : magnitude c e = 0 ↔ c = 0 := by
  constructor
  · intro h
    by_contra hc
    exact (magnitude_pos hc e).ne' h
  · rintro rfl
    exact magnitude_zero e

/-- Zeros at the end of a coefficient can be moved into the exponent. -/
theorem magnitude_mul_pow (c k : Nat) (e : Int) :
    magnitude (c * 10 ^ k) e = magnitude c (e + k) := by
  unfold magnitude
  rw [zpow_add₀ (by norm_num), zpow_natCast]
  push_cast
  ring

/-- The digits of a coefficient can be moved down to a lower place. -/
theorem magnitude_shift (c : Nat) {e j : Int} (hj : j ≤ e) :
    magnitude (c * 10 ^ (e - j).toNat) j = magnitude c e := by
  rw [magnitude_mul_pow]
  congr 1
  omega

theorem pow_adjusted_le {c : Nat} (hc : c ≠ 0) (e : Int) :
    (10 : Rat) ^ adjusted c e ≤ magnitude c e := by
  have hlow : ((10 ^ (digitCount c - 1) : Nat) : Rat) ≤ c := by exact_mod_cast pow_digitCount_le hc
  have hexp : adjusted c e = ((digitCount c - 1 : Nat) : Int) + e := by
    have := digitCount_pos c
    unfold adjusted
    omega
  rw [hexp, zpow_add₀ (by norm_num), zpow_natCast]
  unfold magnitude
  push_cast at hlow
  gcongr

theorem lt_pow_adjusted (c : Nat) (e : Int) : magnitude c e < (10 : Rat) ^ (adjusted c e + 1) := by
  have hhigh : (c : Rat) < ((10 ^ digitCount c : Nat) : Rat) := by
    exact_mod_cast lt_pow_digitCount c
  have hexp : adjusted c e + 1 = (digitCount c : Int) + e := by
    unfold adjusted
    omega
  rw [hexp, zpow_add₀ (by norm_num), zpow_natCast]
  unfold magnitude
  push_cast at hhigh
  gcongr

theorem adjusted_eq_log {c : Nat} (hc : c ≠ 0) (e : Int) :
    adjusted c e = Int.log 10 (magnitude c e) := by
  have hpos := magnitude_pos hc e
  apply le_antisymm
  · exact (Int.zpow_le_iff_le_log (by norm_num) hpos).1 (by exact_mod_cast pow_adjusted_le hc e)
  · have := (Int.lt_zpow_iff_log_lt (b := 10) (by norm_num) hpos).1
      (by exact_mod_cast lt_pow_adjusted c e)
    omega

/-- The place of the leading digit does not depend on how a number is written. -/
theorem adjusted_congr {c₁ c₂ : Nat} {e₁ e₂ : Int} (hc : c₁ ≠ 0)
    (h : magnitude c₁ e₁ = magnitude c₂ e₂) :
    adjusted c₁ e₁ = adjusted c₂ e₂ := by
  have hc₂ : c₂ ≠ 0 := fun h₂ => (magnitude_pos hc e₁).ne' (by rw [h, h₂, magnitude_zero])
  rw [adjusted_eq_log hc, adjusted_eq_log hc₂, h]

/-- The leading digit of a number stands at the place `k` or above exactly when the number reaches
the power of ten of that place. -/
theorem le_adjusted_iff {c : Nat} (hc : c ≠ 0) (e k : Int) :
    k ≤ adjusted c e ↔ (10 : Rat) ^ k ≤ magnitude c e := by
  rw [adjusted_eq_log hc]
  have := Int.zpow_le_iff_le_log (b := 10) (x := k) (by norm_num) (magnitude_pos hc e)
  exact_mod_cast this.symm

theorem adjusted_lt_iff {c : Nat} (hc : c ≠ 0) (e k : Int) :
    adjusted c e < k ↔ magnitude c e < (10 : Rat) ^ k := by
  rw [← not_le, ← not_le, le_adjusted_iff hc]

theorem value_finite (s : Bool) (c : Nat) (e : Int) :
    (finite s c e).value = if s then -magnitude c e else magnitude c e := by
  cases s <;> simp [value, signed, magnitude]

@[simp] theorem abs_value_finite (s : Bool) (c : Nat) (e : Int) :
    |(finite s c e).value| = magnitude c e := by
  rw [value_finite]
  split
  · rw [abs_neg, abs_of_nonneg (magnitude_nonneg c e)]
  · exact abs_of_nonneg (magnitude_nonneg c e)

theorem value_finite_eq_zero_iff (s : Bool) (c : Nat) (e : Int) :
    (finite s c e).value = 0 ↔ c = 0 := by
  rw [← abs_eq_zero, abs_value_finite, magnitude_eq_zero_iff]

/-- A finite datum is given by a sign, a coefficient and an exponent. -/
theorem exists_of_isFinite {d : Decimal} (hd : d.isFinite = true) : ∃ s c e, d = finite s c e := by
  cases d with
  | finite s c e => exact ⟨s, c, e, rfl⟩
  | infinite s => simp [isFinite] at hd
  | nan s q p => simp [isFinite] at hd

/-- The data that are no numbers have the value zero. -/
theorem isFinite_of_value_ne_zero {d : Decimal} (hd : d.value ≠ 0) : d.isFinite = true := by
  cases d with
  | finite s c e => rfl
  | infinite s => exact absurd rfl hd
  | nan s q p => exact absurd rfl hd

end Decimal

end UnitConversion
