import Mathlib.Data.Int.Log
import UnitConversion.Binary64.Basic
import UnitConversion.Proofs.Rounding

/-!
# Doubles nearest to quotients

* `Binary64.leadingBit_eq_log`: the leading bit of a quotient is its logarithm to base two.
* `Binary64.nearest_mul`: the nearest double depends on the quotient alone.
* `Binary64.isFinite_nearest_iff`: which quotients have a finite nearest double.
-/

namespace UnitConversion

/-- A power with a whole exponent as a quotient of two powers, of which one is the number one. -/
theorem zpow_eq_div {b : Rat} (hb : b ≠ 0) (e : Int) : b ^ e = b ^ e.toNat / b ^ (-e).toNat := by
  rw [← zpow_natCast, ← zpow_natCast, ← zpow_sub₀ hb, Int.toNat_sub_toNat_neg]

namespace Binary64

/-- The leading bit of a quotient stands at most where the quotient reaches. -/
theorem pow_leadingBit_le {n d : Nat} (hn : n ≠ 0) (hd : d ≠ 0) :
    (2 : Rat) ^ leadingBit n d ≤ (n : Rat) / d := by
  have hdpos : (0 : Rat) < d := by exact_mod_cast Nat.pos_of_ne_zero hd
  simp only [leadingBit]
  set k : Int := (n.log2 : Int) - d.log2 with hk
  split
  · have hlow : (2 : Rat) ^ n.log2 ≤ n := by exact_mod_cast Nat.log2_self_le hn
    have hhigh : (d : Rat) ≤ 2 ^ (d.log2 + 1) := by exact_mod_cast Nat.lt_log2_self.le
    rw [le_div_iff₀ hdpos]
    calc (2 : Rat) ^ (k - 1) * d
        ≤ 2 ^ (k - 1) * 2 ^ (d.log2 + 1) := by gcongr
      _ = 2 ^ n.log2 := by
          rw [← zpow_natCast, ← zpow_natCast, ← zpow_add₀ two_ne_zero]
          congr 1
          push_cast
          omega
      _ ≤ n := hlow
  · rename_i hle
    have hle : (d : Rat) * 2 ^ k.toNat ≤ n * 2 ^ (-k).toNat := by exact_mod_cast not_lt.mp hle
    have hpow : (2 : Rat) ^ k * 2 ^ (-k).toNat = 2 ^ k.toNat := by
      rw [← zpow_natCast, ← zpow_natCast, ← zpow_add₀ two_ne_zero]
      congr 1
      omega
    rw [le_div_iff₀ hdpos]
    refine le_of_mul_le_mul_right ?_ (show (0 : Rat) < 2 ^ (-k).toNat by positivity)
    calc (2 : Rat) ^ k * d * 2 ^ (-k).toNat = d * 2 ^ k.toNat := by rw [← hpow]; ring
      _ ≤ n * 2 ^ (-k).toNat := hle

/-- A quotient stays below the power of two that follows its leading bit. -/
theorem lt_pow_leadingBit (n : Nat) {d : Nat} (hd : d ≠ 0) :
    (n : Rat) / d < 2 ^ (leadingBit n d + 1) := by
  have hdpos : (0 : Rat) < d := by exact_mod_cast Nat.pos_of_ne_zero hd
  have hnlog : (n : Rat) < 2 ^ ((n.log2 : Int) + 1) := by exact_mod_cast Nat.lt_log2_self
  have hdlog : (2 : Rat) ^ (d.log2 : Int) ≤ d := by exact_mod_cast Nat.log2_self_le hd
  simp only [leadingBit]
  rw [div_lt_iff₀ hdpos]
  generalize hk : (n.log2 : Int) - d.log2 = k
  -- The lengths leave two places to choose from, and the comparison decides between them.
  split
  · next hlt =>
      have hlt : (n : Rat) * 2 ^ (-k).toNat < d * 2 ^ k.toNat := by exact_mod_cast hlt
      have hpow : (2 : Rat) ^ k * 2 ^ (-k).toNat = 2 ^ k.toNat := by
        rw [← zpow_natCast, ← zpow_natCast, ← zpow_add₀ two_ne_zero]
        congr 1
        omega
      rw [← hpow] at hlt
      have hunit : (0 : Rat) < 2 ^ (-k).toNat := by positivity
      rw [sub_add_cancel]
      nlinarith
  · calc (n : Rat) < 2 ^ ((n.log2 : Int) + 1) := hnlog
      _ = 2 ^ (k + 1) * 2 ^ (d.log2 : Int) := by
          rw [← zpow_add₀ two_ne_zero]
          congr 1
          omega
      _ ≤ 2 ^ (k + 1) * d := by gcongr

/-- The leading bit of a quotient stands as high as the quotient reaches. -/
theorem leadingBit_eq_log {n d : Nat} (hn : n ≠ 0) (hd : d ≠ 0) :
    leadingBit n d = Int.log 2 ((n : Rat) / d) := by
  have hdpos : (0 : Rat) < d := by exact_mod_cast Nat.pos_of_ne_zero hd
  have hnpos : (0 : Rat) < n := by exact_mod_cast Nat.pos_of_ne_zero hn
  have hquotient : (0 : Rat) < (n : Rat) / d := by positivity
  have hlow := (Int.zpow_le_iff_le_log (b := 2) (by norm_num) hquotient).1
    (by exact_mod_cast pow_leadingBit_le hn hd)
  have hhigh := (Int.lt_zpow_iff_log_lt (b := 2) (by norm_num) hquotient).1
    (by exact_mod_cast lt_pow_leadingBit n hd)
  omega

/-- The nearest double depends on the quotient alone. -/
theorem nearest_mul (s : Bool) (n : Nat) {d k : Nat} (hd : d ≠ 0) (hk : k ≠ 0) :
    nearest s (n * k) (d * k) = nearest s n d := by
  by_cases hn : n = 0
  · simp [nearest, hn]
  have hk' : (k : Rat) ≠ 0 := by exact_mod_cast hk
  have hbit : leadingBit (n * k) (d * k) = leadingBit n d := by
    rw [leadingBit_eq_log (Nat.mul_ne_zero hn hk) (Nat.mul_ne_zero hd hk), leadingBit_eq_log hn hd]
    push_cast
    rw [mul_div_mul_right _ _ hk']
  -- What is rounded is the exact quotient, from which the common factor cancels.
  have hround (p q : Nat) (hq : q ≠ 0) : roundQuotient .even (n * k * p) (d * k * q) =
      roundQuotient .even (n * p) (d * q) := by
    have h :=
      roundQuotient_eq_nearest .even (n * k * p) (Nat.mul_ne_zero (Nat.mul_ne_zero hd hk) hq)
    rw [show n * k * p = n * p * k by ring, show d * k * q = d * q * k by ring] at h
    push_cast at h
    rw [mul_div_mul_right _ _ hk'] at h
    have h' := roundQuotient_eq_nearest .even (n * p) (Nat.mul_ne_zero hd hq)
    push_cast at h'
    rw [← h'] at h
    rw [show n * k * p = n * p * k by ring, show d * k * q = d * q * k by ring]
    exact_mod_cast h
  simp only [nearest, Nat.mul_ne_zero hn hk, hn, hbit, if_false]
  rw [hround _ _ (by positivity)]

/-! ### The end of the range -/

/-- The end of the range of doubles: half way from the largest one to the next power of two. -/
def rangeEnd : Rat := 2 ^ (1024 : Int) - 2 ^ (970 : Int)

theorem pow_lt_rangeEnd : (2 : Rat) ^ (1023 : Int) < rangeEnd := by
  have hhalf : (2 : Rat) ^ (970 : Int) < 2 ^ (1023 : Int) :=
    zpow_lt_zpow_right₀ (by norm_num) (by norm_num)
  have hdouble : (2 : Rat) ^ (1024 : Int) = 2 * 2 ^ (1023 : Int) := zpow_add₀ two_ne_zero 1 1023
  rw [rangeEnd, hdouble, lt_sub_iff_add_lt, two_mul]
  exact add_lt_add_right hhalf _

theorem one_lt_rangeEnd : 1 < rangeEnd :=
  (one_lt_zpow₀ (by norm_num) (by norm_num)).trans pow_lt_rangeEnd

theorem rangeEnd_lt_pow : rangeEnd < 2 ^ (1024 : Int) :=
  sub_lt_self _ (by positivity)

/-- Numbers of more than four hundred digits are beyond all doubles. -/
theorem rangeEnd_lt_ten_pow : rangeEnd < 10 ^ (400 : Int) := by
  calc rangeEnd < 2 ^ (1024 : Int) := rangeEnd_lt_pow
    _ < 2 ^ (1200 : Int) := zpow_lt_zpow_right₀ (by norm_num) (by norm_num)
    _ = 8 ^ (400 : Int) := by
        rw [show (8 : Rat) = 2 ^ (3 : Int) by norm_num, ← zpow_mul]
        rfl
    _ < 10 ^ (400 : Int) := zpow_lt_zpow_left₀ (by norm_num) (by norm_num) (by norm_num)

/-- The mantissa that a quotient is rounded to, with the place of its leading bit. -/
theorem roundQuotient_mantissa (n : Nat) {d : Nat} (hd : d ≠ 0) (e : Int) :
    ((roundQuotient .even (n * 2 ^ (-e).toNat) (d * 2 ^ e.toNat) : Nat) : Int) =
      Tie.even.nearest ((n : Rat) / d / 2 ^ e) := by
  rw [roundQuotient_eq_nearest .even _ (by positivity), zpow_eq_div two_ne_zero]
  push_cast
  congr 1
  field_simp

/-- Among the largest doubles, a quotient is carried to the next power of two if it is at least half
way from the largest one. -/
theorem carries_iff {q : Rat} (hq : q < 2 ^ (1024 : Int)) :
    Tie.even.nearest (q / 2 ^ (971 : Int)) = 2 ^ mantissaBits ↔ rangeEnd ≤ q := by
  have hunit : (0 : Rat) < 2 ^ (971 : Int) := by positivity
  have hend : ((2 ^ mantissaBits : Int) : Rat) * 2 ^ (971 : Int) = 2 ^ (1024 : Int) := by
    rw [mantissaBits, Int.cast_pow, Int.cast_ofNat, ← zpow_natCast, ← zpow_add₀ two_ne_zero]
    norm_num
  have hhalf : (2 : Rat) ^ (971 : Int) = 2 * 2 ^ (970 : Int) := zpow_add₀ two_ne_zero 1 970
  have hle : Tie.even.nearest (q / 2 ^ (971 : Int)) ≤ 2 ^ mantissaBits := by
    rw [← Tie.nearest_intCast .even (2 ^ mantissaBits)]
    refine Tie.nearest_mono .even ?_
    rw [div_le_iff₀ hunit, hend]
    exact hq.le
  rw [le_antisymm_iff, and_iff_right hle, Tie.le_nearest_even_iff (by decide), le_div_iff₀ hunit,
    sub_mul, hend, hhalf, rangeEnd]
  constructor <;> intro h <;> linarith

/-- The nearest double of a quotient is finite if the quotient is below the end of the range. -/
theorem isFinite_nearest_iff (s : Bool) (n : Nat) {d : Nat} (hd : d ≠ 0) :
    (nearest s n d).isFinite = true ↔ (n : Rat) / d < rangeEnd := by
  by_cases hn : n = 0
  · simp [nearest, hn, zero, isFinite, one_pos.trans one_lt_rangeEnd]
  have hlow := pow_leadingBit_le hn hd
  have hhigh := lt_pow_leadingBit n hd
  have hround :=
    roundQuotient_mantissa n hd (max (leadingBit n d - ((mantissaBits : Int) - 1)) leastExponent)
  simp only [nearest, hn, if_false]
  generalize leadingBit n d = k at *
  generalize (n : Rat) / d = q at *
  generalize he : max (k - ((mantissaBits : Int) - 1)) leastExponent = e at *
  generalize roundQuotient .even _ _ = m at *
  simp only [mantissaBits, leastExponent] at he
  rcases lt_trichotomy k 1023 with hk | hk | hk
  · -- A carry raises the exponent by one, so one place is left below the greatest exponent.
    have hq : q < rangeEnd :=
      (hhigh.trans_le (zpow_le_zpow_right₀ (by norm_num) (by omega))).trans pow_lt_rangeEnd
    refine iff_of_true ?_ hq
    rw [if_neg]
    · rfl
    · simp only [greatestExponent]
      split <;> omega
  · obtain rfl : e = 971 := by omega
    subst hk
    have hcarry := carries_iff hhigh
    rw [← hround, show ((m : Int) = 2 ^ mantissaBits) ↔ m = 2 ^ mantissaBits by norm_cast] at hcarry
    refine Iff.trans ?_ (hcarry.not.trans not_le)
    by_cases hm : m = 2 ^ mantissaBits
    · simp [hm, greatestExponent, isFinite]
    · simp [hm, greatestExponent, isFinite]
  · have hq : rangeEnd ≤ q :=
      rangeEnd_lt_pow.le.trans ((zpow_le_zpow_right₀ (by norm_num) (by omega)).trans hlow)
    refine iff_of_false ?_ hq.not_gt
    rw [if_pos]
    · exact Bool.false_ne_true
    · simp only [greatestExponent]
      split <;> omega

/-- A quotient without a finite nearest double is rounded to an infinity. -/
theorem nearest_eq_infinite_or (s : Bool) (n d : Nat) :
    nearest s n d = .infinite s ∨ (nearest s n d).isFinite = true := by
  unfold nearest
  by_cases hn : n = 0
  · rw [if_pos hn]
    exact .inr rfl
  · rw [if_neg hn]
    exact (Classical.em _).imp (fun hbeyond => if_pos hbeyond) fun hwithin => by
      rw [if_neg hwithin]; rfl

end Binary64

end UnitConversion
