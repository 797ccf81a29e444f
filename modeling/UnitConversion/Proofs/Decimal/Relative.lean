import UnitConversion.Proofs.Decimal.Arithmetic

/-!
# Relative errors

A rounding to forty digits multiplies a number by a factor close to one. `Near n a b` says that `a`
is `b` up to `n` such factors or their inverses. Unlike a bound on the error, the relation is
symmetric, and products, quotients and chains of computations only add up the numbers of factors, so
the errors of a conversion and of the way back are found by counting the operations on the way.

* `Near.trans`, `Near.symm`, `Near.mul_left`, `Near.div_left`: the calculus.
* `near_nearest`: one rounding is one factor.
* `Near.abs_sub_le`, `Near.le_two_mul`, `Near.half_le`: what a small number of factors amounts to.
* `Near.abs_sub_le_of_two`: what two factors amount to.
* `mul_near`, `div_near`, `plus_near`: products, quotients and sums of one term have results.
-/

namespace UnitConversion

/-- The largest relative error of a rounding to forty digits. -/
def unitRoundoff : Rat := 10 ^ (1 - (Context.conversion.precision : Int)) / 2

/-- Whether `a` is `b` up to `n` roundings. -/
def Near (n : Nat) (a b : Rat) : Prop :=
  ∃ θ : Rat, a = θ * b ∧ (1 - unitRoundoff) ^ n ≤ θ ∧ θ * (1 - unitRoundoff) ^ n ≤ 1

theorem unitRoundoff_eq : unitRoundoff = 1 / (2 * 10 ^ 39) := by
  norm_num [unitRoundoff, Context.conversion]

theorem one_sub_unitRoundoff_pos : 0 < 1 - unitRoundoff := by
  norm_num [unitRoundoff_eq]

theorem one_sub_unitRoundoff_le : 1 - unitRoundoff ≤ 1 := by
  norm_num [unitRoundoff_eq]

namespace Near

variable {m n : Nat} {a b c : Rat}

theorem refl (a : Rat) : Near 0 a a :=
  ⟨1, (one_mul a).symm, by simp, by simp⟩

theorem trans (hab : Near m a b) (hbc : Near n b c) : Near (m + n) a c := by
  obtain ⟨θ, rfl, hlow, hhigh⟩ := hab
  obtain ⟨η, rfl, hlow', hhigh'⟩ := hbc
  have hm : 0 < (1 - unitRoundoff) ^ m := pow_pos one_sub_unitRoundoff_pos m
  have hn : 0 < (1 - unitRoundoff) ^ n := pow_pos one_sub_unitRoundoff_pos n
  have hθ : 0 < θ := hm.trans_le hlow
  have hη : 0 < η := hn.trans_le hlow'
  refine ⟨θ * η, (mul_assoc _ _ _).symm, ?_, ?_⟩
  · rw [pow_add]
    exact mul_le_mul hlow hlow' hn.le hθ.le
  · calc θ * η * (1 - unitRoundoff) ^ (m + n)
        = θ * (1 - unitRoundoff) ^ m * (η * (1 - unitRoundoff) ^ n) := by ring
      _ ≤ 1 * 1 := mul_le_mul hhigh hhigh' (by positivity) zero_le_one
      _ = 1 := one_mul 1

theorem mono (h : Near m a b) (hmn : m ≤ n) : Near n a b := by
  obtain ⟨θ, hθ, hlow, hhigh⟩ := h
  have hpow : (1 - unitRoundoff) ^ n ≤ (1 - unitRoundoff) ^ m :=
    pow_le_pow_of_le_one one_sub_unitRoundoff_pos.le one_sub_unitRoundoff_le hmn
  have hpos : 0 < θ := (pow_pos one_sub_unitRoundoff_pos m).trans_le hlow
  exact ⟨θ, hθ, hpow.trans hlow, (mul_le_mul_of_nonneg_left hpow hpos.le).trans hhigh⟩

theorem symm (h : Near n a b) : Near n b a := by
  obtain ⟨θ, rfl, hlow, hhigh⟩ := h
  have hn : 0 < (1 - unitRoundoff) ^ n := pow_pos one_sub_unitRoundoff_pos n
  have hθ : 0 < θ := hn.trans_le hlow
  refine ⟨θ⁻¹, by field_simp, ?_, ?_⟩
  · rw [le_inv_comm₀ hn hθ, ← one_div, le_div_iff₀ hn]
    exact hhigh
  · rw [inv_mul_le_one₀ hθ]
    exact hlow

theorem ne_zero (h : Near n a b) (hb : b ≠ 0) : a ≠ 0 := by
  obtain ⟨θ, rfl, -⟩ := h.symm
  exact right_ne_zero_of_mul hb

theorem mul_left (c : Rat) (h : Near n a b) : Near n (c * a) (c * b) := by
  obtain ⟨θ, rfl, hbounds⟩ := h
  exact ⟨θ, by ring, hbounds⟩

theorem inv (h : Near n a b) : Near n a⁻¹ b⁻¹ := by
  obtain ⟨θ, hθ, hlow, hhigh⟩ := h.symm
  have hpos : 0 < θ := (pow_pos one_sub_unitRoundoff_pos n).trans_le hlow
  refine ⟨θ, ?_, hlow, hhigh⟩
  rw [hθ, mul_inv, ← mul_assoc, mul_inv_cancel₀ hpos.ne', one_mul]

theorem div_left (c : Rat) (h : Near n a b) : Near n (c / a) (c / b) := by
  simpa only [div_eq_mul_inv] using h.inv.mul_left c

/-- Thirty-two roundings take nothing that shows in the first thirty-seven digits. -/
theorem pow_bound (hn : n ≤ 32) : 1 - 1 / 10 ^ 37 ≤ (1 - unitRoundoff) ^ n := by
  have hcount : (n : Rat) ≤ 32 := by exact_mod_cast hn
  calc 1 - 1 / 10 ^ 37 ≤ 1 + (n : Rat) * -unitRoundoff := by
        rw [unitRoundoff_eq]
        linarith
    _ ≤ (1 + -unitRoundoff) ^ n := one_add_mul_le_pow (by norm_num [unitRoundoff_eq]) n
    _ = (1 - unitRoundoff) ^ n := by ring

/-- The distance that roundings may take a number, from bounds on what they multiply it by. -/
theorem abs_sub_le_of_pow {ε : Rat} (h : Near n a b) (hlow : 1 - ε ≤ (1 - unitRoundoff) ^ n)
    (hhigh : 1 ≤ (1 + ε) * (1 - unitRoundoff) ^ n) : |a - b| ≤ ε * |b| := by
  obtain ⟨θ, rfl, hθlow, hθhigh⟩ := h
  have hpow : 0 < (1 - unitRoundoff) ^ n := pow_pos one_sub_unitRoundoff_pos n
  have hθ : θ ≤ 1 + ε := le_of_mul_le_mul_right (hθhigh.trans hhigh) hpow
  have hfactor : |θ - 1| ≤ ε := by
    rw [abs_le]
    constructor <;> linarith
  calc |θ * b - b| = |θ - 1| * |b| := by rw [← abs_mul, sub_mul, one_mul]
    _ ≤ ε * |b| := by gcongr

theorem abs_sub_le (h : Near n a b) (hn : n ≤ 32) : |a - b| ≤ 1 / 10 ^ 36 * |b| := by
  have hpow := pow_bound hn
  refine h.abs_sub_le_of_pow (by linarith) ?_
  calc (1 : Rat) ≤ (1 + 1 / 10 ^ 36) * (1 - 1 / 10 ^ 37) := by norm_num
    _ ≤ (1 + 1 / 10 ^ 36) * (1 - unitRoundoff) ^ n := by gcongr

/-- Two roundings take hardly more than one unit of the fortieth digit. -/
theorem abs_sub_le_of_two (h : Near 2 a b) : |a - b| ≤ 101 / 100 / 10 ^ 39 * |b| :=
  h.abs_sub_le_of_pow (by norm_num [unitRoundoff_eq]) (by norm_num [unitRoundoff_eq])

theorem le_two_mul (h : Near n a b) (hn : n ≤ 32) : |a| ≤ 2 * |b| := by
  have herror := h.abs_sub_le hn
  have htriangle := abs_sub_abs_le_abs_sub a b
  linarith [abs_nonneg b]

theorem half_le (h : Near n a b) (hn : n ≤ 32) : |b| / 2 ≤ |a| := by
  have := h.symm.le_two_mul hn
  linarith

end Near

/-- A rounding to forty digits is one factor, for zero and for numbers of normal size. -/
theorem near_nearest {q : Rat} (hq : q = 0 ∨ 10 ^ minExponent ≤ |q|) :
    Near 1 (Context.conversion.nearest q) q := by
  by_cases hzero : q = 0
  · exact ⟨1, by simp [hzero], by simpa using one_sub_unitRoundoff_le,
      by simpa using one_sub_unitRoundoff_le⟩
  have herror : |Context.conversion.nearest q - q| ≤ unitRoundoff * |q| := Context.relative_error hq
  refine ⟨Context.conversion.nearest q / q, by field_simp, ?_⟩
  have hfactor : |Context.conversion.nearest q / q - 1| ≤ unitRoundoff := by
    rw [show Context.conversion.nearest q / q - 1 =
      (Context.conversion.nearest q - q) / q by field_simp, abs_div, div_le_iff₀ (abs_pos.2 hzero)]
    exact herror
  obtain ⟨hlow, hhigh⟩ := abs_le.1 hfactor
  have hsquare : (1 + unitRoundoff) * (1 - unitRoundoff) ≤ 1 := by
    norm_num [unitRoundoff_eq]
  constructor
  · rw [pow_one]
    linarith
  · rw [pow_one]
    refine (mul_le_mul_of_nonneg_right ?_ one_sub_unitRoundoff_pos.le).trans hsquare
    linarith

/-- What has rounded a value without an underflow returns a number one rounding away: one that is
too small to be rounded has been kept. -/
theorem Context.Rounds.near {result : Except Signal Decimal} {q : Rat}
    (h : Context.conversion.Rounds result q) {d : Decimal} (hd : result = .ok d) :
    Near 1 d.value q := by
  obtain ⟨hvalue, htiny⟩ := h.of_ok hd
  rw [hvalue]
  by_cases hsmall : |q| < 10 ^ minExponent
  · rw [htiny rfl hsmall]
    exact (Near.refl q).mono (by norm_num)
  · exact near_nearest (.inr (not_lt.1 hsmall))

/-- An exact value that an operation can round: zero, or of normal size. -/
def Roundable (q : Rat) : Prop :=
  (q = 0 ∨ 10 ^ minExponent ≤ |q|) ∧ |q| < 10 ^ maxExponent

namespace Decimal

/-- What rounds a roundable value has a result. -/
theorem exists_near {result : Except Signal Decimal} {q : Rat}
    (hrounds : Context.conversion.Rounds result q) (hq : Roundable q) :
    ∃ d, result = .ok d ∧ Context.conversion.Fits d ∧ Near 1 d.value q := by
  obtain ⟨d, hd, hvalue, hfits⟩ := hrounds.exists_ok hq.1 hq.2 (by decide)
  exact ⟨d, hd, hfits, hvalue ▸ near_nearest hq.1⟩

variable {a b : Decimal}

theorem mul_near (ha : a.isFinite = true) (hb : b.isFinite = true)
    (hq : Roundable (a.value * b.value)) :
    ∃ d, mul .conversion a b = .ok d ∧ Context.conversion.Fits d ∧
      Near 1 d.value (a.value * b.value) :=
  exists_near (mul_rounds (by decide) ha hb) hq

theorem div_near (ha : a.isFinite = true) (hb : b.isFinite = true) (hzero : b.value ≠ 0)
    (hq : Roundable (a.value / b.value)) :
    ∃ d, div .conversion a b = .ok d ∧ Context.conversion.Fits d ∧
      Near 1 d.value (a.value / b.value) :=
  exists_near (div_rounds (by decide) ha hb hzero) hq

theorem plus_near (ha : a.isFinite = true) (hq : Roundable a.value) :
    ∃ d, plus .conversion a = .ok d ∧ Context.conversion.Fits d ∧ Near 1 d.value a.value :=
  exists_near (plus_rounds (by decide) ha) hq

end Decimal

end UnitConversion
