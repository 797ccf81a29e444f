import UnitConversion.Decimal.Arithmetic
import UnitConversion.Proofs.Decimal.Context

/-!
# Correctly rounded arithmetic

Sums, products and quotients of finite numbers are the exact results rounded once, whatever shortcut
the computation takes. Only the values of the operands matter, not how they are written.

* `Decimal.add_rounds`, `Decimal.sub_rounds`: an operand that is out of sight is as good as one
  unit.
* `Decimal.mul_rounds`, `Decimal.div_rounds`: a cut quotient with a marked last digit rounds like
  the exact one.
* `Decimal.plus_rounds`, `Decimal.neg_rounds`, `Decimal.abs_rounds`: operations on one number.
-/

namespace UnitConversion.Decimal

variable {ctx : Context}

theorem signed_cast (s : Bool) (c : Nat) :
    ((signed s c : Int) : Rat) = if s then -(c : Rat) else c := by
  cases s <;> simp [signed]

theorem value_eq_signed (s : Bool) (c : Nat) (e : Int) :
    (finite s c e).value = (signed s c : Rat) * 10 ^ e := rfl

/-- An integer is its magnitude with its sign. -/
theorem signed_natAbs (i : Int) (s : Bool) (hs : i ≠ 0 → s = decide (i < 0)) :
    signed s i.natAbs = i := by
  by_cases hi : i = 0
  · subst hi
    cases s <;> rfl
  · rw [hs hi]
    by_cases hneg : i < 0
    · simp only [signed, hneg, decide_true, if_true]
      omega
    · simp only [signed, hneg, decide_false, Bool.false_eq_true, if_false]
      omega

/-- One unit below the digits that matter stands for anything smaller. -/
private theorem round_add_unit (hprecision : 0 < ctx.precision) {n : Nat} {j : Int} {low : Rat}
    (hn : 10 ^ (ctx.precision + 1) ≤ 10 * n) (hlow : 0 < low) (hlow' : low < 10 ^ j) :
    ctx.round (10 * n * 10 ^ j + low) = ctx.round ((10 * n + 1) * 10 ^ j) := by
  have hunit : (0 : Rat) < 10 ^ j := by positivity
  have hn' : ((10 ^ (ctx.precision + 1) : Nat) : Rat) ≤ (10 * n : Nat) := by exact_mod_cast hn
  refine Context.round_congr (m := 2 * n) (j := j) ?_ hprecision ⟨?_, ?_⟩ ⟨?_, ?_⟩
  · rw [zpow_add₀ (by norm_num), zpow_natCast]
    push_cast at hn' ⊢
    rw [pow_succ] at hn'
    have : (10 : Rat) ^ ctx.precision ≤ 10 * n := by
      have : (0 : Rat) < 10 ^ ctx.precision := by positivity
      linarith
    nlinarith
  all_goals push_cast; nlinarith

private theorem round_sub_unit (hprecision : 0 < ctx.precision) {n : Nat} {j : Int} {low : Rat}
    (hn : 10 ^ (ctx.precision + 1) ≤ 10 * n) (hlow : 0 < low) (hlow' : low < 10 ^ j) :
    ctx.round (10 * n * 10 ^ j - low) = ctx.round ((10 * n - 1) * 10 ^ j) := by
  have hunit : (0 : Rat) < 10 ^ j := by positivity
  have hn' : ((10 ^ (ctx.precision + 1) : Nat) : Rat) ≤ (10 * n : Nat) := by exact_mod_cast hn
  refine Context.round_congr (m := 2 * n - 1) (j := j) ?_ hprecision ⟨?_, ?_⟩ ⟨?_, ?_⟩
  · rw [zpow_add₀ (by norm_num), zpow_natCast]
    push_cast at hn' ⊢
    rw [pow_succ] at hn'
    have : (10 : Rat) ^ ctx.precision ≤ 10 * n - 5 := by
      have : (1 : Rat) ≤ 10 ^ ctx.precision := one_le_pow₀ (by norm_num)
      linarith
    nlinarith
  all_goals push_cast; nlinarith

/-- What an addition sees of its lower operand: the operand itself, or one unit below every digit
that matters, for a nonzero number that is smaller than that. -/
theorem visible_spec (precision c₁ : Nat) (e₁ : Int) (c₂ : Nat) (e₂ : Int) :
    visible precision c₁ e₁ c₂ e₂ = (c₂, e₂) ∨
      ∃ (j : Int) (n : Nat), visible precision c₁ e₁ c₂ e₂ = (if c₂ = 0 then 0 else 1, j) ∧ c₁ ≠ 0 ∧
        j ≤ e₁ ∧ c₁ * 10 ^ (e₁ - j).toNat = 10 * n ∧ 10 ^ (precision + 1) ≤ 10 * n ∧
          magnitude c₂ e₂ < 10 ^ j := by
  unfold visible
  dsimp only
  have hpos := digitCount_pos c₁
  generalize hfloor : e₁ - 1 + (if precision < digitCount c₁ then (0 : Int)
    else (digitCount c₁ : Int) - precision - 1) = j
  split
  · next hfar =>
      right
      obtain ⟨hc₁, hadjusted⟩ := hfar
      have hj : j < e₁ := by
        split at hfloor <;> omega
      obtain ⟨k, hk⟩ : ∃ k : Nat, (e₁ - j).toNat = k + 1 := ⟨(e₁ - j).toNat - 1, by omega⟩
      have hsplit : c₁ * 10 ^ (e₁ - j).toNat = 10 * (c₁ * 10 ^ k) := by
        rw [hk, pow_succ]
        ring
      refine ⟨j, c₁ * 10 ^ k, rfl, hc₁, hj.le, hsplit, ?_, ?_⟩
      · rw [← hsplit]
        calc
          10 ^ (precision + 1) ≤ 10 ^ (digitCount c₁ - 1 + (e₁ - j).toNat) := by
              apply Nat.pow_le_pow_right (by omega)
              split at hfloor <;> omega
          _ = 10 ^ (digitCount c₁ - 1) * 10 ^ (e₁ - j).toNat := pow_add ..
          _ ≤ c₁ * 10 ^ (e₁ - j).toNat := Nat.mul_le_mul_right _ (pow_digitCount_le hc₁)
      · calc
          magnitude c₂ e₂ < 10 ^ (adjusted c₂ e₂ + 1) := lt_pow_adjusted c₂ e₂
          _ ≤ 10 ^ j := zpow_le_zpow_right₀ (by norm_num) (by omega)
  · exact .inl rfl

/-- A sum of signed coefficients brought into the context. -/
private theorem finish_sum_rounds (hprecision : 0 < ctx.precision) (i : Int) (e : Int) (s : Bool) :
    ctx.Rounds (ctx.finish (if i = 0 then s else decide (i < 0)) i.natAbs e)
      ((i : Rat) * 10 ^ e) := by
  have h := Context.finish_rounds hprecision (if i = 0 then s else decide (i < 0)) i.natAbs e
  rwa [value_eq_signed, signed_natAbs i _ (fun hi => by rw [if_neg hi])] at h

/-- Moves the digits of a coefficient down to the place `j`. -/
private theorem signed_shift (s : Bool) (c : Nat) {e j : Int} (hj : j ≤ e) :
    (signed s (c * 10 ^ (e - j).toNat) : Rat) * 10 ^ j = (finite s c e).value := by
  have hsplit : (10 : Rat) ^ e = 10 ^ (e - j).toNat * 10 ^ j := by
    rw [← zpow_natCast, ← zpow_add₀ (by norm_num)]
    congr 1
    omega
  rw [value_eq_signed, hsplit, signed_cast, signed_cast]
  push_cast
  split <;> ring

/-- A number that is out of sight of another one is replaced by one unit. -/
private theorem round_far (hprecision : 0 < ctx.precision) (s₁ s₂ : Bool) {n c₂ : Nat} {e₂ j : Int}
    (hc₂ : c₂ ≠ 0) (hn : 10 ^ (ctx.precision + 1) ≤ 10 * n) (hlow : magnitude c₂ e₂ < 10 ^ j) :
    ctx.round ((signed s₁ (10 * n) : Rat) * 10 ^ j + (finite s₂ c₂ e₂).value) =
      ctx.round ((signed s₁ (10 * n) + signed s₂ 1 : Rat) * 10 ^ j) := by
  have hpos := magnitude_pos hc₂ e₂
  have hplus := round_add_unit hprecision hn hpos hlow
  have hminus := round_sub_unit hprecision hn hpos hlow
  rw [signed_cast, signed_cast, value_finite]
  push_cast
  cases s₁ <;> cases s₂ <;> simp only [Bool.false_eq_true, if_false, if_true]
  · exact hplus
  · rw [← sub_eq_add_neg, ← sub_eq_add_neg]
    exact hminus
  · have h := congrArg (Except.map fun q : Rat => -q) hminus
    rw [← Context.round_neg, ← Context.round_neg] at h
    convert h using 2 <;> ring
  · have h := congrArg (Except.map fun q : Rat => -q) hplus
    rw [← Context.round_neg, ← Context.round_neg] at h
    convert h using 2 <;> ring

theorem addAligned_rounds (hprecision : 0 < ctx.precision) (s₁ : Bool) (c₁ : Nat)
    {e₁ : Int} (s₂ : Bool) (c₂ : Nat) {e₂ : Int} (he : e₂ ≤ e₁) :
    ctx.Rounds (addAligned ctx s₁ c₁ e₁ s₂ c₂ e₂)
      ((finite s₁ c₁ e₁).value + (finite s₂ c₂ e₂).value) := by
  have hhigh : ∀ j : Int, (if c₁ = 0 then 0 else c₁ * 10 ^ (e₁ - j).toNat) =
      c₁ * 10 ^ (e₁ - j).toNat := by
    intro j
    split
    · next hc₁ => simp [hc₁]
    · rfl
  unfold addAligned
  simp only [hhigh]
  rcases visible_spec ctx.precision c₁ e₁ c₂ e₂ with hsame | ⟨j, n, hfar, hc₁, hj, hn, hlarge, hlow⟩
  · rw [hsame]
    have h := finish_sum_rounds hprecision (signed s₁ (c₁ * 10 ^ (e₁ - e₂).toNat) + signed s₂ c₂) e₂
      (s₁ && s₂)
    push_cast [add_mul] at h
    rw [signed_shift s₁ c₁ he, ← value_eq_signed] at h
    exact h
  · rw [hfar]
    have h := finish_sum_rounds hprecision
      (signed s₁ (c₁ * 10 ^ (e₁ - j).toNat) + signed s₂ (if c₂ = 0 then 0 else 1)) j (s₁ && s₂)
    refine ⟨?_, h.fits⟩
    rw [h.value]
    by_cases hc₂ : c₂ = 0
    · subst hc₂
      have hzero : signed s₂ 0 = 0 := by cases s₂ <;> rfl
      simp only [if_true, hzero, add_zero, signed_shift s₁ c₁ hj, value_eq_signed s₂, Int.cast_zero,
        zero_mul]
    · have hround := round_far hprecision s₁ s₂ hc₂ hlarge hlow
      rw [← signed_shift s₁ c₁ hj, hn, if_neg hc₂, hround]
      push_cast
      rfl

/-- The sum of two finite numbers is their exact sum, rounded. -/
theorem add_rounds (hprecision : 0 < ctx.precision) {a b : Decimal} (ha : a.isFinite = true)
    (hb : b.isFinite = true) : ctx.Rounds (add ctx a b) (a.value + b.value) := by
  obtain ⟨s₁, c₁, e₁, rfl⟩ := exists_of_isFinite ha
  obtain ⟨s₂, c₂, e₂, rfl⟩ := exists_of_isFinite hb
  simp only [add, undefined?]
  split
  · next hlt =>
      rw [add_comm (value _)]
      exact addAligned_rounds hprecision s₂ c₂ s₁ c₁ hlt.le
  · next hle => exact addAligned_rounds hprecision s₁ c₁ s₂ c₂ (not_lt.1 hle)

/-- The coefficient of an aligned sum has the sign of the exact sum, also where an operand out of
sight is replaced by one unit. -/
private theorem sum_sign (s₁ : Bool) (c₁ : Nat) {e₁ : Int} (s₂ : Bool) (c₂ : Nat) {e₂ : Int}
    (he : e₂ ≤ e₁) {low : Nat × Int} (hlow : visible ctx.precision c₁ e₁ c₂ e₂ = low) :
    SignType.sign ((signed s₁ (c₁ * 10 ^ (e₁ - low.2).toNat) + signed s₂ low.1 : Int) : Rat) =
      SignType.sign ((finite s₁ c₁ e₁).value + (finite s₂ c₂ e₂).value) := by
  rcases visible_spec ctx.precision c₁ e₁ c₂ e₂
    with hsame | ⟨j, n, hfar, hc₁, hj, hn, hlarge, hsmall⟩
  · obtain rfl := hlow.symm.trans hsame
    have hunit : (0 : Rat) < 10 ^ e₂ := by positivity
    rw [← signed_shift s₁ c₁ he, value_eq_signed s₂, ← add_mul, sign_mul, sign_pos hunit, mul_one]
    push_cast
    rfl
  · obtain rfl := hlow.symm.trans hfar
    have hunit : (0 : Rat) < 10 ^ j := by positivity
    have hlong : (10 : Rat) ≤ 10 * n := by
      have : 10 ^ 1 ≤ 10 * n := (Nat.pow_le_pow_right (by omega) (by omega)).trans hlarge
      exact_mod_cast this
    -- The first operand decides, since the second one has fewer than one of at least ten units.
    have hsecond : -(1 : Rat) * 10 ^ j ≤ (finite s₂ c₂ e₂).value ∧
        (finite s₂ c₂ e₂).value ≤ 1 * 10 ^ j := by
      have habs := abs_value_finite s₂ c₂ e₂
      rw [neg_one_mul, one_mul, ← abs_le, habs]
      exact hsmall.le
    have hmarked : (if c₂ = 0 then 0 else 1 : Nat) ≤ 1 := by split <;> omega
    have hmarked' : ((if c₂ = 0 then 0 else 1 : Nat) : Rat) ≤ 1 := by exact_mod_cast hmarked
    have hmarked₀ : (0 : Rat) ≤ ((if c₂ = 0 then 0 else 1 : Nat) : Rat) := Nat.cast_nonneg _
    rw [← signed_shift s₁ c₁ hj, hn]
    dsimp only
    generalize (if c₂ = 0 then 0 else 1 : Nat) = unit at *
    push_cast [signed_cast]
    cases s₁
    · have hpos : 0 < (10 * n : Rat) * 10 ^ j + (finite s₂ c₂ e₂).value := by nlinarith
      have hpos' : 0 < (10 * n : Rat) + if s₂ = true then -(unit : Rat) else unit := by
        split <;> linarith
      simp only [Bool.false_eq_true, if_false]
      rw [sign_pos hpos, sign_pos hpos']
    · have hneg : -(10 * n : Rat) * 10 ^ j + (finite s₂ c₂ e₂).value < 0 := by nlinarith
      have hneg' : -(10 * n : Rat) + (if s₂ = true then -(unit : Rat) else unit) < 0 := by
        split <;> linarith
      simp only [if_true]
      rw [sign_neg hneg, sign_neg hneg']

private theorem isNegative_of_addAligned {s₁ : Bool} {c₁ : Nat} {e₁ : Int} {s₂ : Bool}
    {c₂ : Nat} {e₂ : Int} (he : e₂ ≤ e₁) {d : Decimal}
    (h : addAligned ctx s₁ c₁ e₁ s₂ c₂ e₂ = .ok d) :
    d.isNegative = if (finite s₁ c₁ e₁).value + (finite s₂ c₂ e₂).value = 0 then s₁ && s₂
      else decide ((finite s₁ c₁ e₁).value + (finite s₂ c₂ e₂).value < 0) := by
  have hhigh : ∀ j : Int, (if c₁ = 0 then 0 else c₁ * 10 ^ (e₁ - j).toNat) =
      c₁ * 10 ^ (e₁ - j).toNat := by
    intro j
    split
    · next hc₁ => simp [hc₁]
    · rfl
  have hsign := sum_sign s₁ c₁ s₂ c₂ he (rfl : visible ctx.precision c₁ e₁ c₂ e₂ = _)
  have hnegative := Context.isNegative_of_finish h
  simp only [hhigh] at hnegative
  generalize signed s₁ (c₁ * 10 ^ (e₁ - (visible ctx.precision c₁ e₁ c₂ e₂).2).toNat) +
    signed s₂ (visible ctx.precision c₁ e₁ c₂ e₂).1 = sum at hsign hnegative
  generalize (finite s₁ c₁ e₁).value + (finite s₂ c₂ e₂).value = q at hsign ⊢
  have hzero : sum = 0 ↔ q = 0 := by
    rw [← sign_eq_zero_iff (a := q), ← hsign, sign_eq_zero_iff, Int.cast_eq_zero]
  have hneg : sum < 0 ↔ q < 0 := by
    rw [← sign_eq_neg_one_iff (a := q), ← hsign, sign_eq_neg_one_iff, Int.cast_lt_zero]
  simpa only [hzero, hneg] using hnegative

/-- A sum has the sign of the exact sum; one that is zero is negative if both operands are. -/
theorem isNegative_of_add {s₁ : Bool} {c₁ : Nat} {e₁ : Int} {s₂ : Bool} {c₂ : Nat}
    {e₂ : Int} {d : Decimal} (h : add ctx (finite s₁ c₁ e₁) (finite s₂ c₂ e₂) = .ok d) :
    d.isNegative = if (finite s₁ c₁ e₁).value + (finite s₂ c₂ e₂).value = 0 then s₁ && s₂
      else decide ((finite s₁ c₁ e₁).value + (finite s₂ c₂ e₂).value < 0) := by
  simp only [add, undefined?] at h
  split at h
  · next hlt =>
      rw [add_comm (value _), Bool.and_comm]
      exact isNegative_of_addAligned hlt.le h
  · next hle => exact isNegative_of_addAligned (not_lt.1 hle) h

theorem flip_value (a : Decimal) : (flip a).value = -a.value := by
  cases a with
  | finite s c e => cases s <;> simp [flip, value_finite]
  | infinite s => simp [flip, value]
  | nan s q p => simp [flip, value]

theorem flip_isFinite (a : Decimal) : (flip a).isFinite = a.isFinite := by
  cases a <;> rfl

/-- The difference of two finite numbers is their exact difference, rounded. -/
theorem sub_rounds (hprecision : 0 < ctx.precision) {a b : Decimal} (ha : a.isFinite = true)
    (hb : b.isFinite = true) : ctx.Rounds (sub ctx a b) (a.value - b.value) := by
  rw [sub_eq_add_neg, ← flip_value]
  exact add_rounds hprecision ha (by rw [flip_isFinite, hb])

/-- The product of two finite numbers is their exact product, rounded. -/
theorem mul_rounds (hprecision : 0 < ctx.precision) {a b : Decimal} (ha : a.isFinite = true)
    (hb : b.isFinite = true) : ctx.Rounds (mul ctx a b) (a.value * b.value) := by
  obtain ⟨s₁, c₁, e₁, rfl⟩ := exists_of_isFinite ha
  obtain ⟨s₂, c₂, e₂, rfl⟩ := exists_of_isFinite hb
  have hvalue : (finite (s₁ ^^ s₂) (c₁ * c₂) (e₁ + e₂)).value =
      (finite s₁ c₁ e₁).value * (finite s₂ c₂ e₂).value := by
    simp only [value_eq_signed, signed_cast, zpow_add₀ (show (10 : Rat) ≠ 0 by norm_num)]
    push_cast
    cases s₁ <;> cases s₂ <;> simp <;> ring
  rw [← hvalue]
  exact Context.finish_rounds hprecision _ _ _

/-- A zero stripped off the coefficient goes into the exponent. -/
theorem stripZeros_magnitude (fuel c : Nat) (e ideal : Int) :
    magnitude (stripZeros fuel c e ideal).1 (stripZeros fuel c e ideal).2 = magnitude c e := by
  induction fuel generalizing c e with
  | zero => rfl
  | succ fuel ih =>
      unfold stripZeros
      split
      · next hzero =>
          obtain ⟨a, rfl⟩ : ∃ a, c = a * 10 ^ 1 := ⟨c / 10, by omega⟩
          rw [ih, pow_one, Nat.mul_div_cancel a (by norm_num), ← pow_one 10, magnitude_mul_pow]
          rfl
      · rfl

/-- The marked last digit of a cut quotient stands on the same side of every tie as the exact
quotient. -/
theorem sticky_gap (n : Nat) {d : Nat} (hd : 0 < d) (hr : n % d ≠ 0) :
    5 * (n / d / 5) < sticky (n / d) (n % d) ∧ sticky (n / d) (n % d) < 5 * (n / d / 5) + 5 ∧
      5 * (n / d / 5) * d < n ∧ n < (5 * (n / d / 5) + 5) * d := by
  have hsplit := Nat.div_add_mod n d
  have hlt := Nat.mod_lt n hd
  generalize n / d = q at *
  generalize n % d = r at *
  refine ⟨?_, ?_, ?_, ?_⟩
  · unfold sticky
    split <;> omega
  · unfold sticky
    split <;> omega
  · have : 5 * (q / 5) * d ≤ d * q := by
      rw [mul_comm d]
      exact Nat.mul_le_mul_right d (by omega)
    omega
  · have : d * (q + 1) ≤ (5 * (q / 5) + 5) * d := by
      rw [mul_comm d]
      exact Nat.mul_le_mul_right d (by omega)
    rw [mul_add] at this
    omega

/-- What lies between two neighbouring multiples of five lies in a gap at any place. -/
private theorem mem_gap_of_multiples {m : Nat} {x : Rat} (hlow : (5 * m : Nat) < x)
    (hhigh : x < (5 * m + 5 : Nat)) (e : Int) : x * 10 ^ e ∈ Context.Gap m e := by
  have hunit : (0 : Rat) < 10 ^ e := by positivity
  push_cast at hlow hhigh
  constructor
  · push_cast
    nlinarith
  · push_cast
    nlinarith

/-- A cut quotient that is long enough, with its last digit marked, rounds like the exact
quotient. -/
private theorem sticky_round (hprecision : 0 < ctx.precision) {n d : Nat} (hd : 0 < d)
    (hlong : d * 10 ^ ctx.precision ≤ n) (hcut : n % d ≠ 0) (e : Int) :
    ctx.round (magnitude (sticky (n / d) (n % d)) e) = ctx.round ((n : Rat) / d * 10 ^ e) := by
  obtain ⟨hsticky, hsticky', hlow, hhigh⟩ := sticky_gap n hd hcut
  have hd' : (0 : Rat) < d := by exact_mod_cast hd
  have hdigits : 10 ^ ctx.precision ≤ 5 * (n / d / 5) := by
    obtain ⟨p, hp⟩ : ∃ p, ctx.precision = p + 1 := ⟨ctx.precision - 1, by omega⟩
    rw [hp, pow_succ] at hlong ⊢
    have hq : 10 ^ p * 10 ≤ n / d := by
      rw [Nat.le_div_iff_mul_le hd, mul_comm]
      exact hlong
    omega
  generalize n / d / 5 = m at *
  refine Context.round_congr (m := m) (j := e) ?_ hprecision ?_ ?_
  · have hunit : (0 : Rat) < 10 ^ e := by positivity
    have hdigits' : ((10 ^ ctx.precision : Nat) : Rat) ≤ (5 * m : Nat) := by exact_mod_cast hdigits
    rw [zpow_add₀ (by norm_num), zpow_natCast]
    push_cast at hdigits' ⊢
    nlinarith
  · exact mem_gap_of_multiples (by exact_mod_cast hsticky) (by exact_mod_cast hsticky') e
  · apply mem_gap_of_multiples _ _ e
    · rw [lt_div_iff₀ hd']
      exact_mod_cast hlow
    · rw [div_lt_iff₀ hd']
      exact_mod_cast hhigh

/-- The scaled operands of a quotient: their quotient is the exact one, moved up by `shift` places,
and long enough. -/
private theorem scaled_quotient {precision c₁ c₂ : Nat} (hc₁ : c₁ ≠ 0) (hc₂ : c₂ ≠ 0) {shift : Int}
    (hshift : shift = (digitCount c₂ : Int) - digitCount c₁ + precision + 1) {n d : Nat}
    (hn : n = if 0 < shift then c₁ * 10 ^ shift.toNat else c₁)
    (hd : d = if shift < 0 then c₂ * 10 ^ (-shift).toNat else c₂) :
    0 < d ∧ (n : Rat) / d = c₁ / c₂ * 10 ^ shift ∧ d * 10 ^ precision ≤ n := by
  have hlow := pow_digitCount_le hc₁
  have hhigh := (lt_pow_digitCount c₂).le
  have hpos := digitCount_pos c₁
  have hc₂' : (c₂ : Rat) ≠ 0 := by exact_mod_cast hc₂
  rcases lt_or_ge 0 shift with hup | hdown
  · obtain ⟨k, rfl⟩ : ∃ k : Nat, shift = k := ⟨shift.toNat, by omega⟩
    rw [if_pos hup, Int.toNat_natCast] at hn
    rw [if_neg (by omega)] at hd
    subst hn hd
    refine ⟨by omega, ?_, ?_⟩
    · rw [zpow_natCast]
      push_cast
      ring
    · calc
        d * 10 ^ precision ≤ 10 ^ digitCount d * 10 ^ precision := Nat.mul_le_mul_right _ hhigh
        _ = 10 ^ (digitCount c₁ - 1) * 10 ^ k := by
            rw [← pow_add, ← pow_add]
            congr 1
            omega
        _ ≤ c₁ * 10 ^ k := Nat.mul_le_mul_right _ hlow
  · obtain ⟨k, rfl⟩ : ∃ k : Nat, shift = -k := ⟨(-shift).toNat, by omega⟩
    rw [if_neg (by omega)] at hn
    have hd' : d = c₂ * 10 ^ k := by
      rw [hd, neg_neg, Int.toNat_natCast]
      split
      · rfl
      · next hzero =>
          obtain rfl : k = 0 := by omega
          simp
    subst hn hd'
    refine ⟨by positivity, ?_, ?_⟩
    · rw [zpow_neg, zpow_natCast]
      push_cast
      field_simp
    · calc
        c₂ * 10 ^ k * 10 ^ precision ≤ 10 ^ digitCount c₂ * 10 ^ k * 10 ^ precision := by gcongr
        _ = 10 ^ (digitCount n - 1) := by
            rw [← pow_add, ← pow_add]
            congr 1
            omega
        _ ≤ n := hlow

/-- The quotient of two coefficients rounds like the exact one. -/
theorem quotient_round (hprecision : 0 < ctx.precision) {c₁ c₂ : Nat} (hc₁ : c₁ ≠ 0) (hc₂ : c₂ ≠ 0)
    (ideal : Int) :
    ctx.round (magnitude (quotient ctx.precision c₁ c₂ ideal).1
      (quotient ctx.precision c₁ c₂ ideal).2) = ctx.round ((c₁ : Rat) / c₂ * 10 ^ ideal) := by
  unfold quotient
  dsimp only
  generalize hshift : (digitCount c₂ : Int) - digitCount c₁ + ctx.precision + 1 = shift
  generalize hn : (if 0 < shift then c₁ * 10 ^ shift.toNat else c₁) = n
  generalize hd : (if shift < 0 then c₂ * 10 ^ (-shift).toNat else c₂) = d
  obtain ⟨hdpos, hquotient, hlong⟩ := scaled_quotient hc₁ hc₂ hshift.symm hn.symm hd.symm
  have hexact : (c₁ : Rat) / c₂ * 10 ^ ideal = (n : Rat) / d * 10 ^ (ideal - shift) := by
    rw [hquotient, mul_assoc, ← zpow_add₀ (by norm_num)]
    congr 2
    omega
  rw [hexact]
  generalize ideal - shift = e
  have hdpos' : (0 : Rat) < d := by exact_mod_cast hdpos
  split
  · next hwhole =>
      have hdiv : (n : Rat) / d = (n / d : Nat) := by
        rw [Nat.cast_div (Nat.dvd_of_mod_eq_zero hwhole) hdpos'.ne']
      rw [stripZeros_magnitude, hdiv]
      rfl
  · next hcut => exact sticky_round hprecision hdpos hlong hcut e

/-- The quotient of two finite numbers, of which the second is not zero, is their exact quotient,
rounded. -/
theorem div_rounds (hprecision : 0 < ctx.precision) {a b : Decimal} (ha : a.isFinite = true)
    (hb : b.isFinite = true) (hzero : b.value ≠ 0) :
    ctx.Rounds (div ctx a b) (a.value / b.value) := by
  obtain ⟨s₁, c₁, e₁, rfl⟩ := exists_of_isFinite ha
  obtain ⟨s₂, c₂, e₂, rfl⟩ := exists_of_isFinite hb
  have hc₂ : c₂ ≠ 0 := fun h => hzero ((value_finite_eq_zero_iff ..).2 h)
  simp only [div, undefined?, hc₂, if_false]
  split
  · next hc₁ =>
      subst hc₁
      have h := Context.finish_rounds hprecision (s₁ ^^ s₂) 0 (e₁ - e₂)
      have hvalue : ∀ s e, (finite s 0 e).value = 0 :=
        fun s e => (value_finite_eq_zero_iff s 0 e).2 rfl
      rw [hvalue] at h
      rwa [hvalue, zero_div]
  · next hc₁ =>
      have h := Context.finish_rounds hprecision (s₁ ^^ s₂)
        (quotient ctx.precision c₁ c₂ (e₁ - e₂)).1 (quotient ctx.precision c₁ c₂ (e₁ - e₂)).2
      refine ⟨?_, h.fits⟩
      rw [h.value]
      have hround := quotient_round hprecision hc₁ hc₂ (e₁ - e₂)
      have hexact : (finite s₁ c₁ e₁).value / (finite s₂ c₂ e₂).value =
          if (s₁ ^^ s₂) = true then -((c₁ : Rat) / c₂ * 10 ^ (e₁ - e₂))
          else (c₁ : Rat) / c₂ * 10 ^ (e₁ - e₂) := by
        simp only [value_finite, magnitude, zpow_sub₀ (show (10 : Rat) ≠ 0 by norm_num)]
        cases s₁ <;> cases s₂ <;> simp [mul_div_mul_comm, neg_div, div_neg]
      rw [hexact, value_finite]
      split
      · rw [Context.round_neg, Context.round_neg, hround]
      · exact hround

/-- Taking a number into the context rounds it. -/
theorem plus_rounds (hprecision : 0 < ctx.precision) {a : Decimal} (ha : a.isFinite = true) :
    ctx.Rounds (plus ctx a) a.value := by
  obtain ⟨s, c, e, rfl⟩ := exists_of_isFinite ha
  have h := Context.finish_rounds hprecision (if c = 0 then false else s) c e
  have hvalue : (finite (if c = 0 then false else s) c e).value = (finite s c e).value := by
    split
    · next hc => rw [(value_finite_eq_zero_iff ..).2 hc, (value_finite_eq_zero_iff ..).2 hc]
    · rfl
  rwa [hvalue] at h

theorem neg_rounds (hprecision : 0 < ctx.precision) {a : Decimal} (ha : a.isFinite = true) :
    ctx.Rounds (neg ctx a) (-a.value) := by
  obtain ⟨s, c, e, rfl⟩ := exists_of_isFinite ha
  have h := Context.finish_rounds hprecision (if c = 0 then false else !s) c e
  have hvalue : (finite (if c = 0 then false else !s) c e).value = -(finite s c e).value := by
    split
    · next hc =>
        rw [(value_finite_eq_zero_iff ..).2 hc, (value_finite_eq_zero_iff ..).2 hc, neg_zero]
    · exact flip_value (finite s c e)
  rwa [hvalue] at h

theorem abs_rounds (hprecision : 0 < ctx.precision) {a : Decimal} (ha : a.isFinite = true) :
    ctx.Rounds (abs ctx a) |a.value| := by
  obtain ⟨s, c, e, rfl⟩ := exists_of_isFinite ha
  have h := Context.finish_rounds hprecision false c e
  rwa [value_finite, if_neg (by simp), ← abs_value_finite s] at h

end UnitConversion.Decimal
