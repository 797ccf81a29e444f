import UnitConversion.Proofs.Decimal.Digits

/-!
# The order of decimal numbers

`Decimal.compare?` orders finite numbers by their values, whatever their exponents are, and so only
numbers of one value are the same.
-/

namespace UnitConversion

namespace Decimal

theorem compareMagnitude_eq (c₁ : Nat) (e₁ : Int) (c₂ : Nat) (e₂ : Int) :
    compareMagnitude c₁ e₁ c₂ e₂ = compare (magnitude c₁ e₁) (magnitude c₂ e₂) := by
  unfold compareMagnitude
  by_cases hc₁ : c₁ = 0
  · subst hc₁
    by_cases hc₂ : c₂ = 0
    · simp [hc₂]
    · rw [if_pos rfl, if_neg hc₂, magnitude_zero]
      exact (compare_lt_iff_lt.2 (magnitude_pos hc₂ e₂)).symm
  by_cases hc₂ : c₂ = 0
  · subst hc₂
    rw [if_neg hc₁, if_pos rfl, magnitude_zero]
    exact (compare_gt_iff_gt.2 (magnitude_pos hc₁ e₁)).symm
  rw [if_neg hc₁, if_neg hc₂]
  by_cases hlt : adjusted c₁ e₁ < adjusted c₂ e₂
  · rw [if_pos hlt]
    have hhigh := (adjusted_lt_iff hc₁ e₁ _).1 hlt
    exact (compare_lt_iff_lt.2 (hhigh.trans_le (pow_adjusted_le hc₂ e₂))).symm
  by_cases hgt : adjusted c₂ e₂ < adjusted c₁ e₁
  · rw [if_neg hlt, if_pos hgt]
    have hhigh := (adjusted_lt_iff hc₂ e₂ _).1 hgt
    exact (compare_gt_iff_gt.2 (hhigh.trans_le (pow_adjusted_le hc₁ e₁))).symm
  rw [if_neg hlt, if_neg hgt]
  dsimp only
  -- At the common exponent the coefficients stand to each other as the numbers do.
  have haligned (c : Nat) (e : Int) (he : min e₁ e₂ ≤ e) :
      magnitude c e = ((c * 10 ^ (e - min e₁ e₂).toNat : Nat) : Rat) * 10 ^ min e₁ e₂ := by
    rw [show e = min e₁ e₂ + ((e - min e₁ e₂).toNat : Int) by omega, ← magnitude_mul_pow, magnitude]
    congr 4
    omega
  rw [haligned c₁ e₁ (min_le_left _ _), haligned c₂ e₂ (min_le_right _ _)]
  have hpos : (0 : Rat) < 10 ^ min e₁ e₂ := by positivity
  generalize c₁ * 10 ^ (e₁ - min e₁ e₂).toNat = n₁
  generalize c₂ * 10 ^ (e₂ - min e₁ e₂).toNat = n₂
  rcases lt_trichotomy n₁ n₂ with hn | hn | hn
  · rw [compare_lt_iff_lt.2 hn, eq_comm, compare_lt_iff_lt]
    have : (n₁ : Rat) < n₂ := by exact_mod_cast hn
    gcongr
  · rw [hn, compare_eq_iff_eq.2 rfl, eq_comm, compare_eq_iff_eq]
  · rw [compare_gt_iff_gt.2 hn, eq_comm, compare_gt_iff_gt]
    have : (n₂ : Rat) < n₁ := by exact_mod_cast hn
    show (n₂ : Rat) * _ < n₁ * _
    gcongr

theorem compareFinite_eq (s₁ : Bool) (c₁ : Nat) (e₁ : Int) (s₂ : Bool) (c₂ : Nat) (e₂ : Int) :
    compareFinite s₁ c₁ e₁ s₂ c₂ e₂ = compare (finite s₁ c₁ e₁).value (finite s₂ c₂ e₂).value := by
  simp only [compareFinite, value_finite]
  by_cases hc₁ : c₁ = 0
  · subst hc₁
    by_cases hc₂ : c₂ = 0
    · subst hc₂
      simp
    · have hpos := magnitude_pos hc₂ e₂
      rw [if_neg (by simp [hc₂]), if_pos rfl, magnitude_zero, eq_comm]
      cases s₂
      · simpa [compare_lt_iff_lt] using hpos
      · simpa [compare_gt_iff_gt] using hpos
  by_cases hc₂ : c₂ = 0
  · subst hc₂
    have hpos := magnitude_pos hc₁ e₁
    rw [if_neg (by simp [hc₁]), if_neg hc₁, if_pos rfl, magnitude_zero, eq_comm]
    cases s₁
    · simpa [compare_gt_iff_gt] using hpos
    · simpa [compare_lt_iff_lt] using hpos
  rw [if_neg (by simp [hc₁]), if_neg hc₁, if_neg hc₂]
  have hpos₁ := magnitude_pos hc₁ e₁
  have hpos₂ := magnitude_pos hc₂ e₂
  cases s₁ <;> cases s₂ <;> simp only [compareMagnitude_eq, Bool.false_eq_true, if_true, if_false]
  · rw [eq_comm, compare_gt_iff_gt]
    linarith
  · rw [eq_comm, compare_lt_iff_lt]
    linarith
  · rcases lt_trichotomy (magnitude c₁ e₁) (magnitude c₂ e₂) with h | h | h
    · rw [compare_gt_iff_gt.2 h, eq_comm, compare_gt_iff_gt]
      exact neg_lt_neg h
    · rw [h, compare_eq_iff_eq.2 rfl, eq_comm, compare_eq_iff_eq]
    · rw [compare_lt_iff_lt.2 h, eq_comm, compare_lt_iff_lt]
      exact neg_lt_neg h

/-- Finite numbers are ordered by value. -/
theorem compare?_eq {a b : Decimal} (ha : a.isFinite = true) (hb : b.isFinite = true) :
    compare? a b = some (compare a.value b.value) := by
  obtain ⟨s₁, c₁, e₁, rfl⟩ := exists_of_isFinite ha
  obtain ⟨s₂, c₂, e₂, rfl⟩ := exists_of_isFinite hb
  rw [← compareFinite_eq]
  rfl

theorem atLeast_iff {a b : Decimal} (ha : a.isFinite = true) (hb : b.isFinite = true) :
    atLeast a b = true ↔ b.value ≤ a.value := by
  rw [atLeast, compare?_eq ha hb]
  rcases lt_trichotomy a.value b.value with h | h | h
  · simp [compare_lt_iff_lt.2 h, h]
  · simp [h]
  · simp [compare_gt_iff_gt.2 h, h.le]

theorem below_iff {a b : Decimal} (ha : a.isFinite = true) (hb : b.isFinite = true) :
    below a b = true ↔ a.value < b.value := by
  rw [below, compare?_eq ha hb]
  simp [compare_lt_iff_lt]

theorem sameValue_iff {a b : Decimal} (ha : a.isFinite = true) (hb : b.isFinite = true) :
    sameValue a b = true ↔ a.value = b.value := by
  rw [sameValue, compare?_eq ha hb]
  simp

/-- Only a finite number has the value of a finite number. -/
theorem isFinite_of_sameValue {a b : Decimal} (h : sameValue a b = true) (hb : b.isFinite = true) :
    a.isFinite = true := by
  obtain ⟨s, c, e, rfl⟩ := exists_of_isFinite hb
  cases a with
  | finite => rfl
  | infinite s => cases s <;> simp [sameValue, compare?] at h
  | nan => simp [sameValue, compare?] at h

/-- However many zeros a one is written with, its value is one. -/
theorem value_eq_one {a : Decimal} (h : sameValue a (.ofNat 1) = true) :
    a.isFinite = true ∧ a.value = 1 := by
  have ha := isFinite_of_sameValue h rfl
  refine ⟨ha, ?_⟩
  rw [(sameValue_iff ha rfl).1 h]
  norm_num [ofNat, value_finite, magnitude]

end Decimal

end UnitConversion
