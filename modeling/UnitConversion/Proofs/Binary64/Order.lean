import UnitConversion.Binary64.Basic
import UnitConversion.Proofs.Decimal.Arithmetic

/-!
# The order of doubles

`Binary64.compare?` orders finite doubles by the numbers that they are, whatever their exponents
are.
-/

namespace UnitConversion

namespace Binary64

/-- The number that a finite double is; the other data are given the number zero. -/
def number : Binary64 → Rat
  | finite s m e => (Decimal.signed s m : Rat) * 2 ^ e
  | _ => 0

theorem exists_of_isFinite {a : Binary64} (ha : a.isFinite = true) : ∃ s m e, a = finite s m e := by
  cases a with
  | finite s m e => exact ⟨s, m, e, rfl⟩
  | infinite s => cases ha
  | nan => cases ha

/-- A double has more units of a lower exponent. -/
theorem number_finite (s : Bool) (m : Nat) {e k : Int} (hk : k ≤ e) :
    (finite s m e).number = (Decimal.signed s (m * 2 ^ (e - k).toNat) : Rat) * 2 ^ k := by
  have hshift : (2 : Rat) ^ e = 2 ^ (e - k).toNat * 2 ^ k := by
    rw [← zpow_natCast, ← zpow_add₀ two_ne_zero, Int.toNat_of_nonneg (by omega), sub_add_cancel]
  rw [number, hshift, Decimal.signed_cast, Decimal.signed_cast]
  push_cast
  split <;> ring

theorem compareFinite_eq (s₁ : Bool) (m₁ : Nat) (e₁ : Int) (s₂ : Bool) (m₂ : Nat) (e₂ : Int) :
    compareFinite s₁ m₁ e₁ s₂ m₂ e₂ =
      compare (finite s₁ m₁ e₁).number (finite s₂ m₂ e₂).number := by
  rw [number_finite s₁ m₁ (min_le_left e₁ e₂), number_finite s₂ m₂ (min_le_right e₁ e₂)]
  simp only [compareFinite]
  have hunit : (0 : Rat) < 2 ^ min e₁ e₂ := by positivity
  generalize Decimal.signed s₁ _ = n₁
  generalize Decimal.signed s₂ _ = n₂
  rcases lt_trichotomy n₁ n₂ with hn | rfl | hn
  · have : (n₁ : Rat) < n₂ := by exact_mod_cast hn
    rw [compare_lt_iff_lt.2 hn, eq_comm, compare_lt_iff_lt]
    gcongr
  · rw [compare_eq_iff_eq.2 rfl, eq_comm, compare_eq_iff_eq]
  · have : (n₂ : Rat) < n₁ := by exact_mod_cast hn
    rw [compare_gt_iff_gt.2 hn, eq_comm, compare_gt_iff_gt]
    exact mul_lt_mul_of_pos_right this hunit

variable {a b : Binary64}

/-- Finite doubles are ordered by their numbers. -/
theorem compare?_eq (ha : a.isFinite = true) (hb : b.isFinite = true) :
    compare? a b = some (compare a.number b.number) := by
  obtain ⟨s₁, m₁, e₁, rfl⟩ := exists_of_isFinite ha
  obtain ⟨s₂, m₂, e₂, rfl⟩ := exists_of_isFinite hb
  rw [← compareFinite_eq]
  rfl

theorem lt_iff (ha : a.isFinite = true) (hb : b.isFinite = true) :
    lt a b = true ↔ a.number < b.number := by
  rw [lt, compare?_eq ha hb, beq_iff_eq, Option.some_inj, compare_lt_iff_lt]

theorem le_iff (ha : a.isFinite = true) (hb : b.isFinite = true) :
    le a b = true ↔ a.number ≤ b.number := by
  rw [le, compare?_eq ha hb, ← not_lt, ← compare_gt_iff_gt]
  cases compare a.number b.number <;> simp

theorem sameValue_iff (ha : a.isFinite = true) (hb : b.isFinite = true) :
    sameValue a b = true ↔ a.number = b.number := by
  rw [sameValue, compare?_eq ha hb, beq_iff_eq, Option.some_inj, compare_eq_iff_eq]

end Binary64

end UnitConversion
