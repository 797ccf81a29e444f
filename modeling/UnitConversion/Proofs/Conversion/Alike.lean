import UnitConversion.Proofs.Conversion.Range
import UnitConversion.Proofs.Formula.Alike

/-!
# Conversions of alike numbers

Numbers that differ only in how they are written have the same nearest double and are shown as the
same text, and the rules of units turn them into numbers that again differ only in how they are
written.

* `Binary64.ofDecimal_congr`: the nearest double.
* `Conversion.format_congr`: the text of a result.
* `Rule.fromBase_agree`: the rules of units.
-/

namespace UnitConversion

open Decimal

/-! ### Nearest doubles -/

namespace Binary64

theorem ofScaled_congr (s : Bool) {c₁ c₂ : Nat} {e₁ e₂ : Int}
    (h : magnitude c₁ e₁ = magnitude c₂ e₂) :
    ofScaled s c₁ e₁ = ofScaled s c₂ e₂ := by
  by_cases hc : c₁ = 0
  · simp [ofScaled, hc, (coefficient_eq_zero_iff h).1 hc]
  have hnearest : nearest s (c₁ * 10 ^ e₁.toNat) (10 ^ (-e₁).toNat) =
      nearest s (c₂ * 10 ^ e₂.toNat) (10 ^ (-e₂).toNat) := by
    refine eq_of_shift (F := fun c e => nearest s (c * 10 ^ e.toNat) (10 ^ (-e).toNat))
      (fun c e _ => ?_) hc h
    rcases le_or_gt 0 e with he | he
    · rw [show (e + 1).toNat = e.toNat + 1 by omega, show (-(e + 1)).toNat = 0 by omega,
        show (-e).toNat = 0 by omega, pow_succ', mul_assoc]
    · rw [show (e + 1).toNat = 0 by omega, show e.toNat = 0 by omega,
        show (-e).toNat = (-(e + 1)).toNat + 1 by omega, pow_succ 10 (-(e + 1)).toNat,
            pow_zero, mul_one,
        mul_one, nearest_mul s c (by positivity) (by norm_num)]
  simp only [ofScaled, coefficient_eq_zero_iff h, adjusted_congr hc h, hnearest]

theorem ofDecimal_congr {digits : Nat} {a b : Decimal} (h : Decimal.Alike digits a b) :
    ofDecimal a = ofDecimal b := by
  cases h with
  | finite s hmagnitude => exact ofScaled_congr s hmagnitude
  | infinite s => rfl
  | nan s signaling payload => rfl

end Binary64

/-! ### Texts of results -/

/-- A zero at the end is the first digit to be dropped. -/
theorem dropDigits_mul_ten (tie : Tie) (n k : Nat) :
    dropDigits tie (n * 10) (k + 1) = dropDigits tie n k := by
  have h : ((dropDigits tie (n * 10) (k + 1) : Nat) : Int) = (dropDigits tie n k : Nat) := by
    rw [dropDigits_eq_nearest, dropDigits_eq_nearest, pow_succ]
    push_cast
    rw [mul_div_mul_right _ _ (by norm_num)]
  exact_mod_cast h

theorem dropDigits_zero (tie : Tie) (n : Nat) : dropDigits tie n 0 = n :=
  le_antisymm (dropDigits_le (by simp)) (le_dropDigits (by simp))

/-- Rounding a coefficient that has enough digits drops one digit more if there is one zero more. -/
theorem roundToDigits_mul_ten (tie : Tie) {digits n : Nat} (hn : n ≠ 0)
    (hlong : digits ≤ digitCount n) :
    roundToDigits tie digits (n * 10) =
      ((roundToDigits tie digits n).1, (roundToDigits tie digits n).2 + 1) := by
  unfold roundToDigits
  dsimp only
  rw [digitCount_mul_ten hn, if_neg (by omega),
    show digitCount n + 1 - digits = digitCount n - digits + 1 by omega, dropDigits_mul_ten]
  rcases eq_or_lt_of_le hlong with hexact | hmore
  · rw [hexact, Nat.sub_self, dropDigits_zero]
    simp
  · rw [if_neg (show ¬ digitCount n ≤ digits by omega)]
    split <;> rfl

namespace Decimal

variable {c₁ c₂ : Nat} {e₁ e₂ : Int}

theorem toPlaces_congr (ctx : Context) (places : Nat) (s : Bool)
    (h : magnitude c₁ e₁ = magnitude c₂ e₂) :
    toPlaces ctx places s c₁ e₁ = toPlaces ctx places s c₂ e₂ := by
  by_cases hc : c₁ = 0
  · simp [toPlaces, hc, (coefficient_eq_zero_iff h).1 hc]
  refine eq_of_shift (F := toPlaces ctx places s) (fun c e hc => ?_) hc h
  have hc' : c * 10 ≠ 0 := by positivity
  unfold toPlaces
  dsimp only
  rw [if_neg hc', if_neg hc, digitCount_mul_ten hc,
    show e + 1 + (places : Int) = e + places + 1 by ring]
  generalize e + (places : Int) = shift
  have hlength : ((digitCount c + 1 : Nat) : Int) + shift = digitCount c + (shift + 1) := by
    push_cast
    ring
  have hrounded : (if 0 ≤ shift then c * 10 * 10 ^ shift.toNat
  else dropDigits .up (c * 10) (-shift).toNat) =
      if 0 ≤ shift + 1 then c * 10 ^ (shift + 1).toNat
      else dropDigits .up c (-(shift + 1)).toNat := by
    -- The zero at the end stands for one that would be appended, or is the first digit to be
    -- dropped.
    rcases le_or_gt 0 shift with hup | hdown
    · rw [if_pos hup, if_pos (by omega), show (shift + 1).toNat = shift.toNat + 1 by omega,
        pow_succ', mul_assoc]
    · rw [if_neg (by omega), show (-shift).toNat = (-(shift + 1)).toNat + 1 by omega,
        dropDigits_mul_ten]
      split
      · next hlast =>
          rw [show (-(shift + 1)).toNat = 0 by omega, show (shift + 1).toNat = 0 by omega,
            dropDigits_zero]
          simp
      · rfl
  rw [hlength, hrounded]

theorem exponentialParts_congr (hc : c₁ ≠ 0) (h : magnitude c₁ e₁ = magnitude c₂ e₂) :
    exponentialParts c₁ e₁ = exponentialParts c₂ e₂ := by
  refine eq_of_shift (F := exponentialParts) (fun c e hc => ?_) hc h
  unfold exponentialParts
  rw [digitCount_mul_ten hc, adjusted_mul_ten hc]
  by_cases hshort : digitCount c + 1 ≤ exponentialDigits
  · rw [if_pos hshort, if_pos (by omega), mul_assoc, ← pow_succ',
      show exponentialDigits - (digitCount c + 1) + 1 = exponentialDigits - digitCount c by omega]
  · rw [if_neg hshort, roundToDigits_mul_ten .up hc (by omega)]
    dsimp only
    have hplace (n : Nat) : e + ((n + 1 : Nat) : Int) = e + 1 + n := by
      push_cast
      ring
    rw [hplace]
    split
    · next hlast =>
        have hkeep : roundToDigits .up exponentialDigits c = (c, 0) := by
          unfold roundToDigits
          rw [if_pos hlast]
        rw [hkeep, show exponentialDigits - digitCount c = 0 by omega]
        simp
    · rfl

end Decimal

namespace Conversion

variable {digits : Nat} {a b : Decimal}

theorem isRepresentable_congr (h : Decimal.Alike digits a b) :
    isRepresentable a = isRepresentable b := by
  rw [isRepresentable, isRepresentable, Binary64.ofDecimal_congr h]

theorem positional_congr (places : Nat) (h : Decimal.Alike digits a b) :
    positional places a = positional places b := by
  cases h with
  | finite s hmagnitude => simp only [positional, toPlaces_congr .conversion places s hmagnitude]
  | infinite s => rfl
  | nan s signaling payload => rfl

theorem exponential_congr (h : Decimal.Alike digits a b) (hzero : a.isZero = false) :
    exponential a = exponential b := by
  cases h with
  | finite s hmagnitude =>
      simp only [exponential, exponentialText,
        exponentialParts_congr (by simpa [isZero] using hzero) hmagnitude]
  | infinite s => rfl
  | nan s signaling payload => rfl

theorem placesFor_congr (h : Decimal.Alike digits a b) : placesFor a = placesFor b := by
  have hreach (bound : Decimal) : atLeast a bound = atLeast b bound := by
    have hbound : Decimal.Alike digits bound bound := .refl bound
    rw [atLeast, atLeast, compare?_congr h hbound]
  simp only [placesFor, hreach]

theorem hasExponent_congr (settings : Settings) (h : Decimal.Alike digits a b) :
    hasExponent settings a = hasExponent settings b := by
  have hreach (bound : Decimal) : reaches a bound = reaches b bound := by
    have hbound : Decimal.Alike digits bound bound := .refl bound
    rw [reaches, reaches, compare?_congr h hbound]
  simp only [hasExponent, hreach]

/-- Alike results are shown as the same text, or cannot be shown for the same reason. -/
theorem format_congr (settings : Settings) (h : Decimal.Alike digits a b) :
    format settings a = format settings b := by
  have hchars : formatChars settings a = formatChars settings b := by
    unfold formatChars
    rw [h.isZero_eq]
    split
    · rfl
    · next hzero =>
        -- The size that decides on the places is rounded to the digits of the ambient context
        -- first.
        have hambient : 0 < Context.ambient.precision := by decide
        have habs := abs_agree hambient le_rfl h
        generalize Decimal.abs .ambient a = size at habs ⊢
        generalize Decimal.abs .ambient b = size' at habs ⊢
        cases habs with
        | error signal => rfl
        | ok hsize =>
            have hnonzero : a.isZero = false := by rw [h.isZero_eq]; simpa using hzero
            simp only [bind, Except.bind, hasExponent_congr settings hsize, placesFor_congr hsize,
              positional_congr _ h, exponential_congr h hnonzero]
  rw [format, format, hchars]

end Conversion

namespace Rule

variable {x y : Decimal}

/-- The rule of a unit turns alike numbers into alike numbers. -/
theorem fromBase_agree (rule : Rule) (h : Formula.Alike x y) :
    Agree Formula.Alike (rule.fromBase x) (rule.fromBase y) := by
  cases rule with
  | factor f =>
      have hfactor : Formula.Alike f f := .refl f
      exact (div_agree (by decide) le_rfl h hfactor).mapError _
  | formulas _ f => exact (f.evaluate_agree h).mapError _

end Rule

end UnitConversion
