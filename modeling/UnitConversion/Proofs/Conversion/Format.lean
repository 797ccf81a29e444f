import Mathlib.Data.String.Basic
import UnitConversion.Conversion.Format
import UnitConversion.Proofs.Decimal.Arithmetic
import UnitConversion.Proofs.Decimal.Order

/-!
# Results always have a text

A finite result that is zero or of normal size can be written whatever its digits are, as long as
the magnitude from which on results have an exponent leaves room for the places behind the point.
-/

namespace UnitConversion

namespace Decimal

/-- A number whose rounded form has fewer digits than the context keeps can be written with fixed
places. -/
theorem toPlaces_exists_ok {ctx : Context} (hprecision : 0 < ctx.precision)
    (places : Nat) (s : Bool) (c : Nat) {e : Int}
    (hfit : (digitCount c : Int) + (e + places) < ctx.precision) :
    ∃ n, toPlaces ctx places s c e = .ok (.finite s n (-(places : Int))) := by
  by_cases hc : c = 0
  · exact ⟨0, by rw [toPlaces, if_pos hc]⟩
  have hroom : ¬ (ctx.precision : Int) < digitCount c + (e + places) := by omega
  simp only [toPlaces, if_neg hc, if_neg hroom]
  by_cases hshift : 0 ≤ e + (places : Int)
  · have hcount := digitCount_mul_pow hc (e + places).toNat
    rw [if_pos hshift, if_neg (by omega)]
    exact ⟨_, rfl⟩
  · -- Dropping digits may carry into a new leading digit, for which there is room.
    have hdrop : dropDigits .up c (-(e + places)).toNat ≤ 10 ^ (ctx.precision - 1) := by
      apply dropDigits_le
      rw [← pow_add]
      refine (lt_pow_digitCount c).le.trans (Nat.pow_le_pow_right (by norm_num) ?_)
      omega
    have hcount : digitCount (dropDigits .up c (-(e + places)).toNat) ≤ ctx.precision := by
      rw [digitCount_le_iff hprecision]
      exact hdrop.trans_lt (Nat.pow_lt_pow_right (by norm_num) (by omega))
    rw [if_neg hshift, if_neg (by omega)]
    exact ⟨_, rfl⟩

end Decimal

namespace Conversion

theorem placesFor_le (d : Decimal) : placesFor d ≤ 8 := by
  unfold placesFor
  split
  · next band hband =>
      have hmem : ∀ b ∈ bands, b.2 ≤ 8 := by decide
      exact hmem band (List.mem_of_find?_eq_some hband)
  · exact le_rfl

theorem reaches_eq {a b : Decimal} (ha : a.isFinite = true) (hb : b.isFinite = true) :
    reaches a b = .ok (decide (b.value ≤ a.value)) := by
  rw [reaches, Decimal.compare?_eq ha hb]
  rcases lt_trichotomy a.value b.value with h | h | h
  · simp [compare_lt_iff_lt.2 h, h]
  · simp [h]
  · simp [compare_gt_iff_gt.2 h, h.le]

variable {settings : Settings} {d : Decimal}

theorem positional_exists_ok {places : Nat} (hplaces : places ≤ 8) (hd : d.isFinite = true)
    (hzero : d.isZero = false) (hbound : |d.value| < 10 ^ (31 : Int)) :
    ∃ cs, positional places d = .ok cs := by
  obtain ⟨s, c, e, rfl⟩ := Decimal.exists_of_isFinite hd
  have hc : c ≠ 0 := by simpa [Decimal.isZero] using hzero
  have hfit : (digitCount c : Int) + (e + places) < Context.conversion.precision := by
    rw [Decimal.abs_value_finite, ← Decimal.adjusted_lt_iff hc] at hbound
    simp only [Decimal.adjusted] at hbound
    simp only [Context.conversion]
    omega
  obtain ⟨n, hn⟩ := Decimal.toPlaces_exists_ok (by decide) places s c hfit
  simp only [positional, hn]
  exact ⟨_, rfl⟩

theorem hasExponent_eq (hupper : settings.exponentialUpper.isFinite = true)
    (hlower : settings.exponentialLower.isFinite = true) (hd : d.isFinite = true) :
    hasExponent settings d = .ok (decide (settings.exponentialUpper.value ≤ d.value) ||
      !decide (settings.exponentialLower.value ≤ d.value)) := by
  simp only [hasExponent, reaches_eq hd hupper, reaches_eq hd hlower]
  by_cases h : settings.exponentialUpper.value ≤ d.value
  · simp [h, bind, Except.bind, pure, Except.pure]
  · simp [h, bind, Except.bind, pure, Except.pure]

theorem format_eq_ok_iff {text : String} :
    format settings d = .ok text ↔ formatChars settings d = .ok text.toList := by
  unfold format
  cases formatChars settings d with
  | error signal => simp [Except.map]
  | ok cs => simp [Except.map, String.ofList_eq]

theorem format_exists_ok_iff :
    (∃ text, format settings d = .ok text) ↔ ∃ cs, formatChars settings d = .ok cs := by
  simp only [format_eq_ok_iff]
  exact ⟨fun ⟨text, h⟩ => ⟨_, h⟩, fun ⟨cs, h⟩ => ⟨String.ofList cs, by rwa [String.toList_ofList]⟩⟩

/-- The text of a result that is not zero, once the notation has been chosen. -/
theorem formatChars_eq {m : Decimal} {shown : Bool} (hzero : d.isZero = false)
    (hm : Decimal.abs .ambient d = .ok m) (hshown : hasExponent settings m = .ok shown) :
    formatChars settings d = if shown then .ok (exponential d) else positional (placesFor m) d := by
  simp only [formatChars, hzero, hm, bind, Except.bind, hshown]
  cases shown <;> rfl

/-- A finite result that is zero or of normal size has a text. -/
theorem format_exists_ok (hupper : settings.exponentialUpper.isFinite = true)
    (hlower : settings.exponentialLower.isFinite = true)
    (hroom : settings.exponentialUpper.value ≤ 10 ^ (30 : Int)) (hd : d.isFinite = true)
    (hlow : d.value = 0 ∨ 10 ^ minExponent ≤ |d.value|) (hhigh : |d.value| < 10 ^ maxExponent) :
    ∃ text, format settings d = .ok text := by
  rw [format_exists_ok_iff]
  by_cases hzero : d.isZero = true
  · exact ⟨['0'], by simp [formatChars, hzero, pure, Except.pure]⟩
  have hzero : d.isZero = false := by simpa using hzero
  have hrounds : Context.ambient.Rounds (Decimal.abs .ambient d) |d.value| :=
    Decimal.abs_rounds (by decide) hd
  obtain ⟨m, hm, hvalue, hfits⟩ :=
    hrounds.exists_ok (by simpa using hlow) (by simpa using hhigh) (by decide)
  have hexponent := hasExponent_eq hupper hlower (Context.isFinite_of_fits hfits)
  by_cases hplain : settings.exponentialUpper.value ≤ m.value ∨
    ¬ settings.exponentialLower.value ≤ m.value
  · refine ⟨exponential d, ?_⟩
    have : hasExponent settings m = .ok true := by
      rw [hexponent]
      simpa using hplain
    rw [formatChars_eq hzero hm this, if_pos rfl]
  · push Not at hplain
    -- The magnitude is compared in its rounded form, which is at least half of the exact one.
    have hbound : |d.value| < 10 ^ (31 : Int) := by
      have hhalf : |d.value| ≤ 2 * m.value := by
        have := Context.ambient.abs_le_two_mul_nearest (q := |d.value|) (by decide)
          (by simpa using hlow)
        rwa [abs_abs, Context.abs_nearest, abs_abs, ← hvalue] at this
      have hpow : (10 : Rat) ^ (31 : Int) = 10 * 10 ^ (30 : Int) := by norm_num
      rw [hpow]
      linarith [hplain.1]
    obtain ⟨cs, hcs⟩ := positional_exists_ok (placesFor_le m) hd hzero hbound
    refine ⟨cs, ?_⟩
    have : hasExponent settings m = .ok false := by
      rw [hexponent]
      simpa using hplain
    rw [formatChars_eq hzero hm this, if_neg Bool.false_ne_true, hcs]

end Conversion

end UnitConversion
