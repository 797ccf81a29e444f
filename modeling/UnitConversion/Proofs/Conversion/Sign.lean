import UnitConversion.Binary64.Basic
import UnitConversion.Proofs.Conversion.Notation
import UnitConversion.Proofs.Decimal.Printing
import UnitConversion.Proofs.Settings

/-!
# The sign of a shown result

The thresholds of exponential notation can be configured, and so fixed notation can be wanted for
numbers of any size. It shows the eighth place behind the point at last, and it has no room for more
digits than a conversion keeps.

* `wholeUnits_placesOf_eq_zero_iff`: which numbers are rounded away in fixed notation.
* `format_shows_sign`: every other number that has a text has one that shows its sign.
-/

namespace UnitConversion

open Decimal

/-! ### Numbers that are rounded away -/

namespace Decimal

theorem wholeUnits_eq_zero_iff (places : Nat) {q : Rat} (hq : 0 ≤ q) :
    wholeUnits places q = 0 ↔ q * 10 ^ places < 1 / 2 := by
  have hcast := wholeUnits_cast places hq
  constructor
  · intro hzero
    by_contra hlarge
    have hround := Tie.nearest_mono .up (not_lt.1 hlarge)
    have hhalf : Tie.nearest .up (1 / 2) = 1 := by decide +kernel
    omega
  · intro hsmall
    obtain ⟨-, hhigh⟩ := abs_le.1 (Tie.abs_nearest_sub_le .up (q * 10 ^ places))
    rw [← hcast] at hhigh
    have hlt : ((wholeUnits places q : Int) : Rat) < 1 := by linarith
    have : (wholeUnits places q : Int) < 1 := by exact_mod_cast hlt
    omega

/-- Rounding moves no number beyond a whole power of ten. -/
theorem adjusted_wholeUnits_le (places : Nat) {q : Rat} {k : Nat} (hq : q ≤ 10 ^ k) :
    adjusted (wholeUnits places q) (-(places : Int)) ≤ k := by
  have hpow : wholeUnits places (10 ^ k) = 10 ^ (k + places) := by
    have hunits := wholeUnits_magnitude places 1 k
    rw [if_pos (by positivity), one_mul, show ((k : Int) + places).toNat = k + places by omega]
      at hunits
    simpa [magnitude] using hunits
  have hle : wholeUnits places q ≤ 10 ^ (k + places) := hpow ▸ wholeUnits_mono places hq
  have hcount : digitCount (wholeUnits places q) ≤ k + places + 1 :=
    (digitCount_le_iff (by positivity)).2
      (hle.trans_lt (Nat.pow_lt_pow_right (by norm_num) (by omega)))
  unfold adjusted
  omega

/-- A text that is read as a nonzero number shows the sign of this number. -/
theorem Denotes.sign {text : List Char} {s : Bool} {n : Nat} {e : Int} (h : Denotes text s n e)
    (hn : n ≠ 0) :
    ∃ d, ofChars? text = some d ∧ d.isZero = false ∧ d.isNegative = s := by
  obtain ⟨d, hread, hsign, hvalue⟩ := h
  refine ⟨d, hread, ?_, hsign⟩
  have hne : d.value ≠ 0 := by
    rw [hvalue, Ne, value_finite_eq_zero_iff]
    exact hn
  obtain ⟨s', c', e', rfl⟩ := exists_of_isFinite (isFinite_of_value_ne_zero hne)
  simpa [isZero, value_finite_eq_zero_iff] using hne

end Decimal

namespace Conversion

variable {settings : Settings}

/-- In fixed notation only numbers below half a unit of the eighth place are rounded to zero. -/
theorem wholeUnits_placesOf_eq_zero_iff {q : Rat} (hq : 0 ≤ q) :
    wholeUnits (placesOf q) q = 0 ↔ q < 5 / 10 ^ 9 := by
  rw [wholeUnits_eq_zero_iff _ hq]
  unfold placesOf
  split_ifs with hlarge hmedium hsmall
  · constructor <;> intro h <;> norm_num at h ⊢ <;> linarith
  · constructor <;> intro h <;> norm_num at h ⊢ <;> linarith
  · constructor <;> intro h <;> norm_num at h ⊢ <;> linarith
  · constructor <;> intro h <;> norm_num at h ⊢ <;> linarith

/-- Two places behind the point leave room for every number below `10 ^ 38`, and more places are
only shown of numbers below a thousand. -/
theorem wholeUnits_lt {q : Rat} (hq : 0 < q) (hbound : q < 10 ^ 38 - 1 / 200) :
    wholeUnits (placesOf (Context.ambient.nearest q)) q < 10 ^ Context.conversion.precision := by
  have hsize : q * 10 ^ placesOf (Context.ambient.nearest q) < 10 ^ 40 - 1 / 2 := by
    rcases le_or_gt 1000 (Context.ambient.nearest q) with hlarge | hsmall
    · rw [placesOf, if_pos hlarge]
      linarith
    · have hq' : q < 1000 := by
        by_contra hlarge
        have hkept := (nearest_pow (j := 3) (by decide) hq).1
        norm_num at hkept
        exact absurd (hkept (not_lt.1 hlarge)) hsmall.not_ge
      calc q * 10 ^ placesOf (Context.ambient.nearest q) ≤ 1000 * 10 ^ 8 := by
            gcongr
            · norm_num
            · exact (placesOf_bounds _).2
        _ < 10 ^ 40 - 1 / 2 := by norm_num
  obtain ⟨-, hround⟩ := abs_le.1
    (Tie.abs_nearest_sub_le .up (q * 10 ^ placesOf (Context.ambient.nearest q)))
  rw [← wholeUnits_cast _ hq.le] at hround
  have hlt : ((wholeUnits (placesOf (Context.ambient.nearest q)) q : Int) : Rat) <
      ((10 ^ 40 : Nat) : Int) := by
    push_cast at hround ⊢
    linarith
  exact_mod_cast hlt

/-! ### Texts -/

/-- With finite thresholds a number has a text, if this has an exponent or if its rounded digits are
not too many. -/
theorem format_exists_ok_of_extreme (hupper : settings.exponentialUpper.isFinite = true)
    (hlower : settings.exponentialLower.isFinite = true) {s : Bool} {c : Nat} {e : Int}
    (hc : c ≠ 0) {m : Decimal} (hm : Decimal.abs .ambient (.finite s c e) = .ok m)
    (h : IsExtreme settings m ∨ magnitude c e < 10 ^ 38 - 1 / 200) :
    ∃ text, format settings (.finite s c e) = .ok text := by
  have hzero : (Decimal.finite s c e).isZero = false := by simpa [isZero] using hc
  obtain ⟨hfits, hvalue⟩ := abs_eq_ok hm
  have hfinite := Context.isFinite_of_fits hfits
  obtain ⟨shown, hshown⟩ : ∃ shown, hasExponent settings m = .ok shown :=
    ⟨_, hasExponent_eq hupper hlower hfinite⟩
  rw [format_exists_ok_iff, formatChars_eq hzero hm hshown]
  cases shown with
  | true => exact ⟨_, if_pos rfl⟩
  | false =>
      have hplain : ¬IsExtreme settings m := fun hextreme => by
        simpa using (hasExponent_eq_ok hshown).2 hextreme
      have hroom := wholeUnits_lt (magnitude_pos hc e) (h.resolve_left hplain)
      rw [← hvalue, ← placesFor_eq hfinite] at hroom
      rw [if_neg Bool.false_ne_true, positional_eq, if_neg hroom.not_ge]
      exact ⟨_, rfl⟩

/-- The text of a number of at most four hundred digits in front of the point shows its sign, unless
the number is rounded away. -/
theorem sign_of_format {s : Bool} {c : Nat} {e : Int} (hc : c ≠ 0) (hlow : smallestExponent ≤ e)
    (hplace : adjusted c e ≤ Binary64.outerPlace) {m : Decimal}
    (hm : Decimal.abs .ambient (.finite s c e) = .ok m) {text : String}
    (h : format settings (.finite s c e) = .ok text) :
    if ¬IsExtreme settings m ∧ magnitude c e < 5 / 10 ^ 9 then text = "0"
    else ∃ d, Decimal.ofText? text = some d ∧ d.isZero = false ∧ d.isNegative = s := by
  obtain ⟨m', hm', hnotation⟩ := format_eq_ok hc h
  obtain rfl : m = m' := Except.ok.inj (hm.symm.trans hm')
  rcases hnotation with ⟨hextreme, htext⟩ | ⟨hplain, htext⟩
  · have hrange : adjusted c e < largestExponent := hplace.trans_lt (by decide)
    rw [if_neg fun hsmall => hsmall.1 hextreme, Decimal.ofText?, htext]
    exact (denotes_exponentialText s hc hlow hrange).sign (exponentialParts_ne_zero hc e)
  · obtain ⟨hpositive, hplaces⟩ := placesOf_bounds (magnitude c e)
    have hrounded := wholeUnits_placesOf_eq_zero_iff (magnitude_nonneg c e)
    split
    · next hsmall =>
        have height : placesOf (magnitude c e) = 8 := by
          have hbelow := hsmall.2
          rw [placesOf, if_neg (by linarith), if_neg (by linarith), if_neg (by linarith)]
        have hzero : plainText s 0 8 = ['0'] := by cases s <;> decide
        rw [hrounded.2 hsmall.2, height, hzero] at htext
        rw [← String.ofList_toList (s := text), htext]
    · next hlarge =>
        have hn : wholeUnits (placesOf (magnitude c e)) (magnitude c e) ≠ 0 := fun hzero =>
          hlarge ⟨hplain, hrounded.1 hzero⟩
        have hbound : magnitude c e ≤ 10 ^ 401 := by
          rw [← zpow_natCast]
          refine (lt_pow_adjusted c e).le.trans (zpow_le_zpow_right₀ (by norm_num) ?_)
          simp only [Binary64.outerPlace] at hplace
          omega
        have hadjusted := adjusted_wholeUnits_le (placesOf (magnitude c e)) hbound
        rw [Decimal.ofText?, htext]
        refine (denotes_plainText s hn hpositive ?_ (hadjusted.trans (by decide))).sign hn
        simp only [smallestExponent]
        omega

/-- A number with a finite nearest double has few digits in front of the point. -/
theorem adjusted_le_of_isFinite_ofDecimal {s : Bool} {c : Nat} {e : Int} (hc : c ≠ 0)
    (h : (Binary64.ofDecimal (.finite s c e)).isFinite = true) :
    adjusted c e ≤ Binary64.outerPlace := by
  by_contra hlarge
  rw [Binary64.ofDecimal, Binary64.ofScaled, if_neg hc, if_pos (not_le.1 hlarge)] at h
  cases h

/-- With settings that were read, a number that doubles can show has a text, if this has an exponent
or if the number is below `10 ^ 38` after it was rounded to two places. The text shows the sign of
the number, unless it has no exponent and the number is below half a unit of the eighth place. -/
theorem format_shows_sign {root : String} {value : Json}
    (hsettings : Settings.ofJson root value = .ok settings) {v : Decimal}
    (hfinite : v.isFinite = true) (hzero : v.isZero = false) (hwritable : v.IsWritable)
    (hdouble : (Binary64.ofDecimal v).isFinite = true) :
    ∃ m, Decimal.abs .ambient v = .ok m ∧
      (IsExtreme settings m ∨ |v.value| < 10 ^ 38 - 1 / 200 →
        ∃ text, format settings v = .ok text) ∧
      ∀ text, format settings v = .ok text →
        if ¬IsExtreme settings m ∧ |v.value| < 5 / 10 ^ 9 then text = "0"
        else ∃ d, Decimal.ofText? text = some d ∧ d.isZero = false ∧
        d.isNegative = v.isNegative := by
  obtain ⟨s, c, e, rfl⟩ := exists_of_isFinite hfinite
  have hc : c ≠ 0 := by simpa [isZero] using hzero
  obtain ⟨hupper, -⟩ := (Settings.sound_of_ofJson hsettings).exponentialUpper
  obtain ⟨hlower, -⟩ := (Settings.sound_of_ofJson hsettings).exponentialLower
  have hplace := adjusted_le_of_isFinite_ofDecimal hc hdouble
  have hsize : |(|(Decimal.finite s c e).value|)| < 10 ^ (401 : Int) := by
    rw [abs_abs, abs_value_finite, ← adjusted_lt_iff hc]
    exact hplace.trans_lt (by decide)
  have hrounds : Context.ambient.Rounds (Decimal.abs .ambient (.finite s c e))
      |(Decimal.finite s c e).value| :=
    Decimal.abs_rounds (by decide) hfinite
  obtain ⟨m, hm, -⟩ := hrounds.exists_ok_of_lt rfl (by decide) (by decide) hsize
  rw [abs_value_finite]
  exact ⟨m, hm, format_exists_ok_of_extreme hupper hlower hc hm,
    fun text => sign_of_format hc hwritable.1 hplace hm⟩

/-- Thresholds that leave a wide range to fixed notation. -/
def wideThresholds : Json :=
  .object
    [("formatting", .object [("exponential_upper", .text "1e100"),
      ("exponential_lower", .text "1e-15")])]

/-- Settings with these thresholds, and otherwise the standard ones. -/
def wideSettings : Settings :=
  { Settings.standard with
    exponentialUpper := .finite false 1 100
    exponentialLower := .finite false 1 (-15) }

theorem ofJson_wideThresholds : Settings.ofJson "" wideThresholds = .ok wideSettings := by
  rfl

/-- A number close to the end of fixed notation. -/
theorem tiny_shows_sign : Settings.ofJson "" wideThresholds = .ok wideSettings ∧
    (Decimal.finite true 5 (-9)).isFinite = true ∧ (Decimal.finite true 5 (-9)).isZero = false ∧
    (Decimal.finite true 5 (-9)).IsWritable ∧
    (Binary64.ofDecimal (.finite true 5 (-9))).isFinite = true ∧
    ∃ m, Decimal.abs .ambient (.finite true 5 (-9)) = .ok m ∧
      (IsExtreme wideSettings m ∨ |(Decimal.finite true 5 (-9)).value| < 10 ^ 38 - 1 / 200 →
        ∃ text, format wideSettings (.finite true 5 (-9)) = .ok text) ∧
      ∀ text, format wideSettings (.finite true 5 (-9)) = .ok text →
        if ¬IsExtreme wideSettings m ∧ |(Decimal.finite true 5 (-9)).value| <
          5 / 10 ^ 9 then text = "0"
        else ∃ d, Decimal.ofText? text = some d ∧ d.isZero = false ∧
          d.isNegative = (Decimal.finite true 5 (-9)).isNegative := by
  have hwritable : (Decimal.finite true 5 (-9)).IsWritable := ⟨by decide, by decide⟩
  have hdouble : (Binary64.ofDecimal (.finite true 5 (-9))).isFinite = true := by decide +kernel
  exact ⟨rfl, rfl, rfl, hwritable, hdouble,
    format_shows_sign ofJson_wideThresholds rfl rfl hwritable hdouble⟩

/-- With these thresholds a small number is shown as zero, and a large one cannot be shown at
all. -/
theorem extremes_lose_sign : Settings.ofJson "" wideThresholds = .ok wideSettings ∧
    ∃ small large : Decimal, small.isFinite = true ∧ small.isZero = false ∧
      (Binary64.ofDecimal small).isFinite = true ∧ format wideSettings small = .ok "0" ∧
      (Decimal.ofText? "0").any Decimal.isZero = true ∧
      large.isFinite = true ∧ large.isZero = false ∧ (Binary64.ofDecimal large).isFinite = true ∧
      format wideSettings large = .error .invalidOperation :=
  ⟨rfl, .finite false 1 (-9), .finite false 1 40, rfl, rfl, by decide +kernel, by decide +kernel,
    by decide +kernel, rfl, rfl, by decide +kernel, by decide +kernel⟩

end Conversion

end UnitConversion
