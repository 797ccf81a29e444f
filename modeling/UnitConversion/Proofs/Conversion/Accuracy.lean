import Mathlib.Order.Monotone.Odd
import UnitConversion.Proofs.Conversion.Sign

/-!
# How exact a shown result is

With the standard thresholds a text shows a number up to a place that the leading digit of the
number decides on: the second to the eighth behind the point, or in exponential notation that of the
seventh significant digit. Read again, the text is the nearest multiple of this place. A rounding of
the magnitude that leads to another notation, or to other places, carries up to a power of ten, and
all of them show this power.

* `shownValue_mono`, `shownValue_neg`, `abs_shownValue_sub_le`: what rounding to the shown place
  does to numbers.
* `exists_isShownAs`: texts of results are read as the rounded numbers.
* `format_accurate`: results are close to what is read, in the same order, and symmetric.
-/

namespace UnitConversion

open Decimal

/-- Whether a number is finite, and is zero or has its leading digit at a place that results can
have. -/
def Decimal.HasNormalSize (v : Decimal) : Prop :=
  v.isFinite = true ∧ (v.value = 0 ∨ 10 ^ minExponent ≤ |v.value|) ∧ |v.value| < 10 ^ maxExponent

namespace Conversion

/-! ### The last place -/

/-- The place of the last digit that is shown of a number of the magnitude `q`: the seventh
significant one in exponential notation, otherwise one behind the point. -/
def lastShownPlace (q : Rat) : Int :=
  if 10 ^ 12 ≤ q ∨ q < 1 / 10 ^ 6 then Int.log 10 q - 6 else -(placesOf q : Int)

theorem pow_le_iff_le_log {q : Rat} (hq : 0 < q) (k : Int) : 10 ^ k ≤ q ↔ k ≤ Int.log 10 q := by
  exact_mod_cast Int.zpow_le_iff_le_log (b := 10) (by norm_num) hq

/-- The places behind the point depend on the place of the leading digit alone. -/
theorem placesOf_eq {q : Rat} (hq : 0 < q) :
    placesOf q = if 3 ≤ Int.log 10 q then 2 else if 0 ≤ Int.log 10 q then 4
    else if -3 ≤ Int.log 10 q then 6 else 8 := by
  simp only [placesOf, ← pow_le_iff_le_log hq]
  norm_num

/-- So does the last place that is shown. -/
theorem lastShownPlace_eq {q : Rat} (hq : 0 < q) :
    lastShownPlace q =
      if 12 ≤ Int.log 10 q ∨ Int.log 10 q < -6 then Int.log 10 q - 6 else -(placesOf q : Int) := by
  have hsmall : q < 1 / 10 ^ 6 ↔ Int.log 10 q < -6 := by
    rw [← not_le, ← not_le, ← pow_le_iff_le_log hq]
    norm_num
  simp only [lastShownPlace, hsmall, ← pow_le_iff_le_log hq 12]
  norm_num

theorem lastShownPlace_congr {q r : Rat} (hq : 0 < q) (hr : 0 < r)
    (h : Int.log 10 q = Int.log 10 r) :
    lastShownPlace q = lastShownPlace r := by
  rw [lastShownPlace_eq hq, lastShownPlace_eq hr, placesOf_eq hq, placesOf_eq hr, h]

/-- The leading digit is shown. -/
theorem lastShownPlace_le_log {q : Rat} (hq : 0 < q) : lastShownPlace q ≤ Int.log 10 q := by
  rw [lastShownPlace_eq hq, placesOf_eq hq]
  split_ifs <;> omega

/-! ### Rounding to it -/

/-- The number that is shown for `q`. -/
def shownValue (q : Rat) : Rat :=
  SignType.sign q * Tie.roundAt .up (lastShownPlace |q|) |q|

theorem shownValue_zero : shownValue 0 = 0 := by
  simp [shownValue]

theorem shownValue_of_pos {q : Rat} (hq : 0 < q) :
    shownValue q = Tie.roundAt .up (lastShownPlace q) q := by
  simp [shownValue, sign_pos hq, abs_of_pos hq]

/-- No positive number is shown as zero. -/
theorem shownValue_pos {q : Rat} (hq : 0 < q) : 0 < shownValue q := by
  rw [shownValue_of_pos hq]
  exact lt_of_lt_of_le (by positivity) (Tie.roundAt_bounds hq (lastShownPlace_le_log hq)).1

theorem shownValue_neg (q : Rat) : shownValue (-q) = -shownValue q := by
  rw [shownValue, abs_neg, Left.sign_neg, shownValue]
  push_cast
  ring

/-- What is shown is at most half a unit of the last place away. -/
theorem abs_shownValue_sub_le (q : Rat) : |shownValue q - q| ≤ 10 ^ lastShownPlace |q| / 2 := by
  have hpositive {r : Rat} (hr : 0 < r) : |shownValue r - r| ≤ 10 ^ lastShownPlace |r| / 2 := by
    rw [shownValue_of_pos hr, abs_of_pos hr]
    exact Tie.abs_roundAt_sub_le _ r
  rcases lt_trichotomy q 0 with hneg | rfl | hpos
  · have hflipped := hpositive (neg_pos.2 hneg)
    rwa [shownValue_neg, ← neg_sub', abs_neg, abs_neg] at hflipped
  · rw [shownValue_zero, sub_zero, abs_zero]
    positivity
  · exact hpositive hpos

theorem shownValue_mono : Monotone shownValue := by
  refine monotone_of_odd_of_monotoneOn_nonneg shownValue_neg fun q hq r hr h => ?_
  rcases (Set.mem_Ici.1 hq).eq_or_lt with rfl | hq
  · rw [shownValue_zero]
    rcases (Set.mem_Ici.1 hr).eq_or_lt with rfl | hr
    · exact shownValue_zero.ge
    · exact (shownValue_pos hr).le
  · have hr := hq.trans_le h
    rw [shownValue_of_pos hq, shownValue_of_pos hr]
    apply Tie.roundAt_le_roundAt hq h
    -- Numbers with leading digits at one place are shown up to one place.
    rcases (Int.log_mono_right (b := 10) hq h).eq_or_lt with hlog | hlog
    · exact .inl (lastShownPlace_congr hq hr hlog)
    · exact .inr ⟨hlog, (lastShownPlace_le_log hq).trans hlog.le, lastShownPlace_le_log hr⟩

/-! ### The rounded magnitude -/

/-- A number that the context of comparisons rounds up to a power of ten has its leading digit right
below it. -/
theorem log_of_carry {q : Rat} (hq : 0 < q) {j : Int} (hj : Context.ambient.leastExponent < j)
    (hlt : q < 10 ^ j) (hnearest : Context.ambient.nearest q = 10 ^ j) : Int.log 10 q = j - 1 := by
  have hlow : 10 ^ (j - 1) ≤ q := by
    by_contra hbelow
    have hround := (nearest_pow (j := j - 1) (by omega) hq).2 (not_le.1 hbelow)
    rw [hnearest] at hround
    have := (zpow_le_zpow_iff_right₀ (by norm_num : (1 : Rat) < 10)).1 hround
    omega
  have hleast := (pow_le_iff_le_log hq _).1 hlow
  have hmost : ¬j ≤ Int.log 10 q := fun h => hlt.not_ge ((pow_le_iff_le_log hq j).2 h)
  omega

/-- Of such a number the power of ten is shown. -/
theorem roundAt_of_carry {q : Rat} (hq : 0 < q) {j : Int}
    (hlow : Context.ambient.leastExponent + 28 ≤ j) (hlt : q < 10 ^ j)
    (hnearest : Context.ambient.nearest q = 10 ^ j) :
    Tie.roundAt .up (lastShownPlace q) q = 10 ^ j := by
  have hlog := log_of_carry hq (by omega) hlt hnearest
  have hbounds : lastShownPlace q ≤ j ∧ j < lastShownPlace q + 28 := by
    rw [lastShownPlace_eq hq, placesOf_eq hq, hlog]
    split_ifs <;> omega
  exact roundAt_of_close hq hlow hbounds.1 hbounds.2 hlt hnearest

/-- A number whose rounded magnitude leads to exponential notation has the shown digits in it. -/
theorem significant_eq_roundAt {q : Rat} (hq : 0 < q)
    (hextreme : 10 ^ 12 ≤ Context.ambient.nearest q ∨ Context.ambient.nearest q < 1 / 10 ^ 6) :
    significant exponentialDigits q = Tie.roundAt .up (lastShownPlace q) q := by
  have hplace : significant exponentialDigits q = Tie.roundAt .up (Int.log 10 q - 6) q := by
    rw [Tie.roundAt, show Int.log 10 q - 6 = Int.log 10 q + 1 - (exponentialDigits : Nat) by
      simp only [exponentialDigits]
      omega]
    rfl
  rw [hplace]
  by_cases hexact : 10 ^ 12 ≤ q ∨ q < 1 / 10 ^ 6
  · rw [lastShownPlace, if_pos hexact]
  · obtain ⟨hupper, hlower⟩ := not_or.1 hexact
    have hmillionth := (nearest_pow (j := -6) (by decide) hq).1
    have htrillion := (nearest_pow (j := 12) (by decide) hq).2
    norm_num at hmillionth htrillion hupper hlower hextreme
    -- Only a carry to the upper threshold can have led here.
    have hcarry : Context.ambient.nearest q = 10 ^ (12 : Int) := by
      norm_num
      exact le_antisymm (htrillion hupper) (hextreme.resolve_right (hmillionth hlower).not_gt)
    have hlt : q < 10 ^ (12 : Int) := by
      norm_num
      exact hupper
    rw [roundAt_of_carry hq (by decide) hlt hcarry, log_of_carry hq (by decide) hlt hcarry]
    exact roundAt_of_close hq (by decide) (by decide) (by decide) hlt hcarry

/-- A number whose rounded magnitude leads to fixed notation has the shown digits in it. -/
theorem roundAt_placesOf {q : Rat} (hq : 0 < q)
    (hplain : ¬(10 ^ 12 ≤ Context.ambient.nearest q ∨ Context.ambient.nearest q < 1 / 10 ^ 6)) :
    Tie.roundAt .up (-(placesOf q : Int)) q = Tie.roundAt .up (lastShownPlace q) q := by
  by_cases hexact : 10 ^ 12 ≤ q ∨ q < 1 / 10 ^ 6
  · obtain ⟨hupper, hlower⟩ := not_or.1 hplain
    have hmillionth := (nearest_pow (j := -6) (by decide) hq).2
    have htrillion := (nearest_pow (j := 12) (by decide) hq).1
    norm_num at hmillionth htrillion hupper hlower hexact
    -- Only a carry to the lower threshold can have led here.
    have hsmall := hexact.resolve_left fun h => hupper.not_ge (htrillion h)
    have hcarry : Context.ambient.nearest q = 10 ^ (-6 : Int) := by
      norm_num
      exact le_antisymm (hmillionth hsmall) hlower
    have hlt : q < 10 ^ (-6 : Int) := by
      norm_num
      exact hsmall
    have hplaces := (placesOf_bounds q).2
    have hplace : -(placesOf q : Int) ≤ -6 := by
      rw [placesOf_eq hq, log_of_carry hq (by decide) hlt hcarry]
      decide
    rw [roundAt_of_carry hq (by decide) hlt hcarry]
    exact roundAt_of_close hq (by decide) hplace (by omega) hlt hcarry
  · rw [lastShownPlace, if_neg hexact]

/-! ### Reading the texts -/

variable {settings : Settings}

/-- Whether a number has a text, and this is read as the finite number `d`. -/
def IsShownAs (settings : Settings) (v d : Decimal) : Prop :=
  d.isFinite = true ∧ ∃ text, format settings v = .ok text ∧ Decimal.ofText? text = some d

/-- Settings with the standard thresholds. -/
structure StandardThresholds (settings : Settings) : Prop where
  upper : settings.exponentialUpper = Settings.standard.exponentialUpper
  lower : settings.exponentialLower = Settings.standard.exponentialLower

theorem StandardThresholds.isExtreme_iff (hstandard : StandardThresholds settings) {m : Decimal}
    (hm : m.isFinite = true) : IsExtreme settings m ↔ 10 ^ 12 ≤ m.value ∨ m.value < 1 / 10 ^ 6 := by
  have hupper : Settings.standard.exponentialUpper.value = 10 ^ 12 := by
    norm_num [Settings.standard, Decimal.value, signed]
  have hlower : Settings.standard.exponentialLower.value = 1 / 10 ^ 6 := by
    norm_num [Settings.standard, Decimal.value, signed]
  rw [IsExtreme, hstandard.upper, hstandard.lower, atLeast_iff hm rfl, below_iff hm rfl,
    hupper, hlower]

/-- What is read again is the number that is shown. -/
theorem shownValue_of_denotes {text : List Char} {s : Bool} {c n : Nat} {e k : Int} (hc : c ≠ 0)
    (h : Decimal.Denotes text s n k)
    (hround : magnitude n k = Tie.roundAt .up (lastShownPlace (magnitude c e)) (magnitude c e)) :
    ∃ d, d.isFinite = true ∧ ofChars? text = some d ∧
      d.value = shownValue (Decimal.finite s c e).value := by
  obtain ⟨d, hread, -, hvalue⟩ := h
  have hpos := magnitude_pos hc e
  have hshown : (Decimal.finite s n k).value = shownValue (Decimal.finite s c e).value := by
    rw [value_finite, value_finite, hround, ← shownValue_of_pos hpos]
    cases s with
    | true => exact (shownValue_neg _).symm
    | false => rfl
  rw [hshown] at hvalue
  refine ⟨d, isFinite_of_value_ne_zero ?_, hread, hvalue⟩
  rw [hvalue, ← hshown, ← abs_ne_zero, abs_value_finite, hround, ← shownValue_of_pos hpos]
  exact (shownValue_pos hpos).ne'

/-- With the standard thresholds, a number that is zero or of normal size has a text, which is read
as the number that is shown for it. -/
theorem exists_isShownAs (hstandard : StandardThresholds settings) {v : Decimal}
    (hv : v.HasNormalSize) :
    ∃ d, IsShownAs settings v d ∧ d.value = shownValue v.value := by
  obtain ⟨hfinite, hlow, hhigh⟩ := hv
  have hupper : settings.exponentialUpper.isFinite = true := hstandard.upper ▸ rfl
  have hlower : settings.exponentialLower.isFinite = true := hstandard.lower ▸ rfl
  have hroom : settings.exponentialUpper.value ≤ 10 ^ (30 : Int) := by
    rw [hstandard.upper]
    norm_num [Settings.standard, Decimal.value, signed]
  obtain ⟨text, htext⟩ := format_exists_ok hupper hlower hroom hfinite hlow hhigh
  suffices hread : ∃ d, d.isFinite = true ∧ ofChars? text.toList = some d ∧
      d.value = shownValue v.value by
    obtain ⟨d, hd, hread, hvalue⟩ := hread
    exact ⟨d, ⟨hd, text, htext, hread⟩, hvalue⟩
  obtain ⟨s, c, e, rfl⟩ := exists_of_isFinite hfinite
  by_cases hc : c = 0
  · subst hc
    obtain rfl : "0" = text := Except.ok.inj htext
    have hzero : (Decimal.finite s 0 e).value = 0 := (value_finite_eq_zero_iff s 0 e).2 rfl
    refine ⟨.finite false 0 0, rfl, by decide +kernel, ?_⟩
    rw [hzero, shownValue_zero]
    exact (value_finite_eq_zero_iff ..).2 rfl
  have hpos := magnitude_pos hc e
  rw [abs_value_finite] at hlow hhigh
  obtain ⟨m, hm, hnotation⟩ := format_eq_ok hc htext
  obtain ⟨hfits, hnearest⟩ := abs_eq_ok hm
  rw [hstandard.isExtreme_iff (Context.isFinite_of_fits hfits), hnearest] at hnotation
  rcases hnotation with ⟨hextreme, htext⟩ | ⟨hplain, htext⟩
  · have hleast : minExponent ≤ adjusted c e := by
      rw [le_adjusted_iff hc]
      exact hlow.resolve_left (value_finite_eq_zero_iff s c e |>.not.2 hc)
    have hmost : adjusted c e < maxExponent := (adjusted_lt_iff hc e _).2 hhigh
    have hdenotes := denotes_exponentialText_of_adjusted s hc (le_trans (by decide) hleast)
      (hmost.trans_le (by decide))
    rw [htext]
    exact shownValue_of_denotes hc hdenotes
      ((exponentialParts_spec hc e).2.trans (significant_eq_roundAt hpos hextreme))
  · obtain ⟨hpositive, hplaces⟩ := placesOf_bounds (magnitude c e)
    have hround :=
      (magnitude_wholeUnits (placesOf (magnitude c e)) hpos.le).trans (roundAt_placesOf hpos hplain)
    have hbound : magnitude c e ≤ 10 ^ 12 := by
      by_contra hlarge
      have hkept :=
        (nearest_pow (j := 12) (by decide) hpos).1 (by exact_mod_cast (not_le.1 hlarge).le)
      exact hplain (.inl (by exact_mod_cast hkept))
    have hadjusted := adjusted_wholeUnits_le (placesOf (magnitude c e)) hbound
    have hn : wholeUnits (placesOf (magnitude c e)) (magnitude c e) ≠ 0 := by
      rw [Ne, ← magnitude_eq_zero_iff _ (-(placesOf (magnitude c e) : Int)), hround,
        ← shownValue_of_pos hpos]
      exact (shownValue_pos hpos).ne'
    rw [htext]
    refine shownValue_of_denotes hc
      (denotes_plainText s hn hpositive ?_ (hadjusted.trans (by decide))) hround
    simp only [smallestExponent]
    omega

/-- With the standard thresholds, numbers of normal size have texts. What such a text is read as is
at most half a unit of the last shown place away from the number, and zero for zero. A number that
is not larger is read as one that is not larger, and the opposite number as the opposite one. -/
theorem format_accurate (hstandard : StandardThresholds settings) {v w : Decimal}
    (hv : v.HasNormalSize) (hw : w.HasNormalSize) :
    ∃ d d', IsShownAs settings v d ∧ IsShownAs settings w d' ∧
      |d.value - v.value| ≤ 10 ^ lastShownPlace |v.value| / 2 ∧ (v.value = 0 → d.value = 0) ∧
      (v.value ≤ w.value → d.value ≤ d'.value) ∧ (w.value = -v.value → d'.value = -d.value) := by
  obtain ⟨d, hd, hvalue⟩ := exists_isShownAs hstandard hv
  obtain ⟨d', hd', hvalue'⟩ := exists_isShownAs hstandard hw
  refine ⟨d, d', hd, hd', ?_, ?_, ?_, ?_⟩
  · rw [hvalue]
    exact abs_shownValue_sub_le _
  · intro hzero
    rw [hvalue, hzero, shownValue_zero]
  · intro hle
    rw [hvalue, hvalue']
    exact shownValue_mono hle
  · intro hopposite
    rw [hvalue, hvalue', hopposite, shownValue_neg]

/-- A number that is rounded up to a power of ten, and its opposite. -/
theorem format_accurate_thousand : StandardThresholds .standard ∧
    (Decimal.finite false 99999999 (-5)).HasNormalSize ∧
    (Decimal.finite true 99999999 (-5)).HasNormalSize ∧
    format .standard (.finite false 99999999 (-5)) = .ok "1000" ∧
    ∃ d d', IsShownAs .standard (.finite false 99999999 (-5)) d ∧
      IsShownAs .standard (.finite true 99999999 (-5)) d' ∧
      |d.value - (Decimal.finite false 99999999 (-5)).value| ≤ 10 ^ (-4 : Int) / 2 ∧
      d'.value = -d.value := by
  have hstandard : StandardThresholds .standard := ⟨rfl, rfl⟩
  have hsize (s : Bool) : (Decimal.finite s 99999999 (-5)).HasNormalSize := by
    rw [Decimal.HasNormalSize, abs_value_finite, ← le_adjusted_iff (by decide),
      ← adjusted_lt_iff (by decide)]
    exact ⟨rfl, .inr (by decide), by decide⟩
  have hplace : lastShownPlace |(Decimal.finite false 99999999 (-5)).value| = -4 := by
    rw [abs_value_finite, lastShownPlace_eq (magnitude_pos (by decide) _),
      placesOf_eq (magnitude_pos (by decide) _), ← adjusted_eq_log (by decide)]
    decide
  obtain ⟨d, d', hd, hd', hclose, -, -, hopposite⟩ :=
    format_accurate hstandard (hsize false) (hsize true)
  rw [hplace] at hclose
  exact ⟨hstandard, hsize false, hsize true, by decide +kernel, d, d', hd, hd', hclose,
    hopposite (by simp [value_finite])⟩

end Conversion

end UnitConversion
