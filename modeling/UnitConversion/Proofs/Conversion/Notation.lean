import UnitConversion.Proofs.Conversion.Format
import UnitConversion.Proofs.Decimal.Layout
import UnitConversion.Proofs.Formula.Soundness

/-!
# The notation of a result

Which notation a result has, and with how many digits, is decided by its magnitude. The magnitude is
rounded to the twenty-eight digits of the context of comparisons before it is compared with
anything.

* `format_eq_ok`: what the text of a nonzero number is.
* `plainText_nearest`: the rounding of the magnitude does not matter for the places behind the
  point.
* `followsMagnitude_iff`: it matters for the choice between the notations, where it passes a
  threshold.
-/

namespace UnitConversion

open Decimal
open Formula (bind_eq_ok)

/-- A datum without its sign. -/
def Decimal.unsigned : Decimal → Decimal
  | .finite _ c e => .finite false c e
  | .infinite _ => .infinite false
  | .nan _ signaling payload => .nan false signaling payload

namespace Conversion

variable {settings : Settings}

/-! ### The choice of the notation -/

/-- Whether numbers of a magnitude are to be written with an exponent. -/
def IsExtreme (settings : Settings) (magnitude : Decimal) : Prop :=
  atLeast magnitude settings.exponentialUpper = true ∨
    below magnitude settings.exponentialLower = true

instance (settings : Settings) (magnitude : Decimal) : Decidable (IsExtreme settings magnitude) :=
  inferInstanceAs (Decidable (_ ∨ _))

theorem reaches_eq_ok {a b : Decimal} {r : Bool} (h : reaches a b = .ok r) :
    atLeast a b = r ∧ below a b = !r := by
  unfold reaches at h
  split at h
  · cases h
  · next o ho =>
      obtain rfl := Except.ok.inj h
      rw [atLeast, below, ho]
      cases o <;> decide

theorem hasExponent_eq_ok {m : Decimal} {shown : Bool} (h : hasExponent settings m = .ok shown) :
    shown = true ↔ IsExtreme settings m := by
  unfold hasExponent at h
  obtain ⟨large, hlarge, hrest⟩ := bind_eq_ok h
  rw [IsExtreme, (reaches_eq_ok hlarge).1]
  cases large with
  | true =>
      obtain rfl := Except.ok.inj hrest
      simp
  | false =>
      obtain ⟨plain, hplain, hlast⟩ := bind_eq_ok hrest
      obtain rfl := Except.ok.inj hlast
      simp [(reaches_eq_ok hplain).2]

/-- How many places behind the point a number of the magnitude `q` has in fixed notation. -/
def placesOf (q : Rat) : Nat :=
  if 1000 ≤ q then 2 else if 1 ≤ q then 4 else if 1 / 1000 ≤ q then 6 else 8

theorem placesOf_bounds (q : Rat) : 0 < placesOf q ∧ placesOf q ≤ 8 := by
  unfold placesOf
  split_ifs <;> decide

theorem placesFor_eq {m : Decimal} (hm : m.isFinite = true) : placesFor m = placesOf m.value := by
  have hreach (c : Nat) (e : Int) : atLeast m (.finite false c e) =
      decide (magnitude c e ≤ m.value) := by
    rw [Bool.eq_iff_iff, atLeast_iff hm rfl, value_finite, decide_eq_true_iff]
    exact Iff.rfl
  have hthousand : magnitude 1000 0 = 1000 := by norm_num [magnitude]
  have hone : magnitude 1 0 = 1 := by norm_num [magnitude]
  have hthousandth : magnitude 1 (-3) = 1 / 1000 := by norm_num [magnitude]
  simp only [placesFor, bands, List.find?_cons, List.find?_nil, hreach, hthousand, hone,
    hthousandth, placesOf]
  split_ifs with hlarge hmedium hsmall
  · simp only [hlarge, decide_true]
  · simp only [hlarge, hmedium, decide_true, decide_false]
  · simp only [hlarge, hmedium, hsmall, decide_true, decide_false]
  · simp only [hlarge, hmedium, hsmall, decide_false, smallPlaces]

/-! ### Fixed notation -/

/-- A number has a text in fixed notation exactly when its rounded digits are not too many. -/
theorem positional_eq (places : Nat) (s : Bool) (c : Nat) (e : Int) :
    positional places (.finite s c e) =
      if 10 ^ Context.conversion.precision ≤ wholeUnits places (magnitude c e) then
        .error .invalidOperation
      else .ok (plainText s (wholeUnits places (magnitude c e)) places) := by
  rw [positional, toPlaces_eq (by decide)]
  split <;> rfl

/-- Numbers that the context of comparisons rounds up to a power of ten are rounded to it with fewer
digits too. -/
theorem roundAt_of_close {tie : Tie} {q : Rat} {j k : Int} (hq : 0 < q)
    (hlow : Context.ambient.leastExponent + 28 ≤ j) (hplace : k ≤ j) (hroom : j < k + 28)
    (hlt : q < 10 ^ j) (hnearest : Context.ambient.nearest q = 10 ^ j) :
    tie.roundAt k q = 10 ^ j := by
  have hlog : Int.log 10 q < j :=
    (Int.lt_zpow_iff_log_lt (by norm_num) hq).1 (by exact_mod_cast hlt)
  have hlast : Context.ambient.lastPlace q ≤ j - 28 := by
    rw [Context.lastPlace, abs_of_pos hq]
    simp only [Context.ambient] at hlow ⊢
    omega
  have hclose : 10 ^ j - q ≤ 10 ^ (j - 28) / 2 := by
    calc 10 ^ j - q ≤ |Context.ambient.nearest q - q| := by
          rw [hnearest]
          exact le_abs_self _
      _ ≤ 10 ^ Context.ambient.lastPlace q / 2 := Context.abs_nearest_sub_le q
      _ ≤ 10 ^ (j - 28) / 2 := by
          gcongr
          norm_num
  have hunit : (0 : Rat) < 10 ^ k := by positivity
  have hgap : (10 : Rat) ^ (j - 28) < 10 ^ k := zpow_lt_zpow_right₀ (by norm_num) (by omega)
  have hwhole : (10 : Rat) ^ j / 10 ^ k = ((10 ^ (j - k).toNat : Int) : Rat) := by
    simpa using Tie.multiple_div 1 hplace
  have hbelow : q / 10 ^ k < ((10 ^ (j - k).toNat : Int) : Rat) := by
    rw [← hwhole]
    gcongr
  have habove : ((10 ^ (j - k).toNat : Int) : Rat) - q / 10 ^ k < 1 / 2 := by
    rw [← hwhole, ← sub_div, div_lt_iff₀ hunit]
    linarith
  have hround : tie.nearest (q / 10 ^ k) = 10 ^ (j - k).toNat := by
    rw [Tie.nearest_of_gap tie (t := 2 * 10 ^ (j - k).toNat - 1)]
    · omega
    · push_cast at habove ⊢
      linarith
    · push_cast at hbelow ⊢
      linarith
  rw [Tie.roundAt, hround, ← hwhole, div_mul_cancel₀ _ hunit.ne']

theorem wholeUnits_of_close {q : Rat} {j : Int} {places : Nat} (hq : 0 < q)
    (hlow : Context.ambient.leastExponent + 28 ≤ j) (hwhole : 0 ≤ j + places)
    (hhigh : j + places < 28) (hlt : q < 10 ^ j) (hnearest : Context.ambient.nearest q = 10 ^ j) :
    wholeUnits places q = 10 ^ (j + places).toNat := by
  have hround : Tie.roundAt .up (-(places : Int)) q = 10 ^ j :=
    roundAt_of_close hq hlow (by omega) (by omega) hlt hnearest
  rw [← magnitude_wholeUnits places hq.le, magnitude, zpow_neg, ← div_eq_mul_inv,
    div_eq_iff (by positivity), ← zpow_add₀ (by norm_num), ← Int.toNat_of_nonneg hwhole,
    zpow_natCast] at hround
  exact_mod_cast hround

/-- No power of ten of normal size lies strictly between a number and its rounding. -/
theorem nearest_pow {j : Int} (hj : Context.ambient.leastExponent ≤ j) {q : Rat} (hq : 0 < q) :
    (10 ^ j ≤ q → 10 ^ j ≤ Context.ambient.nearest q) ∧
    (q < 10 ^ j → Context.ambient.nearest q ≤ 10 ^ j) := by
  refine ⟨fun hle => ?_, fun hlt => Context.nearest_le_pow hq hlt hj⟩
  have hplace : Context.ambient.lastPlace ((1 : Int) * 10 ^ j) ≤ j := by
    have hlog : Int.log 10 ((10 : Rat) ^ j) = j := by
      exact_mod_cast Int.log_zpow (R := Rat) (b := 10) (by norm_num) j
    rw [Context.lastPlace, Int.cast_one, one_mul, abs_of_pos (by positivity), hlog]
    simp only [Context.ambient] at hj ⊢
    omega
  have hfixed := Context.nearest_of_multiple hplace
  rw [Int.cast_one, one_mul] at hfixed
  rw [← hfixed]
  exact Context.nearest_mono (by decide) hle

/-- The places for a magnitude and for its rounding differ only where both lead to the same text. -/
theorem plainText_nearest (s : Bool) {q : Rat} (hq : 0 < q) :
    plainText s (wholeUnits (placesOf (Context.ambient.nearest q)) q)
      (placesOf (Context.ambient.nearest q)) =
      plainText s (wholeUnits (placesOf q) q) (placesOf q) := by
  obtain ⟨hthousand, hthousand'⟩ := nearest_pow (j := 3) (by decide) hq
  obtain ⟨hone, hone'⟩ := nearest_pow (j := 0) (by decide) hq
  obtain ⟨hthousandth, hthousandth'⟩ := nearest_pow (j := -3) (by decide) hq
  have hclose (j : Int) (places : Nat) (hj : -3 ≤ j) (hwhole : 0 ≤ j + places)
      (hroom : j + places < 28) :=
    wholeUnits_of_close hq ((by decide : Context.ambient.leastExponent + 28 ≤ -3).trans hj) hwhole
      hroom
  have hlarge := hclose 3
  have hmedium := hclose 0
  have hsmall := hclose (-3)
  simp only [show (10 : Rat) ^ (3 : Int) = 1000 by norm_num, zpow_zero,
    show (10 : Rat) ^ (-3 : Int) = 1 / 1000 by norm_num] at *
  generalize Context.ambient.nearest q = m at *
  clear hclose
  rcases le_or_gt 1000 q with hq₃ | hq₃
  · rw [placesOf, placesOf, if_pos (hthousand hq₃), if_pos hq₃]
  rcases le_or_gt 1 q with hq₀ | hq₀
  · rcases (hthousand' hq₃).eq_or_lt with hcarry | hsame
    · have hm : placesOf m = 2 := if_pos hcarry.ge
      have hplaces : placesOf q = 4 := by rw [placesOf, if_neg hq₃.not_ge, if_pos hq₀]
      rw [hm, hplaces, hlarge 2 (by decide) (by decide) (by decide) hq₃ hcarry,
        hlarge 4 (by decide) (by decide) (by decide) hq₃ hcarry]
      cases s <;> decide
    · rw [placesOf, placesOf, if_neg hq₃.not_ge, if_neg hsame.not_ge, if_pos hq₀, if_pos (hone hq₀)]
  rcases le_or_gt (1 / 1000) q with hq₁ | hq₁
  · rcases (hone' hq₀).eq_or_lt with hcarry | hsame
    · have hm : placesOf m = 4 := by rw [placesOf, if_neg (by linarith), if_pos hcarry.ge]
      have hplaces : placesOf q = 6 := by
        rw [placesOf, if_neg hq₃.not_ge, if_neg hq₀.not_ge, if_pos hq₁]
      rw [hm, hplaces, hmedium 4 (by decide) (by decide) (by decide) hq₀ hcarry,
        hmedium 6 (by decide) (by decide) (by decide) hq₀ hcarry]
      cases s <;> decide
    · rw [placesOf, placesOf, if_neg hq₃.not_ge, if_neg (by linarith), if_neg hq₀.not_ge,
        if_neg hsame.not_ge, if_pos hq₁, if_pos (hthousandth hq₁)]
  · rcases (hthousandth' hq₁).eq_or_lt with hcarry | hsame
    · have hm : placesOf m = 6 := by
        rw [placesOf, if_neg (by linarith), if_neg (by linarith), if_pos hcarry.ge]
      have hplaces : placesOf q = 8 := by
        rw [placesOf, if_neg hq₃.not_ge, if_neg hq₀.not_ge, if_neg hq₁.not_ge]
      rw [hm, hplaces, hsmall 6 (by decide) (by decide) (by decide) hq₁ hcarry,
        hsmall 8 (by decide) (by decide) (by decide) hq₁ hcarry]
      cases s <;> decide
    · rw [placesOf, placesOf, if_neg hq₃.not_ge, if_neg (by linarith), if_neg hq₀.not_ge,
        if_neg (by linarith), if_neg hq₁.not_ge, if_neg hsame.not_ge]

/-! ### The whole text -/

/-- The magnitude that thresholds and bands are compared with. -/
theorem abs_eq_ok {s : Bool} {c : Nat} {e : Int} {m : Decimal}
    (h : Decimal.abs .ambient (.finite s c e) = .ok m) :
    Context.ambient.Fits m ∧ m.value = Context.ambient.nearest (magnitude c e) := by
  have hrounds : Context.ambient.Rounds (Decimal.abs .ambient (.finite s c e))
      |(Decimal.finite s c e).value| :=
    Decimal.abs_rounds (by decide) rfl
  rw [abs_value_finite] at hrounds
  exact ⟨hrounds.fits m h, (hrounds.of_ok h).1⟩

/-- What the text of a nonzero number is, in the notation that its rounded magnitude leads to. -/
theorem format_eq_ok {s : Bool} {c : Nat} {e : Int} (hc : c ≠ 0) {text : String}
    (h : format settings (.finite s c e) = .ok text) :
    ∃ m, Decimal.abs .ambient (.finite s c e) = .ok m ∧
      ((IsExtreme settings m ∧ text.toList = exponentialText s c e) ∨
        (¬IsExtreme settings m ∧ text.toList =
          plainText s (wholeUnits (placesOf (magnitude c e)) (magnitude c e))
            (placesOf (magnitude c e)))) := by
  have hzero : (Decimal.finite s c e).isZero = false := by simpa [isZero] using hc
  rw [format_eq_ok_iff] at h
  unfold formatChars at h
  rw [hzero] at h
  obtain ⟨m, hm, hrest⟩ := bind_eq_ok h
  obtain ⟨shown, hshown, hlast⟩ := bind_eq_ok hrest
  obtain ⟨hfits, hvalue⟩ := abs_eq_ok hm
  have hextreme := hasExponent_eq_ok hshown
  refine ⟨m, hm, ?_⟩
  cases shown with
  | true => exact .inl ⟨hextreme.1 rfl, (Except.ok.inj hlast).symm⟩
  | false =>
      replace hlast : positional (placesFor m) (.finite s c e) = .ok text.toList := hlast
      rw [placesFor_eq (Context.isFinite_of_fits hfits), positional_eq] at hlast
      split at hlast
      · cases hlast
      · refine .inr ⟨fun h => by simpa using hextreme.2 h, ?_⟩
        rw [← plainText_nearest s (magnitude_pos hc e), ← hvalue]
        exact (Except.ok.inj hlast).symm

/-- Whether a text is `q` in exponential notation: seven significant digits, a tie going away from
zero, no zeros at their end, and the exponent of the leading one. -/
def IsExponential (q : Rat) (text : List Char) : Prop :=
  ∃ (n : Nat) (k : Int), digitCount n = 7 ∧ magnitude n (k - 6) = significant 7 |q| ∧
    text = stripTrailingZeros (signText (q < 0) ++ withLeadingPoint (digitsOf n)) ++
      'e' :: signedExponent k

/-- Whether a text is `q` rounded to `places` digits behind the point, a tie going away from zero,
without zeros at the end. -/
def IsFixed (places : Nat) (q : Rat) (text : List Char) : Prop :=
  text = plainText (q < 0) (wholeUnits places |q|) places

/-- Whether the text of a number is the one that its exact magnitude decides on. -/
structure FollowsMagnitude (settings : Settings) (v : Decimal) (text : String) : Prop where
  exponential : IsExtreme settings v.unsigned → IsExponential v.value text.toList
  fixed : ¬IsExtreme settings v.unsigned → IsFixed (placesOf |v.value|) v.value text.toList

theorem value_neg_iff {s : Bool} {c : Nat} (hc : c ≠ 0) (e : Int) :
    decide ((Decimal.finite s c e).value < 0) = s := by
  have hpos := magnitude_pos hc e
  cases s with
  | true => simpa [value_finite] using hpos
  | false => simpa [value_finite] using hpos.le

theorem isExponential_exponentialText (s : Bool) {c : Nat} (hc : c ≠ 0) (e : Int) :
    IsExponential (Decimal.finite s c e).value (exponentialText s c e) := by
  obtain ⟨hcount, hvalue⟩ := exponentialParts_spec hc e
  rw [show (exponentialParts c e).2 + 1 - exponentialDigits = (exponentialParts c e).2 - 6 by
    simp only [exponentialDigits]
    omega] at hvalue
  refine ⟨_, (exponentialParts c e).2, hcount, ?_, ?_⟩
  · rw [abs_value_finite]
    exact hvalue
  · rw [value_neg_iff hc]
    rfl

theorem IsExponential.e_mem {q : Rat} {text : List Char} (h : IsExponential q text) :
    'e' ∈ text := by
  obtain ⟨n, k, -, -, rfl⟩ := h
  simp

theorem IsFixed.e_not_mem {q r : Rat} {text : List Char} (h : IsFixed (placesOf r) q text) :
    'e' ∉ text := by
  rw [h]
  exact e_not_mem_plainText _ _ (placesOf_bounds r).1

/-- The text is the one that the exact magnitude decides on, if the rounded magnitude leads to the
same notation. -/
theorem followsMagnitude_iff_of_abs {s : Bool} {c : Nat} {e : Int} (hc : c ≠ 0) {text : String}
    (h : format settings (.finite s c e) = .ok text) {m : Decimal}
    (hm : Decimal.abs .ambient (.finite s c e) = .ok m) :
    FollowsMagnitude settings (.finite s c e) text ↔
      (IsExtreme settings m ↔ IsExtreme settings (.finite false c e)) := by
  obtain ⟨m', hm', hnotation⟩ := format_eq_ok hc h
  obtain rfl : m = m' := Except.ok.inj (hm.symm.trans hm')
  rcases hnotation with ⟨hextreme, htext⟩ | ⟨hextreme, htext⟩
  · have hexponential : IsExponential (Decimal.finite s c e).value text.toList :=
      htext ▸ isExponential_exponentialText s hc e
    rw [iff_true_left hextreme]
    constructor
    · intro hfollows
      by_contra hplain
      exact (hfollows.fixed hplain).e_not_mem hexponential.e_mem
    · exact fun hexact => ⟨fun _ => hexponential, fun hplain => absurd hexact hplain⟩
  · have hfixed : IsFixed (placesOf |(Decimal.finite s c e).value|) (Decimal.finite s c e).value
      text.toList := by
      rw [IsFixed, abs_value_finite, value_neg_iff hc]
      exact htext
    rw [iff_false_left hextreme]
    constructor
    · intro hfollows hexact
      exact hfixed.e_not_mem (hfollows.exponential hexact).e_mem
    · exact fun hplain => ⟨fun hexact => absurd hexact hplain, fun _ => hfixed⟩

/-- A text is the one that the exact magnitude decides on, exactly when the magnitude rounded to the
digits of the context of comparisons, which is what the thresholds are compared with, leads to the
same notation. -/
theorem followsMagnitude_iff {v : Decimal} (hfinite : v.isFinite = true) (hzero : v.isZero = false)
    {text : String} (h : format settings v = .ok text) :
    ∃ m, Decimal.abs .ambient v = .ok m ∧
      (FollowsMagnitude settings v text ↔
        (IsExtreme settings m ↔ IsExtreme settings v.unsigned)) := by
  obtain ⟨s, c, e, rfl⟩ := exists_of_isFinite hfinite
  have hc : c ≠ 0 := by simpa [isZero] using hzero
  obtain ⟨m, hm, -⟩ := format_eq_ok hc h
  exact ⟨m, hm, followsMagnitude_iff_of_abs hc h hm⟩

/-- A number with places behind the point. -/
theorem followsMagnitude_million : (Decimal.finite true 1234567891 (-3)).isFinite = true ∧
    (Decimal.finite true 1234567891 (-3)).isZero = false ∧
    format .standard (.finite true 1234567891 (-3)) = .ok "-1234567.89" ∧
    ∃ m, Decimal.abs .ambient (.finite true 1234567891 (-3)) = .ok m ∧
      (FollowsMagnitude .standard (.finite true 1234567891 (-3)) "-1234567.89" ↔
        (IsExtreme .standard m ↔ IsExtreme .standard (.finite false 1234567891 (-3)))) := by
  have htext : format .standard (.finite true 1234567891 (-3)) = .ok "-1234567.89" := by
    decide +kernel
  exact ⟨rfl, rfl, htext, followsMagnitude_iff rfl rfl htext⟩

/-- A number below the threshold that is written with an exponent, since its first twenty-eight
digits round to the threshold. -/
theorem rounding_reaches_threshold :
    format .standard (.finite false 99999999999999999999999999999999 (-20)) = .ok "1e+12" ∧
      ¬FollowsMagnitude .standard (.finite false 99999999999999999999999999999999 (-20))
        "1e+12" := by
  refine ⟨by decide +kernel, fun hfollows => ?_⟩
  have hplain : ¬IsExtreme .standard
      (Decimal.finite false 99999999999999999999999999999999 (-20)).unsigned := by
    decide +kernel
  exact (hfollows.fixed hplain).e_not_mem (by decide)

end Conversion

end UnitConversion
