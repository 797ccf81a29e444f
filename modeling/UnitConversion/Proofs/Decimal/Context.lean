import UnitConversion.Proofs.Decimal.Digits
import UnitConversion.Proofs.Decimal.Rounding

/-!
# Results brought into a context

`Context.finish` works on coefficients and exponents. This module relates it to `Context.round`,
which works on values, and says which data it can return.

* `Context.finish_value`: the value of a finished result, or its signal, is that of the rounded
  value.
* `Context.finish_fits`: a finished result has no more digits than the context keeps, and its
  exponent is in range.
* `Context.Rounds` combines the two, for whatever computes a rounded result.
* `Context.round_of_fits`: a number of the context is its own rounding.
-/

namespace UnitConversion

theorem dropDigits_eq_nearest (tie : Tie) (n k : Nat) :
    ((dropDigits tie n k : Nat) : Int) = tie.nearest ((n : Rat) / 10 ^ k) := by
  unfold dropDigits
  split
  · next hshort =>
      obtain ⟨j, rfl⟩ : ∃ j, k = j + 1 := ⟨k - 1, by omega⟩
      have hn : n < 10 ^ j :=
        (lt_pow_digitCount n).trans_le (Nat.pow_le_pow_right (by omega) (by omega))
      have hsmall : 10 * n < 10 ^ (j + 1) := by
        rw [Nat.pow_succ']
        omega
      have hpow : (0 : Rat) < 10 ^ (j + 1) := by positivity
      have hhigh : (2 : Rat) * ((n : Rat) / 10 ^ (j + 1)) < 1 := by
        rw [← mul_div_assoc, div_lt_one hpow]
        have : (10 * n : Rat) < 10 ^ (j + 1) := by exact_mod_cast hsmall
        have : (0 : Rat) ≤ n := by positivity
        linarith
      rcases Nat.eq_zero_or_pos n with rfl | hpos
      · simp [Tie.nearest_zero]
      · rw [Tie.nearest_of_gap tie (t := 0) (by push_cast; positivity) (by push_cast; linarith)]
        rfl
  · rw [roundQuotient_eq_nearest tie n (by positivity)]
    push_cast
    rfl

theorem le_dropDigits {tie : Tie} {n k a : Nat} (h : a * 10 ^ k ≤ n) : a ≤ dropDigits tie n k := by
  have hquotient : ((a : Int) : Rat) ≤ (n : Rat) / 10 ^ k := by
    rw [le_div_iff₀ (by positivity)]
    exact_mod_cast h
  have hround := Tie.nearest_mono tie hquotient
  rw [Tie.nearest_intCast, ← dropDigits_eq_nearest] at hround
  omega

theorem dropDigits_le {tie : Tie} {n k a : Nat} (h : n ≤ a * 10 ^ k) : dropDigits tie n k ≤ a := by
  have hquotient : (n : Rat) / 10 ^ k ≤ ((a : Int) : Rat) := by
    rw [div_le_iff₀ (by positivity)]
    exact_mod_cast h
  have hround := Tie.nearest_mono tie hquotient
  rw [Tie.nearest_intCast, ← dropDigits_eq_nearest] at hround
  omega

theorem endsInZeros_iff (n k : Nat) : endsInZeros n k = true ↔ 10 ^ k ∣ n := by
  rcases Nat.eq_zero_or_pos n with rfl | hpos
  · simp [endsInZeros]
  · have hn : n ≠ 0 := hpos.ne'
    simp only [endsInZeros, hn, decide_false, Bool.false_or, Bool.and_eq_true, decide_eq_true_eq,
      ← Nat.dvd_iff_mod_eq_zero]
    constructor
    · exact And.right
    · intro hdvd
      refine ⟨?_, hdvd⟩
      by_contra hshort
      have hlt : n < 10 ^ k :=
        (lt_pow_digitCount n).trans_le (Nat.pow_le_pow_right (by omega) (by omega))
      exact absurd (Nat.le_of_dvd hpos hdvd) (by omega)

/-- Dropping all but `p + 1` digits leaves that many digits, or the next power of ten. -/
theorem dropDigits_bounds (tie : Tie) {n p k : Nat} (hn : n ≠ 0)
    (hcount : digitCount n = p + 1 + k) :
    10 ^ p ≤ dropDigits tie n k ∧ dropDigits tie n k ≤ 10 ^ (p + 1) := by
  constructor
  · apply le_dropDigits
    rw [← pow_add, show p + k = digitCount n - 1 by omega]
    exact pow_digitCount_le hn
  · apply dropDigits_le
    rw [← pow_add, ← hcount]
    exact (lt_pow_digitCount n).le

/-- A coefficient that is rounded to some digits keeps the place of its leading digit, or moves it
up by one when the digits carry. -/
theorem roundToDigits_spec (tie : Tie) {digits : Nat} (hdigits : 0 < digits) {n : Nat}
    (hn : n ≠ 0) :
    digitCount (roundToDigits tie digits n).1 ≤ digits ∧
      digitCount n ≤ digitCount (roundToDigits tie digits n).1 + (roundToDigits tie digits n).2 ∧
      (roundToDigits tie digits n).1 * 10 ^ (roundToDigits tie digits n).2 =
        dropDigits tie n (digitCount n - digits) * 10 ^ (digitCount n - digits) := by
  obtain ⟨p, rfl⟩ : ∃ p, digits = p + 1 := ⟨digits - 1, by omega⟩
  unfold roundToDigits
  split
  · next hfits =>
      have hkeep : dropDigits tie n 0 = n :=
        le_antisymm (dropDigits_le (by simp)) (le_dropDigits (by simp))
      refine ⟨hfits, le_rfl, ?_⟩
      rw [Nat.sub_eq_zero_of_le hfits, hkeep]
  · next hlong =>
      obtain ⟨k, hsplit⟩ : ∃ k, digitCount n = p + 1 + k := ⟨digitCount n - (p + 1), by omega⟩
      obtain ⟨hlow, hhigh⟩ := dropDigits_bounds tie hn hsplit
      rw [hsplit, Nat.add_sub_cancel_left]
      dsimp only
      generalize dropDigits tie n k = q at hlow hhigh
      split
      · next hcarry =>
          have hpow : q = 10 ^ (p + 1) := by
            refine le_antisymm hhigh ?_
            by_contra hlt
            have := (digitCount_le_iff hdigits).2 (not_le.1 hlt)
            omega
          have hquotient : q / 10 = 10 ^ p := by
            rw [pow_succ] at hpow
            omega
          have hcount : digitCount (10 ^ p) = p + 1 :=
            digitCount_eq_of_pow le_rfl (Nat.pow_lt_pow_right (by omega) (by omega))
          rw [hquotient, hcount]
          refine ⟨le_rfl, by omega, ?_⟩
          rw [hpow]
          ring
      · next hnoCarry =>
          have hcount : p < digitCount q := by
            by_contra hshort
            have hlt : q < 10 ^ p :=
              (lt_pow_digitCount q).trans_le (Nat.pow_le_pow_right (by omega) (by omega))
            omega
          exact ⟨not_lt.1 hnoCarry, by dsimp only; omega, rfl⟩

/-- Rounding to some digits leaves exactly these, if there were no fewer. -/
theorem digitCount_roundToDigits (tie : Tie) {digits : Nat} (hdigits : 0 < digits) {n : Nat}
    (hlong : digits ≤ digitCount n) : digitCount (roundToDigits tie digits n).1 = digits := by
  unfold roundToDigits
  split
  · next hfits => exact le_antisymm hfits hlong
  · next hmore =>
      have hn : n ≠ 0 := by
        rintro rfl
        exact hmore hdigits
      obtain ⟨p, rfl⟩ : ∃ p, digits = p + 1 := ⟨digits - 1, by omega⟩
      obtain ⟨k, hsplit⟩ : ∃ k, digitCount n = p + 1 + k := ⟨digitCount n - (p + 1), by omega⟩
      obtain ⟨hlow, hhigh⟩ := dropDigits_bounds tie hn hsplit
      rw [hsplit, Nat.add_sub_cancel_left]
      dsimp only
      generalize dropDigits tie n k = q at hlow hhigh
      split
      · next hcarry =>
          have hpow : 10 ^ (p + 1) ≤ q := by
            by_contra hlt
            exact absurd ((digitCount_le_iff hdigits).2 (not_le.1 hlt)) (by omega)
          refine digitCount_eq_of_pow ?_ ?_
          · rw [Nat.le_div_iff_mul_le (by norm_num), ← pow_succ]
            exact hpow
          · rw [Nat.div_lt_iff_lt_mul (by norm_num), ← pow_succ]
            exact hhigh.trans_lt (Nat.pow_lt_pow_right (by omega) (by omega))
      · next hfits =>
          exact digitCount_eq_of_pow hlow ((digitCount_le_iff hdigits).1 (not_lt.1 hfits))

namespace Context

open Decimal

variable {ctx : Context} {c : Nat} {e : Int}

theorem leastExponent_le (hprecision : 0 < ctx.precision) : ctx.leastExponent ≤ minExponent := by
  unfold leastExponent
  omega

theorem adjusted_lt_minExponent_iff (hc : c ≠ 0) :
    adjusted c e < minExponent ↔ |magnitude c e| < 10 ^ minExponent := by
  rw [adjusted_lt_iff hc, abs_of_nonneg (magnitude_nonneg c e)]

theorem log_magnitude (hc : c ≠ 0) : Int.log 10 |magnitude c e| = adjusted c e := by
  rw [abs_of_nonneg (magnitude_nonneg c e), adjusted_eq_log hc]

theorem minExponent_lt_maxExponent : minExponent < maxExponent := by
  decide

/-- A number that ends above the last place that is kept stays as it is. -/
theorem nearest_magnitude (hplace : ctx.lastPlace (magnitude c e) ≤ e) :
    ctx.nearest (magnitude c e) = magnitude c e := by
  have hmultiple : ctx.lastPlace (((c : Int) : Rat) * 10 ^ e) ≤ e →
      ctx.nearest (((c : Int) : Rat) * 10 ^ e) = ((c : Int) : Rat) * 10 ^ e := nearest_of_multiple
  unfold magnitude at hplace ⊢
  exact_mod_cast hmultiple (by exact_mod_cast hplace)

/-- The digits of a coefficient below the last place are dropped. -/
theorem nearest_magnitude_of_lt (hc : c ≠ 0) {k : Nat}
    (hplace : ctx.lastPlace (magnitude c e) = e + k) :
    ctx.nearest (magnitude c e) = magnitude (dropDigits ctx.tie c k) (e + k) := by
  have hquotient : magnitude c e / 10 ^ (e + k) = (c : Rat) / 10 ^ k := by
    unfold magnitude
    rw [zpow_add₀ (by norm_num), zpow_natCast]
    field_simp
  rw [nearest_of_pos (magnitude_pos hc e), hplace, hquotient, ← dropDigits_eq_nearest]
  rfl

/-- Dropping digits keeps the value just in case zeros are dropped. -/
theorem magnitude_dropDigits_eq_iff (tie : Tie) (c k : Nat) (e : Int) :
    magnitude (dropDigits tie c k) (e + k) = magnitude c e ↔ endsInZeros c k = true := by
  have hcoefficient : magnitude (dropDigits tie c k) (e + k) = magnitude c e ↔
      dropDigits tie c k * 10 ^ k = c := by
    rw [← magnitude_mul_pow]
    unfold magnitude
    rw [mul_left_inj' (by positivity), Nat.cast_inj]
  rw [hcoefficient, endsInZeros_iff]
  constructor
  · intro h
    exact ⟨dropDigits tie c k, by rw [mul_comm, h]⟩
  · rintro ⟨a, rfl⟩
    rw [le_antisymm (dropDigits_le (a := a) (by rw [mul_comm]))
      (le_dropDigits (a := a) (by rw [mul_comm])), mul_comm]

theorem round_of_tiny (htiny : |magnitude c e| < 10 ^ minExponent) (hprecision : 0 < ctx.precision)
    (hc : c ≠ 0) :
    ctx.round (magnitude c e) =
      if ctx.trapsUnderflow = true ∧ ctx.nearest (magnitude c e) ≠ magnitude c e then
        .error .underflow
      else .ok (ctx.nearest (magnitude c e)) := by
  have hpos := magnitude_pos hc e
  have hbound : |ctx.nearest (magnitude c e)| < 10 ^ (maxExponent + 1) := by
    rw [abs_of_nonneg (nearest_nonneg hpos.le)]
    rw [abs_of_pos hpos] at htiny
    calc
      ctx.nearest (magnitude c e) ≤ 10 ^ minExponent :=
        nearest_le_pow hpos htiny (leastExponent_le hprecision)
      _ < 10 ^ (maxExponent + 1) :=
        zpow_lt_zpow_right₀ (by norm_num) (by have := minExponent_lt_maxExponent; omega)
  simp only [round, htiny, not_le.2 hbound, true_and, if_false]

theorem round_of_normal (hnormal : ¬ |magnitude c e| < 10 ^ minExponent) :
    ctx.round (magnitude c e) =
      if 10 ^ (maxExponent + 1) ≤ ctx.nearest (magnitude c e) then .error .overflow
      else .ok (ctx.nearest (magnitude c e)) := by
  have hnonneg : 0 ≤ ctx.nearest (magnitude c e) := nearest_nonneg (magnitude_nonneg c e)
  simp only [round, hnormal, false_and, and_false, if_false, abs_of_nonneg hnonneg]

private theorem finish_of_tiny (hprecision : 0 < ctx.precision) (hc : c ≠ 0)
    (htiny : adjusted c e < minExponent) :
    (ctx.finish false c e).map value = ctx.round (magnitude c e) := by
  have hsmall := (adjusted_lt_minExponent_iff hc).1 htiny
  have hzero : magnitude c e ≠ 0 := (magnitude_pos hc e).ne'
  have hplace : ctx.lastPlace (magnitude c e) = ctx.leastExponent := lastPlace_of_tiny hzero hsmall
  have hmax := minExponent_lt_maxExponent
  rw [round_of_tiny hsmall hprecision hc]
  unfold finish
  rw [if_neg hc, if_neg (by omega), if_pos htiny]
  split
  · next hlow =>
      obtain ⟨k, hk⟩ : ∃ k : Nat, ctx.leastExponent = e + k :=
        ⟨(ctx.leastExponent - e).toNat, by omega⟩
      have hnearest : ctx.nearest (magnitude c e) = magnitude (dropDigits ctx.tie c k) (e + k) :=
        nearest_magnitude_of_lt hc (hplace.trans hk)
      simp only [hk, show (e + (k : Int) - e).toNat = k by omega, hnearest, ne_eq,
        magnitude_dropDigits_eq_iff]
      cases htrap : ctx.trapsUnderflow <;> cases hzeros : endsInZeros c k <;>
        simp [Except.map, value_finite]
  · next hhigh =>
      have hsame : ctx.nearest (magnitude c e) = magnitude c e := nearest_magnitude (by omega)
      simp [hsame, Except.map, value_finite]

private theorem finish_of_normal (hprecision : 0 < ctx.precision) (hc : c ≠ 0)
    (hnormal : ¬ adjusted c e < minExponent) :
    (ctx.finish false c e).map value = ctx.round (magnitude c e) := by
  have hlarge : ¬ |magnitude c e| < 10 ^ minExponent :=
    (adjusted_lt_minExponent_iff hc).not.1 hnormal
  have hpos := magnitude_pos hc e
  have hplace : ctx.lastPlace (magnitude c e) = adjusted c e + 1 - ctx.precision := by
    rw [lastPlace_of_normal (not_lt.1 hlarge), log_magnitude hc]
  have hleading : 10 ^ adjusted c e ≤ ctx.nearest (magnitude c e) := by
    rw [adjusted_eq_log hc]
    exact pow_log_le_nearest hprecision hpos (by simpa [abs_of_pos hpos] using hlarge)
  obtain ⟨hdigits, -, hvalue⟩ := roundToDigits_spec ctx.tie hprecision hc
  -- The rounded coefficient denotes the nearest multiple of the last place.
  have hnearest : ctx.nearest (magnitude c e) =
      magnitude (roundToDigits ctx.tie ctx.precision c).1
        (e + (roundToDigits ctx.tie ctx.precision c).2) := by
    rw [← magnitude_mul_pow, hvalue, magnitude_mul_pow]
    by_cases hshort : digitCount c ≤ ctx.precision
    · have hkeep : dropDigits ctx.tie c 0 = c :=
        le_antisymm (dropDigits_le (by simp)) (le_dropDigits (by simp))
      rw [Nat.sub_eq_zero_of_le hshort, hkeep, nearest_magnitude]
      · simp
      · unfold adjusted at hplace
        omega
    · refine nearest_magnitude_of_lt hc ?_
      unfold adjusted at hplace
      omega
  have hcoefficient : (roundToDigits ctx.tie ctx.precision c).1 ≠ 0 := by
    intro hzero
    rw [hnearest, hzero, magnitude_zero] at hleading
    have : (0 : Rat) < 10 ^ adjusted c e := by positivity
    linarith
  rw [round_of_normal hlarge]
  unfold finish
  rw [if_neg hc, if_neg hnormal]
  split
  · next habove =>
      have hover : 10 ^ (maxExponent + 1) ≤ ctx.nearest (magnitude c e) :=
        le_trans (zpow_le_zpow_right₀ (by norm_num) (by omega)) hleading
      rw [if_pos hover]
      rfl
  · next hbelow =>
      dsimp only
      have hiff := le_adjusted_iff hcoefficient (e + (roundToDigits ctx.tie ctx.precision c).2)
        (maxExponent + 1)
      rw [← hnearest] at hiff
      by_cases hover : maxExponent < adjusted (roundToDigits ctx.tie ctx.precision c).1
          (e + (roundToDigits ctx.tie ctx.precision c).2)
      · rw [if_pos hover, if_pos (hiff.1 (by omega))]
        rfl
      · rw [if_neg hover, if_neg (hiff.not.1 (by omega)), hnearest]
        simp [Except.map, value_finite]

/-- The sign of an exact result has no part in how it is rounded. -/
theorem finish_true_value (ctx : Context) (c : Nat) (e : Int) :
    (ctx.finish true c e).map value = ((ctx.finish false c e).map value).map (- ·) := by
  have hneg : ∀ c' e', (Decimal.finite true c' e').value = -(Decimal.finite false c' e').value := by
    intro c' e'
    simp [value_finite]
  unfold finish
  simp only [apply_ite (Except.map value), apply_ite (Except.map fun q : Rat => -q)]
  simp only [Except.map, hneg]

/-- A finished result has the rounded value of the exact one, and where there is none, the same
signal. -/
theorem finish_value (hprecision : 0 < ctx.precision) (s : Bool) (c : Nat) (e : Int) :
    (ctx.finish s c e).map value = ctx.round (Decimal.finite s c e).value := by
  have hpositive : (ctx.finish false c e).map value = ctx.round (magnitude c e) := by
    by_cases hc : c = 0
    · subst hc
      have hpow : ¬ (10 : Rat) ^ (maxExponent + 1) ≤ 0 := not_le.2 (by positivity)
      simp [finish, round, Except.map, value_finite, hpow]
    · by_cases htiny : adjusted c e < minExponent
      · exact finish_of_tiny hprecision hc htiny
      · exact finish_of_normal hprecision hc htiny
  cases s with
  | false => rw [hpositive, value_finite, if_neg (by simp)]
  | true => rw [finish_true_value, hpositive, value_finite, if_pos rfl, round_neg]

/-- Whether a datum is a number of the context: finite, with no more digits than the context keeps,
and with its leading digit and its exponent in range. -/
def Fits (ctx : Context) : Decimal → Prop
  | .finite _ c e =>
      digitCount c ≤ ctx.precision ∧ adjusted c e ≤ maxExponent ∧ (c ≠ 0 → ctx.leastExponent ≤ e)
  | _ => False

/-- A number below normal size has no more digits left at the least exponent than the context
keeps. -/
private theorem digitCount_dropDigits_of_tiny (hprecision : 0 < ctx.precision)
    (htiny : adjusted c e < minExponent) (hlow : e < ctx.leastExponent) :
    digitCount (dropDigits ctx.tie c (ctx.leastExponent - e).toNat) ≤ ctx.precision := by
  have hdrop : dropDigits ctx.tie c (ctx.leastExponent - e).toNat ≤ 10 ^ (ctx.precision - 1) := by
    apply dropDigits_le
    rw [← pow_add]
    refine (lt_pow_digitCount c).le.trans (Nat.pow_le_pow_right (by omega) ?_)
    unfold adjusted at htiny
    unfold leastExponent at hlow ⊢
    omega
  rw [digitCount_le_iff hprecision]
  exact hdrop.trans_lt (Nat.pow_lt_pow_right (by omega) (by omega))

theorem finish_fits (hprecision : 0 < ctx.precision) {s : Bool} {d : Decimal}
    (hfinish : ctx.finish s c e = .ok d) : ctx.Fits d := by
  have hleast := leastExponent_le hprecision
  have hmax := minExponent_lt_maxExponent
  unfold finish at hfinish
  split at hfinish
  · obtain rfl := Except.ok.inj hfinish
    have hcount : digitCount 0 = 1 := by decide
    refine ⟨by omega, ?_, fun h => absurd rfl h⟩
    unfold adjusted
    omega
  · next hc =>
      split at hfinish
      · cases hfinish
      · next hbelow =>
          split at hfinish
          · next htiny =>
              split at hfinish
              · next hlow =>
                  dsimp only at hfinish
                  split at hfinish
                  · cases hfinish
                  · obtain rfl := Except.ok.inj hfinish
                    have hcount := digitCount_dropDigits_of_tiny hprecision htiny hlow
                    have hrange : ctx.leastExponent = minExponent - ((ctx.precision : Int) - 1) :=
                      rfl
                    refine ⟨hcount, ?_, fun _ => le_rfl⟩
                    unfold adjusted
                    omega
              · next hhigh =>
                  obtain rfl := Except.ok.inj hfinish
                  refine ⟨?_, by omega, fun _ => by omega⟩
                  unfold adjusted at htiny
                  unfold leastExponent at hhigh
                  omega
          · next hnormal =>
              dsimp only at hfinish
              split at hfinish
              · cases hfinish
              · obtain rfl := Except.ok.inj hfinish
                obtain ⟨hdigits, hleading, -⟩ := roundToDigits_spec ctx.tie hprecision hc
                refine ⟨hdigits, by omega, fun _ => ?_⟩
                unfold adjusted at hnormal
                unfold leastExponent
                omega

/-- A result has the sign that it is finished with, also if it is zero. -/
theorem isNegative_of_finish {s : Bool} {d : Decimal} (hfinish : ctx.finish s c e = .ok d) :
    d.isNegative = s := by
  unfold finish at hfinish
  dsimp only at hfinish
  split_ifs at hfinish <;> cases hfinish <;> rfl

/-- What computes the rounding of the exact value `q`: the signals are those of the rounding, and a
result is a number of the context. -/
structure Rounds (ctx : Context) (result : Except Signal Decimal) (q : Rat) : Prop where
  value : result.map Decimal.value = ctx.round q
  fits : ∀ d, result = .ok d → ctx.Fits d

theorem finish_rounds (hprecision : 0 < ctx.precision) (s : Bool) (c : Nat) (e : Int) :
    ctx.Rounds (ctx.finish s c e) (Decimal.finite s c e).value :=
  ⟨finish_value hprecision s c e, fun _ => finish_fits hprecision⟩

theorem isFinite_of_fits {d : Decimal} (hfits : ctx.Fits d) : d.isFinite = true := by
  cases d with
  | finite s c e => rfl
  | infinite s => exact hfits.elim
  | nan s q p => exact hfits.elim

/-- A rounded result is the nearest number of the context. Where underflows are signalled, one that
is below normal size is exact. -/
theorem Rounds.of_ok {result : Except Signal Decimal} {q : Rat}
    (h : ctx.Rounds result q) {d : Decimal} (hd : result = .ok d) :
    d.value = ctx.nearest q ∧
    (ctx.trapsUnderflow = true → |q| < 10 ^ minExponent → ctx.nearest q = q) := by
  have hvalue := h.value
  rw [hd, round] at hvalue
  split at hvalue
  · cases hvalue
  · next hexact =>
      split at hvalue
      · cases hvalue
      · exact ⟨Except.ok.inj hvalue, fun htraps hsmall =>
          not_not.1 fun hne => hexact ⟨htraps, hsmall, hne⟩⟩

theorem Rounds.exists_ok_of_round {result : Except Signal Decimal} {q r : Rat}
    (hrounds : ctx.Rounds result q) (hround : ctx.round q = .ok r) :
    ∃ d, result = .ok d ∧ d.value = r ∧ ctx.Fits d := by
  have hvalue := hrounds.value
  rw [hround] at hvalue
  cases hresult : result with
  | error signal =>
      rw [hresult] at hvalue
      cases hvalue
  | ok d =>
      rw [hresult] at hvalue
      exact ⟨d, rfl, Except.ok.inj hvalue, hrounds.fits d hresult⟩

theorem Rounds.eq_error_of_round {result : Except Signal Decimal} {q : Rat} {signal : Signal}
    (hrounds : ctx.Rounds result q) (hround : ctx.round q = .error signal) :
    result = .error signal := by
  have hvalue := hrounds.value
  rw [hround] at hvalue
  cases result with
  | error signal' => exact congrArg _ (Except.error.inj hvalue)
  | ok d => cases hvalue

/-- A context that does not stop at underflows stops at overflows only. -/
theorem round_of_quiet (hquiet : ctx.trapsUnderflow = false) (q : Rat) :
    ctx.round q = if 10 ^ (maxExponent + 1) ≤ |ctx.nearest q| then .error .overflow
    else .ok (ctx.nearest q) := by
  rw [round, if_neg (by simp [hquiet])]

/-- A value of normal size, or zero, that is below the largest power of ten has a rounded result. -/
theorem Rounds.exists_ok {result : Except Signal Decimal} {q : Rat} (hrounds : ctx.Rounds result q)
    (hlow : q = 0 ∨ 10 ^ minExponent ≤ |q|) (hhigh : |q| < 10 ^ maxExponent)
    (hprecision : 0 < ctx.precision) :
    ∃ d, result = .ok d ∧ d.value = ctx.nearest q ∧ ctx.Fits d := by
  have hsmall : |ctx.nearest q| < 10 ^ (maxExponent + 1) := by
    rcases hlow with rfl | hlow
    · simp only [nearest_zero, abs_zero]
      positivity
    · have hpos : 0 < |q| := lt_of_lt_of_le (by positivity) hlow
      have hleast := leastExponent_le hprecision
      have hmax := minExponent_lt_maxExponent
      rw [abs_nearest]
      calc
        ctx.nearest |q| ≤ 10 ^ maxExponent := nearest_le_pow hpos hhigh (by omega)
        _ < 10 ^ (maxExponent + 1) := zpow_lt_zpow_right₀ (by norm_num) (by omega)
  have htiny : ¬ (|q| < 10 ^ minExponent ∧ ctx.nearest q ≠ q) := by
    rintro ⟨hlt, hne⟩
    rcases hlow with rfl | hlow
    · exact hne nearest_zero
    · linarith
  have hround : ctx.round q = .ok (ctx.nearest q) := by
    rw [round, if_neg (fun h => htiny h.2), if_neg (not_le.2 hsmall)]
  exact hrounds.exists_ok_of_round hround

/-- A context that does not stop at underflows rounds every value below a power of ten in its
range. -/
theorem Rounds.exists_ok_of_lt {result : Except Signal Decimal} {q : Rat}
    (hrounds : ctx.Rounds result q) (hquiet : ctx.trapsUnderflow = false) {k : Int}
    (hleast : ctx.leastExponent ≤ k) (hmax : k ≤ maxExponent) (hlt : |q| < 10 ^ k) :
    ∃ d, result = .ok d ∧ d.isFinite = true ∧ |d.value| ≤ 10 ^ k := by
  have hbound : |ctx.nearest q| ≤ 10 ^ k := by
    rw [abs_nearest]
    rcases (abs_nonneg q).eq_or_lt with hzero | hpos
    · rw [← hzero, nearest_zero]
      positivity
    · exact nearest_le_pow hpos hlt hleast
  have hround : ctx.round q = .ok (ctx.nearest q) := by
    have hover : (10 : Rat) ^ k < 10 ^ (maxExponent + 1) :=
      zpow_lt_zpow_right₀ (by norm_num) (by omega)
    rw [round_of_quiet hquiet, if_neg (by linarith)]
  obtain ⟨d, hresult, hd, hfits⟩ := hrounds.exists_ok_of_round hround
  exact ⟨d, hresult, isFinite_of_fits hfits, hd ▸ hbound⟩

/-- The last digit of a number of the context stands at a place that is kept. -/
theorem lastPlace_le_of_fits {s : Bool} {c : Nat} {e : Int} (h : ctx.Fits (.finite s c e))
    (hc : c ≠ 0) :
    ctx.lastPlace (magnitude c e) ≤ e := by
  obtain ⟨hdigits, -, hleast⟩ := h
  have hleast := hleast hc
  rw [lastPlace, log_magnitude hc]
  unfold adjusted
  omega

theorem nearest_of_fits {d : Decimal} (h : ctx.Fits d) : ctx.nearest d.value = d.value := by
  obtain ⟨s, c, e, rfl⟩ := exists_of_isFinite (isFinite_of_fits h)
  by_cases hc : c = 0
  · rw [(value_finite_eq_zero_iff s c e).2 hc, nearest_zero]
  · have hkept := nearest_magnitude (lastPlace_le_of_fits h hc)
    rw [value_finite]
    split
    · rw [nearest_neg, hkept]
    · exact hkept

theorem abs_value_lt_of_fits {d : Decimal} (h : ctx.Fits d) :
    |d.value| < 10 ^ (maxExponent + 1) := by
  obtain ⟨s, c, e, rfl⟩ := exists_of_isFinite (isFinite_of_fits h)
  obtain ⟨-, hadjusted, -⟩ := h
  rw [abs_value_finite]
  exact (lt_pow_adjusted c e).trans_le (zpow_le_zpow_right₀ (by norm_num) (by omega))

/-- A number of the context is its own rounding. -/
theorem round_of_fits {d : Decimal} (h : ctx.Fits d) : ctx.round d.value = .ok d.value := by
  have hnearest := nearest_of_fits h
  rw [round, hnearest, if_neg (by simp), if_neg (not_le.2 (abs_value_lt_of_fits h))]

/-- What computes the rounding of a number of the context returns this number, perhaps written in
another way. -/
theorem Rounds.exists_same {result : Except Signal Decimal} {d : Decimal}
    (h : ctx.Rounds result d.value) (hfits : ctx.Fits d) :
    ∃ r, result = .ok r ∧ r.isFinite = true ∧ r.value = d.value := by
  obtain ⟨r, hresult, hvalue, hr⟩ := h.exists_ok_of_round (round_of_fits hfits)
  exact ⟨r, hresult, isFinite_of_fits hr, hvalue⟩

end Context

end UnitConversion
