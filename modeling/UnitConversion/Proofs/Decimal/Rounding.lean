import Mathlib.Data.Int.Log
import UnitConversion.Decimal.Context
import UnitConversion.Proofs.Rounding

/-!
# Rounding rationals in a context

What a context does to an exact result depends on the value of the result alone. `Context.round`
says what that is: the nearest multiple of the last place that the context keeps, or the signal of a
result that is too large or, where that is not allowed, too small.

* `Tie.roundAt_le_roundAt`: rounding keeps the order of numbers, also where the place changes with
  their size.
* `Context.nearest_of_multiple`: results that fit are kept.
* `Context.abs_nearest_sub_le`, `Context.relative_error`: how far a result can move.
* `Context.nearest_mono`: rounding keeps the order of numbers.
* `Context.round_congr`: two numbers that no half of a last place separates have the same result.
-/

namespace UnitConversion

namespace Tie

variable (tie : Tie)

/-- The multiple of `10 ^ k` that is nearest to `q`. -/
def roundAt (k : Int) (q : Rat) : Rat :=
  tie.nearest (q / 10 ^ k) * 10 ^ k

variable {tie}

/-- A multiple of a power of ten is a whole number of any lower place. -/
theorem multiple_div (i : Int) {k e : Int} (hke : k ≤ e) :
    (i : Rat) * 10 ^ e / 10 ^ k = ((i * 10 ^ (e - k).toNat : Int) : Rat) := by
  have hsplit : (10 : Rat) ^ e = 10 ^ (e - k).toNat * 10 ^ k := by
    rw [← zpow_natCast, ← zpow_add₀ (by norm_num)]
    congr 1
    omega
  rw [hsplit]
  push_cast
  field_simp

theorem roundAt_multiple (i : Int) {k e : Int} (hke : k ≤ e) :
    tie.roundAt k (i * 10 ^ e) = i * 10 ^ e := by
  rw [roundAt, multiple_div i hke, nearest_intCast, ← multiple_div i hke,
    div_mul_cancel₀ _ (by positivity)]

theorem roundAt_pow {k e : Int} (hke : k ≤ e) : tie.roundAt k (10 ^ e) = 10 ^ e := by
  have hmultiple : tie.roundAt k ((1 : Int) * 10 ^ e) = (1 : Int) * 10 ^ e := roundAt_multiple 1 hke
  simpa using hmultiple

theorem roundAt_mono (k : Int) {q r : Rat} (h : q ≤ r) : tie.roundAt k q ≤ tie.roundAt k r := by
  have hround : tie.nearest (q / 10 ^ k) ≤ tie.nearest (r / 10 ^ k) := nearest_mono tie (by gcongr)
  unfold roundAt
  gcongr

theorem abs_roundAt_sub_le (k : Int) (q : Rat) : |tie.roundAt k q - q| ≤ 10 ^ k / 2 := by
  have hunit : (0 : Rat) < 10 ^ k := by positivity
  have hsplit : tie.roundAt k q - q = (tie.nearest (q / 10 ^ k) - q / 10 ^ k) * 10 ^ k := by
    rw [roundAt, sub_mul, div_mul_cancel₀ _ hunit.ne']
  rw [hsplit, abs_mul, abs_of_pos hunit]
  have := abs_nearest_sub_le tie (q / 10 ^ k)
  nlinarith

/-- Rounding moves a number neither below its leading place nor beyond the next one. -/
theorem roundAt_bounds {k : Int} {q : Rat} (hq : 0 < q) (hk : k ≤ Int.log 10 q) :
    10 ^ Int.log 10 q ≤ tie.roundAt k q ∧ tie.roundAt k q ≤ 10 ^ (Int.log 10 q + 1) := by
  have hlow : (10 : Rat) ^ Int.log 10 q ≤ q := by
    exact_mod_cast Int.zpow_log_le_self (b := 10) (by norm_num) hq
  have hhigh : q ≤ (10 : Rat) ^ (Int.log 10 q + 1) := by
    exact_mod_cast (Int.lt_zpow_succ_log_self (b := 10) (by norm_num) q).le
  constructor
  · calc (10 : Rat) ^ Int.log 10 q = tie.roundAt k (10 ^ Int.log 10 q) := (roundAt_pow hk).symm
      _ ≤ tie.roundAt k q := roundAt_mono k hlow
  · calc tie.roundAt k q ≤ tie.roundAt k (10 ^ (Int.log 10 q + 1)) := roundAt_mono k hhigh
      _ = 10 ^ (Int.log 10 q + 1) := roundAt_pow (by omega)

/-- Rounding keeps the order of two numbers, if it is done at one place or if a power of ten lies
between the numbers that is kept at both places. -/
theorem roundAt_le_roundAt {q r : Rat} (hq : 0 < q) (h : q ≤ r) {k l : Int}
    (hplace : k = l ∨ Int.log 10 q < Int.log 10 r ∧ k ≤ Int.log 10 r ∧ l ≤ Int.log 10 r) :
    tie.roundAt k q ≤ tie.roundAt l r := by
  rcases hplace with rfl | ⟨hlog, hk, hl⟩
  · exact roundAt_mono k h
  · have hlow : q ≤ 10 ^ Int.log 10 r := by
      exact_mod_cast ((Int.lt_zpow_iff_log_lt (b := 10) (by norm_num) hq).2 hlog).le
    calc tie.roundAt k q ≤ tie.roundAt k (10 ^ Int.log 10 r) := roundAt_mono k hlow
      _ = 10 ^ Int.log 10 r := roundAt_pow hk
      _ ≤ tie.roundAt l r := (roundAt_bounds (hq.trans_le h) hl).1

end Tie

namespace Context

variable (ctx : Context)

/-- The place of the last digit that is kept of a number of the size of `q`. -/
def lastPlace (q : Rat) : Int :=
  max (Int.log 10 |q| + 1 - ctx.precision) ctx.leastExponent

/-- The multiple of the last place that is nearest to `q`. -/
def nearest (q : Rat) : Rat :=
  SignType.sign q * (ctx.tie.nearest (|q| / 10 ^ ctx.lastPlace q) * 10 ^ ctx.lastPlace q)

/-- What an exact result of the value `q` becomes in a context. -/
def round (q : Rat) : Except Signal Rat :=
  if ctx.trapsUnderflow = true ∧ |q| < 10 ^ minExponent ∧ ctx.nearest q ≠ q then .error .underflow
  else if 10 ^ (maxExponent + 1) ≤ |ctx.nearest q| then .error .overflow
  else .ok (ctx.nearest q)

variable {ctx}

@[simp] theorem nearest_zero : ctx.nearest 0 = 0 := by
  simp [nearest]

theorem lastPlace_neg (q : Rat) : ctx.lastPlace (-q) = ctx.lastPlace q := by
  rw [lastPlace, abs_neg, lastPlace]

theorem nearest_neg (q : Rat) : ctx.nearest (-q) = -ctx.nearest q := by
  rw [nearest, lastPlace_neg, abs_neg, Left.sign_neg, nearest]
  push_cast
  ring

theorem round_neg (q : Rat) : ctx.round (-q) = (ctx.round q).map (- ·) := by
  have hsame : ctx.nearest (-q) ≠ -q ↔ ctx.nearest q ≠ q := by rw [nearest_neg, Ne, neg_inj]
  unfold round
  simp only [abs_neg, hsame]
  split
  · rfl
  · rw [nearest_neg, abs_neg]
    split <;> rfl

theorem nearest_of_pos {q : Rat} (hq : 0 < q) :
    ctx.nearest q = ctx.tie.nearest (q / 10 ^ ctx.lastPlace q) * 10 ^ ctx.lastPlace q := by
  rw [nearest, sign_pos hq, abs_of_pos hq]
  simp

theorem nearest_eq_roundAt {q : Rat} (hq : 0 < q) :
    ctx.nearest q = ctx.tie.roundAt (ctx.lastPlace q) q :=
  nearest_of_pos hq

theorem nearest_nonneg {q : Rat} (hq : 0 ≤ q) : 0 ≤ ctx.nearest q := by
  rcases hq.eq_or_lt with rfl | hpos
  · simp
  · rw [nearest_of_pos hpos]
    have : 0 ≤ ctx.tie.nearest (q / 10 ^ ctx.lastPlace q) := Tie.nearest_nonneg _ (by positivity)
    positivity

theorem abs_nearest (q : Rat) : |ctx.nearest q| = ctx.nearest |q| := by
  rcases le_total 0 q with hq | hq
  · rw [abs_of_nonneg hq, abs_of_nonneg (nearest_nonneg hq)]
  · have hneg : 0 ≤ -q := by linarith
    rw [abs_of_nonpos hq, ← abs_of_nonneg (nearest_nonneg hneg), nearest_neg, abs_neg]

theorem nearest_le_of_multiple {q : Rat} (hq : 0 < q) {i e : Int} (hle : q ≤ i * 10 ^ e)
    (hplace : ctx.lastPlace q ≤ e) : ctx.nearest q ≤ i * 10 ^ e := by
  rw [nearest_eq_roundAt hq, ← Tie.roundAt_multiple i hplace]
  exact Tie.roundAt_mono _ hle

theorem le_nearest_of_multiple {q : Rat} (hq : 0 < q) {i e : Int} (hle : i * 10 ^ e ≤ q)
    (hplace : ctx.lastPlace q ≤ e) : i * 10 ^ e ≤ ctx.nearest q := by
  rw [nearest_eq_roundAt hq, ← Tie.roundAt_multiple i hplace]
  exact Tie.roundAt_mono _ hle

/-- A number that ends at the last place or above it stays as it is. -/
theorem nearest_of_multiple {i e : Int} (hplace : ctx.lastPlace (i * 10 ^ e) ≤ e) :
    ctx.nearest (i * 10 ^ e) = i * 10 ^ e := by
  have hpositive : ∀ j : Int, 0 < (j : Rat) * 10 ^ e → ctx.lastPlace (j * 10 ^ e) ≤ e →
      ctx.nearest (j * 10 ^ e) = j * 10 ^ e := fun j hj hplace =>
    le_antisymm (nearest_le_of_multiple hj le_rfl hplace) (le_nearest_of_multiple hj le_rfl hplace)
  rcases lt_trichotomy ((i : Rat) * 10 ^ e) 0 with hneg | hzero | hpos
  · have hflip : (i : Rat) * 10 ^ e = -(((-i : Int) : Rat) * 10 ^ e) := by
      push_cast
      ring
    rw [hflip, lastPlace_neg] at hplace
    rw [hflip] at hneg ⊢
    rw [nearest_neg, hpositive (-i) (by linarith) hplace]
  · rw [hzero, nearest_zero]
  · exact hpositive i hpos hplace

theorem abs_nearest_sub_le (q : Rat) : |ctx.nearest q - q| ≤ 10 ^ ctx.lastPlace q / 2 := by
  have hpositive : ∀ r : Rat, 0 < r → |ctx.nearest r - r| ≤ 10 ^ ctx.lastPlace r / 2 := by
    intro r hr
    rw [nearest_eq_roundAt hr]
    exact Tie.abs_roundAt_sub_le _ r
  rcases lt_trichotomy q 0 with hneg | rfl | hpos
  · have := hpositive (-q) (by linarith)
    rwa [nearest_neg, lastPlace_neg, ← neg_sub', abs_neg] at this
  · simp only [nearest_zero, sub_zero, abs_zero]
    positivity
  · exact hpositive q hpos

/-- The leading digit of a number of normal size stands at least at the last place that is kept. -/
theorem log_ge_of_normal {q : Rat} (hq : 10 ^ minExponent ≤ |q|) :
    minExponent ≤ Int.log 10 |q| := by
  have hpos : 0 < |q| := lt_of_lt_of_le (by positivity) hq
  exact (Int.zpow_le_iff_le_log (by norm_num) hpos).1 (by exact_mod_cast hq)

theorem lastPlace_of_normal {q : Rat} (hq : 10 ^ minExponent ≤ |q|) :
    ctx.lastPlace q = Int.log 10 |q| + 1 - ctx.precision := by
  have := log_ge_of_normal hq
  unfold lastPlace leastExponent
  omega

theorem log_lt_of_tiny {q : Rat} (hzero : q ≠ 0) (hq : |q| < 10 ^ minExponent) :
    Int.log 10 |q| < minExponent :=
  (Int.lt_zpow_iff_log_lt (by norm_num) (abs_pos.2 hzero)).1 (by exact_mod_cast hq)

theorem lastPlace_of_tiny {q : Rat} (hzero : q ≠ 0) (hq : |q| < 10 ^ minExponent) :
    ctx.lastPlace q = ctx.leastExponent := by
  have := log_lt_of_tiny hzero hq
  unfold lastPlace leastExponent
  omega

/-- A result below the last place of all is none of the context, and underflows where that is not
allowed. -/
theorem round_of_negligible (htraps : ctx.trapsUnderflow = true)
    (hprecision : 0 < ctx.precision) {q : Rat} (hzero : q ≠ 0)
    (hlt : |q| < 10 ^ ctx.leastExponent) : ctx.round q = .error .underflow := by
  have hpos : 0 < |q| := abs_pos.2 hzero
  have htiny : |q| < 10 ^ minExponent :=
    hlt.trans_le (zpow_le_zpow_right₀ (by norm_num) (by unfold leastExponent; omega))
  have hinexact : ctx.nearest q ≠ q := by
    intro hexact
    have hmultiple : ctx.tie.nearest (|q| / 10 ^ ctx.leastExponent) *
        10 ^ ctx.leastExponent = |q| := by
      have hplace := ctx.lastPlace_of_tiny (abs_ne_zero.2 hzero) (by rwa [abs_abs])
      rw [← hplace, ← nearest_of_pos hpos, ← abs_nearest, hexact]
    -- A whole number of last places between none and one of them.
    have hunit : (0 : Rat) < 10 ^ ctx.leastExponent := by positivity
    rw [← hmultiple] at hpos hlt
    have hlow : 0 < ctx.tie.nearest (|q| / 10 ^ ctx.leastExponent) := by
      exact_mod_cast pos_of_mul_pos_left hpos hunit.le
    have hhigh : ctx.tie.nearest (|q| / 10 ^ ctx.leastExponent) < 1 := by
      exact_mod_cast (mul_lt_iff_lt_one_left hunit).1 hlt
    omega
  rw [round, if_pos ⟨htraps, htiny, hinexact⟩]

/-- A result of normal size moves by at most half a unit of its last digit. -/
theorem relative_error {q : Rat} (hq : q = 0 ∨ 10 ^ minExponent ≤ |q|) :
    |ctx.nearest q - q| ≤ 10 ^ (1 - ctx.precision : Int) / 2 * |q| := by
  rcases hq with rfl | hq
  · simp
  have hpos : 0 < |q| := lt_of_lt_of_le (by positivity) hq
  have hlog : ((10 : Nat) : Rat) ^ Int.log 10 |q| ≤ |q| := Int.zpow_log_le_self (by norm_num) hpos
  calc
    |ctx.nearest q - q| ≤ 10 ^ ctx.lastPlace q / 2 := abs_nearest_sub_le q
    _ = 10 ^ (1 - ctx.precision : Int) / 2 * 10 ^ Int.log 10 |q| := by
        rw [lastPlace_of_normal hq, div_mul_eq_mul_div, ← zpow_add₀ (by norm_num)]
        congr 2
        omega
    _ ≤ 10 ^ (1 - ctx.precision : Int) / 2 * |q| := by
        gcongr
        exact_mod_cast hlog

/-- Rounding leaves at least half of a result of normal size. -/
theorem abs_le_two_mul_nearest (hprecision : 0 < ctx.precision) {q : Rat}
    (hq : q = 0 ∨ 10 ^ minExponent ≤ |q|) :
    |q| ≤ 2 * |ctx.nearest q| := by
  have hfactor : (10 : Rat) ^ (1 - ctx.precision : Int) ≤ 1 :=
    zpow_le_one_of_nonpos₀ (by norm_num) (by omega)
  have herror : |ctx.nearest q - q| ≤ 1 / 2 * |q| := by
    calc |ctx.nearest q - q| ≤ 10 ^ (1 - ctx.precision : Int) / 2 * |q| := relative_error hq
      _ ≤ 1 / 2 * |q| := by gcongr
  have hsplit : |q| ≤ |ctx.nearest q| + |ctx.nearest q - q| := by
    rw [abs_sub_comm]
    linarith [abs_sub_abs_le_abs_sub q (ctx.nearest q)]
  linarith

/-- Rounding does not make a number of normal size lose its leading place. -/
theorem pow_log_le_nearest (hprecision : 0 < ctx.precision) {q : Rat} (hq : 0 < q)
    (hnormal : 10 ^ minExponent ≤ q) : 10 ^ Int.log 10 q ≤ ctx.nearest q := by
  have habs : |q| = q := abs_of_pos hq
  have hplace : ctx.lastPlace q = Int.log 10 q + 1 - ctx.precision := by
    rw [lastPlace_of_normal (habs.symm ▸ hnormal), habs]
  have hlog : ((10 : Nat) : Rat) ^ Int.log 10 q ≤ q := Int.zpow_log_le_self (by norm_num) hq
  have hmultiple : ((1 : Int) : Rat) * 10 ^ Int.log 10 q ≤ ctx.nearest q := by
    refine le_nearest_of_multiple hq ?_ (by omega)
    push_cast at hlog ⊢
    linarith
  simpa using hmultiple

/-- Rounding moves no number beyond the next power of ten. -/
theorem nearest_le_pow {q : Rat} (hq : 0 < q) {k : Int} (hlt : q < 10 ^ k)
    (hplace : ctx.leastExponent ≤ k) : ctx.nearest q ≤ 10 ^ k := by
  have hlog : Int.log 10 q < k :=
    (Int.lt_zpow_iff_log_lt (by norm_num) hq).1 (by exact_mod_cast hlt)
  have hbound : ctx.lastPlace q ≤ k := by
    unfold lastPlace
    rw [abs_of_pos hq]
    omega
  simpa using nearest_le_of_multiple hq (i := 1) (e := k) (by simpa using hlt.le) hbound

/-- Rounding keeps the order of positive numbers. -/
private theorem nearest_mono_of_pos (hprecision : 0 < ctx.precision) {q r : Rat}
    (hq : 0 < q) (h : q ≤ r) :
    ctx.nearest q ≤ ctx.nearest r := by
  have hr := hq.trans_le h
  have hlog : Int.log 10 q ≤ Int.log 10 r := Int.log_mono_right hq h
  rw [nearest_eq_roundAt hq, nearest_eq_roundAt hr]
  apply Tie.roundAt_le_roundAt hq h
  rw [lastPlace, lastPlace, abs_of_pos hq, abs_of_pos hr]
  omega

/-- Rounding keeps the order of numbers. -/
theorem nearest_mono (hprecision : 0 < ctx.precision) {q r : Rat} (h : q ≤ r) :
    ctx.nearest q ≤ ctx.nearest r := by
  rcases lt_or_ge 0 q with hq | hq
  · exact nearest_mono_of_pos hprecision hq h
  · rcases lt_or_ge r 0 with hr | hr
    · have hflip := nearest_mono_of_pos hprecision (neg_pos.2 hr) (neg_le_neg h)
      rwa [nearest_neg, nearest_neg, neg_le_neg_iff] at hflip
    · have hlow : 0 ≤ ctx.nearest (-q) := nearest_nonneg (neg_nonneg.2 hq)
      have hhigh : 0 ≤ ctx.nearest r := nearest_nonneg hr
      rw [nearest_neg] at hlow
      linarith

section Gap

/-- The numbers strictly between two neighbouring multiples of five units of the place `j`. -/
def Gap (m j : Int) : Set Rat :=
  Set.Ioo (m * (5 * 10 ^ j)) ((m + 1) * (5 * 10 ^ j))

variable {x y : Rat} {m j : Int}

/-- A multiple of five units does not lie strictly between two neighbouring multiples. -/
private theorem multiple_le_of_lt {i : Int}
    (hi : (i : Rat) * (5 * 10 ^ j) < (m + 1) * (5 * 10 ^ j)) :
    (i : Rat) * (5 * 10 ^ j) ≤ m * (5 * 10 ^ j) := by
  have hpos : (0 : Rat) < 5 * 10 ^ j := by positivity
  have hlt : (i : Rat) < m + 1 := lt_of_mul_lt_mul_right hi hpos.le
  have hle : i ≤ m := by
    have : i < m + 1 := by exact_mod_cast hlt
    omega
  gcongr

/-- Multiples of half a unit of a higher place are multiples of five units of the lower one. -/
private theorem half_pow_eq {k : Int} (hjk : j < k) (t : Int) :
    (t : Rat) * 10 ^ k / 2 = ((t * 10 ^ (k - 1 - j).toNat : Int) : Rat) * (5 * 10 ^ j) := by
  have hsplit : (10 : Rat) ^ k = 10 * (10 ^ (k - 1 - j).toNat * 10 ^ j) := by
    rw [← zpow_natCast, ← zpow_add₀ (by norm_num), ← zpow_one_add₀ (by norm_num)]
    congr 1
    omega
  rw [hsplit]
  push_cast
  ring

/-- In a gap there is no multiple of half a unit of a higher place. -/
private theorem half_le_iff {k : Int} (hjk : j < k) (t : Int) (hx : x ∈ Gap m j)
    (hy : y ∈ Gap m j) :
    (t : Rat) * 10 ^ k / 2 ≤ x ↔ (t : Rat) * 10 ^ k / 2 ≤ y := by
  rw [half_pow_eq hjk]
  constructor
  · intro h
    exact (multiple_le_of_lt (h.trans_lt hx.2)).trans hy.1.le
  · intro h
    exact (multiple_le_of_lt (h.trans_lt hy.2)).trans hx.1.le

private theorem not_half {k : Int} (hjk : j < k) (t : Int) (hx : x ∈ Gap m j) :
    (t : Rat) * 10 ^ k / 2 ≠ x := by
  rw [half_pow_eq hjk]
  intro h
  have := multiple_le_of_lt (h.symm ▸ hx.2)
  linarith [hx.1]

/-- All numbers of a gap are rounded to the same unit of a higher place, found from any number of
it. -/
private theorem nearest_div_of_gap (tie : Tie) {k : Int} (hjk : j < k) (hx : x ∈ Gap m j)
    (hy : y ∈ Gap m j) :
    tie.nearest (y / 10 ^ k) = (⌊2 * x / 10 ^ k⌋ + 1) / 2 := by
  have hunit : (0 : Rat) < 10 ^ k := by positivity
  -- `t` counts the halves of a unit below the numbers of the gap.
  obtain ⟨t, ht⟩ : ∃ t : Int, ⌊2 * x / 10 ^ k⌋ = t := ⟨_, rfl⟩
  rw [ht]
  apply Tie.nearest_of_gap
  · have hbelow : (t : Rat) * 10 ^ k / 2 ≤ x := by
      have := Int.floor_le (2 * x / 10 ^ k)
      rw [ht, le_div_iff₀ hunit] at this
      linarith
    have hlt := lt_of_le_of_ne ((half_le_iff hjk t hx hy).1 hbelow) (not_half hjk t hy)
    rw [← mul_div_assoc, lt_div_iff₀ hunit]
    linarith
  · have habove : ¬ ((t + 1 : Int) : Rat) * 10 ^ k / 2 ≤ x := by
      have := Int.lt_floor_add_one (2 * x / 10 ^ k)
      rw [ht, div_lt_iff₀ hunit] at this
      push_cast
      linarith
    rw [half_le_iff hjk (t + 1) hx hy] at habove
    rw [← mul_div_assoc, div_lt_iff₀ hunit]
    push_cast at habove
    linarith

/-- A gap far above zero holds positive numbers only. -/
private theorem pos_of_gap {n : Int} (hplace : (10 : Rat) ^ n ≤ m * (5 * 10 ^ j))
    (hx : x ∈ Gap m j) : 0 < x := by
  have hpow : (0 : Rat) < 10 ^ n := by positivity
  linarith [hx.1]

private theorem le_log_of_gap {n : Int} (hplace : (10 : Rat) ^ n ≤ m * (5 * 10 ^ j))
    (hx : x ∈ Gap m j) :
    n ≤ Int.log 10 x := by
  rw [← Int.zpow_le_iff_le_log (by norm_num) (pos_of_gap hplace hx)]
  push_cast
  linarith [hx.1]

private theorem log_le_of_gap (hj : j < Int.log 10 x) (hx0 : 0 < x) (hy0 : 0 < y) (hx : x ∈ Gap m j)
    (hy : y ∈ Gap m j) : Int.log 10 x ≤ Int.log 10 y := by
  have hlog : ((10 : Nat) : Rat) ^ Int.log 10 x ≤ x := Int.zpow_log_le_self (by norm_num) hx0
  have hiff := half_le_iff hj 2 hx hy
  rw [← Int.zpow_le_iff_le_log (by norm_num) hy0]
  push_cast at hlog hiff ⊢
  have := hiff.1 (by linarith)
  linarith

/-- The numbers of a gap have their leading digits at the same place, if the gap is far enough below
it. -/
private theorem log_congr {n : Int} (hn : j < n) (hplace : (10 : Rat) ^ n ≤ m * (5 * 10 ^ j))
    (hx : x ∈ Gap m j) (hy : y ∈ Gap m j) : Int.log 10 x = Int.log 10 y := by
  have hx0 := pos_of_gap hplace hx
  have hy0 := pos_of_gap hplace hy
  exact le_antisymm (log_le_of_gap (hn.trans_le (le_log_of_gap hplace hx)) hx0 hy0 hx hy)
    (log_le_of_gap (hn.trans_le (le_log_of_gap hplace hy)) hy0 hx0 hy hx)

/-- In a gap that is far enough below the leading digit, all numbers are rounded to the same number,
which is none of them. -/
theorem nearest_congr (hplace : (10 : Rat) ^ (j + ctx.precision) ≤ m * (5 * 10 ^ j))
    (hprecision : 0 < ctx.precision) (hx : x ∈ Gap m j) (hy : y ∈ Gap m j) :
    ctx.nearest x = ctx.nearest y ∧ ctx.nearest x ≠ x := by
  have hx0 := pos_of_gap hplace hx
  have hy0 := pos_of_gap hplace hy
  have hlast : ctx.lastPlace x = ctx.lastPlace y := by
    rw [lastPlace, lastPlace, abs_of_pos hx0, abs_of_pos hy0, log_congr (by omega) hplace hx hy]
  have hlow : j < ctx.lastPlace y := by
    have hlog := le_log_of_gap hplace hy
    unfold lastPlace
    rw [abs_of_pos hy0]
    omega
  rw [nearest_of_pos hx0, nearest_of_pos hy0, hlast]
  generalize ctx.lastPlace y = k at hlow
  refine ⟨by rw [nearest_div_of_gap _ hlow hx hx, nearest_div_of_gap _ hlow hx hy], ?_⟩
  have hne := not_half hlow (2 * ctx.tie.nearest (x / 10 ^ k)) hx
  push_cast at hne
  intro heq
  exact hne (by linarith)

/-- Numbers in such a gap come to the same in a context, signals included. -/
theorem round_congr (hplace : (10 : Rat) ^ (j + ctx.precision) ≤ m * (5 * 10 ^ j))
    (hprecision : 0 < ctx.precision) (hx : x ∈ Gap m j) (hy : y ∈ Gap m j) :
    ctx.round x = ctx.round y := by
  obtain ⟨hsame, hx₁⟩ := nearest_congr hplace hprecision hx hy
  obtain ⟨-, hy₁⟩ := nearest_congr hplace hprecision hy hx
  have hx0 := pos_of_gap hplace hx
  have hy0 := pos_of_gap hplace hy
  have htiny : x < 10 ^ minExponent ↔ y < 10 ^ minExponent := by
    have hxlog := Int.lt_zpow_iff_log_lt (b := 10) (x := minExponent) (by norm_num) hx0
    have hylog := Int.lt_zpow_iff_log_lt (b := 10) (x := minExponent) (by norm_num) hy0
    push_cast at hxlog hylog
    rw [hxlog, hylog, log_congr (by omega) hplace hx hy]
  unfold round
  rw [hsame] at hx₁ ⊢
  simp only [abs_of_pos hx0, abs_of_pos hy0, htiny, ne_eq, hx₁, hy₁, not_false_eq_true]

end Gap

end Context

end UnitConversion
