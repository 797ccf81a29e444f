import UnitConversion.Proofs.Conversion.Range
import UnitConversion.Proofs.Formula.Affine

/-!
# Scales of temperature

Four scales, each related to the kelvin by a number of operations with constants. Their rules give
the exact temperatures up to five roundings of the margin, in both directions, and none of the
operations underflows as long as the temperature is not next to the offset that the first of them
cancels.

* `Scale.toKelvin`, `Scale.fromKelvin`: the exact relation to the kelvin.
* `Rule.Measures`: what a rule promises about a scale.
* `Rule.IsScale`: the rule of each scale, and `Rule.measures`: it keeps the promise.
-/

namespace UnitConversion

/-- The scales of temperature. -/
inductive Scale where
  | kelvin
  | celsius
  | fahrenheit
  | rankine
  deriving DecidableEq

namespace Scale

/-- The temperature in kelvin. -/
def toKelvin : Scale → Rat → Rat
  | kelvin, x => x
  | celsius, x => x + 27315 / 100
  | fahrenheit, x => (x - 32) * 5 / 9 + 27315 / 100
  | rankine, x => x * 5 / 9

/-- The temperature on a scale. -/
def fromKelvin : Scale → Rat → Rat
  | kelvin, y => y
  | celsius, y => y - 27315 / 100
  | fahrenheit, y => (y - 27315 / 100) * 9 / 5 + 32
  | rankine, y => y * 9 / 5

/-- The temperature as it is after its offset is taken off. -/
def start : Scale → Rat → Rat
  | celsius, x => x + 27315 / 100
  | fahrenheit, x => x - 32
  | _, x => x

theorem fromKelvin_toKelvin (scale : Scale) (x : Rat) :
    scale.fromKelvin (scale.toKelvin x) = x := by
  cases scale <;> simp only [fromKelvin, toKelvin] <;> ring

theorem toKelvin_fromKelvin (scale : Scale) (y : Rat) :
    scale.toKelvin (scale.fromKelvin y) = y := by
  cases scale <;> simp only [fromKelvin, toKelvin] <;> ring

theorem abs_toKelvin_sub_le (scale : Scale) (x x' : Rat) :
    |scale.toKelvin x - scale.toKelvin x'| ≤ |x - x'| := by
  have hfactor : |(x - x') * (5 / 9)| ≤ |x - x'| := by
    rw [abs_mul, abs_of_pos (show (0 : Rat) < 5 / 9 by norm_num)]
    linarith [abs_nonneg (x - x')]
  cases scale <;> simp only [toKelvin]
  · exact le_rfl
  · rw [add_sub_add_right_eq_sub]
  · convert hfactor using 2
    ring
  · convert hfactor using 2
    ring

theorem abs_fromKelvin_sub_le (scale : Scale) (y y' : Rat) :
    |scale.fromKelvin y - scale.fromKelvin y'| ≤ 9 / 5 * |y - y'| := by
  have hfactor : |(y - y') * (9 / 5)| = 9 / 5 * |y - y'| := by
    rw [abs_mul, abs_of_pos (show (0 : Rat) < 9 / 5 by norm_num), mul_comm]
  have hnonneg := abs_nonneg (y - y')
  cases scale <;> simp only [fromKelvin]
  · linarith
  · rw [sub_sub_sub_cancel_right]
    linarith
  · rw [← hfactor]
    apply le_of_eq
    congr 1
    ring
  · rw [← hfactor]
    apply le_of_eq
    congr 1
    ring

/-- Three hundred margins are enough for the temperature in kelvin. -/
theorem abs_toKelvin_le (scale : Scale) {x m : Rat} (hm : 1 ≤ m) (hx : |x| ≤ m) :
    |scale.toKelvin x| ≤ 300 * m := by
  obtain ⟨hlow, hhigh⟩ := abs_le.1 hx
  rw [abs_le]
  cases scale <;> simp only [toKelvin] <;> constructor <;> linarith

theorem abs_fromKelvin_le (scale : Scale) (y : Rat) : |scale.fromKelvin y| ≤ 9 / 5 * |y| + 460 := by
  obtain ⟨hlow, hhigh⟩ := abs_le.1 (le_refl |y|)
  have hnonneg := abs_nonneg y
  rw [abs_le]
  cases scale <;> simp only [fromKelvin] <;> constructor <;> linarith

end Scale

/-- What a rule promises about a scale: within the margin its results are the exact ones up to five
roundings, and they stay clear of zero. -/
structure Rule.Measures (rule : Rule) (scale : Scale) : Prop where
  toBase : ∀ {M g : Rat} {x : Decimal}, Margin M g → x.isFinite = true → |x.value| ≤ M →
    Clear g (scale.start x.value) →
    ∃ y, rule.toBase x = .ok y ∧ Context.conversion.Fits y ∧
      |y.value - scale.toKelvin x.value| ≤ 5 * (M / 10 ^ 35) ∧ Clear (g / 2) y.value
  fromBase : ∀ {M g : Rat} {y : Decimal}, Margin M g → Context.conversion.Fits y → |y.value| ≤ M →
    Clear g y.value →
    ∃ r, rule.fromBase y = .ok r ∧ Context.conversion.Fits r ∧
      |r.value - scale.fromKelvin y.value| ≤ 5 * (M / 10 ^ 35) ∧ Clear (9 / 10 * g) r.value

/-- A number with two places. -/
def hundredths (n : Nat) : Decimal := .finite false n (-2)

theorem hundredths_denotes (n : Nat) : Denotes (hundredths n) (n / 100) := by
  refine ⟨rfl, ?_⟩
  rw [hundredths, Decimal.value_finite, if_neg (by simp), Decimal.magnitude]
  norm_num
  ring

theorem ofNat_denotes (n : Nat) : Denotes (.ofNat n) n := by
  refine ⟨rfl, ?_⟩
  rw [Decimal.ofNat, Decimal.value_finite, if_neg (by simp), Decimal.magnitude]
  norm_num

namespace Rule

open Formula (Expr Evaluation)

variable {f h : Formula}

theorem measures_kelvin : (factor (.ofNat 1)).Measures .kelvin where
  toBase := by
    intro M g x hmargin hx hsize hclear
    have hgap := hmargin.normal_le
    have htiny : (0 : Rat) < 10 ^ minExponent := by positivity
    have hone := ofNat_denotes 1
    have hproduct : x.value * (Decimal.ofNat 1).value = x.value := by simp [hone.value]
    obtain ⟨y, hy, hfits, hapart, hclose⟩ := hmargin.exists_close
      (Decimal.mul_rounds (by decide) hx hone.finite) (hproduct.symm ▸ hclear) (by linarith)
      (by rw [hproduct]; linarith [hmargin.one_le])
    rw [hproduct] at hclose
    refine ⟨y, by rw [toBase, hy]; rfl, hfits, hclose.trans ?_, hapart.mono (by linarith)⟩
    linarith [hmargin.one_le]
  fromBase := by
    intro M g y hmargin hy hsize hclear
    have hgap := hmargin.normal_le
    have htiny : (0 : Rat) < 10 ^ minExponent := by positivity
    have hone := ofNat_denotes 1
    have hquotient : y.value / (Decimal.ofNat 1).value = y.value := by simp [hone.value]
    obtain ⟨r, hr, hfits, hapart, hclose⟩ := hmargin.exists_close
      (Decimal.div_rounds (by decide) (Context.isFinite_of_fits hy) hone.finite
        (by simp [hone.value]))
      (hquotient.symm ▸ hclear) (by linarith) (by rw [hquotient]; linarith [hmargin.one_le])
    rw [hquotient] at hclose
    refine ⟨r, by rw [fromBase, hr]; rfl, hfits, hclose.trans ?_, hapart.mono (by linarith)⟩
    linarith [hmargin.one_le]

theorem measures_celsius (hf : f.expr = .binary .add .unknown (.literal (hundredths 27315)))
    (hh : h.expr = .binary .subtract .unknown (.literal (hundredths 27315))) :
    (formulas f h).Measures .celsius where
  toBase := by
    intro M g x hmargin hx hsize hclear
    have hone := hmargin.one_le
    have hgap := hmargin.normal_le
    have htiny : (0 : Rat) < 10 ^ minExponent := by positivity
    obtain ⟨hlow, hhigh⟩ := abs_le.1 hsize
    obtain ⟨z, hz⟩ := (Evaluation.unknown M hx).add hmargin (hundredths_denotes 27315) hclear
      (by linarith) (by rw [abs_le]; constructor <;> linarith)
    rw [← hf] at hz
    obtain ⟨hlow, hhigh⟩ := abs_le.1 hz.error
    obtain ⟨y, hy, hfits, herror, hapart⟩ := hz.finish hmargin hz.clear (by linarith)
      (by rw [abs_le]; constructor <;> linarith)
    refine ⟨y, by rw [toBase, hy]; rfl, hfits, herror.trans ?_, hapart.mono (by linarith)⟩
    linarith
  fromBase := by
    intro M g y hmargin hy hsize hclear
    have hone := hmargin.one_le
    have hgap := hmargin.normal_le
    have htiny : (0 : Rat) < 10 ^ minExponent := by positivity
    have hapart := clear_sub_of_fits hy
      (show ((27315 : Nat) : Rat) / 100 = (27315 : Int) / 100 by norm_num) (by norm_num)
    obtain ⟨hlow, hhigh⟩ := abs_le.1 hsize
    obtain ⟨z, hz⟩ := (Evaluation.unknown M (Context.isFinite_of_fits hy)).subtract hmargin
      (hundredths_denotes 27315) (hapart.mono hmargin.gap_le) (by linarith)
      (by rw [abs_le]; constructor <;> linarith)
    rw [← hh] at hz
    obtain ⟨hlow, hhigh⟩ := abs_le.1 hz.error
    obtain ⟨r, hr, hfits, herror, hapart⟩ := hz.finish hmargin hz.clear (by linarith)
      (by rw [abs_le]; constructor <;> linarith)
    refine ⟨r, by rw [fromBase, hr]; rfl, hfits, herror.trans ?_, hapart.mono (by linarith)⟩
    linarith

/-- A ratio of the numbers that relate the degrees of the scales, applied to a temperature of
moderate size. -/
private theorem exists_ratio (hmargin : Margin M g) {e : Expr Decimal} {x y : Decimal} {w k c : Rat}
    (hy : Evaluation M e x y w k) {p q : Nat} (hp : 5 ≤ p ∧ p ≤ 9) (hq : 5 ≤ q ∧ q ≤ 9)
    (hk : 0 ≤ k ∧ k ≤ 1) (hclear : Clear c y.value) (hc : 198 / 100 * 10 ^ minExponent ≤ c)
    (hsize : |w| ≤ 500 * M) :
    ∃ z, Formula.Result M
      (.binary .divide (.binary .multiply e (.literal (.ofNat p))) (.literal (.ofNat q)))
      x z (w * p / q) ((k * p + 1) / q + 1) (99 / 100 * (99 / 100 * (c * p) / q)) := by
  have htiny : (0 : Rat) < 10 ^ minExponent := by positivity
  have hone := hmargin.one_le
  have hunit : 0 < M / 10 ^ 35 := by positivity
  have hplow : (5 : Rat) ≤ p := by exact_mod_cast hp.1
  have hphigh : (p : Rat) ≤ 9 := by exact_mod_cast hp.2
  have hqlow : (5 : Rat) ≤ q := by exact_mod_cast hq.1
  have hqhigh : (q : Rat) ≤ 9 := by exact_mod_cast hq.2
  have hlow : 5 * c ≤ c * p := by nlinarith
  have hy' : |y.value| ≤ 501 * M := by
    have herror : k * (M / 10 ^ 35) ≤ 1 * (M / 10 ^ 35) := mul_le_mul_of_nonneg_right hk.2 hunit.le
    have htriangle := abs_sub_abs_le_abs_sub y.value w
    linarith [hy.error]
  have hproduct : |y.value * p| ≤ 10 ^ 4 * M := by
    rw [abs_mul, abs_of_pos (show (0 : Rat) < p by linarith)]
    calc |y.value| * p ≤ 501 * M * 9 := by gcongr
      _ ≤ 10 ^ 4 * M := by linarith
  obtain ⟨t, ht⟩ :=
    hy.multiply hmargin (ofNat_denotes p) (by linarith) hclear (by linarith) hproduct
  have ht' : |t.value / q| ≤ 10 ^ 4 * M := by
    have hexact : |w * p| ≤ 500 * M * 9 := by
      rw [abs_mul, abs_of_pos (show (0 : Rat) < p by linarith)]
      gcongr
    have herror : (k * p + 1) * (M / 10 ^ 35) ≤ 10 * (M / 10 ^ 35) :=
      mul_le_mul_of_nonneg_right (by nlinarith [hk.2]) hunit.le
    have htriangle := abs_sub_abs_le_abs_sub t.value (w * p)
    have hnumerator : |t.value| ≤ 10 ^ 4 * M := by linarith [ht.error]
    rw [abs_div, abs_of_pos (show (0 : Rat) < q by linarith)]
    exact (div_le_self (abs_nonneg _) (by linarith)).trans hnumerator
  refine ht.divide hmargin (ofNat_denotes q) (by linarith) ht.clear ?_ ht'
  rw [le_div_iff₀ (by linarith)]
  calc (10 : Rat) ^ minExponent * q ≤ 10 ^ minExponent * 9 := by gcongr
    _ ≤ 99 / 100 * (5 * c) := by linarith
    _ ≤ 99 / 100 * (c * p) := by gcongr

theorem measures_rankine
    (hf : f.expr = .binary .divide (.binary .multiply .unknown (.literal (.ofNat 5)))
      (.literal (.ofNat 9)))
    (hh : h.expr = .binary .divide (.binary .multiply .unknown (.literal (.ofNat 9)))
      (.literal (.ofNat 5))) :
    (formulas f h).Measures .rankine where
  toBase := by
    intro M g x hmargin hx hsize hclear
    have hone := hmargin.one_le
    have hgap := hmargin.normal_le
    have htiny : (0 : Rat) < 10 ^ minExponent := by positivity
    obtain ⟨z, hz⟩ := exists_ratio hmargin (Evaluation.unknown M hx) (p := 5) (q := 9)
      (by omega) (by omega) (by norm_num) hclear (by linarith) (by linarith)
    rw [← hf] at hz
    obtain ⟨hlow, hhigh⟩ := abs_le.1 hsize
    obtain ⟨hlow', hhigh'⟩ := abs_le.1 hz.error
    obtain ⟨y, hy, hfits, herror, hapart⟩ := hz.finish hmargin hz.clear (by norm_num; linarith)
      (by norm_num at hlow' hhigh'; rw [abs_le]; constructor <;> linarith)
    refine ⟨y, by rw [toBase, hy]; rfl, hfits, herror.trans ?_, hapart.mono (by norm_num; linarith)⟩
    norm_num
    linarith
  fromBase := by
    intro M g y hmargin hy hsize hclear
    have hone := hmargin.one_le
    have hgap := hmargin.normal_le
    have htiny : (0 : Rat) < 10 ^ minExponent := by positivity
    obtain ⟨z, hz⟩ := exists_ratio hmargin
      (Evaluation.unknown M (Context.isFinite_of_fits hy)) (p := 9) (q := 5) (by omega) (by omega)
      (by norm_num) hclear (by linarith) (by linarith)
    rw [← hh] at hz
    obtain ⟨hlow, hhigh⟩ := abs_le.1 hsize
    obtain ⟨hlow', hhigh'⟩ := abs_le.1 hz.error
    obtain ⟨r, hr, hfits, herror, hapart⟩ := hz.finish hmargin hz.clear (by norm_num; linarith)
      (by norm_num at hlow' hhigh'; rw [abs_le]; constructor <;> linarith)
    refine ⟨r, by rw [fromBase, hr]; rfl, hfits, herror.trans ?_,
      hapart.mono (by norm_num; linarith)⟩
    norm_num
    linarith

/-- A temperature without the offset of its scale, in the degrees of another scale and with the
offset of that one. -/
private theorem exists_shifted_ratio (hmargin : Margin M g) {x a b : Decimal} {α β : Rat}
    {p q : Nat} {i : Int} (hf : f.expr =
      .binary .add (.binary .divide (.binary .multiply (.binary .subtract .unknown (.literal a))
      (.literal (.ofNat p))) (.literal (.ofNat q))) (.literal b))
    (ha : Denotes a α) (hα : 0 ≤ α ∧ α ≤ 300) (hp : 5 ≤ p ∧ p ≤ 9) (hq : 5 ≤ q ∧ q ≤ 9)
    (hb : Denotes b β) (hβ : 20 ≤ β ∧ β ≤ 300) (hplaces : β = i / 100) (hx : x.isFinite = true)
    (hsize : |x.value| ≤ M) (hclear : Clear g (x.value - α)) :
    ∃ y, f.evaluate x = .ok y ∧ Context.conversion.Fits y ∧
      |y.value - ((x.value - α) * p / q + β)| ≤ 5 * (M / 10 ^ 35) ∧ Clear (9 / 10 * g) y.value := by
  have hone := hmargin.one_le
  have hgap := hmargin.normal_le
  have htiny : (0 : Rat) < 10 ^ minExponent := by positivity
  have hunit : 0 < M / 10 ^ 35 := by positivity
  have hphigh : (p : Rat) ≤ 9 := by exact_mod_cast hp.2
  have hqlow : (5 : Rat) ≤ q := by exact_mod_cast hq.1
  have hshifted : |x.value - α| ≤ 301 * M := by
    have htriangle := abs_sub x.value α
    rw [abs_of_nonneg hα.1] at htriangle
    linarith
  have hratio : |(x.value - α) * p / q| ≤ 600 * M := by
    have hq0 : (0 : Rat) < q := by linarith
    rw [abs_div, abs_mul, Nat.abs_cast, Nat.abs_cast, div_le_iff₀ hq0]
    calc |x.value - α| * p ≤ 301 * M * 9 := by gcongr
      _ ≤ 600 * M * 5 := by linarith
      _ ≤ 600 * M * q := by gcongr
  obtain ⟨t, ht⟩ := (Evaluation.unknown M hx).subtract hmargin ha hclear (by linarith) (by linarith)
  obtain ⟨u, hu⟩ :=
    exists_ratio hmargin ht.toEvaluation hp hq (by norm_num) ht.clear (by linarith) (by linarith)
  have hroundings : ((0 + 1) * p + 1) / q + 1 ≤ (3 : Rat) := by
    have hdivided : ((0 + 1) * p + 1) / q ≤ (2 : Rat) := by
      rw [div_le_iff₀ (by linarith)]
      linarith
    linarith
  have herror : (((0 + 1) * p + 1) / q + 1) * (M / 10 ^ 35) ≤ 3 * (M / 10 ^ 35) :=
    mul_le_mul_of_nonneg_right hroundings hunit.le
  obtain ⟨hlow, hhigh⟩ := abs_le.1 hratio
  obtain ⟨hlow', hhigh'⟩ := abs_le.1 (hu.error.trans herror)
  -- What comes out of the ratio has forty digits, so the offset cannot cancel more of it than that.
  have hoffset := clear_add_of_fits hu.fits hplaces (hβ.1.trans (le_abs_self β))
  obtain ⟨z, hz⟩ := hu.add hmargin hb (hoffset.mono hmargin.gap_le) (by linarith)
    (by rw [abs_le]; constructor <;> linarith)
  rw [← hf] at hz
  obtain ⟨hlow'', hhigh''⟩ := abs_le.1 hz.error
  obtain ⟨y, hy, hfits, hfinished, hapart⟩ := hz.finish hmargin hz.clear (by linarith)
    (by rw [abs_le]; constructor <;> linarith)
  exact ⟨y, hy, hfits, hfinished.trans (by linarith), hapart.mono (by linarith)⟩

theorem measures_fahrenheit
    (hf : f.expr = .binary .add (.binary .divide (.binary .multiply
      (.binary .subtract .unknown (.literal (.ofNat 32))) (.literal (.ofNat 5)))
      (.literal (.ofNat 9))) (.literal (hundredths 27315)))
    (hh : h.expr = .binary .add (.binary .divide (.binary .multiply
      (.binary .subtract .unknown (.literal (hundredths 27315))) (.literal (.ofNat 9)))
      (.literal (.ofNat 5))) (.literal (.ofNat 32))) :
    (formulas f h).Measures .fahrenheit where
  toBase := by
    intro M g x hmargin hx hsize hclear
    have hgap := hmargin.normal_le
    have htiny : (0 : Rat) < 10 ^ minExponent := by positivity
    obtain ⟨y, hy, hfits, herror, hapart⟩ := exists_shifted_ratio hmargin hf
      (ofNat_denotes 32) (by norm_num) (by omega) (by omega) (hundredths_denotes 27315)
      (by norm_num) (i := 27315) (by norm_num) hx hsize hclear
    exact ⟨y, by rw [toBase, hy]; rfl, hfits, by simpa [Scale.toKelvin] using herror,
      hapart.mono (by linarith)⟩
  fromBase := by
    intro M g y hmargin hy hsize hclear
    have hoffset := clear_sub_of_fits hy
      (show ((27315 : Nat) : Rat) / 100 = (27315 : Int) / 100 by norm_num) (by norm_num)
    obtain ⟨r, hr, hfits, herror, hapart⟩ := exists_shifted_ratio hmargin hh
      (hundredths_denotes 27315) (by norm_num) (by omega) (by omega) (ofNat_denotes 32)
      (by norm_num) (i := 3200) (by norm_num) (Context.isFinite_of_fits hy) hsize
      (hoffset.mono hmargin.gap_le)
    exact ⟨r, by rw [fromBase, hr]; rfl, hfits, by simpa [Scale.fromKelvin] using herror, hapart⟩

/-- The rules of the four scales. -/
inductive IsScale : Rule → Scale → Prop where
  | kelvin : IsScale (factor (.ofNat 1)) .kelvin
  | celsius {f h : Formula} (hf : f.expr = .binary .add .unknown (.literal (hundredths 27315)))
      (hh : h.expr = .binary .subtract .unknown (.literal (hundredths 27315))) :
      IsScale (formulas f h) .celsius
  | fahrenheit {f h : Formula}
      (hf : f.expr = .binary .add (.binary .divide (.binary .multiply
        (.binary .subtract .unknown (.literal (.ofNat 32))) (.literal (.ofNat 5)))
        (.literal (.ofNat 9))) (.literal (hundredths 27315)))
      (hh : h.expr = .binary .add (.binary .divide (.binary .multiply
        (.binary .subtract .unknown (.literal (hundredths 27315))) (.literal (.ofNat 9)))
        (.literal (.ofNat 5))) (.literal (.ofNat 32))) :
      IsScale (formulas f h) .fahrenheit
  | rankine {f h : Formula}
      (hf : f.expr =
        .binary .divide (.binary .multiply .unknown (.literal (.ofNat 5))) (.literal (.ofNat 9)))
      (hh : h.expr =
        .binary .divide (.binary .multiply .unknown (.literal (.ofNat 9))) (.literal (.ofNat 5))) :
      IsScale (formulas f h) .rankine

/-- The scale whose rule a rule is. -/
def scale? : Rule → Option Scale
  | factor f => if f = .ofNat 1 then some .kelvin else none
  | formulas f h =>
    match f.expr, h.expr with
    | .binary .add .unknown (.literal a), .binary .subtract .unknown (.literal a') =>
      if a = hundredths 27315 ∧ a' = hundredths 27315 then some .celsius else none
    | .binary .add (.binary .divide (.binary .multiply
        (.binary .subtract .unknown (.literal a)) (.literal b)) (.literal c)) (.literal d),
      .binary .add (.binary .divide (.binary .multiply
        (.binary .subtract .unknown (.literal a')) (.literal b')) (.literal c')) (.literal d') =>
      if (a = .ofNat 32 ∧ b = .ofNat 5 ∧ c = .ofNat 9 ∧ d = hundredths 27315) ∧
          a' = hundredths 27315 ∧ b' = .ofNat 9 ∧ c' = .ofNat 5 ∧ d' = .ofNat 32
        then some .fahrenheit else none
    | .binary .divide (.binary .multiply .unknown (.literal a)) (.literal b),
      .binary .divide (.binary .multiply .unknown (.literal a')) (.literal b') =>
      if (a = .ofNat 5 ∧ b = .ofNat 9) ∧ a' = .ofNat 9 ∧ b' = .ofNat 5 then some .rankine else none
    | _, _ => none

theorem isScale_of_scale? {rule : Rule} {scale : Scale} (h : rule.scale? = some scale) :
    rule.IsScale scale := by
  cases rule with
  | factor f =>
      simp only [scale?, Option.ite_none_right_eq_some, Option.some.injEq] at h
      obtain ⟨rfl, rfl⟩ := h
      exact .kelvin
  | formulas f g =>
      simp only [scale?] at h
      split at h
      · next hf hg =>
          simp only [Option.ite_none_right_eq_some, Option.some.injEq] at h
          obtain ⟨⟨rfl, rfl⟩, rfl⟩ := h
          exact .celsius hf hg
      · next hf hg =>
          simp only [Option.ite_none_right_eq_some, Option.some.injEq] at h
          obtain ⟨⟨⟨rfl, rfl, rfl, rfl⟩, rfl, rfl, rfl, rfl⟩, rfl⟩ := h
          exact .fahrenheit hf hg
      · next hf hg =>
          simp only [Option.ite_none_right_eq_some, Option.some.injEq] at h
          obtain ⟨⟨⟨rfl, rfl⟩, rfl, rfl⟩, rfl⟩ := h
          exact .rankine hf hg
      · cases h

theorem measures {rule : Rule} {scale : Scale} (hrule : rule.IsScale scale) :
    rule.Measures scale := by
  cases hrule with
  | kelvin => exact measures_kelvin
  | celsius hf hh => exact measures_celsius hf hh
  | fahrenheit hf hh => exact measures_fahrenheit hf hh
  | rankine hf hh => exact measures_rankine hf hh

end Rule

/-- What rounds a value below the last place of all ends with an underflow. -/
theorem Context.Rounds.underflows {result : Except Signal Decimal} {q : Rat}
    (hrounds : Context.conversion.Rounds result q) (hzero : q ≠ 0)
    (hlt : |q| < 10 ^ Context.conversion.leastExponent) : result = .error .underflow := by
  have hvalue := hrounds.value
  rw [Context.round_of_negligible rfl (by decide) hzero hlt] at hvalue
  cases result with
  | error signal => cases hvalue; rfl
  | ok d => cases hvalue

/-- A temperature whose offset leaves a remnant below the last place of all has no number of the
base unit. -/
theorem Rule.IsScale.toBase_underflows {rule : Rule} {scale : Scale} (hrule : rule.IsScale scale)
    (hoffset : scale = .celsius ∨ scale = .fahrenheit) {x : Decimal} (hx : x.isFinite = true)
    (hzero : scale.start x.value ≠ 0)
    (hlt : |scale.start x.value| < 10 ^ Context.conversion.leastExponent) :
    rule.toBase x = .error (.formula .underflow) := by
  cases hrule with
  | kelvin => simp at hoffset
  | rankine => simp at hoffset
  | @celsius f h hf hh =>
      have hoffset := hundredths_denotes 27315
      have hstart : x.value + (hundredths 27315).value = Scale.celsius.start x.value := by
        rw [hoffset.value, Scale.start]
        norm_num
      have hadd := (Decimal.add_rounds (by decide) hx hoffset.finite).underflows (hstart ▸ hzero)
        (hstart ▸ hlt)
      simp only [toBase, Formula.evaluate, Formula.value, hf, Formula.Expr.evaluate,
        Formula.Expr.applyOperator, hadd, bind, Except.bind, Except.mapError,
        Formula.NoValue.ofSignal]
  | @fahrenheit f h hf hh =>
      have hoffset := ofNat_denotes 32
      have hstart : x.value - (Decimal.ofNat 32).value = Scale.fahrenheit.start x.value := by
        rw [hoffset.value, Scale.start]
        norm_num
      have hsub := (Decimal.sub_rounds (by decide) hx hoffset.finite).underflows (hstart ▸ hzero)
        (hstart ▸ hlt)
      simp only [toBase, Formula.evaluate, Formula.value, hf, Formula.Expr.evaluate,
        Formula.Expr.applyOperator, hsub, bind, Except.bind, Except.mapError,
        Formula.NoValue.ofSignal]

/-- A temperature of forty digits that is clear of zero is not next to the offset of its scale
either. -/
theorem Scale.clear_start (scale : Scale) {x : Decimal} (hx : Context.conversion.Fits x)
    (hclear : Clear g x.value) (hg : g ≤ 10 ^ (-38 : Int)) : Clear g (scale.start x.value) := by
  cases scale with
  | kelvin => exact hclear
  | celsius =>
      exact (clear_add_of_fits hx (show (27315 / 100 : Rat) = (27315 : Int) / 100 by norm_num)
        (by norm_num)).mono hg
  | fahrenheit =>
      exact (clear_sub_of_fits hx (show (32 : Rat) = (3200 : Int) / 100 by norm_num)
        (by norm_num)).mono hg
  | rankine => exact hclear

namespace Conversion

variable {source target : MeasurementUnit} {scale scale' : Scale}

/-- A conversion between two scales is the exact one up to fourteen roundings of the margin. -/
theorem apply_close (hsource : source.rule.IsScale scale) (htarget : target.rule.IsScale scale')
    (hmargin : Margin M g) (hg : 4 * 10 ^ minExponent ≤ g) {x : Decimal}
    (hfinite : x.isFinite = true) (hx : |x.value| ≤ M) (hbase : |scale.toKelvin x.value| ≤ M / 2)
    (hresult : |scale'.fromKelvin (scale.toKelvin x.value)| ≤ M)
    (hclear : Clear g (scale.start x.value)) :
    ∃ r, apply source target x = .ok r ∧ Context.conversion.Fits r ∧ Clear (9 / 20 * g) r.value ∧
      |r.value - scale'.fromKelvin (scale.toKelvin x.value)| ≤ 14 * (M / 10 ^ 35) := by
  have hone := hmargin.one_le
  have htiny : (0 : Rat) < 10 ^ minExponent := by positivity
  obtain ⟨y, hy, hyfits, hyerror, hyclear⟩ :=
    (Rule.measures hsource).toBase hmargin hfinite hx hclear
  have hysize : |y.value| ≤ M := by
    have htriangle := abs_sub_abs_le_abs_sub y.value (scale.toKelvin x.value)
    linarith
  have hhalf : Margin M (g / 2) :=
    ⟨hone, hmargin.le_pow, by linarith, (half_le_self (by linarith)).trans hmargin.gap_le⟩
  obtain ⟨r, hr, hrfits, hrerror, hrclear⟩ :=
    (Rule.measures htarget).fromBase hhalf hyfits hysize hyclear
  have herror : |r.value - scale'.fromKelvin (scale.toKelvin x.value)| ≤ 14 * (M / 10 ^ 35) := by
    have hspread := scale'.abs_fromKelvin_sub_le y.value (scale.toKelvin x.value)
    have htriangle := abs_sub_le r.value (scale'.fromKelvin y.value)
      (scale'.fromKelvin (scale.toKelvin x.value))
    linarith
  have hrsize : |r.value| < 2 ^ (1023 : Int) := by
    have htriangle := abs_sub_abs_le_abs_sub r.value (scale'.fromKelvin (scale.toKelvin x.value))
    calc |r.value| ≤ 2 * M := by linarith
      _ ≤ 2 * 10 ^ 300 := mul_le_mul_of_nonneg_left hmargin.le_pow zero_le_two
      _ < 2 ^ (1023 : Int) := two_mul_pow_lt
  exact ⟨r, apply_eq_ok hy hr (Context.isFinite_of_fits hrfits) hrsize, hrfits,
    hrclear.mono (by linarith), herror⟩

/-- The way to another scale and back returns every temperature that is not next to the offset of
its scale, in relation to the larger one of its size and one. -/
theorem apply_there_and_back_of_scale (hsource : source.rule.IsScale scale)
    (htarget : target.rule.IsScale scale') {x : Decimal} (hfinite : x.isFinite = true)
    (hx : |x.value| ≤ 10 ^ 250) (hclear : Clear (10 ^ (minExponent + 1)) (scale.start x.value)) :
    ∃ r, apply source target x = .ok r ∧ r.isFinite = true ∧ Clear (10 ^ minExponent) r.value ∧
      |r.value| ≤ 10 ^ 300 ∧
      ∃ b, apply target source r = .ok b ∧ b.isFinite = true ∧ Clear (10 ^ minExponent) b.value ∧
        |b.value - x.value| ≤ 1 / 10 ^ 30 * max 1 |x.value| := by
  set m : Rat := max 1 |x.value| with hm
  have hone : 1 ≤ m := le_max_left _ _
  have hxm : |x.value| ≤ m := le_max_right _ _
  have hpow : 2000 * m ≤ 10 ^ 300 := by
    rw [show 300 = 50 + 250 by rfl, pow_add]
    have hmpow : m ≤ 10 ^ 250 := max_le (one_le_pow₀ (by norm_num)) hx
    gcongr
    norm_num
  have htiny : (0 : Rat) < 10 ^ minExponent := by positivity
  have hgap : (10 : Rat) ^ (minExponent + 1) = 10 * 10 ^ minExponent := by
    rw [zpow_add₀ (by norm_num), zpow_one, mul_comm]
  have hmargin : Margin (2000 * m) (10 ^ (minExponent + 1)) :=
    ⟨by linarith, hpow, by linarith, zpow_le_zpow_right₀ (by norm_num) (by norm_num [minExponent])⟩
  have hkelvin := scale.abs_toKelvin_le hone hxm
  have htarget' := scale'.abs_fromKelvin_le (scale.toKelvin x.value)
  obtain ⟨r, hr, hrfits, hrclear, hrerror⟩ := apply_close hsource htarget hmargin
    (by linarith) hfinite (by linarith) (by linarith) (by linarith) hclear
  have hrsize : |r.value| ≤ 2000 * m := by
    have htriangle := abs_sub_abs_le_abs_sub r.value (scale'.fromKelvin (scale.toKelvin x.value))
    linarith
  -- Back in kelvin the result is where it came from, up to the roundings of the first conversion.
  have hreturn : |scale'.toKelvin r.value - scale.toKelvin x.value| ≤
      14 * (2000 * m / 10 ^ 35) := by
    have hspread := scale'.abs_toKelvin_sub_le r.value (scale'.fromKelvin (scale.toKelvin x.value))
    rw [scale'.toKelvin_fromKelvin] at hspread
    exact hspread.trans hrerror
  have hhome : |scale.fromKelvin (scale'.toKelvin r.value) - x.value| ≤
      26 * (2000 * m / 10 ^ 35) := by
    have hspread := scale.abs_fromKelvin_sub_le (scale'.toKelvin r.value) (scale.toKelvin x.value)
    rw [scale.fromKelvin_toKelvin] at hspread
    linarith
  have hmargin' : Margin (2000 * m) (9 / 20 * 10 ^ (minExponent + 1)) :=
    ⟨hmargin.one_le, hpow, by linarith,
      (mul_le_of_le_one_left (by linarith) (by norm_num)).trans hmargin.gap_le⟩
  obtain ⟨b, hb, hbfits, hbclear, hberror⟩ := apply_close htarget hsource hmargin' (by linarith)
    (Context.isFinite_of_fits hrfits) hrsize
    (by linarith [abs_sub_abs_le_abs_sub (scale'.toKelvin r.value) (scale.toKelvin x.value)])
    (by linarith [abs_sub_abs_le_abs_sub (scale.fromKelvin (scale'.toKelvin r.value)) x.value])
    (scale'.clear_start hrfits hrclear hmargin'.gap_le)
  refine ⟨r, hr, Context.isFinite_of_fits hrfits, hrclear.mono (by linarith),
    hrsize.trans hpow, b, hb, Context.isFinite_of_fits hbfits, hbclear.mono (by linarith), ?_⟩
  have htriangle := abs_sub_le b.value (scale.fromKelvin (scale'.toKelvin r.value)) x.value
  linarith

end Conversion

end UnitConversion
