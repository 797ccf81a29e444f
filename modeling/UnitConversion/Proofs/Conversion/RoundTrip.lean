import UnitConversion.Proofs.Catalog.Bundled
import UnitConversion.Proofs.Conversion.Course
import UnitConversion.Proofs.Conversion.Format

/-!
# The way to another unit and back

A number that is converted to another unit of its category and then back returns to where it came
from, up to roundings in digits that nobody reads. This needs numbers of moderate size, and for a
temperature that its scale's offset does not cancel all of it but a remnant next to the end of the
exponent range.

* `Conversion.Returns`: what it means that a number returns.
* `Conversion.Admits`: the numbers for which the way there and back is promised.
* `Conversion.bundled_there_and_back`: the promise for the bundled registry.
* `Conversion.celsius_not_there_and_back`: a temperature next to the offset of its scale has no way
  there.
-/

namespace UnitConversion.Conversion

section

variable {registry : Registry} {settings : Settings} {source target : Json} {s t : UnitRef}
  {u w : MeasurementUnit} {x r b : Decimal}

theorem inputOf_eq (hfinite : x.isFinite = true) (hsize : |x.value| ≤ 10 ^ 300) :
    inputOf (.decimal x) = .ok x := by
  have hlt : |x.value| < 2 ^ (1023 : Int) :=
    (hsize.trans (le_mul_of_one_le_left (by positivity) one_le_two)).trans_lt two_mul_pow_lt
  exact inputOf_decimal (isRepresentable_of_abs_lt hfinite hlt)

/-- The names of two different units of one category, and the units themselves. -/
structure Names (registry : Registry) (source target : Json) (s t : UnitRef)
    (u w : MeasurementUnit) :
    Prop where
  source : registry.resolve? source = some s
  target : registry.resolve? target = some t
  category : s.category = t.category
  ne : s ≠ t
  sourceUnit : registry.unit? s = some u
  targetUnit : registry.unit? t = some w

theorem Names.symm (h : Names registry source target s t u w) :
    Names registry target source t s w u :=
  ⟨h.target, h.source, h.category.symm, h.ne.symm, h.targetUnit, h.sourceUnit⟩

/-- A conversion whose result is zero or of normal size is made. -/
theorem convert_exists_success (h : Names registry source target s t u w)
    (hfinite : x.isFinite = true) (hsize : |x.value| ≤ 10 ^ 300) (happly : apply u w x = .ok r)
    (hrfinite : r.isFinite = true) (hclear : Clear (10 ^ minExponent) r.value)
    (hrsize : |r.value| ≤ 10 ^ 300) :
    ∃ c, convert (some registry) .standard (.decimal x) source target = .success c ∧
      c.exact = r := by
  have hroom : Settings.standard.exponentialUpper.value ≤ 10 ^ (30 : Int) := by
    norm_num [Settings.standard, Decimal.value, Decimal.signed]
  have hhigh : |r.value| < 10 ^ maxExponent := by
    calc |r.value| ≤ 10 ^ (300 : Int) := by exact_mod_cast hrsize
      _ < 10 ^ maxExponent := zpow_lt_zpow_right₀ (by norm_num) (by norm_num [maxExponent])
  obtain ⟨text, htext⟩ := format_exists_ok rfl rfl hroom hrfinite hclear hhigh
  have hrefs : applyRefs registry s t x = .ok r := by
    rw [applyRefs_of_units h.ne h.sourceUnit h.targetUnit, happly]
    rfl
  exact ⟨made source target s t x r text,
    (convert_eq_success_iff h.source h.target h.category).2
      ⟨inputOf_eq hfinite hsize, hrefs, htext, rfl⟩, rfl⟩

/-- A number that has no number of the base unit is not converted. -/
theorem convert_eq_failure (h : Names registry source target s t u w) (hfinite : x.isFinite = true)
    (hsize : |x.value| ≤ 10 ^ 300) {reason : Rule.NoValue}
    (herror : u.rule.toBase x = .error reason) :
    convert (some registry) settings (.decimal x) source target =
      .failure (arithmeticProblem reason) := by
  have hrefs : applyRefs registry s t x = .error (.problem (arithmeticProblem reason)) := by
    rw [applyRefs_of_units h.ne h.sourceUnit h.targetUnit, apply, herror]
    rfl
  refine convert_eq_failure_iff.2 ⟨.problem (arithmeticProblem reason), ?_, rfl⟩
  rw [convertIn_eq, inputOf_eq hfinite hsize, resolvePair_eq h.source h.target h.category]
  simp only [bind, Except.bind, hrefs]

/-- A conversion to another unit and one back are made, and what comes back is at most `ε` away. -/
def Returns (registry : Registry) (source target : Json) (v : Decimal) (ε : Rat) : Prop :=
  ∃ there back, convert (some registry) .standard (.decimal v) source target = .success there ∧
    convert (some registry) .standard (.decimal there.exact) target source = .success back ∧
    |back.exact.value - v.value| ≤ ε

/-- Rules that lead there and back by numbers of moderate size make a number return. -/
theorem returns_of_apply (h : Names registry source target s t u w) (hfinite : x.isFinite = true)
    (hsize : |x.value| ≤ 10 ^ 300) (hthere : apply u w x = .ok r) (hrfinite : r.isFinite = true)
    (hrclear : Clear (10 ^ minExponent) r.value) (hrsize : |r.value| ≤ 10 ^ 300)
    (hback : apply w u r = .ok b) (hbfinite : b.isFinite = true)
    (hbclear : Clear (10 ^ minExponent) b.value) (hbsize : |b.value| ≤ 10 ^ 300) {ε : Rat}
    (herror : |b.value - x.value| ≤ ε) : Returns registry source target x ε := by
  obtain ⟨there, hmade, rfl⟩ :=
    convert_exists_success h hfinite hsize hthere hrfinite hrclear hrsize
  obtain ⟨back, hreturned, rfl⟩ :=
    convert_exists_success h.symm hrfinite hrsize hback hbfinite hbclear hbsize
  exact ⟨there, back, hmade, hreturned, herror⟩

theorem returns_of_monomials (h : Names registry source target s t u w) (hu : u.FitsMonomials)
    (hw : w.FitsMonomials) (hfinite : x.isFinite = true) (hx : Within 250 x.value) :
    Returns registry source target x (1 / 10 ^ 30 * |x.value|) := by
  obtain ⟨there, back, hu⟩ := hu
  obtain ⟨there', back', hw⟩ := hw
  obtain ⟨r, hthere, hrfits, hr, b, hback, hbfits, hnear⟩ := apply_there_and_back hu hw hfinite hx
  have hb : Within 251 b.value := hx.of_near_of_le hnear (by norm_num)
  have hsize {k : Nat} {q : Rat} (hq : Within k q) (hk : k ≤ 300) : |q| ≤ 10 ^ 300 :=
    hq.2.trans (pow_le_pow_right₀ (by norm_num) hk)
  refine returns_of_apply h hfinite (hsize hx (by norm_num)) hthere
    (Context.isFinite_of_fits hrfits) (hr.roundable (by norm_num)).1 (hsize hr (by norm_num)) hback
    (Context.isFinite_of_fits hbfits) (hb.roundable (by norm_num)).1 (hsize hb (by norm_num)) ?_
  calc |b.value - x.value| ≤ 1 / 10 ^ 36 * |x.value| := hnear.abs_sub_le (by norm_num)
    _ ≤ 1 / 10 ^ 30 * |x.value| := by
        gcongr
        · norm_num
        · norm_num

theorem returns_of_scales {scale scale' : Scale} (h : Names registry source target s t u w)
    (hu : u.rule.IsScale scale) (hw : w.rule.IsScale scale') (hfinite : x.isFinite = true)
    (hx : |x.value| ≤ 10 ^ 250) (hclear : Clear (10 ^ (minExponent + 1)) (scale.start x.value)) :
    Returns registry source target x (1 / 10 ^ 30 * max 1 |x.value|) := by
  obtain ⟨r, hthere, hrfinite, hrclear, hrsize, b, hback, hbfinite, hbclear, herror⟩ :=
    apply_there_and_back_of_scale hu hw hfinite hx hclear
  have hsize : |x.value| ≤ 10 ^ 300 := hx.trans (pow_le_pow_right₀ (by norm_num) (by norm_num))
  have hbsize : |b.value| ≤ 10 ^ 300 := by
    have hmax : max 1 |x.value| ≤ 10 ^ 250 := max_le (one_le_pow₀ (by norm_num)) hx
    have htriangle := abs_sub_abs_le_abs_sub b.value x.value
    calc |b.value| ≤ |x.value| + 1 / 10 ^ 30 * max 1 |x.value| := by linarith
      _ ≤ 10 ^ 250 + 1 * 10 ^ 250 := by
          gcongr
          norm_num
      _ = 2 * 10 ^ 250 := by rw [one_mul, ← two_mul]
      _ ≤ 10 ^ 50 * 10 ^ 250 := by
          gcongr
          norm_num
      _ = 10 ^ 300 := by rw [← pow_add]
  exact returns_of_apply h hfinite hsize hthere hrfinite hrclear hrsize hback hbfinite
    hbclear hbsize herror

end

/-- The numbers for which the way there and back is promised: finite ones of moderate size. A
temperature can also be zero; in celsius and fahrenheit it must not be next to the offset of the
scale, unless it is the offset. -/
structure Admits (category unit : String) (v : Decimal) : Prop where
  finite : v.isFinite = true
  le : |v.value| ≤ 10 ^ 250
  ge : 1 / 10 ^ 250 ≤ |v.value| ∨ category = "temperature" ∧ v.value = 0
  celsius : category = "temperature" → unit = "celsius" →
    Clear (10 ^ (minExponent + 1)) (v.value + 27315 / 100)
  fahrenheit : category = "temperature" → unit = "fahrenheit" →
    Clear (10 ^ (minExponent + 1)) (v.value - 32)

/-- What the distance between a number and the one that comes back is measured by. -/
def measure (category : String) (q : Rat) : Rat :=
  if category = "temperature" then max 1 |q| else |q|

theorem Admits.clear_start {scale : Scale} {v : Decimal} (h : Admits "temperature" scale.name v) :
    Clear (10 ^ (minExponent + 1)) (scale.start v.value) := by
  have hvalue : Clear (10 ^ (minExponent + 1)) v.value := by
    rcases h.ge with hge | ⟨-, hzero⟩
    · right
      calc (10 : Rat) ^ (minExponent + 1) ≤ 10 ^ (-250 : Int) :=
            zpow_le_zpow_right₀ (by norm_num) (by norm_num [minExponent])
        _ = 1 / 10 ^ 250 := by rw [one_div]; rfl
        _ ≤ |v.value| := hge
    · exact Or.inl hzero
  cases scale with
  | kelvin => exact hvalue
  | celsius => exact h.celsius rfl rfl
  | fahrenheit => exact h.fahrenheit rfl rfl
  | rankine => exact hvalue

/-- Units of a bundled category that differ go by their names. -/
theorem names_of_mem {category : Category} (hcategory : category ∈ Bundled.registry.categories)
    {s t : MeasurementUnit} (hs : s ∈ category.units) (ht : t ∈ category.units) (hne : s ≠ t)
    {source target : Json}
    (hsource : Bundled.registry.resolve? source = some ⟨category.name, s.key⟩)
    (htarget : Bundled.registry.resolve? target = some ⟨category.name, t.key⟩) :
    Names Bundled.registry source target ⟨category.name, s.key⟩ ⟨category.name, t.key⟩ s t := by
  refine ⟨hsource, htarget, rfl, ?_, Bundled.unit?_eq hcategory hs, Bundled.unit?_eq hcategory ht⟩
  intro heq
  have hunit := Bundled.unit?_eq hcategory hs
  rw [heq, Bundled.unit?_eq hcategory ht] at hunit
  exact hne (Option.some.inj hunit).symm

/-- The bundled registry has the categories of all bundled documents, each unit goes by its key, and
a conversion to another unit of the category and back is made and returns every number that is
admitted. -/
theorem bundled_there_and_back :
    (Registry.load Bundled.directory []).outcome = .ok Bundled.registry ∧
    Bundled.registry.categoryNames = Bundled.documents.map Prod.fst ∧
    ∀ category ∈ Bundled.registry.categories,
      (∀ unit ∈ category.units,
        Bundled.registry.resolve? (.text unit.key) = some ⟨category.name, unit.key⟩) ∧
      ∀ s ∈ category.units, ∀ t ∈ category.units, s ≠ t → ∀ source target : Json,
        Bundled.registry.resolve? source = some ⟨category.name, s.key⟩ →
        Bundled.registry.resolve? target = some ⟨category.name, t.key⟩ →
        ∀ v : Decimal, Admits category.name s.key v →
          Returns Bundled.registry source target v
            (1 / 10 ^ 30 * measure category.name v.value) := by
  refine ⟨Bundled.load_eq, Bundled.map_name_categories, fun category hcategory =>
    ⟨fun unit hunit => Bundled.resolve?_key hcategory hunit, ?_⟩⟩
  intro s hs t ht hne source target hsource htarget v hv
  have hnames := names_of_mem hcategory hs ht hne hsource htarget
  have hfits := Bundled.fits hcategory
  by_cases hname : category.name = "temperature"
  · obtain ⟨scale, hkey, hrule⟩ := hfits.temperature hname s hs
    obtain ⟨scale', -, hrule'⟩ := hfits.temperature hname t ht
    rw [hname, hkey] at hv
    rw [measure, if_pos hname]
    exact returns_of_scales hnames hrule hrule' hv.finite hv.le hv.clear_start
  · rw [measure, if_neg hname]
    refine returns_of_monomials hnames (hfits.other hname s hs) (hfits.other hname t ht) hv.finite
      ⟨?_, hv.le⟩
    rw [← div_le_iff₀ (by positivity)]
    exact hv.ge.resolve_right fun h => hname h.1

/-- A hundred degrees celsius return from the conversion to fahrenheit. -/
theorem hundred_celsius_there_and_back :
    Returns Bundled.registry (.text "celsius") (.text "fahrenheit") (.ofNat 100)
      (1 / 10 ^ 30 * 100) := by
  obtain ⟨category, hcategory, hname, hscales⟩ := Bundled.exists_temperature
  obtain ⟨s, hs, hskey, -⟩ := hscales .celsius
  obtain ⟨t, ht, htkey, -⟩ := hscales .fahrenheit
  obtain ⟨-, -, hall⟩ := bundled_there_and_back
  obtain ⟨hkeys, hreturn⟩ := hall category hcategory
  have hvalue : (Decimal.ofNat 100).value = 100 := by
    norm_num [Decimal.ofNat, Decimal.value, Decimal.signed]
  have hne : s ≠ t := by
    rintro rfl
    exact absurd (Scale.name_injective (hskey.symm.trans htkey)) (by decide)
  have hclear {q : Rat} (hq : 1 ≤ |q|) : Clear (10 ^ (minExponent + 1)) q :=
    Or.inr ((zpow_le_one_of_nonpos₀ (by norm_num) (by norm_num [minExponent])).trans hq)
  have hadmits : Admits category.name s.key (.ofNat 100) := by
    refine ⟨rfl, ?_, Or.inl ?_, fun _ _ => hclear ?_, fun _ _ => hclear ?_⟩ <;>
      rw [hvalue] <;> norm_num
  have h := hreturn s hs t ht hne (.text s.key) (.text t.key) (hkeys s hs) (hkeys t ht) _ hadmits
  rw [measure, if_pos hname, hvalue, hskey, htkey] at h
  simpa [Scale.name] using h

/-- The temperature in celsius that is nothing but a remnant above the absolute zero. -/
theorem remnant_value (k : Nat) :
    (Decimal.finite true (27315 * 10 ^ k - 1) (-(k + 2 : Int))).value =
      10 ^ (-(k + 2 : Int)) - 27315 / 100 := by
  have hone : 1 ≤ 27315 * 10 ^ k := Nat.one_le_iff_ne_zero.2 (by positivity)
  rw [Decimal.value_finite, if_pos rfl, Decimal.magnitude, Nat.cast_sub hone]
  have hsplit : (10 : Rat) ^ k * 10 ^ (-(k + 2 : Int)) = 1 / 100 := by
    rw [← zpow_natCast, ← zpow_add₀ (by norm_num), show (k : Int) + -(k + 2) = -2 by ring]
    norm_num
  push_cast
  linear_combination (-27315 : Rat) * hsplit

/-- A temperature next to the absolute zero has no way there: it is of moderate size, but what is
left of it in kelvin underflows. -/
theorem celsius_not_there_and_back :
    (Registry.load Bundled.directory []).outcome = .ok Bundled.registry ∧
    Bundled.registry.resolve? (.text "celsius") = some ⟨"temperature", "celsius"⟩ ∧
    Bundled.registry.resolve? (.text "kelvin") = some ⟨"temperature", "kelvin"⟩ ∧
    1 / 10 ^ 250 ≤ |(Decimal.finite true (27315 * 10 ^ 1000037 - 1) (-1000039)).value| ∧
    |(Decimal.finite true (27315 * 10 ^ 1000037 - 1) (-1000039)).value| ≤ 10 ^ 250 ∧
    convert (some Bundled.registry) .standard
      (.decimal (.finite true (27315 * 10 ^ 1000037 - 1) (-1000039))) (.text "celsius")
      (.text "kelvin") =
      .failure (arithmeticProblem (.formula .underflow)) := by
  have hvalue : (Decimal.finite true (27315 * 10 ^ 1000037 - 1) (-1000039)).value =
      10 ^ (-1000039 : Int) - 27315 / 100 := remnant_value 1000037
  generalize hv : Decimal.finite true (27315 * 10 ^ 1000037 - 1) (-1000039) = v at hvalue ⊢
  have hfinite : v.isFinite = true := by rw [← hv]; rfl
  have hpos : (0 : Rat) < 10 ^ (-1000039 : Int) := by positivity
  have hone : (10 : Rat) ^ (-1000039 : Int) ≤ 1 :=
    zpow_le_one_of_nonpos₀ (by norm_num) (by norm_num)
  have hlow : 1 ≤ |v.value| := by
    rw [hvalue, le_abs]
    right
    linarith
  have hhigh : |v.value| ≤ 10 ^ 3 := by
    rw [hvalue, abs_le]
    constructor <;> linarith
  have hpow {k : Nat} (hk : 3 ≤ k) : |v.value| ≤ 10 ^ k :=
    hhigh.trans (pow_le_pow_right₀ (by norm_num) hk)
  obtain ⟨category, hcategory, hname, hscales⟩ := Bundled.exists_temperature
  obtain ⟨s, hs, hskey, hrule⟩ := hscales .celsius
  obtain ⟨t, ht, htkey, -⟩ := hscales .kelvin
  have hne : s ≠ t := by
    rintro rfl
    exact absurd (Scale.name_injective (hskey.symm.trans htkey)) (by decide)
  have hsource := Bundled.resolve?_key hcategory hs
  have htarget := Bundled.resolve?_key hcategory ht
  have hnames := names_of_mem hcategory hs ht hne hsource htarget
  have hstart : Scale.celsius.start v.value = 10 ^ (-1000039 : Int) := by
    rw [Scale.start, hvalue, sub_add_cancel]
  have hunderflow := hrule.toBase_underflows (Or.inl rfl) hfinite (hstart ▸ hpos.ne') (by
    rw [hstart, abs_of_pos hpos]
    exact zpow_lt_zpow_right₀ (by norm_num) (by decide))
  have hfailure := @convert_eq_failure _ .standard _ _ _ _ _ _ _ hnames hfinite
    (hpow (by norm_num)) _ hunderflow
  rw [hname, hskey] at hsource
  rw [hname, htkey] at htarget
  rw [hskey, htkey] at hfailure
  exact ⟨Bundled.load_eq, hsource, htarget, le_trans (by norm_num) hlow,
    hpow (by norm_num), hfailure⟩

end UnitConversion.Conversion
