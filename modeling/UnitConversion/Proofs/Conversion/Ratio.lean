import UnitConversion.Proofs.Catalog.Factor
import UnitConversion.Proofs.Conversion.Detour
import UnitConversion.Proofs.Decimal.Relative

/-!
# Conversions between units with factors

From one unit with a factor to another a number is multiplied by the ratio of the factors, in two
operations: a product and a quotient, each rounded once. So the result is hardly more than one unit
of its fortieth digit away from the exact one, and since a rounding keeps the order of numbers and
treats opposite ones alike, so does a conversion.

* `Context.Rounds.mono`, `Context.Rounds.exists_opposite`: a rounding keeps the order and treats
  opposites alike.
* `Conversion.Rescales`: a product and a quotient, how far they are from the exact result, and their
  order.
* `Conversion.FactorPair.convert_iff`: what a conversion between two units with factors consists of.
* `Conversion.convert_near_ratio`: how far the result is from the exact one.
* `Conversion.convert_ordered`: larger numbers have larger results, and opposite numbers opposite
  ones.
-/

namespace UnitConversion

open Decimal

namespace Context.Rounds

variable {ctx : Context} {result result' : Except Signal Decimal} {q q' : Rat} {d d' : Decimal}

/-- Roundings of larger values are larger. -/
theorem mono (hprecision : 0 < ctx.precision) (h : ctx.Rounds result q) (h' : ctx.Rounds result' q')
    (hd : result = .ok d) (hd' : result' = .ok d') (hle : q ≤ q') : d.value ≤ d'.value := by
  rw [(h.of_ok hd).1, (h'.of_ok hd').1]
  exact nearest_mono hprecision hle

/-- Of two opposite values, both have a rounding or none has, and the roundings are opposite. -/
theorem exists_opposite (h : ctx.Rounds result q) (h' : ctx.Rounds result' (-q))
    (hd : result = .ok d) :
    ∃ r, result' = .ok r ∧ r.isFinite = true ∧ r.value = -d.value := by
  have hvalue := h'.value
  rw [round_neg, ← h.value, hd] at hvalue
  cases hr : result' with
  | error signal =>
      rw [hr] at hvalue
      cases hvalue
  | ok r =>
      rw [hr] at hvalue
      exact ⟨r, rfl, isFinite_of_fits (h'.fits r hr), Except.ok.inj hvalue⟩

end Context.Rounds

/-! ### Signs -/

/-- What takes no notice of how a number is written, nor of its sign, depends on the size of the
number. -/
theorem eq_of_abs_value {β : Type} {F : Decimal → β}
    (hwriting : ∀ {digits : Nat} {a b : Decimal}, Decimal.Alike digits a b → F a = F b)
    (hsign : ∀ s c e, F (.finite s c e) = F (.finite false c e)) {a b : Decimal}
    (ha : a.isFinite = true) (hb : b.isFinite = true) (habs : |a.value| = |b.value|) :
    F a = F b := by
  obtain ⟨s₁, c₁, e₁, rfl⟩ := exists_of_isFinite ha
  obtain ⟨s₂, c₂, e₂, rfl⟩ := exists_of_isFinite hb
  rw [abs_value_finite, abs_value_finite] at habs
  have halike : Decimal.Alike (max (digitCount c₁) (digitCount c₂)) (.finite false c₁ e₁)
      (.finite false c₂ e₂) :=
    .finite false habs (by omega)
  rw [hsign, hsign s₂, hwriting halike]

namespace Binary64

theorem isFinite_nearest (s : Bool) (n d : Nat) :
    (nearest s n d).isFinite = (nearest false n d).isFinite := by
  simp only [nearest]
  split
  · rfl
  · split <;> split <;> rfl

theorem isFinite_ofScaled (s : Bool) (c : Nat) (e : Int) :
    (ofScaled s c e).isFinite = (ofScaled false c e).isFinite := by
  simp only [ofScaled]
  split
  · rfl
  · split
    · rfl
    · split
      · rfl
      · exact isFinite_nearest _ _ _

end Binary64

namespace Conversion

variable {a b : Decimal}

theorem isRepresentable_of_abs (ha : a.isFinite = true) (hb : b.isFinite = true)
    (habs : |a.value| = |b.value|) : isRepresentable a = isRepresentable b :=
  eq_of_abs_value isRepresentable_congr Binary64.isFinite_ofScaled ha hb habs

theorem positional_sign (places : Nat) (s : Bool) (c : Nat) (e : Int) :
    (positional places (.finite s c e)).map (fun _ => ()) =
      (positional places (.finite false c e)).map fun _ => () := by
  simp only [positional, toPlaces]
  split
  · rfl
  · split
    · rfl
    · split <;> split <;> rfl

/-- Whether a result can be shown depends on its size. -/
theorem format_of_abs (settings : Settings) (ha : a.isFinite = true) (hb : b.isFinite = true)
    (habs : |a.value| = |b.value|) :
    (format settings a).map (fun _ => ()) = (format settings b).map fun _ => () := by
  refine eq_of_abs_value (F := fun d => (format settings d).map fun _ => ())
    (fun h => congrArg _ (format_congr settings h)) (fun s c e => ?_) ha hb habs
  have hmap (r : Except Signal (List Char)) :
      (r.map String.ofList).map (fun _ => ()) = r.map fun _ => () := by
    cases r <;> rfl
  have hsize : Decimal.abs .ambient (.finite s c e) =
      Decimal.abs .ambient (.finite false c e) := rfl
  have hzero : (Decimal.finite s c e).isZero = (Decimal.finite false c e).isZero := rfl
  simp only [format, hmap, formatChars, hzero, hsize]
  split
  · rfl
  · cases Decimal.abs .ambient (.finite false c e) with
    | error signal => rfl
    | ok size =>
        simp only [bind, Except.bind]
        cases hasExponent settings size with
        | error signal => rfl
        | ok shown =>
            cases shown with
            | true => rfl
            | false => exact positional_sign _ s c e

/-! ### A product and a quotient -/

/-- Whether a number becomes another one when it is multiplied by `f` and then divided by `g`. -/
def Rescales (f g x r : Decimal) : Prop :=
  ∃ y, mul .conversion x f = .ok y ∧ div .conversion y g = .ok r

namespace Rescales

variable {f g x x' r r' : Decimal}

/-- The two roundings on the way. -/
theorem rounds (h : Rescales f g x r) (hf : f.Positive) (hg : g.Positive) (hx : x.isFinite = true) :
    ∃ y, mul .conversion x f = .ok y ∧
      Context.conversion.Rounds (mul .conversion x f) (x.value * f.value) ∧
      div .conversion y g = .ok r ∧ Context.conversion.Rounds (div .conversion y g)
        (y.value / g.value) := by
  obtain ⟨y, hy, hr⟩ := h
  have hproduct : Context.conversion.Rounds (mul .conversion x f) (x.value * f.value) :=
    mul_rounds (by decide) hx hf.finite
  have hyfinite := Context.isFinite_of_fits (hproduct.fits y hy)
  exact ⟨y, hy, hproduct, hr, div_rounds (by decide) hyfinite hg.finite hg.pos.ne'⟩

theorem near (h : Rescales f g x r) (hf : f.Positive) (hg : g.Positive) (hx : x.isFinite = true) :
    Near 2 r.value (x.value * f.value / g.value) := by
  obtain ⟨y, hy, hproduct, hr, hquotient⟩ := h.rounds hf hg hx
  have hscaled := (hproduct.near hy).mul_left g.value⁻¹
  rw [inv_mul_eq_div, inv_mul_eq_div] at hscaled
  exact (hquotient.near hr).trans hscaled

/-- Both roundings keep the order of numbers, and so do the positive factors. -/
theorem mono (h : Rescales f g x r) (h' : Rescales f g x' r') (hf : f.Positive) (hg : g.Positive)
    (hx : x.isFinite = true) (hx' : x'.isFinite = true) (hle : x.value ≤ x'.value) :
    r.value ≤ r'.value := by
  obtain ⟨y, hy, hproduct, hr, hquotient⟩ := h.rounds hf hg hx
  obtain ⟨y', hy', hproduct', hr', hquotient'⟩ := h'.rounds hf hg hx'
  have hpos := hf.pos
  have hpos' := hg.pos
  have hproducts : y.value ≤ y'.value := hproduct.mono (by decide) hproduct' hy hy' (by gcongr)
  exact hquotient.mono (by decide) hquotient' hr hr' (by gcongr)

/-- What becomes of the opposite number is the opposite. -/
theorem exists_opposite (h : Rescales f g x r) (hf : f.Positive) (hg : g.Positive)
    (hx : x.isFinite = true) (hx' : x'.isFinite = true) (hopposite : x'.value = -x.value) :
    ∃ r', Rescales f g x' r' ∧ r'.isFinite = true ∧ r'.value = -r.value := by
  obtain ⟨y, hy, hproduct, hr, hquotient⟩ := h.rounds hf hg hx
  have hproduct' : Context.conversion.Rounds (mul .conversion x' f) (-(x.value * f.value)) := by
    rw [← neg_mul, ← hopposite]
    exact mul_rounds (by decide) hx' hf.finite
  obtain ⟨y', hy', hyfinite', hyvalue'⟩ := hproduct.exists_opposite hproduct' hy
  have hquotient' : Context.conversion.Rounds (div .conversion y' g) (-(y.value / g.value)) := by
    rw [← neg_div, ← hyvalue']
    exact div_rounds (by decide) hyfinite' hg.finite hg.pos.ne'
  obtain ⟨r', hr', hrfinite', hrvalue'⟩ := hquotient.exists_opposite hquotient' hr
  exact ⟨r', ⟨y', hy', hr'⟩, hrfinite', hrvalue'⟩

end Rescales

/-! ### Conversions -/

theorem exists_of_isSuccess {registry : Option Registry} {settings : Settings}
    {value source target : Json}
    (h : (convert registry settings value source target).isSuccess = true) :
    ∃ c, convert registry settings value source target = .success c := by
  obtain hsuccess | ⟨p, hp⟩ := Outcome.of_convert registry settings value source target
  · exact hsuccess
  · rw [hp] at h
    cases h

/-- Two different units of one category that have positive factors, under names that they go by. -/
structure FactorPair (registry : Registry) (source target : Json) (s t : UnitRef)
    (f g : Decimal) : Prop where
  source : registry.resolve? source = some s
  target : registry.resolve? target = some t
  category : s.category = t.category
  ne : s ≠ t
  sourceUnit : ∃ u, registry.unit? s = some u ∧ u.rule = .factor f
  targetUnit : ∃ w, registry.unit? t = some w ∧ w.rule = .factor g
  sourcePositive : f.Positive
  targetPositive : g.Positive

theorem apply_factors_iff {u w : MeasurementUnit} {f g x r : Decimal} (hf : u.rule = .factor f)
    (hg : w.rule = .factor g) :
    apply u w x = .ok r ↔ Rescales f g x r ∧ r.isFinite = true ∧ isRepresentable r = true := by
  have hbind : (u.rule.toBase x).bind w.rule.fromBase = .ok r ↔ Rescales f g x r := by
    rw [hf, hg]
    constructor
    · intro h
      obtain ⟨y, hy, hr⟩ := Formula.bind_eq_ok h
      exact ⟨y, mapError_eq_ok hy, mapError_eq_ok hr⟩
    · rintro ⟨y, hy, hr⟩
      simp only [Rule.toBase, Rule.fromBase, hy, hr, Except.mapError, Except.bind]
  rw [apply_eq_ok_iff, hbind]

namespace FactorPair

variable {registry : Registry} {settings : Settings} {source target : Json} {s t : UnitRef}
    {f g v v' : Decimal}
  {c c' : Conversion} (pair : FactorPair registry source target s t f g)

include pair

/-- What a conversion between two units with factors consists of. -/
theorem convert_iff :
    convert (some registry) settings (.decimal v) source target = .success c ↔
      inputOf (.decimal v) = .ok c.input ∧ Rescales f g c.input c.exact ∧ c.exact.isFinite = true ∧
        isRepresentable c.exact = true ∧ format settings c.exact = .ok c.formatted ∧
        c = made source target s t c.input c.exact c.formatted := by
  obtain ⟨u, hu, hf⟩ := pair.sourceUnit
  obtain ⟨w, hw, hg⟩ := pair.targetUnit
  have happly : applyRefs registry s t c.input = .ok c.exact ↔ apply u w c.input = .ok c.exact := by
    rw [applyRefs_of_units pair.ne hu hw]
    cases apply u w c.input <;> simp [Except.mapError]
  rw [convert_eq_success_iff pair.source pair.target pair.category, happly, apply_factors_iff hf hg]
  tauto

theorem rescales (h : convert (some registry) settings (.decimal v) source target = .success c) :
    v.isFinite = true ∧ Rescales f g v c.exact := by
  obtain ⟨hinput, hrescales, -⟩ := pair.convert_iff.1 h
  have hsame := eq_of_inputOf_decimal hinput
  rw [hsame] at hinput hrescales
  exact ⟨(finite_of_inputOf hinput).1, hrescales⟩

theorem mono (hle : v.value ≤ v'.value)
    (h : convert (some registry) settings (.decimal v) source target = .success c)
    (h' : convert (some registry) settings (.decimal v') source target = .success c') :
    c.exact.value ≤ c'.exact.value := by
  obtain ⟨hv, hr⟩ := pair.rescales h
  obtain ⟨hv', hr'⟩ := pair.rescales h'
  exact hr.mono hr' pair.sourcePositive pair.targetPositive hv hv' hle

/-- The opposite number is converted to the opposite result. -/
theorem exists_opposite (hv' : v'.isFinite = true) (hopposite : v'.value = -v.value)
    (h : convert (some registry) settings (.decimal v) source target = .success c) :
    ∃ c', convert (some registry) settings (.decimal v') source target = .success c' ∧
      c'.exact.value = -c.exact.value := by
  obtain ⟨hv, hrescales⟩ := pair.rescales h
  obtain ⟨hinput, -, hfinite, hrepresentable, hformat, -⟩ := pair.convert_iff.1 h
  obtain ⟨r, hrescales', hrfinite, hrvalue⟩ :=
    hrescales.exists_opposite pair.sourcePositive pair.targetPositive hv hv' hopposite
  -- Whether a number is within the range of doubles, and whether it can be shown, depends on its
  -- size.
  have habs : |v'.value| = |v.value| := by rw [hopposite, abs_neg]
  have hrabs : |r.value| = |c.exact.value| := by rw [hrvalue, abs_neg]
  have hrange : isRepresentable v' = true := by
    rw [isRepresentable_of_abs hv' hv habs]
    exact (eq_of_inputOf_decimal hinput ▸ finite_of_inputOf hinput).2
  have hinput' : inputOf (.decimal v') = .ok v' := inputOf_decimal hrange
  have hrrange : isRepresentable r = true := by
    rw [isRepresentable_of_abs hrfinite hfinite hrabs, hrepresentable]
  obtain ⟨text, htext⟩ : ∃ text, format settings r = .ok text := by
    have hshown := format_of_abs settings hrfinite hfinite hrabs
    rw [hformat] at hshown
    cases hr : format settings r with
    | error signal =>
        rw [hr] at hshown
        cases hshown
    | ok text => exact ⟨text, rfl⟩
  exact ⟨made source target s t v' r text,
    pair.convert_iff.2 ⟨hinput', hrescales', hrfinite, hrrange, htext, rfl⟩, hrvalue⟩

end FactorPair

section

variable {directory : Directory} {names : List Json} {registry : Registry} {settings : Settings}
  (hload : (Registry.load directory names).outcome = .ok registry) {category : Category}
  (hcategory : category ∈ registry.categories) {u w : MeasurementUnit} (hu : u ∈ category.units)
  (hw : w ∈ category.units) (hne : u.key ≠ w.key) {f g : Decimal} (hf : u.rule = .factor f)
  (hg : w.rule = .factor g) {source target : Json}
  (hsource : registry.resolve? source = some ⟨category.name, u.key⟩)
  (htarget : registry.resolve? target = some ⟨category.name, w.key⟩)

include hload hcategory hu hw hne hf hg hsource htarget in
theorem factorPair_of_load :
    FactorPair registry source target ⟨category.name, u.key⟩ ⟨category.name, w.key⟩ f g := by
  have hregistry := Registry.wellFormed_of_load hload
  have hpositive : u.rule.Positive := Registry.positive_of_load hload hcategory hu
  have hpositive' : w.rule.Positive := Registry.positive_of_load hload hcategory hw
  rw [hf] at hpositive
  rw [hg] at hpositive'
  exact ⟨hsource, htarget, rfl, fun h => hne (UnitRef.mk.inj h).2,
    ⟨u, hregistry.unit?_eq hcategory hu, hf⟩, ⟨w, hregistry.unit?_eq hcategory hw, hg⟩,
    hpositive, hpositive'⟩

include hload hcategory hu hw hne hf hg hsource htarget in
/-- In a registry that was loaded, the result of a conversion between units with factors is hardly
more than one unit of its fortieth digit away from the number times the ratio of the factors. -/
theorem convert_near_ratio {v : Decimal} {c : Conversion}
    (h : convert (some registry) settings (.decimal v) source target = .success c) :
    |c.exact.value - v.value * f.value / g.value| ≤
      101 / 100 / 10 ^ 39 * |v.value * f.value / g.value| := by
  have pair := factorPair_of_load hload hcategory hu hw hne hf hg hsource htarget
  obtain ⟨hv, hrescales⟩ := pair.rescales h
  exact (hrescales.near pair.sourcePositive pair.targetPositive hv).abs_sub_le_of_two

/-- The document with feet and inches is loaded. -/
theorem load_customary :
    (Registry.load customaryDirectory [.text "length"]).outcome = .ok customary := by
  with_unfolding_all rfl

/-- An inch is a twelfth of a foot, as far as it can be written with forty digits. -/
theorem inch_near_twelfth : ∃ c,
    convert (some customary) .standard (.decimal (.ofNat 1)) (.text "in")
      (.text "ft") = .success c ∧
    |c.exact.value - 1 / 12| ≤ 101 / 100 / 10 ^ 39 * (1 / 12) := by
  obtain ⟨c, hc⟩ : ∃ c,
      convert (some customary) .standard (.decimal (.ofNat 1)) (.text "in")
        (.text "ft") = .success c :=
    exists_of_isSuccess (by decide +kernel)
  have hnear := convert_near_ratio load_customary
    (show customaryCategory ∈ customary.categories from .head _) (.tail _ (.head _))
    (.tail _ (.tail _ (.head _))) (by decide) rfl rfl (by decide +kernel) (by decide +kernel) hc
  have hratio : (Decimal.ofNat 1).value * (Decimal.finite false 254 (-4)).value /
      (Decimal.finite false 3048 (-4)).value = 1 / 12 := by
    norm_num [Decimal.ofNat, Decimal.value, Decimal.signed]
  rw [hratio, abs_of_pos (show (0 : Rat) < 1 / 12 by norm_num)] at hnear
  exact ⟨c, hc, hnear⟩

include hload hcategory hu hw hne hf hg hsource htarget in
/-- In a registry that was loaded, of two numbers that are converted between units with factors, the
larger one has the larger result. Of two opposite numbers, both are converted or none is, and the
results are opposite. -/
theorem convert_ordered :
    (∀ v v' c c', v.value ≤ v'.value →
      convert (some registry) settings (.decimal v) source target = .success c →
      convert (some registry) settings (.decimal v') source target = .success c' →
      c.exact.value ≤ c'.exact.value) ∧
    ∀ v v' : Decimal, v.isFinite = true → v'.isFinite = true → v'.value = -v.value →
      ((∃ c', convert (some registry) settings (.decimal v') source target = .success c') ↔
        ∃ c, convert (some registry) settings (.decimal v) source target = .success c) ∧
      ∀ c c', convert (some registry) settings (.decimal v) source target = .success c →
        convert (some registry) settings (.decimal v') source target = .success c' →
        c'.exact.value = -c.exact.value := by
  have pair := factorPair_of_load hload hcategory hu hw hne hf hg hsource htarget
  refine ⟨fun v v' c c' hle h h' => pair.mono hle h h', fun v v' hv hv' hopposite => ⟨⟨?_, ?_⟩, ?_⟩⟩
  · rintro ⟨c', h'⟩
    have hopposite' : v.value = -v'.value := by rw [hopposite, neg_neg]
    obtain ⟨c, h, -⟩ := pair.exists_opposite hv hopposite' h'
    exact ⟨c, h⟩
  · rintro ⟨c, h⟩
    obtain ⟨c', h', -⟩ := pair.exists_opposite hv' hopposite h
    exact ⟨c', h'⟩
  · intro c c' h h'
    obtain ⟨c'', h'', hvalue⟩ := pair.exists_opposite hv' hopposite h
    obtain rfl : c' = c'' := Outcome.success_inj.1 (h'.symm.trans h'')
    exact hvalue

/-- Two inches are at least as many feet as one inch, and minus one inch is the opposite of one
inch. -/
theorem inches_ordered : ∃ one two opposite,
    convert (some customary) .standard (.decimal (.ofNat 1)) (.text "in") (.text "ft") =
      .success one ∧
    convert (some customary) .standard (.decimal (.ofNat 2)) (.text "in") (.text "ft") =
      .success two ∧
    convert (some customary) .standard (.decimal (.ofInt (-1))) (.text "in") (.text "ft") =
      .success opposite ∧
    one.exact.value ≤ two.exact.value ∧ opposite.exact.value = -one.exact.value := by
  obtain ⟨one, hone⟩ : ∃ one,
      convert (some customary) .standard (.decimal (.ofNat 1)) (.text "in") (.text "ft") =
        .success one :=
    exists_of_isSuccess (by decide +kernel)
  obtain ⟨two, htwo⟩ : ∃ two,
      convert (some customary) .standard (.decimal (.ofNat 2)) (.text "in") (.text "ft") =
        .success two :=
    exists_of_isSuccess (by decide +kernel)
  have hvalue : (Decimal.ofNat 1).value ≤ (Decimal.ofNat 2).value ∧
      (Decimal.ofInt (-1)).value = -(Decimal.ofNat 1).value := by
    norm_num [Decimal.ofNat, Decimal.ofInt, Decimal.value, Decimal.signed]
  obtain ⟨hmono, hopposite⟩ := @convert_ordered _ _ _ .standard load_customary
    customaryCategory (.head _) _ _ (.tail _ (.head _)) (.tail _ (.tail _ (.head _))) (by decide)
    _ _ rfl rfl (.text "in") (.text "ft") (by decide +kernel) (by decide +kernel)
  obtain ⟨hiff, hnegated⟩ := hopposite (.ofNat 1) (.ofInt (-1)) rfl rfl hvalue.2
  obtain ⟨opposite, hminus⟩ := hiff.2 ⟨one, hone⟩
  exact ⟨one, two, opposite, hone, htwo, hminus, hmono _ _ _ _ hvalue.1 hone htwo,
    hnegated _ _ hone hminus⟩

end

end Conversion

end UnitConversion
