import UnitConversion.Proofs.Catalog.Registry
import UnitConversion.Proofs.Conversion.Alike
import UnitConversion.Proofs.Conversion.Shape

/-!
# Conversions by way of the base unit

A number can be converted to the base unit of its category and from there to another unit, or to the
other unit at once. If the base unit has a factor, both come to the same: the factor is one, and
what a number of the context is divided and multiplied by it only changes how the number is written.

* `Conversion.alike_of_factor_one`: a division and a multiplication by one.
* `Conversion.apply_detour`: the two ways through the rules of three units.
* `Conversion.convert_detour`: the two ways in a registry that was loaded.
-/

namespace UnitConversion

open Decimal

namespace Decimal

variable {ctx : Context} {a b d : Decimal}

/-- A finite product is a number of the context. -/
theorem fits_of_mul (hprecision : 0 < ctx.precision) (h : mul ctx a b = .ok d)
    (hd : d.isFinite = true) :
    ctx.Fits d := by
  cases a with
  | finite s₁ c₁ e₁ =>
      cases b with
      | finite s₂ c₂ e₂ => exact Context.finish_fits hprecision h
      | infinite s₂ =>
          simp only [mul, undefined?] at h
          split at h <;> cases h
          cases hd
      | nan s₂ signaling payload =>
          cases signaling <;> cases h
          cases hd
  | infinite s₁ =>
      cases b with
      | nan s₂ signaling payload =>
          cases signaling <;> cases h
          cases hd
      | _ =>
          simp only [mul, undefined?] at h
          split at h <;> cases h
          cases hd
  | nan s₁ signaling payload =>
      cases signaling with
      | true => cases b <;> cases h
      | false =>
          cases b with
          | nan s₂ signaling payload =>
              cases signaling <;> cases h
              cases hd
          | _ =>
              cases h
              cases hd

/-- A finite quotient by a number has a number as its dividend. -/
theorem isFinite_of_div (h : div ctx a b = .ok d) (hb : b.isFinite = true)
    (hd : d.isFinite = true) :
    a.isFinite = true := by
  obtain ⟨s₂, c₂, e₂, rfl⟩ := exists_of_isFinite hb
  cases a with
  | finite s₁ c₁ e₁ => rfl
  | infinite s₁ =>
      cases h
      cases hd
  | nan s₁ signaling payload =>
      cases signaling <;> cases h
      cases hd

/-- The sign of a product of numbers. -/
theorem isNegative_of_mul (ha : a.isFinite = true) (hb : b.isFinite = true)
    (h : mul ctx a b = .ok d) :
    d.isNegative = (a.isNegative ^^ b.isNegative) := by
  obtain ⟨s₁, c₁, e₁, rfl⟩ := exists_of_isFinite ha
  obtain ⟨s₂, c₂, e₂, rfl⟩ := exists_of_isFinite hb
  exact Context.isNegative_of_finish h

end Decimal

theorem Rule.fits_toBase {rule : Rule} {x y : Decimal} (h : rule.toBase x = .ok y)
    (hy : y.isFinite = true) :
    Context.conversion.Fits y := by
  cases rule with
  | factor f =>
      cases hmul : mul .conversion x f with
      | error signal => simp [Rule.toBase, hmul, Except.mapError] at h
      | ok z =>
          obtain rfl : z = y := by simpa [Rule.toBase, hmul, Except.mapError] using h
          exact fits_of_mul (by decide) hmul hy
  | formulas f g =>
      cases hvalue : f.evaluate x with
      | error reason => simp [Rule.toBase, hvalue, Except.mapError] at h
      | ok z =>
          obtain rfl : z = y := by simpa [Rule.toBase, hvalue, Except.mapError] using h
          exact Formula.evaluate_fits hvalue

/-- The factor of a base unit has the value one. -/
theorem Registry.WellFormed.factor_eq_one {registry : Registry} (h : registry.WellFormed)
    {category : Category} (hcategory : category ∈ registry.categories) {b : MeasurementUnit}
    (hb : b ∈ category.units) (hbase : b.key = category.baseUnit) {f : Decimal}
    (hrule : b.rule = .factor f) :
    f.sameValue (.ofNat 1) = true := by
  obtain ⟨base, hfound, hidentity⟩ := (h.categories category hcategory).base
  rw [← hbase, Category.unit?_eq (h.categories category hcategory).keys hb] at hfound
  obtain rfl : b = base := Option.some.inj hfound
  rw [MeasurementUnit.isIdentity, hrule] at hidentity
  exact hidentity

namespace Conversion

/-- Dividing a number of the context by a factor of the value one, and multiplying what comes out
with it, returns the number, perhaps written in another way. -/
theorem alike_of_factor_one {f y w z : Decimal} (hf : f.sameValue (.ofNat 1) = true)
    (hy : Context.conversion.Fits y) (hw : div .conversion y f = .ok w)
    (hz : mul .conversion w f = .ok z) :
    Formula.Alike y z := by
  have hprecision : 0 < Context.conversion.precision := by decide
  obtain ⟨hffinite, hone⟩ := value_eq_one hf
  have hpositive : f.isNegative = false := by
    obtain ⟨s, c, e, rfl⟩ := exists_of_isFinite hffinite
    cases s with
    | false => rfl
    | true =>
        have := magnitude_nonneg c e
        rw [value_finite, if_pos rfl] at hone
        linarith
  have hyfinite := Context.isFinite_of_fits hy
  -- The quotient is a rounding of a number that the context has, and so is the product.
  have hquotient := div_rounds hprecision hyfinite hffinite (by rw [hone]; exact one_ne_zero)
  have hwfits := hquotient.fits w hw
  have hwfinite := Context.isFinite_of_fits hwfits
  rw [hone, div_one] at hquotient
  obtain ⟨w', hw', -, hwvalue⟩ := hquotient.exists_same hy
  obtain rfl : w = w' := Except.ok.inj (hw.symm.trans hw')
  have hproduct := mul_rounds hprecision hwfinite hffinite
  have hzfits := hproduct.fits z hz
  rw [hone, mul_one] at hproduct
  obtain ⟨z', hz', -, hzvalue⟩ := hproduct.exists_same hwfits
  obtain rfl : z = z' := Except.ok.inj (hz.symm.trans hz')
  refine .of_fits le_rfl hy hzfits ?_ (by rw [hzvalue, hwvalue])
  -- The sign stays as it is, also that of zero.
  have hwsign : w.isNegative = (y.isNegative ^^ f.isNegative) := by
    obtain ⟨s₁, c₁, e₁, rfl⟩ := exists_of_isFinite hyfinite
    obtain ⟨s₂, c₂, e₂, rfl⟩ := exists_of_isFinite hffinite
    exact isNegative_of_div hw
  rw [isNegative_of_mul hwfinite hffinite hz, hwsign, hpositive]
  simp

variable {u b v : MeasurementUnit} {x w r : Decimal}

/-- By way of a base unit with a factor a number comes to the same as at once. -/
theorem apply_detour {f : Decimal} (hrule : b.rule = .factor f) (hf : f.sameValue (.ofNat 1) = true)
    (hfirst : apply u b x = .ok w) (hsecond : apply b v w = .ok r) :
    ∃ d, apply u v x = .ok d ∧ Formula.Alike d r := by
  obtain ⟨hw, hwfinite, -⟩ := apply_eq_ok_iff.1 hfirst
  obtain ⟨hr, hrfinite, hrrepresentable⟩ := apply_eq_ok_iff.1 hsecond
  obtain ⟨y, hy, hw⟩ := Formula.bind_eq_ok hw
  obtain ⟨z, hz, hr⟩ := Formula.bind_eq_ok hr
  have hdiv : div .conversion y f = .ok w := by
    rw [hrule] at hw
    exact mapError_eq_ok hw
  have hmul : mul .conversion w f = .ok z := by
    rw [hrule] at hz
    exact mapError_eq_ok hz
  have hyfits := Rule.fits_toBase hy (isFinite_of_div hdiv (isFinite_of_sameValue hf rfl) hwfinite)
  -- Only how the number of the base unit is written tells the two ways apart.
  have hagree := v.rule.fromBase_agree (alike_of_factor_one hf hyfits hdiv hmul)
  rw [hr] at hagree
  generalize hdirect : v.rule.fromBase y = direct at hagree
  cases hagree with
  | ok halike =>
      refine ⟨_, apply_eq_ok_iff.2 ⟨?_, ?_, ?_⟩, halike⟩
      · rw [hy]
        exact hdirect
      · rw [halike.isFinite_eq, hrfinite]
      · rw [isRepresentable_congr halike, hrrepresentable]

section

variable {registry : Registry} {settings : Settings}

/-- Two units of a category with a base unit between them: by way of it a number comes to the same
as at once, also if it is one of the two. -/
theorem applyRefs_detour (hregistry : registry.WellFormed) {category : Category}
    (hcategory : category ∈ registry.categories) (hu : u ∈ category.units) (hb : b ∈ category.units)
    (hv : v ∈ category.units) (hne : u.key ≠ v.key) {f : Decimal} (hrule : b.rule = .factor f)
    (hf : f.sameValue (.ofNat 1) = true)
    (hfirst : applyRefs registry ⟨category.name, u.key⟩ ⟨category.name, b.key⟩ x = .ok w)
    (hsecond : applyRefs registry ⟨category.name, b.key⟩ ⟨category.name, v.key⟩ w = .ok r) :
    ∃ d, applyRefs registry ⟨category.name, u.key⟩ ⟨category.name, v.key⟩ x = .ok d ∧
      Formula.Alike d r := by
  have hunit {unit : MeasurementUnit} (h : unit ∈ category.units) :
      registry.unit? ⟨category.name, unit.key⟩ = some unit := hregistry.unit?_eq hcategory h
  -- A hop between two names of one unit leaves the number as it is, so the other hop is the whole
  -- way.
  obtain ⟨hsame, rfl⟩ | ⟨-, u', b', hu', hb', hw⟩ := applyRefs_eq_ok hfirst
  · rw [hsame]
    exact ⟨r, hsecond, .refl r⟩
  · obtain ⟨hsame, rfl⟩ | ⟨-, b'', v', hb'', hv', hr⟩ := applyRefs_eq_ok hsecond
    · rw [← hsame]
      exact ⟨r, hfirst, .refl r⟩
    · obtain rfl : u = u' := Option.some.inj ((hunit hu).symm.trans hu')
      obtain rfl : b = b' := Option.some.inj ((hunit hb).symm.trans hb')
      obtain rfl : b = b'' := Option.some.inj ((hunit hb).symm.trans hb'')
      obtain rfl : v = v' := Option.some.inj ((hunit hv).symm.trans hv')
      obtain ⟨d, hd, halike⟩ := apply_detour hrule hf hw hr
      refine ⟨d, ?_, halike⟩
      have hrefs : (⟨category.name, u.key⟩ : UnitRef) ≠ ⟨category.name, v.key⟩ := by
        intro h
        exact hne (UnitRef.mk.inj h).2
      rw [applyRefs_of_units hrefs (hunit hu) (hunit hv), hd]
      rfl

/-- In a registry that was loaded, a number that can be converted to the base unit and from there to
another unit can be converted to this unit at once, if the base unit has a factor. The result has
the same value and is shown in the same way. -/
theorem convert_detour {directory : Directory} {names : List Json}
    (hload : (Registry.load directory names).outcome = .ok registry) {category : Category}
    (hcategory : category ∈ registry.categories) (hu : u ∈ category.units) (hb : b ∈ category.units)
    (hv : v ∈ category.units) (hne : u.key ≠ v.key)
    (hbase : b.key = category.baseUnit) {f : Decimal} (hrule : b.rule = .factor f)
    {source via via' target : Json}
    (hsource : registry.resolve? source = some ⟨category.name, u.key⟩)
    (hvia : registry.resolve? via = some ⟨category.name, b.key⟩)
    (hvia' : registry.resolve? via' = some ⟨category.name, b.key⟩)
    (htarget : registry.resolve? target = some ⟨category.name, v.key⟩) {value : Json}
    {first second : Conversion}
    (hfirst : convert (some registry) settings value source via = .success first)
    (hsecond : convert (some registry) settings (.decimal first.exact) via' target =
      .success second) :
    ∃ direct, convert (some registry) settings value source target = .success direct ∧
      direct.exact.sameValue second.exact = true ∧ direct.formatted = second.formatted := by
  have hregistry := Registry.wellFormed_of_load hload
  have hone := hregistry.factor_eq_one hcategory hb hbase hrule
  obtain ⟨hinput, happly, -, -⟩ := (convert_eq_success_iff hsource hvia rfl).1 hfirst
  obtain ⟨hinput', happly', hformat, -⟩ := (convert_eq_success_iff hvia' htarget rfl).1 hsecond
  -- The second hop takes the exact number, and not the double or the text, that the first one gave.
  rw [eq_of_inputOf_decimal hinput'] at happly'
  obtain ⟨d, hd, halike⟩ :=
    applyRefs_detour hregistry hcategory hu hb hv hne hrule hone happly happly'
  refine ⟨made source target ⟨category.name, u.key⟩ ⟨category.name, v.key⟩ first.input d
    second.formatted, ?_, ?_, rfl⟩
  · refine (convert_eq_success_iff hsource htarget rfl).2 ⟨hinput, hd, ?_, rfl⟩
    exact (format_congr settings halike).trans hformat
  · obtain ⟨_, -, hsound⟩ := Outcome.sound_of_convert hsecond
    have hfinite : second.exact.isFinite = true := hsound.exact.1
    exact (sameValue_iff (halike.isFinite_eq.trans hfinite) hfinite).2 halike.value_eq

end

/-- A document with feet and inches. The factor of the base unit is written with two places. -/
def customaryDocument : Json :=
  let unit (name symbol factor : String) : Json := .object
    [("name", .text name), ("symbol", .text symbol),
    ("aliases", .list [.text symbol]), ("factor", .text factor)]
  .object [("category", .text "length"), ("baseUnit", .text "metre"), ("units", .object
    [("metre", unit "Metre" "m" "1.00"), ("inch", unit "Inch" "in" "0.0254"),
      ("foot", unit "Foot" "ft" "0.3048")])]

/-- A directory that holds this document. -/
def customaryDirectory : Directory :=
  ⟨⟨[.ofPath "units" [("length.json", .document customaryDocument)]], 0⟩, "units"⟩

/-- The category that the document describes. -/
def customaryCategory : Category :=
  let unit (key name symbol : String) (factor : Decimal) : MeasurementUnit :=
    ⟨key, name, symbol, [symbol], .factor factor, some factor, none, none⟩
  ⟨"length", "metre",
    [unit "metre" "Metre" "m" (.finite false 100 (-2)),
      unit "inch" "Inch" "in" (.finite false 254 (-4)),
      unit "foot" "Foot" "ft" (.finite false 3048 (-4))],
    none⟩

/-- The registry of this directory. -/
def customary : Registry :=
  let ref (unit : String) : UnitRef := ⟨"length", unit⟩
  ⟨[customaryCategory], [("m", ref "metre"), ("in", ref "inch"), ("ft", ref "foot"),
    ("metre", ref "metre"), ("inch", ref "inch"), ("foot", ref "foot")]⟩

/-- By way of metres, thirty inches are as many feet as at once. -/
theorem inches_to_feet_detour :
    (Registry.load customaryDirectory [.text "length"]).outcome = .ok customary ∧
    ∃ first second direct,
      convert (some customary) .standard (.decimal (.ofNat 30)) (.text "in") (.text "m") =
        .success first ∧
      convert (some customary) .standard (.decimal first.exact) (.text "m") (.text "ft") =
        .success second ∧
      convert (some customary) .standard (.decimal (.ofNat 30)) (.text "in") (.text "ft") =
        .success direct ∧
      direct.exact.sameValue second.exact = true ∧ direct.formatted = second.formatted := by
  have hload : (Registry.load customaryDirectory [.text "length"]).outcome = .ok customary := by
    with_unfolding_all rfl
  have hfirst : convert (some customary) .standard (.decimal (.ofNat 30)) (.text "in") (.text "m") =
      .success ⟨.ofNat 30, .finite false 762 (-3), "0.762", "in", "m", "inch", "metre",
        "length"⟩ := by
    decide +kernel
  have hsecond : convert (some customary) .standard (.decimal (.finite false 762 (-3))) (.text "m")
      (.text "ft") = .success ⟨.finite false 762 (-3), .finite false 25 (-1), "2.5", "m", "ft",
        "metre", "foot", "length"⟩ := by
    decide +kernel
  have hcategory : customaryCategory ∈ customary.categories := List.mem_cons_self
  obtain ⟨direct, hdirect, hsame⟩ := convert_detour hload hcategory (.tail _ (.head _)) (.head _)
    (.tail _ (.tail _ (.head _))) (by decide) rfl rfl (by decide +kernel) (by decide +kernel)
    (by decide +kernel) (by decide +kernel) hfirst hsecond
  exact ⟨hload, _, _, direct, hfirst, hsecond, hdirect, hsame⟩

end Conversion

end UnitConversion
