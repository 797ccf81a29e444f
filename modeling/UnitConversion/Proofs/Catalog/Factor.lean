import UnitConversion.Proofs.Catalog.Registry

/-!
# The factors of units

No document can give a factor that is not a positive number. So in whatever registry is loaded, no
division by a factor is a division by zero, and numbers keep their order and their signs when they
are multiplied or divided by one.

* `Schema.positive_of_positiveDecimal`: what the check of a factor establishes.
* `Category.positive_of_ofDocument`: the rules of the units of any document.
* `Registry.positive_of_load`: the rules of the units of a registry that was loaded.
-/

namespace UnitConversion

/-- Whether a datum is a positive number. -/
structure Decimal.Positive (d : Decimal) : Prop where
  finite : d.isFinite = true
  pos : 0 < d.value

/-- Whether a rule has no factor that is not a positive number. -/
def Rule.Positive : Rule → Prop
  | factor f => f.Positive
  | formulas _ _ => True

namespace Schema

theorem positive_of_positiveDecimal {value : Json} {d : Decimal}
    (h : positiveDecimal value = .ok d) :
    d.Positive := by
  unfold positiveDecimal at h
  dsimp only at h
  split at h
  · cases h
  · split at h
    · cases h
    · next hfinite =>
        split at h
        · cases h
        · next hsign =>
            cases h
            obtain ⟨s, c, e, rfl⟩ := Decimal.exists_of_isFinite (by simpa using hfinite)
            obtain ⟨hzero, rfl⟩ : c ≠ 0 ∧ s = false := by
              simpa [Decimal.isZero, Decimal.isNegative] using hsign
            exact ⟨rfl, by simpa [Decimal.value_finite] using Decimal.magnitude_pos hzero e⟩

/-- A part that may be missing passes its check if it is there. -/
theorem optional_eq_some {α : Type} {members : List (String × Json)} {key : String}
    {check : Json → Checked α} {a : α} (h : optional members key check = .ok (some a)) :
    ∃ value, check value = .ok a := by
  unfold optional at h
  split at h
  · cases h
  · cases h
  · next value _ _ =>
      have hmap := Checked.under_eq_ok h
      cases hvalue : check value with
      | error findings => simp [hvalue, Except.map] at hmap
      | ok b =>
          obtain rfl : b = a := by simpa [hvalue, Except.map] using hmap
          exact ⟨value, hvalue⟩

end Schema

open Schema

/-- Whether a description of a rule has no factor that counts and is not a positive number. -/
def RuleDescription.Positive : RuleDescription → Prop
  | factor f => f.Positive
  | formulas _ _ => True

/-- The factor of a description is the one that was given. -/
theorem RuleDescription.positive_of_of? {factor : Option Decimal} {formulas : Option FormulaTexts}
    {rule : RuleDescription} (h : of? factor formulas = some rule)
    (hfactor : ∀ f, factor = some f → f.Positive) : rule.Positive := by
  cases formulas with
  | some texts =>
      cases h
      exact trivial
  | none =>
      cases factor with
      | some f =>
          cases h
          exact hfactor f rfl
      | none => cases h

theorem UnitDescription.positive_of_check {value : Json} {u : UnitDescription}
    (h : check value = .ok u) :
    u.rule.Positive := by
  cases value with
  | object members =>
      have h := withKeys_eq_ok h
      dsimp only at h
      split at h
      · next factor formulas _ _ _ _ _ hfactor _ _ _ _ =>
          split at h
          · cases h
          · next rule hrule =>
              cases h
              refine RuleDescription.positive_of_of? hrule fun f hf => ?_
              obtain ⟨value, hvalue⟩ := optional_eq_some (hf ▸ hfactor)
              exact positive_of_positiveDecimal hvalue
      · cases h
  | _ => cases h

theorem MeasurementUnit.positive_of_ofDescription {key : String} {d : UnitDescription}
    {unit : MeasurementUnit} (h : ofDescription key d = .ok unit) (hd : d.rule.Positive) :
    unit.rule.Positive := by
  obtain ⟨⟨rule, factor⟩, hrule, h⟩ := Formula.bind_eq_ok h
  cases h
  cases hdescribed : d.rule with
  | factor f =>
      rw [hdescribed] at hrule hd
      cases hrule
      exact hd
  | formulas texts known =>
      rw [hdescribed] at hrule
      obtain ⟨f, -, hrule⟩ := Formula.bind_eq_ok hrule
      obtain ⟨g, -, hrule⟩ := Formula.bind_eq_ok hrule
      cases hrule
      exact trivial

namespace Category

theorem positive_of_ofDocument {document expected : Json} {category : Category}
    (h : ofDocument document expected = .ok category) :
    ∀ unit ∈ category.units, unit.rule.Positive := by
  intro unit hunit
  obtain ⟨key, value, d, hchecked, hmade⟩ := exists_check_of_ofDocument h hunit
  exact MeasurementUnit.positive_of_ofDescription hmade (UnitDescription.positive_of_check hchecked)

end Category

/-- The factors in the rules of a registry that was loaded are positive numbers. -/
theorem Registry.positive_of_load {directory : Directory} {names : List Json} {registry : Registry}
    (h : (load directory names).outcome = .ok registry) {category : Category}
    (hcategory : category ∈ registry.categories) {unit : MeasurementUnit}
    (hunit : unit ∈ category.units) :
    unit.rule.Positive := by
  have hloads := (sound_of_load h).1.loads category hcategory
  obtain ⟨document, -, hdocument, -⟩ := loadCategory_eq_ok_iff.1 hloads
  exact Category.positive_of_ofDocument hdocument unit hunit

end UnitConversion
