import UnitConversion.Catalog.Category
import UnitConversion.Proofs.Decimal.Arithmetic
import UnitConversion.Proofs.Decimal.Order

/-!
# Base units relate to themselves by the identity

A unit with a factor can be the base unit if its factor has the value one, however many zeros it is
written with. The exact product and the exact quotient are then the number itself, and a number of
the context is its own rounding. A unit with formulas is only tried at some numbers.

* `MeasurementUnit.fixes_of_factor`: a factor of the value one fixes every number of the context.
* `MeasurementUnit.fixes_of_isIdentity`: what is known of the rule of a base unit.
-/

namespace UnitConversion

namespace MeasurementUnit

theorem fixes_of_results {rule : Rule} {x a b : Decimal} (ha : rule.toBase x = .ok a)
    (hb : rule.fromBase x = .ok b) (hsame : a.sameValue x = true ∧ b.sameValue x = true) :
    fixes rule x = true := by
  simp only [fixes, ha, hb, hsame.1, hsame.2, Bool.and_self]

/-- A factor of the value one fixes every number of the context. -/
theorem fixes_of_factor {f x : Decimal} (hf : f.sameValue (.ofNat 1) = true)
    (hx : Context.conversion.Fits x) : fixes (.factor f) x = true := by
  have hprecision : 0 < Context.conversion.precision := by decide
  have hxfinite := Context.isFinite_of_fits hx
  obtain ⟨hffinite, hone⟩ := Decimal.value_eq_one hf
  -- The exact product and the exact quotient are the number itself, which is its own rounding.
  have hproduct := Decimal.mul_rounds hprecision hxfinite hffinite
  have hquotient :=
    Decimal.div_rounds hprecision hxfinite hffinite (by rw [hone]; exact one_ne_zero)
  rw [hone, mul_one] at hproduct
  rw [hone, div_one] at hquotient
  obtain ⟨a, ha, hafinite, havalue⟩ := hproduct.exists_same hx
  obtain ⟨b, hb, hbfinite, hbvalue⟩ := hquotient.exists_same hx
  refine fixes_of_results (a := a) (b := b) ?_ ?_ ⟨?_, ?_⟩
  · rw [Rule.toBase, ha]
    rfl
  · rw [Rule.fromBase, hb]
    rfl
  · exact (Decimal.sameValue_iff hafinite hxfinite).2 havalue
  · exact (Decimal.sameValue_iff hbfinite hxfinite).2 hbvalue

/-- The rule of a base unit fixes some numbers, and if it is a factor, all numbers of the
context. -/
theorem fixes_of_isIdentity {unit : MeasurementUnit} (h : unit.isIdentity = true) :
    (∀ x ∈ identitySamples, fixes unit.rule x = true) ∧
      ∀ f, unit.rule = .factor f → ∀ x, Context.conversion.Fits x → fixes unit.rule x = true := by
  have hsamples : ∀ x ∈ identitySamples, Context.conversion.Fits x := by
    intro x hx
    simp only [identitySamples, List.mem_cons, List.not_mem_nil, or_false] at hx
    obtain rfl | rfl | rfl := hx <;> exact ⟨by decide, by decide, fun _ => by decide⟩
  unfold isIdentity at h
  cases hrule : unit.rule with
  | factor f =>
      rw [hrule] at h
      exact ⟨fun x hx => fixes_of_factor h (hsamples x hx), fun _ _ x hx => fixes_of_factor h hx⟩
  | formulas f g =>
      rw [hrule] at h
      exact ⟨List.all_eq_true.1 h, fun f hf => by cases hf⟩

end MeasurementUnit

end UnitConversion
