import UnitConversion.Catalog.Registry
import UnitConversion.Proofs.Request.Restatement

/-!
# Units of a request

A request keeps its units in their normal forms. A registry looks names up by their normal forms,
and a normal form is its own one, so it makes no difference whether a registry is asked for a unit
as it stands in the line or for what the request keeps of it. In a text, the characters U+BD800 to
U+BDFFF stand for lone surrogates, as `Text.surrogate?` says.

* `Registry.resolve?_normalize`: a name stands for the unit that its normal form stands for.
* `Request.resolves_as_written`: this holds of the units of every request.
-/

namespace UnitConversion

open Text
open UnitText (normalize_normalize)

/-- A name and its normal form stand for the same unit. -/
theorem Registry.resolve?_normalize (registry : Registry) (s : String) :
    registry.resolve? (.text (UnitText.normalize s)) = registry.resolve? (.text s) := by
  rw [Registry.resolve?, Registry.resolve?, normalize_normalize]

namespace Request

/-- The units of a request that was read are the normal forms of two units of the line. -/
theorem exists_division_of_ofText {limit : Int} {line : String} {r : Request}
    (h : ofText limit line = .ok r) :
    ∃ numeral source target, ShortestDivision (trimChars line.toList) numeral source target ∧
      r.source = UnitText.normalize (String.ofList source) ∧
      r.target = UnitText.normalize (String.ofList target) := by
  obtain ⟨-, -, numeral, source, target, hparts, hrequest⟩ := ofText_eq_ok_iff.1 h
  obtain ⟨value, -, -, rfl⟩ := ofParts_eq_ok_iff.1 hrequest
  refine ⟨numeral, source, target, (parts?_eq_some_iff ..).1 hparts, ?_, ?_⟩
  · rw [UnitText.normalize, String.toList_ofList]
  · rw [UnitText.normalize, String.toList_ofList]

/-- Normal forms are their own normal forms, and every registry takes them for the names that they
come from: the units of a request stand for what the units in its line stand for. -/
theorem resolves_as_written :
    (∀ s : String, UnitText.normalize (UnitText.normalize s) = UnitText.normalize s) ∧
    (∀ (registry : Registry) (s : String),
      registry.resolve? (.text (UnitText.normalize s)) = registry.resolve? (.text s)) ∧
    ∀ (limit : Int) (line : String) (r : Request), ofText limit line = .ok r →
      ∃ numeral source target, ShortestDivision (trimChars line.toList) numeral source target ∧
        ∀ registry : Registry,
          registry.resolve? (.text r.source) = registry.resolve? (.text (String.ofList source)) ∧
          registry.resolve? (.text r.target) =
            registry.resolve? (.text (String.ofList target)) := by
  refine ⟨normalize_normalize, Registry.resolve?_normalize, fun limit line r h => ?_⟩
  obtain ⟨numeral, source, target, hdivision, hsource, htarget⟩ := exists_division_of_ofText h
  refine ⟨numeral, source, target, hdivision, fun registry => ?_⟩
  rw [hsource, htarget]
  exact ⟨registry.resolve?_normalize _, registry.resolve?_normalize _⟩

/-- The words of the line have lost their capitals and the second space between them. -/
theorem nauticalMiles_resolve_as_written :
    ofText 256 "2 Nautical  MILE to KM" =
      .ok ⟨.finite false 2 0, "nautical mile", "km", "2 Nautical  MILE to KM"⟩ ∧
    ∃ numeral source target, ShortestDivision (trimChars "2 Nautical  MILE to KM".toList) numeral
      source target ∧
      ∀ registry : Registry,
        registry.resolve? (.text "nautical mile") =
          registry.resolve? (.text (String.ofList source)) ∧
        registry.resolve? (.text "km") = registry.resolve? (.text (String.ofList target)) := by
  have hread : ofText 256 "2 Nautical  MILE to KM" =
      .ok ⟨.finite false 2 0, "nautical mile", "km", "2 Nautical  MILE to KM"⟩ := by
    decide
  have hresolve := resolves_as_written.2.2 256 "2 Nautical  MILE to KM" _ hread
  exact ⟨hread, hresolve⟩

end Request

end UnitConversion
