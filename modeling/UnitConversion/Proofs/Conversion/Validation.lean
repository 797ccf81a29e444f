import UnitConversion.Proofs.Conversion.Course

/-!
# Validation without a value

Two units can be looked at without a value: `Conversion.validate` gives a verdict on them, and
`Request.checkUnits` gives the problem with them only. Each of the two looks the units up in its own
course, as a conversion does, and all three come to the same: a conversion of a number can only add
problems of the calculation.

* `Conversion.validate_some`: a verdict is about the pair of units, like a conversion and a check.
* `Conversion.validate_eq_error_iff`: when there is no verdict at all.
* `Conversion.convert_follows_validate`: conversions, verdicts and checks of units agree.
-/

namespace UnitConversion.Conversion

variable {registry : Option Registry} {settings : Settings} {value source target : Json}

/-- In a registry, a verdict resolves its units as a pair. -/
theorem validate_some (registry : Registry) (settings : Settings) (source target : Json) :
    validate (some registry) settings source target =
      settled (fun pair => ⟨true, none, some pair.1.category⟩) (fun p => ⟨false, some p, none⟩)
        (resolvePair registry ⟨settings.maxSuggestions, settings.minSimilarity⟩ source target) := by
  simp only [validate, Request.requireRegistry, resolvePair]
  cases registry.resolve? source with
  | none => exact return_unknown _ (fun p => Verdict.mk false (some p) none) ..
  | some s =>
      cases registry.resolve? target with
      | none => exact return_unknown _ (fun p => Verdict.mk false (some p) none) ..
      | some t => by_cases hcategory : s.category = t.category <;> simp [hcategory, settled]

/-- The first of two values that stands for no unit of a registry holds a whole number that cannot
be written. -/
def IsUnwritable (registry : Registry) (source target : Json) : Prop :=
  (registry.resolve? source = none ∧ source.hasLongInteger = true) ∨
    registry.resolve? source ≠ none ∧ registry.resolve? target = none ∧ target.hasLongInteger = true

/-- Looking for a pair is interrupted at a value that would have to be written and cannot be. -/
theorem resolvePair_interrupted_iff (registry : Registry) (limits : Suggestion.Limits)
    (source target : Json) (cause : Interruption) :
    resolvePair registry limits source target = .error (.interruption cause) ↔
      cause = .longInteger ∧ IsUnwritable registry source target := by
  have hunknown (role : Problem.Role) (unit : Json) :
      unknown registry limits role unit = .interruption cause ↔
        cause = .longInteger ∧ unit.hasLongInteger = true := by
    obtain ⟨hshort, p, hp, -⟩ | ⟨hlong, hcause⟩ := unknown_eq registry limits role unit
    · simp [hp, hshort]
    · simp [hcause, hlong, eq_comm]
  unfold resolvePair IsUnwritable
  cases registry.resolve? source with
  | none => simp [hunknown]
  | some s =>
      cases registry.resolve? target with
      | none => simp [hunknown]
      | some t => by_cases hcategory : s.category = t.category <;> simp [hcategory]

/-- There is no verdict exactly if a value has to be written and cannot be. -/
theorem validate_eq_error_iff (registry : Option Registry) (settings : Settings)
    (source target : Json) (failure : Failure) :
    validate registry settings source target = .error failure ↔
      failure = .interruption .longInteger ∧
        ∃ known, registry = some known ∧ IsUnwritable known source target := by
  cases registry with
  | none => simp [validate, Request.requireRegistry]
  | some known => simp [validate_some, settled_eq_error_iff, resolvePair_interrupted_iff]

/-- The problem of a verdict is the problem of a conversion. -/
theorem convert_of_invalid {x : Decimal} {verdict : Verdict} (hinput : inputOf value = .ok x)
    (h : validate registry settings source target = .ok verdict)
    (hinvalid : verdict.isValid = false) :
    ∃ p, verdict.error = some p ∧ verdict.category = none ∧
      convert registry settings value source target = .failure p := by
  cases registry with
  | none =>
      -- Nothing is published: both stop before they look at the value or the units.
      obtain rfl := Except.ok.inj h
      exact ⟨Problem.notReady, rfl, rfl, rfl⟩
  | some known =>
      rw [validate_some] at h
      obtain ⟨pair, -, rfl⟩ | ⟨p, hpair, rfl⟩ := settled_eq_ok_iff.1 h
      · cases hinvalid
      · refine ⟨p, rfl, rfl, ?_⟩
        rw [convert_some, convertIn_of_pair_error hinput hpair]
        rfl

/-- Units with a good verdict are converted in their category, or there is a problem of the
calculation. -/
theorem convert_of_valid {x : Decimal} {verdict : Verdict} (hinput : inputOf value = .ok x)
    (h : validate registry settings source target = .ok verdict) (hvalid : verdict.isValid = true) :
    ∃ category, verdict.error = none ∧ verdict.category = some category ∧
      ((∃ c, convert registry settings value source target = .success c ∧ c.category = category) ∨
        ∃ p, convert registry settings value source target = .failure p ∧
          p.kind = .calculation) := by
  cases registry with
  | none =>
      obtain rfl := Except.ok.inj h
      cases hvalid
  | some known =>
      rw [validate_some] at h
      obtain ⟨⟨s, t⟩, hpair, rfl⟩ | ⟨p, -, rfl⟩ := settled_eq_ok_iff.1 h
      · refine ⟨s.category, rfl, rfl, ?_⟩
        obtain ⟨exact, formatted, hresult⟩ | ⟨failure, hresult, hkind⟩ :=
          convertIn_of_pair hinput hpair
        · exact .inl ⟨_, convert_some .. ▸ outcomeOf_eq_success_iff.2 hresult, rfl⟩
        · exact .inr ⟨_, convert_eq_failure_iff.2 ⟨failure, hresult, rfl⟩, hkind⟩
      · cases hvalid

/-- Without a verdict, a conversion ends with the same failure, described as one that nobody
expected. -/
theorem convert_of_no_verdict {x : Decimal} {failure : Failure} (hinput : inputOf value = .ok x)
    (h : validate registry settings source target = .error failure) :
    convert registry settings value source target = .failure (described failure) := by
  cases registry with
  | none => cases h
  | some known =>
      rw [validate_some] at h
      obtain ⟨cause, rfl, hpair⟩ := settled_eq_error_iff.1 h
      exact convert_eq_failure_iff.2 ⟨_, convertIn_of_pair_error hinput hpair, rfl⟩

/-- A check with the same suggestions finds the problem that a verdict holds. -/
theorem checkUnits_of_standard (registry : Option Registry) (source target : Json)
    (hsimilarity : settings.minSimilarity = Suggestion.standardSimilarity) :
    Request.checkUnits registry settings.maxSuggestions source target =
      (validate registry settings source target).map (·.error) := by
  cases registry with
  | none => rfl
  | some known =>
      rw [checkUnits_eq, validate_some, hsimilarity]
      rcases resolvePair known ⟨settings.maxSuggestions, Suggestion.standardSimilarity⟩
        source target with
        ⟨p | cause⟩ | pair <;> rfl

/-- Conversions, verdicts and checks of units agree. A number between two units fails with exactly
the problem of a bad verdict on them; with a good one it is converted in the category of the
verdict, or cannot be calculated. A check finds the same problem, if the similarity that is set is
the standard one. There is no verdict exactly if a value has to be written and cannot be, and then
neither a conversion nor a check gets any further. -/
theorem convert_follows_validate (registry : Option Registry) (settings : Settings)
    (source target : Json) {value : Json} {x : Decimal} (hvalue : inputOf value = .ok x) :
    (∀ verdict, validate registry settings source target = .ok verdict →
      (verdict.isValid = false → ∃ p, verdict.error = some p ∧ verdict.category = none ∧
        convert registry settings value source target = .failure p) ∧
      (verdict.isValid = true → ∃ category, verdict.error = none ∧
        verdict.category = some category ∧
        ((∃ c, convert registry settings value source target = .success c ∧ c.category = category) ∨
          ∃ p, convert registry settings value source target = .failure p ∧
            p.kind = .calculation)) ∧
      (settings.minSimilarity = Suggestion.standardSimilarity →
        Request.checkUnits registry settings.maxSuggestions source target = .ok verdict.error)) ∧
    (∀ failure, validate registry settings source target = .error failure →
      convert registry settings value source target = .failure (described failure) ∧
      (settings.minSimilarity = Suggestion.standardSimilarity →
        Request.checkUnits registry settings.maxSuggestions source target = .error failure)) ∧
    ∀ failure, validate registry settings source target = .error failure ↔
      failure = .interruption .longInteger ∧
        ∃ known, registry = some known ∧ IsUnwritable known source target := by
  refine ⟨fun verdict h =>
    ⟨convert_of_invalid hvalue h, convert_of_valid hvalue h, fun hsimilarity => ?_⟩,
      fun failure h => ⟨convert_of_no_verdict hvalue h, fun hsimilarity => ?_⟩,
    validate_eq_error_iff registry settings source target⟩
  · rw [checkUnits_of_standard registry source target hsimilarity, h]
    rfl
  · rw [checkUnits_of_standard registry source target hsimilarity, h]
    rfl

/-- Two names in the index of a registry, of a length and of a mass. -/
def metreAndKilogram : Registry :=
  ⟨[], [("m", ⟨"length", "metre"⟩), ("kg", ⟨"mass", "kilogram"⟩)]⟩

/-- Metres are not converted to kilograms, and this is what the verdict and the check say too. -/
theorem metre_to_kilogram_follows :
    inputOf (.integer 5) = .ok (.ofNat 5) ∧
    convert (some metreAndKilogram) .standard (.integer 5) (.text "m") (.text "kg") =
      .failure (Problem.differentCategories "m" "kg" "length" "mass") ∧
    Request.checkUnits (some metreAndKilogram) Settings.standard.maxSuggestions (.text "m")
      (.text "kg") = .ok (some (Problem.differentCategories "m" "kg" "length" "mass")) := by
  have hvalue : inputOf (.integer 5) = .ok (.ofNat 5) := by decide
  have hverdict : validate (some metreAndKilogram) .standard (.text "m") (.text "kg") =
      .ok ⟨false, some (Problem.differentCategories "m" "kg" "length" "mass"), none⟩ := by
    decide +kernel
  obtain ⟨hinvalid, -, hcheck⟩ :=
    (convert_follows_validate (some metreAndKilogram) .standard (.text "m") (.text "kg") hvalue).1
      _ hverdict
  obtain ⟨p, hp, -, hfailure⟩ := hinvalid rfl
  obtain rfl := Option.some.inj hp
  exact ⟨hvalue, hfailure, hcheck rfl⟩

end UnitConversion.Conversion
