import UnitConversion.Proofs.Catalog.Interruption
import Mathlib.Tactic

/-!
# Loading what can be loaded

When every document of a directory is a category and their names differ, the registry holds these
categories in the order of the documents.

* `Registry.loadCategory_eq_ok_iff`: what it takes to load one category.
* `Registry.load_eq`: the registry of a directory without faults.
* `Registry.category?_eq`, `Category.unit?_eq`: categories and units are found under names that
  differ.
-/

namespace UnitConversion

/-- Related lists relate their members. -/
theorem forall₂_mem {α β : Type} {R : α → β → Prop} {as : List α} {bs : List β}
    (h : List.Forall₂ R as bs) :
    List.Forall₂ (fun a b => R a b ∧ a ∈ as ∧ b ∈ bs) as bs := by
  induction h with
  | nil => exact .nil
  | cons hab _ ih =>
      refine .cons ⟨hab, List.mem_cons_self, List.mem_cons_self⟩ (ih.imp ?_)
      rintro a b ⟨h, ha, hb⟩
      exact ⟨h, List.mem_cons_of_mem _ ha, List.mem_cons_of_mem _ hb⟩

/-- A name that only one member of a list has leads to that member. -/
theorem find?_eq_some_of_nodup {α : Type} {nameOf : α → String} {l : List α}
    (hnodup : (l.map nameOf).Nodup) {a : α} (ha : a ∈ l) :
    l.find? (fun b => nameOf b == nameOf a) = some a := by
  induction l with
  | nil => cases ha
  | cons b l ih =>
      rw [List.map_cons, List.nodup_cons] at hnodup
      rcases List.mem_cons.1 ha with rfl | ha
      · simp
      · have hne : (nameOf b == nameOf a) = false := by
          rw [beq_eq_false_iff_ne]
          intro heq
          exact hnodup.1 (heq ▸ List.mem_map_of_mem ha)
        rw [List.find?_cons, hne]
        exact ih hnodup.2 ha

/-- A key that only one entry of a list has leads to its value. -/
theorem lookup_eq_some_of_nodup {α : Type} {entries : List (String × α)}
    (hnodup : (entries.map Prod.fst).Nodup) {key : String} {a : α} (ha : (key, a) ∈ entries) :
    entries.lookup key = some a := by
  induction entries with
  | nil => cases ha
  | cons entry entries ih =>
      obtain ⟨key', a'⟩ := entry
      rw [List.map_cons, List.nodup_cons] at hnodup
      rcases List.mem_cons.1 ha with heq | ha
      · cases heq
        rw [List.lookup_cons, beq_self_eq_true]
      · have hne : (key == key') = false := by
          rw [beq_eq_false_iff_ne]
          intro heq
          exact hnodup.1 (List.mem_map.2 ⟨(key, a), ha, heq⟩)
        rw [List.lookup_cons, hne]
        exact ih hnodup.2 ha

theorem Category.unit?_eq {category : Category} (hnodup : (category.units.map (·.key)).Nodup)
    {unit : MeasurementUnit} (hunit : unit ∈ category.units) :
    category.unit? unit.key = some unit :=
  find?_eq_some_of_nodup hnodup hunit

namespace Registry

theorem category?_eq {registry : Registry} (hnodup : (registry.categories.map (·.name)).Nodup)
    {category : Category} (hcategory : category ∈ registry.categories) :
    registry.category? category.name = some category :=
  find?_eq_some_of_nodup hnodup hcategory

theorem putCategory_of_not_mem {before : List Category} {category : Category}
    (hname : category.name ∉ before.map (·.name)) :
    putCategory before category = before ++ [category] := by
  induction before with
  | nil => rfl
  | cons c before ih =>
      rw [List.map_cons, List.mem_cons, not_or] at hname
      rw [putCategory, if_neg (Ne.symm hname.1), ih hname.2, List.cons_append]

variable {directory : Directory}

/-- A category loads if its document is there and describes it, and the audit of its units has an
end. -/
theorem loadCategory_eq_ok_iff {name : Json} {category : Category} :
    (loadCategory directory name).outcome = .ok category ↔
      ∃ document, readNamed directory name = .ok document ∧
        Category.ofDocument document name = .ok category ∧
        ∃ findings, category.audit = .ok findings := by
  cases hread : readNamed directory name with
  | error failure => simp [loadCategory_of_readNamed_error hread]
  | ok document =>
      rw [loadCategory_outcome_of_readNamed hread]
      cases hcategory : Category.ofDocument document name with
      | error failure => simp [hcategory, Except.bind]
      | ok found =>
          cases haudit : found.audit with
          | error signal =>
              simp only [Except.ok.injEq, exists_eq_left', hcategory, haudit, Except.bind]
              constructor
              · intro h
                cases h
              · rintro ⟨rfl, findings, h⟩
                simp [haudit] at h
          | ok findings =>
              simp only [Except.ok.injEq, exists_eq_left', hcategory, haudit, Except.bind]
              constructor
              · rintro rfl
                exact ⟨rfl, findings, haudit⟩
              · exact fun h => h.1

/-- The text of a text is the text itself. -/
theorem readNamed_text (directory : Directory) (name : String) :
    readNamed directory (.text name) = directory.readDocument name := rfl

/-- Categories with different names are kept one after the other. -/
theorem loadEach_outcome {names : List Json} {categories : List Category}
    (hload : List.Forall₂ (fun name c => (loadCategory directory name).outcome = .ok c)
      names categories)
    {before : List Category} (hnodup : ((before ++ categories).map (·.name)).Nodup) :
    (loadEach directory before names).outcome = .ok (before ++ categories) := by
  induction hload generalizing before with
  | nil => rw [loadEach, List.append_nil]
  | @cons name category names categories hname _ ih =>
      have hfresh : category.name ∉ before.map (·.name) := by
        intro hmem
        rw [List.map_append, List.nodup_append] at hnodup
        exact hnodup.2.2 _ hmem _ (by simp) rfl
      rw [loadEach, Loaded.andThen_outcome, hname]
      simp only [Except.bind]
      rw [putCategory_of_not_mem hfresh, ih (by simpa using hnodup), List.append_assoc,
        List.singleton_append]

/-- The registry of a directory all of whose documents are categories with different names. -/
theorem load_eq {names : List String} {categories : List Category}
    (hdiscover : directory.discover = .ok names)
    (hload : List.Forall₂ (fun name c => (loadCategory directory (.text name)).outcome = .ok c)
      names categories)
    (hnodup : (categories.map (·.name)).Nodup) (hsome : categories ≠ []) :
    (load directory []).outcome = .ok ⟨categories, (AliasIndex.build categories).1⟩ := by
  have hselect : selectNames directory [] = .ok (names.map .text) := by
    rw [selectNames, hdiscover]
    rfl
  have heach : (loadEach directory [] (names.map .text)).outcome = .ok ([] ++ categories) :=
    loadEach_outcome (List.forall₂_map_left_iff.2 hload) (by simpa using hnodup)
  have hempty : categories.isEmpty = false := List.isEmpty_eq_false_iff.2 hsome
  rw [load, Loaded.andThen_outcome, hselect]
  simp only [Except.bind, Loaded.andThen_outcome, heach, List.nil_append, ofCategories, hempty,
    Bool.false_eq_true, if_false]

end Registry

end UnitConversion
