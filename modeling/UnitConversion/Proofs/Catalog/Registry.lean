import UnitConversion.Proofs.Catalog.Category
import UnitConversion.Proofs.Catalog.Loading
import UnitConversion.Proofs.UnitText

/-!
# What a loaded registry holds

A registry is loaded when something is selected and each selected category loads by itself. Each
loading step puts a category under its own name, so that the names stay apart, and the index is
built from nothing but the units of these categories.

* `Registry.exists_load_iff`: what it takes to load a registry.
* `AliasIndex.mem_build`: where the entries of an index come from.
* `Registry.wellFormed_of_load`: every registry that is loaded is well-formed.
-/

namespace UnitConversion

namespace AliasIndex

/-- What an entry makes of itself in an index. -/
def Comes (entries : List NameEntry) (named : String × UnitRef) : Prop :=
  ∃ entry ∈ entries, named = (UnitText.normalize entry.name, entry.owner)

theorem Comes.mono {entries more : List NameEntry} {named : String × UnitRef}
    (h : Comes entries named) (hsubset : entries ⊆ more) : Comes more named := by
  obtain ⟨entry, hentry, rfl⟩ := h
  exact ⟨entry, hsubset hentry, rfl⟩

theorem mem_enterAlias {state : AliasIndex × List String} {entry : NameEntry}
    {named : String × UnitRef} (h : named ∈ (enterAlias state entry).1) :
    named ∈ state.1 ∨ named = (UnitText.normalize entry.name, entry.owner) := by
  unfold enterAlias at h
  dsimp only at h
  split at h
  · exact .inl h
  · split at h
    · simpa using h
    · split at h
      · exact .inl h
      · exact .inl h

theorem mem_enterKey {index : AliasIndex} {entry : NameEntry} {named : String × UnitRef}
    (h : named ∈ enterKey index entry) :
    named ∈ index ∨ named = (UnitText.normalize entry.name, entry.owner) := by
  unfold enterKey insertNew at h
  split at h
  · exact .inl h
  · simpa using h

/-- Steps that enter nothing but their own entries leave nothing else in an index. -/
theorem mem_foldl_enter {σ : Type} (index : σ → AliasIndex) {enter : σ → NameEntry → σ}
    (henter : ∀ {state entry named}, named ∈ index (enter state entry) →
      named ∈ index state ∨ named = (UnitText.normalize entry.name, entry.owner))
    {entries : List NameEntry} {state : σ} {named : String × UnitRef}
    (h : named ∈ index (entries.foldl enter state)) :
    named ∈ index state ∨ Comes entries named := by
  induction entries generalizing state with
  | nil => exact .inl h
  | cons entry entries ih =>
      rw [List.foldl_cons] at h
      rcases ih h with h | h
      · rcases henter h with h | h
        · exact .inl h
        · exact .inr ⟨entry, List.mem_cons_self, h⟩
      · exact .inr (h.mono (List.subset_cons_self entry entries))

/-- Each entry of an index is the normal form of an alias or of a key, with the unit that has it. -/
theorem mem_build {categories : List Category} {named : String × UnitRef}
    (h : named ∈ (build categories).1) :
    Comes (aliasEntries categories ++ keyEntries categories) named := by
  -- The keys are entered into the index of the aliases, which starts empty.
  rcases mem_foldl_enter id mem_enterKey h with h | h
  · rcases mem_foldl_enter Prod.fst mem_enterAlias h with h | h
    · cases h
    · exact h.mono (List.subset_append_left _ _)
  · exact h.mono (List.subset_append_right _ _)

/-- An alias or a key belongs to a unit of one of the categories. -/
theorem exists_owner {categories : List Category} {entry : NameEntry}
    (h : entry ∈ aliasEntries categories ++ keyEntries categories) :
    ∃ c ∈ categories, ∃ u ∈ c.units, entry.owner = ⟨c.name, u.key⟩ := by
  rcases List.mem_append.1 h with h | h
  · obtain ⟨c, hc, h⟩ := List.mem_flatMap.1 h
    obtain ⟨u, hu, h⟩ := List.mem_flatMap.1 h
    obtain ⟨name, -, rfl⟩ := List.mem_map.1 h
    exact ⟨c, hc, u, hu, rfl⟩
  · obtain ⟨c, hc, h⟩ := List.mem_flatMap.1 h
    obtain ⟨u, hu, rfl⟩ := List.mem_map.1 h
    exact ⟨c, hc, u, hu, rfl⟩

end AliasIndex

namespace Registry

variable {directory : Directory}

/-- A category that loads is well-formed, and it was asked for by its name. -/
theorem wellFormed_of_loadCategory {name : Json} {category : Category}
    (h : (loadCategory directory name).outcome = .ok category) :
    category.WellFormed ∧ name = .text category.name := by
  obtain ⟨document, -, hcategory, -⟩ := loadCategory_eq_ok_iff.1 h
  exact ⟨Category.wellFormed_of_ofDocument hcategory, Category.name_of_ofDocument hcategory⟩

/-- Categories under their names. -/
def named (categories : List Category) : List (String × Category) :=
  categories.map fun c => (c.name, c)

theorem map_fst_named (categories : List Category) :
    (named categories).map Prod.fst = categories.map (·.name) := by
  rw [named, List.map_map]
  rfl

theorem named_putCategory (before : List Category) (category : Category) :
    named (putCategory before category) =
      Association.put (named before) category.name category := by
  induction before with
  | nil => rfl
  | cons c before ih =>
      by_cases hname : c.name = category.name
      · simp [named, putCategory, Association.put, hname]
      · simpa [named, putCategory, Association.put, hname] using ih

theorem mem_putCategory {before : List Category} {category c : Category}
    (h : c ∈ putCategory before category) : c = category ∨ c ∈ before := by
  induction before with
  | nil => exact .inl (List.mem_singleton.1 h)
  | cons d before ih =>
      rw [putCategory] at h
      split at h
      · rcases List.mem_cons.1 h with rfl | h
        · exact .inl rfl
        · exact .inr (List.mem_cons_of_mem _ h)
      · rcases List.mem_cons.1 h with rfl | h
        · exact .inr List.mem_cons_self
        · exact (ih h).imp_right (List.mem_cons_of_mem _)

/-- What holds of the categories loaded so far: their names differ, and each is the one that loads
under its name. -/
structure Sound (directory : Directory) (categories : List Category) : Prop where
  names : (categories.map (·.name)).Nodup
  loads : ∀ c ∈ categories, (loadCategory directory (.text c.name)).outcome = .ok c

theorem Sound.nil : Sound directory [] :=
  ⟨List.nodup_nil, by simp⟩

theorem Sound.put {before : List Category} {category : Category} (h : Sound directory before)
    (hcategory : (loadCategory directory (.text category.name)).outcome = .ok category) :
    Sound directory (putCategory before category) where
  names := by
    rw [← map_fst_named, named_putCategory]
    apply Association.nodup_put
    rw [map_fst_named]
    exact h.names
  loads c hc := by
    rcases mem_putCategory hc with rfl | hc
    · exact hcategory
    · exact h.loads c hc

/-- Putting a category adds its name to those that there are. -/
theorem exists_named_putCategory {before : List Category} {category : Category} {name : Json} :
    (∃ c ∈ putCategory before category, name = .text c.name) ↔
      name = .text category.name ∨ ∃ c ∈ before, name = .text c.name := by
  have hmem (categories : List Category) :
      (∃ c ∈ categories, name = .text c.name) ↔ ∃ s ∈ categories.map (·.name), name = .text s := by
    simp
  rw [hmem, hmem, ← map_fst_named, named_putCategory, Association.map_fst_put, map_fst_named]
  split
  · next hold =>
      constructor
      · exact .inr
      · rintro (rfl | h)
        · exact ⟨_, hold, rfl⟩
        · exact h
  · simp only [List.mem_append, List.mem_singleton, or_and_right, exists_or, exists_eq_left]
    exact or_comm

/-- One category after the other is put under its name. -/
theorem sound_loadEach {names : List Json} {before categories : List Category}
    (h : (loadEach directory before names).outcome = .ok categories)
    (hbefore : Sound directory before) :
    Sound directory categories ∧ ∀ name : Json, (∃ c ∈ categories, name = .text c.name) ↔
      name ∈ names ∨ ∃ c ∈ before, name = .text c.name := by
  -- Each step goes on from the categories of the last one, so these vary in the induction.
  induction names generalizing before with
  | nil =>
      rw [loadEach] at h
      cases h
      exact ⟨hbefore, by simp⟩
  | cons first names ih =>
      rw [loadEach, Loaded.andThen_outcome] at h
      obtain ⟨category, hcategory, hrest⟩ := Formula.bind_eq_ok h
      have hfirst := (wellFormed_of_loadCategory hcategory).2
      obtain ⟨hsound, hnames⟩ := ih hrest (hbefore.put (hfirst ▸ hcategory))
      refine ⟨hsound, fun name => ?_⟩
      rw [hnames name, exists_named_putCategory, hfirst, List.mem_cons, or_assoc, or_left_comm]

/-- All categories load one after the other if each of them does. -/
theorem exists_loadEach_iff {before : List Category} {names : List Json} :
    (∃ categories, (loadEach directory before names).outcome = .ok categories) ↔
      ∀ name ∈ names, Loads directory name := by
  induction names generalizing before with
  | nil => simp [loadEach]
  | cons first names ih =>
      rw [loadEach, Loaded.andThen_outcome, List.forall_mem_cons]
      cases hfirst : (loadCategory directory first).outcome with
      | error failure => simp [Except.bind, Loads, hfirst]
      | ok category =>
          have hloads : Loads directory first := ⟨category, hfirst⟩
          simp only [Except.bind, ih, hloads, true_and]

/-- A registry is what the selected categories and their index make up. -/
theorem load_eq_ok_iff {names : List Json} {registry : Registry} :
    (load directory names).outcome = .ok registry ↔
      ∃ selected categories, selectNames directory names = .ok selected ∧
        (loadEach directory [] selected).outcome = .ok categories ∧ categories ≠ [] ∧
        registry = ⟨categories, (AliasIndex.build categories).1⟩ := by
  have hof (categories : List Category) : (ofCategories categories).outcome = .ok registry ↔
      categories ≠ [] ∧ registry = ⟨categories, (AliasIndex.build categories).1⟩ := by
    cases categories with
    | nil => simp [ofCategories]
    | cons c cs => simp [ofCategories, eq_comm]
  rw [load, Loaded.andThen_outcome]
  cases hselected : selectNames directory names with
  | error failure => simp [Except.bind]
  | ok selected =>
      simp only [Except.bind, Loaded.andThen_outcome]
      cases heach : (loadEach directory [] selected).outcome with
      | error failure => simp [heach]
      | ok categories => simp [heach, hof]

/-- A registry is loaded if something is selected and all of it loads. -/
theorem exists_load_iff {names : List Json} :
    (∃ registry, (load directory names).outcome = .ok registry) ↔
      ∃ selected, selectNames directory names = .ok selected ∧ selected ≠ [] ∧
        ∀ name ∈ selected, Loads directory name := by
  -- The categories bear the selected names, so there are some of the ones if there are some of the
  -- others.
  have hsome {selected : List Json} {categories : List Category}
      (h : (loadEach directory [] selected).outcome = .ok categories) :
      categories ≠ [] ↔ selected ≠ [] := by
    have hnames := (sound_loadEach h .nil).2
    apply not_congr
    constructor
    · rintro rfl
      exact List.eq_nil_iff_forall_not_mem.2 fun name hname => by
        simpa using (hnames name).2 (.inl hname)
    · rintro rfl
      exact List.eq_nil_iff_forall_not_mem.2 fun c hc => by simpa using (hnames _).1 ⟨c, hc, rfl⟩
  constructor
  · rintro ⟨registry, h⟩
    obtain ⟨selected, categories, hselected, heach, hne, -⟩ := load_eq_ok_iff.1 h
    exact ⟨selected, hselected, (hsome heach).1 hne, exists_loadEach_iff.1 ⟨categories, heach⟩⟩
  · rintro ⟨selected, hselected, hne, hall⟩
    obtain ⟨categories, heach⟩ := exists_loadEach_iff.2 hall
    exact ⟨_, load_eq_ok_iff.2 ⟨selected, categories, hselected, heach, (hsome heach).2 hne, rfl⟩⟩

/-- What holds of the registries that are used: categories and units are found under their names,
and the index leads to them by names in normal form. -/
structure WellFormed (registry : Registry) : Prop where
  names : (registry.categories.map (·.name)).Nodup
  categories : ∀ c ∈ registry.categories, c.WellFormed
  owners : ∀ named ∈ registry.aliases, ∃ c ∈ registry.categories, ∃ u ∈ c.units, named.2 =
    ⟨c.name, u.key⟩
  normal : ∀ named ∈ registry.aliases, UnitText.normalize named.1 = named.1

/-- The categories of a registry are those that were selected, each as it loads under its name. -/
theorem sound_of_load {names : List Json} {registry : Registry}
    (h : (load directory names).outcome = .ok registry) :
    Sound directory registry.categories ∧ ∃ selected, selectNames directory names = .ok selected ∧
      ∀ name, name ∈ selected ↔ ∃ c ∈ registry.categories, name = .text c.name := by
  obtain ⟨selected, categories, hselected, heach, -, rfl⟩ := load_eq_ok_iff.1 h
  obtain ⟨hsound, hnames⟩ := sound_loadEach heach .nil
  exact ⟨hsound, selected, hselected, fun name => by simpa using (hnames name).symm⟩

/-- Every registry that is loaded is well-formed. -/
theorem wellFormed_of_load {names : List Json} {registry : Registry}
    (h : (load directory names).outcome = .ok registry) : registry.WellFormed := by
  have hsound := (sound_of_load h).1
  obtain ⟨selected, categories, -, -, -, rfl⟩ := load_eq_ok_iff.1 h
  refine ⟨hsound.names, fun c hc => (wellFormed_of_loadCategory (hsound.loads c hc)).1, ?_, ?_⟩
  · intro named hnamed
    obtain ⟨entry, hentry, rfl⟩ := AliasIndex.mem_build hnamed
    exact AliasIndex.exists_owner hentry
  · intro named hnamed
    obtain ⟨entry, -, rfl⟩ := AliasIndex.mem_build hnamed
    exact UnitText.normalize_normalize entry.name

namespace WellFormed

variable {registry : Registry} (h : registry.WellFormed)

include h

theorem unit?_eq {c : Category} (hc : c ∈ registry.categories) {u : MeasurementUnit}
    (hu : u ∈ c.units) :
    registry.unit? ⟨c.name, u.key⟩ = some u := by
  rw [unit?, category?_eq h.names hc, Option.bind_some]
  exact Category.unit?_eq (h.categories c hc).keys hu

/-- A name that stands for something stands for a unit of a category. -/
theorem exists_unit {token : Json} {ref : UnitRef} (hresolve : registry.resolve? token = some ref) :
    ∃ u, registry.unit? ref = some u := by
  cases token with
  | text name =>
      obtain ⟨before, after, haliases, -⟩ := List.lookup_eq_some_iff.1 hresolve
      obtain ⟨c, hc, u, hu, rfl⟩ := h.owners (UnitText.normalize name, ref) (by simp [haliases])
      exact ⟨u, h.unit?_eq hc hu⟩
  | _ => cases hresolve

end WellFormed

end Registry

end UnitConversion
