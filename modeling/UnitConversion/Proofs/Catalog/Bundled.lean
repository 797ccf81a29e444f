import UnitConversion.Proofs.Catalog.Directory
import UnitConversion.Proofs.Catalog.Loading
import UnitConversion.Proofs.Catalog.Page

/-!
# The registry of the bundled documents

All of the bundled documents are taken as they are written. Their registry holds one category for
each, all units have rules of the known kinds, and each unit goes by its key.

* `pages`: the characters of the documents, on which everything is decided.
* `load_eq`: the registry that the directory of the documents gives.
* `resolve?_key`, `unit?_eq`: how units are found in it.
-/

namespace UnitConversion.Bundled

/-- The characters of the bundled documents. -/
def pages : { pages : List Page // List.Forall₂ Page.Spells documents pages } :=
  ⟨_, by
    unfold documents airflow area density energy heatFlow length mass power pressure
      speed temperature temperatureDifference thermalConductivity thermalTransmittance volume
    repeat constructor⟩

/-- What is decided on the characters of each document. -/
theorem checked_of_mem {page : Page} (hpage : page ∈ pages.1) :
    page.isTaken = true ∧ page.fits = true ∧
    ∀ row ∈ page.rows, UnitText.normalChars row.key ≠ [] := by
  have hall : (pages.1.all fun page => page.isTaken && page.fits &&
      page.rows.all fun row => !(UnitText.normalChars row.key).isEmpty) = true := by
    decide +kernel
  have hpage := List.all_eq_true.1 hall page hpage
  simp only [Bool.and_eq_true, List.all_eq_true, Bool.not_eq_true', List.isEmpty_eq_false_iff]
    at hpage
  exact ⟨hpage.1.1, hpage.1.2, hpage.2⟩

theorem isTaken_of_mem {page : Page} (hpage : page ∈ pages.1) : page.isTaken = true :=
  (checked_of_mem hpage).1

theorem fits_of_mem {page : Page} (hpage : page ∈ pages.1) : page.category.Fits :=
  Page.fits_spec (checked_of_mem hpage).2.1

theorem pairwise_areApart :
    (Page.namedRows pages.1).Pairwise fun x y => Page.areApart x.2.names y.2.names = true := by
  have hmarks : (Page.marks? ((Page.namedRows pages.1).map fun named => named.2.names)).isSome =
      true := by
    decide +kernel
  exact List.pairwise_map.1 (Page.pairwise_of_marks hmarks)

theorem normalize_key_ne_empty {page : Page} (hpage : page ∈ pages.1) {unit : MeasurementUnit}
    (hunit : unit ∈ page.units) : UnitText.normalize unit.key ≠ "" := by
  obtain ⟨row, hrow, hunit⟩ := Page.mem_units.1 hunit
  rw [(Row.unit?_names hunit).1, UnitText.normalize, String.toList_ofList]
  intro hempty
  have hnil : UnitText.normalChars row.key = [] := by
    rw [← String.toList_ofList (l := UnitText.normalChars row.key), hempty]
    rfl
  exact (checked_of_mem hpage).2.2 row hrow hnil

/-- The registry of the bundled documents. -/
def registry : Registry :=
  Page.registry pages.1

theorem mem_categories {category : Category} :
    category ∈ registry.categories ↔ ∃ page ∈ pages.1, page.category = category :=
  List.mem_map

theorem fits {category : Category} (hcategory : category ∈ registry.categories) :
    category.Fits := by
  obtain ⟨page, hpage, rfl⟩ := mem_categories.1 hcategory
  exact fits_of_mem hpage

/-- The categories bear the names of the documents. -/
theorem map_name_categories : registry.categories.map (·.name) = documents.map Prod.fst := by
  have hnames {documents : List (String × Json)} {pages : List Page}
      (h : List.Forall₂ Page.Spells documents pages) :
      (pages.map Page.category).map (·.name) = documents.map Prod.fst := by
    induction h with
    | nil => rfl
    | cons hspells _ ih =>
        obtain ⟨hrows⟩ := hspells
        rw [List.map_cons, List.map_cons, List.map_cons, ih]
        rfl
  exact hnames pages.2

theorem nodup_names : (registry.categories.map (·.name)).Nodup := by
  rw [map_name_categories]
  decide

theorem nodup_keys {category : Category} (hcategory : category ∈ registry.categories) :
    (category.units.map (·.key)).Nodup := by
  obtain ⟨page, hpage, rfl⟩ := mem_categories.1 hcategory
  exact Page.nodup_keys (isTaken_of_mem hpage)

theorem plain_path : ∀ part ∈ Path.parts path.toList, Path.Plain part := by
  have hplain : (Path.parts path.toList).all Path.isPlain = true := by decide
  exact fun part hpart => Path.plain_of_isPlain (List.all_eq_true.1 hplain part hpart)

/-- The names of the documents stand in order. -/
theorem discover_eq : directory.discover = .ok (documents.map Prod.fst) := by
  have hsize : Path.size (Path.parts path.toList) ≤ Path.longestPath := by decide
  have hfilled : ∀ name ∈ documents.map Prod.fst, name ≠ "" := by decide
  have hsorted : (documents.map Prod.fst).Pairwise (· ≤ ·) := by decide
  have hfiles : (documents.map fun d => (d.1 ++ ".json", StoredFile.document d.2)).map Prod.fst =
      (documents.map Prod.fst).map (· ++ ".json") := by
    rw [List.map_map, List.map_map]
    rfl
  rw [← Directory.stems_eq hfilled hsorted, ← hfiles]
  exact Directory.discover_eq plain_path hsize

/-- The name of each category leads to its document. -/
theorem readDocument_eq {document : String × Json} {page : Page} (hdocument : document ∈ documents)
    (hspells : page.Spells document) : directory.readDocument document.1 = .ok document.2 := by
  have hplain : (documents.all fun d => Path.isPlain (Directory.documentPath d.1)) = true := by
    decide
  have hsize : (documents.all fun d => decide
      (Path.size (Path.parts path.toList ++ [Directory.documentPath d.1]) ≤ Path.longestPath)) =
        true := by
    decide
  have hnodup : ((documents.map fun d => (d.1 ++ ".json", StoredFile.document d.2)).map
      Prod.fst).Nodup := by
    decide
  have hmem : (document.1 ++ ".json", StoredFile.document document.2) ∈
      documents.map fun d => (d.1 ++ ".json", StoredFile.document d.2) :=
    List.mem_map.2 ⟨document, hdocument, rfl⟩
  have hfile := lookup_eq_some_of_nodup hnodup hmem
  obtain ⟨hrows⟩ := hspells
  exact Directory.readDocument_eq plain_path
    (Path.plain_of_isPlain (List.all_eq_true.1 hplain _ hdocument))
    (of_decide_eq_true (List.all_eq_true.1 hsize _ hdocument)) hfile

/-- The directory of the bundled documents has a registry. -/
theorem load_eq : (Registry.load directory []).outcome = .ok registry := by
  refine Registry.load_eq discover_eq ?_ nodup_names (by decide)
  rw [List.forall₂_map_left_iff, List.forall₂_map_right_iff]
  refine (forall₂_mem pages.2).imp ?_
  rintro document page ⟨hspells, hdocument, hpage⟩
  exact Registry.loadCategory_eq_ok_iff.2 ⟨document.2, readDocument_eq hdocument hspells,
    Page.ofDocument_eq hspells (isTaken_of_mem hpage), (fits_of_mem hpage).audit_exists_ok⟩

section

variable {category : Category} {unit : MeasurementUnit} (hcategory : category ∈ registry.categories)
  (hunit : unit ∈ category.units)

include hcategory hunit

/-- Each unit goes by its key. -/
theorem resolve?_key : registry.resolve? (.text unit.key) = some ⟨category.name, unit.key⟩ := by
  obtain ⟨page, hpage, rfl⟩ := mem_categories.1 hcategory
  exact Page.resolve?_key pairwise_areApart hpage hunit (normalize_key_ne_empty hpage hunit)

theorem unit?_eq : registry.unit? ⟨category.name, unit.key⟩ = some unit := by
  have hfound : registry.category? category.name = some category :=
    Registry.category?_eq nodup_names hcategory
  rw [Registry.unit?, hfound, Option.bind_some]
  exact Category.unit?_eq (nodup_keys hcategory) hunit

end

/-- The category of temperatures has a unit for each scale. -/
theorem exists_temperature : ∃ category ∈ registry.categories, category.name = "temperature" ∧
    ∀ scale : Scale, ∃ unit ∈ category.units, unit.key = scale.name ∧ unit.rule.IsScale scale := by
  have hany : (pages.1.any fun page => page.name == "temperature".toList &&
      [Scale.kelvin, .celsius, .fahrenheit, .rankine].all fun scale =>
        page.rows.any fun row => row.key == scale.name.toList && row.unit?.isSome) = true := by
    decide +kernel
  obtain ⟨page, hpage, h⟩ := List.any_eq_true.1 hany
  rw [Bool.and_eq_true, beq_iff_eq, List.all_eq_true] at h
  have hname : page.category.name = "temperature" := by
    rw [Page.category, h.1, String.ofList_toList]
  refine ⟨page.category, mem_categories.2 ⟨page, hpage, rfl⟩, hname, fun scale => ?_⟩
  have hscale := h.2 scale (by cases scale <;> simp)
  obtain ⟨row, hrow, hfound⟩ := List.any_eq_true.1 hscale
  rw [Bool.and_eq_true, beq_iff_eq] at hfound
  obtain ⟨unit, hunit⟩ := Option.isSome_iff_exists.1 hfound.2
  have hmem : unit ∈ page.units := Page.mem_units.2 ⟨row, hrow, hunit⟩
  have hkey : unit.key = scale.name := by
    rw [(Row.unit?_names hunit).1, hfound.1, String.ofList_toList]
  -- The rule is that of some scale, and no other scale has this name.
  obtain ⟨scale', hkey', hrule⟩ := (fits_of_mem hpage).temperature hname unit hmem
  obtain rfl := Scale.name_injective (hkey.symm.trans hkey')
  exact ⟨unit, hmem, hkey, hrule⟩

end UnitConversion.Bundled
