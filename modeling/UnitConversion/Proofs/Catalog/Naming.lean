import UnitConversion.Catalog.Registry
import Mathlib.Tactic

/-!
# What names stand for

The index of some categories is filled one entry after the other, and no entry takes a name away
from another. So a name stands for the owner of the first entry that has it, where all aliases come
before all keys. Only blank aliases are left out.

* `AliasIndex.enterAlias_eq`: what one alias does to the index and to the reports.
* `AliasIndex.find?_build`: what a name stands for in the index of some categories.
* `AliasIndex.find?_build_of_unique`: a name all of whose entries have one owner stands for it.
-/

namespace UnitConversion.AliasIndex

/-- The owner of the first entry with a name in normal form. -/
def firstOwner? (entries : List NameEntry) (name : String) : Option UnitRef :=
  (entries.find? (UnitText.normalize ·.name == name)).map (·.owner)

theorem firstOwner?_cons (entry : NameEntry) (entries : List NameEntry) (name : String) :
    firstOwner? (entry :: entries) name =
      if UnitText.normalize entry.name = name then some entry.owner
      else firstOwner? entries name := by
  by_cases h : UnitText.normalize entry.name = name <;> simp [firstOwner?, h]

theorem firstOwner?_append (entries more : List NameEntry) (name : String) :
    firstOwner? (entries ++ more) name = (firstOwner? entries name).or (firstOwner? more name) := by
  induction entries with
  | nil => rfl
  | cons entry entries ih =>
      rw [List.cons_append, firstOwner?_cons, firstOwner?_cons, ih]
      by_cases h : UnitText.normalize entry.name = name
      · simp [h]
      · simp [h]

/-- A name that only entries of one unit have is that unit's. -/
theorem firstOwner?_eq_some {entries : List NameEntry} {name : String} {owner : UnitRef}
    (hsome : ∃ entry ∈ entries, UnitText.normalize entry.name = name)
    (hunique : ∀ entry ∈ entries, UnitText.normalize entry.name = name → entry.owner = owner) :
    firstOwner? entries name = some owner := by
  obtain ⟨entry, hentry, hname⟩ := hsome
  have hfound : (entries.find? (UnitText.normalize ·.name == name)).isSome = true :=
    List.find?_isSome.2 ⟨entry, hentry, by simpa using hname⟩
  obtain ⟨found, hfind⟩ := Option.isSome_iff_exists.1 hfound
  rw [firstOwner?, hfind, Option.map_some,
    hunique found (List.mem_of_find?_eq_some hfind) (by simpa using List.find?_some hfind)]

/-- Whether the name of an entry has a normal form that is not empty. -/
def isNamed (entry : NameEntry) : Bool :=
  UnitText.normalize entry.name != ""

theorem isNamed_iff {entry : NameEntry} :
    isNamed entry = true ↔ UnitText.normalize entry.name ≠ "" :=
  bne_iff_ne

/-- A name stands for nothing if the index does not hold it. -/
theorem find?_eq_none_iff {index : AliasIndex} {name : String} :
    find? index name = none ↔ name ∉ index.map Prod.fst := by
  rw [find?, List.lookup_eq_none_iff, List.mem_map]
  constructor
  · rintro h ⟨named, hnamed, rfl⟩
    simpa using h named hnamed
  · intro h named hnamed
    exact bne_iff_ne.2 fun hname => h ⟨named, hnamed, hname.symm⟩

theorem find?_append_single (index : AliasIndex) (key : String) (owner : UnitRef) (name : String) :
    find? (index ++ [(key, owner)]) name =
      (find? index name).or (if key = name then some owner else none) := by
  rw [find?, find?, List.lookup_append, List.lookup_cons]
  by_cases h : key = name
  · subst h
    simp
  · have hne : (name == key) = false := beq_eq_false_iff_ne.2 (Ne.symm h)
    simp [h, hne]

/-- A name that is given to a unit goes to it, unless some unit has the name. -/
theorem find?_insertNew (index : AliasIndex) (key : String) (owner : UnitRef) (name : String) :
    (insertNew index key owner).find? name =
      (index.find? name).or (if key = name then some owner else none) := by
  rw [insertNew]
  split
  · next other hother =>
      by_cases h : key = name
      · rw [← h, hother, Option.some_or]
      · rw [if_neg h, Option.or_none]
  · exact find?_append_single index key owner name

/-- What entering an alias does: a blank one is left out, and one whose name belongs to another unit
is reported. -/
theorem enterAlias_eq (state : AliasIndex × List String) (entry : NameEntry) :
    enterAlias state entry = if isNamed entry then
      (state.1.insertNew (UnitText.normalize entry.name) entry.owner,
        state.2 ++ (((state.1.find? (UnitText.normalize entry.name)).filter (· ≠ entry.owner)).map
          (duplicateWarning entry)).toList)
      else state := by
  unfold enterAlias insertNew
  by_cases hempty : UnitText.normalize entry.name = ""
  · simp [isNamed, hempty]
  · have hname : (UnitText.normalize entry.name).isEmpty = false := by simpa using hempty
    rw [if_pos (isNamed_iff.2 hempty)]
    simp only [hname, Bool.false_eq_true, if_false]
    cases hfound : state.1.find? (UnitText.normalize entry.name) with
    | none => simp
    | some owner => by_cases hsame : owner = entry.owner <;> simp [Option.filter, hsame]

/-- Blank aliases might as well not be there. -/
theorem foldl_enterAlias_filter (entries : List NameEntry) (state : AliasIndex × List String) :
    (entries.filter isNamed).foldl enterAlias state = entries.foldl enterAlias state := by
  induction entries generalizing state with
  | nil => rfl
  | cons entry entries ih =>
      rw [List.filter_cons, List.foldl_cons]
      split
      · rw [List.foldl_cons, ih]
      · next hblank => rw [enterAlias_eq, if_neg hblank, ih]

theorem find?_foldl_enterAlias {entries : List NameEntry}
    (hnamed : ∀ entry ∈ entries, isNamed entry = true) (state : AliasIndex × List String)
    (name : String) :
    (entries.foldl enterAlias state).1.find? name =
      (state.1.find? name).or (firstOwner? entries name) := by
  induction entries generalizing state with
  | nil => simp [firstOwner?]
  | cons entry entries ih =>
      obtain ⟨hentry, hrest⟩ := List.forall_mem_cons.1 hnamed
      rw [List.foldl_cons, ih hrest, enterAlias_eq, if_pos hentry, find?_insertNew,
        firstOwner?_cons, Option.or_assoc]
      by_cases h : UnitText.normalize entry.name = name <;> simp [h]

theorem find?_foldl_enterKey (entries : List NameEntry) (index : AliasIndex) (name : String) :
    (entries.foldl enterKey index).find? name =
      (index.find? name).or (firstOwner? entries name) := by
  induction entries generalizing index with
  | nil => simp [firstOwner?]
  | cons entry entries ih =>
      rw [List.foldl_cons, ih, enterKey, find?_insertNew, firstOwner?_cons, Option.or_assoc]
      by_cases h : UnitText.normalize entry.name = name <;> simp [h]

/-- A name stands for the owner of the first alias that has it, else for that of the first such
key. -/
theorem find?_build (categories : List Category) (name : String) :
    (build categories).1.find? name =
      (firstOwner? ((aliasEntries categories).filter isNamed) name).or
        (firstOwner? (keyEntries categories) name) := by
  have hnamed : ∀ entry ∈ (aliasEntries categories).filter isNamed, isNamed entry = true :=
    fun entry hentry => (List.mem_filter.1 hentry).2
  rw [build, find?_foldl_enterKey, ← foldl_enterAlias_filter, find?_foldl_enterAlias hnamed]
  rfl

/-- A name all of whose entries have one owner stands for it. -/
theorem find?_build_of_unique {categories : List Category} {owner : UnitRef} {name : String}
    (hname : name ≠ "") (hsome : ∃ entry ∈ aliasEntries categories ++ keyEntries categories,
      UnitText.normalize entry.name = name)
    (hunique : ∀ entry ∈ aliasEntries categories ++ keyEntries categories,
      UnitText.normalize entry.name = name → entry.owner = owner) :
    (build categories).1.find? name = some owner := by
  rw [find?_build, ← firstOwner?_append]
  refine firstOwner?_eq_some ?_ fun entry hentry => hunique entry ?_
  · obtain ⟨entry, hentry, rfl⟩ := hsome
    rw [List.mem_append] at hentry
    refine ⟨entry, List.mem_append.2 (hentry.imp_left fun h => ?_), rfl⟩
    exact List.mem_filter.2 ⟨h, isNamed_iff.2 hname⟩
  · rw [List.mem_append] at hentry ⊢
    exact hentry.imp_left fun h => (List.mem_filter.1 h).1

end UnitConversion.AliasIndex
