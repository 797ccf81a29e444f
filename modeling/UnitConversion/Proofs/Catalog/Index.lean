import UnitConversion.Proofs.Catalog.Naming
import UnitConversion.Proofs.Catalog.Registry

/-!
# First come, first served

The index of names is a table that is filled in two passes, first with the aliases of all units and
then with their keys. A name goes to the first entry that has it, and stays there: an alias that
comes too late is reported if the name belongs to another unit, and a key that comes too late is
passed over in silence.

* `Category.named_of_ofDocument`: the aliases of a document have normal forms that are not empty, so
  none is skipped.
* `AliasIndex.foldl_enterAlias_snd`: the reports are those on the aliases whose names belong to
  other units already.
* `AliasIndex.build_first_served`: what the index of categories holds, and what is reported.
* `AliasIndex.build_perm`: where no two units share a name, the order of the categories does not
  matter.
-/

namespace UnitConversion

open UnitText (normalize)

/-! ### Aliases of documents -/

namespace UnitDescription

theorem lowerString_ne_empty_of_brokenAliasRule? {seen names : List String}
    (h : brokenAliasRule? seen names = none) :
    ∀ name ∈ names, Text.lowerString (Text.trim name) ≠ "" := by
  induction names generalizing seen with
  | nil => simp
  | cons first names ih =>
      rw [brokenAliasRule?] at h
      split at h
      · cases h
      · next hfilled =>
          split at h
          · cases h
          · exact List.forall_mem_cons.2 ⟨fun hempty => hfilled (by simp [hempty]), ih h⟩

/-- Aliases that passed their check are not blank. -/
theorem named_of_checkAliases {value : Json} {names : List String}
    (h : checkAliases value = .ok names) :
    ∀ name ∈ names, normalize name ≠ "" := by
  unfold checkAliases at h
  split at h
  · split at h
    · cases h
    · next hbroken =>
        cases h
        intro name hname hempty
        apply lowerString_ne_empty_of_brokenAliasRule? hbroken name hname
        -- Nothing would be left of a blank alias to be compared with the others.
        have hblank := UnitText.normalize_eq_empty_iff.1 hempty
        have htrim : Text.trimChars name.toList = [] :=
          Text.trimChars_eq_nil_iff.2 (List.all_eq_true.1 hblank)
        rw [Text.lowerString, Text.trim, htrim]
        rfl
  · cases h

theorem named_of_check {value : Json} {d : UnitDescription} (h : check value = .ok d) :
    ∀ name ∈ d.aliases, normalize name ≠ "" := by
  cases value with
  | object members =>
      have h := Schema.withKeys_eq_ok h
      dsimp only at h
      split at h
      · next haliases _ _ _ _ _ =>
          split at h
          · cases h
          · cases h
            obtain ⟨_, value, -, hvalue⟩ := Schema.required_eq_ok haliases
            exact named_of_checkAliases hvalue
      · cases h
  | _ => cases h

end UnitDescription

namespace Category

/-- Whether a category is the one of some document. -/
def IsLoaded (category : Category) : Prop :=
  ∃ document expected, ofDocument document expected = .ok category

/-- No alias of a document is blank. -/
theorem IsLoaded.named {category : Category} (h : category.IsLoaded) :
    ∀ unit ∈ category.units, ∀ name ∈ unit.aliases, normalize name ≠ "" := by
  obtain ⟨document, expected, h⟩ := h
  intro unit hunit
  obtain ⟨key, value, d, hchecked, hmade⟩ := exists_check_of_ofDocument h hunit
  obtain ⟨⟨rule, factor⟩, -, hmade⟩ := Formula.bind_eq_ok hmade
  cases hmade
  exact UnitDescription.named_of_check hchecked

end Category

namespace AliasIndex

/-! ### The reports -/

/-- The unit that has the name of an entry already, if it is another one than the entry's. `before`
holds the entries in front of it. -/
def rival? (before : List NameEntry) (entry : NameEntry) : Option UnitRef :=
  (firstOwner? before (normalize entry.name)).filter (· ≠ entry.owner)

/-- The reports on those of some entries whose names belong to other units already, in their
order. -/
def duplicateWarnings (entries : List NameEntry) : List String :=
  entries.zipIdx.filterMap fun (entry, i) =>
    (rival? (entries.take i) entry).map (duplicateWarning entry)

theorem duplicateWarnings_append (entries : List NameEntry) (entry : NameEntry) :
    duplicateWarnings (entries ++ [entry]) =
      duplicateWarnings entries ++
        ((rival? entries entry).map (duplicateWarning entry)).toList := by
  unfold duplicateWarnings
  rw [List.zipIdx_append, List.filterMap_append]
  congr 1
  · refine List.filterMap_congr ?_
    rintro ⟨e, i⟩ he
    have hi : i ≤ entries.length := by simpa using (List.snd_lt_of_mem_zipIdx he).le
    dsimp only
    rw [List.take_append_of_le_length hi]
  · rw [List.zipIdx_singleton, zero_add, List.filterMap_cons, List.filterMap_nil]
    dsimp only
    rw [List.take_left]
    cases (rival? entries entry).map (duplicateWarning entry) <;> rfl

/-- The aliases that are reported are those whose names belong to other units already. -/
theorem foldl_enterAlias_snd {entries : List NameEntry}
    (hnamed : ∀ entry ∈ entries, isNamed entry = true) :
    (entries.foldl enterAlias ([], [])).2 = duplicateWarnings entries := by
  -- The induction is on the last entry, since the reports on the others do not depend on it.
  induction entries using List.reverseRecOn with
  | nil => rfl
  | append_singleton entries entry ih =>
      obtain ⟨hrest, hentry⟩ := List.forall_mem_append.1 hnamed
      have hfound : (entries.foldl enterAlias ([], [])).1.find? (normalize entry.name) =
          firstOwner? entries (normalize entry.name) := find?_foldl_enterAlias hrest ([], []) _
      rw [List.foldl_append, List.foldl_cons, List.foldl_nil, enterAlias_eq,
        if_pos (hentry entry (List.mem_singleton_self entry)), ih hrest, duplicateWarnings_append,
        rival?, hfound]

theorem build_snd (categories : List Category) :
    (build categories).2 = duplicateWarnings ((aliasEntries categories).filter isNamed) := by
  rw [← foldl_enterAlias_snd fun entry hentry => (List.mem_filter.1 hentry).2,
    foldl_enterAlias_filter]
  rfl

/-! ### The entries of the index -/

theorem nodup_insertNew {index : AliasIndex} (hnodup : (index.map Prod.fst).Nodup) (key : String)
    (owner : UnitRef) :
    ((insertNew index key owner).map Prod.fst).Nodup := by
  rw [insertNew]
  split
  · exact hnodup
  · next hnone => simpa using hnodup.concat (find?_eq_none_iff.1 hnone)

/-- An index has every name once. -/
theorem nodup_build (categories : List Category) : ((build categories).1.map Prod.fst).Nodup := by
  have haliases : (((aliasEntries categories).foldl enterAlias ([], [])).1.map Prod.fst).Nodup := by
    refine List.foldlRecOn (motive := fun state : AliasIndex × List String =>
      (state.1.map Prod.fst).Nodup)
      (aliasEntries categories) enterAlias List.nodup_nil fun state hstate entry _ => ?_
    rw [enterAlias_eq]
    split
    · exact nodup_insertNew hstate _ _
    · exact hstate
  exact List.foldlRecOn (motive := fun index : AliasIndex => (index.map Prod.fst).Nodup)
    (keyEntries categories) enterKey haliases fun index hindex entry _ => nodup_insertNew hindex _ _

theorem mem_build_iff {categories : List Category} {named : String × UnitRef} :
    named ∈ (build categories).1 ↔ (build categories).1.find? named.1 = some named.2 := by
  constructor
  · exact fun h => lookup_eq_some_of_nodup (nodup_build categories) h
  · intro h
    obtain ⟨before, after, hsplit, -⟩ := List.lookup_eq_some_iff.1 h
    rw [hsplit]
    simp

/-! ### Main results -/

/-- The index of loaded categories holds a name exactly if some alias or key has it, and then for
the unit of the first alias that has it or, if there is none, of the first key. The aliases whose
names other aliases took before them for other units are reported, in their order. -/
theorem build_first_served {categories : List Category} (hloaded : ∀ c ∈ categories, c.IsLoaded) :
    ((build categories).1.map Prod.fst).Nodup ∧
      (∀ name owner, (name, owner) ∈ (build categories).1 ↔
        (firstOwner? (aliasEntries categories) name).or
          (firstOwner? (keyEntries categories) name) = some owner) ∧
      (build categories).2 = duplicateWarnings (aliasEntries categories) := by
  have hnamed : (aliasEntries categories).filter isNamed = aliasEntries categories := by
    rw [List.filter_eq_self]
    intro entry hentry
    obtain ⟨c, hc, hentry⟩ := List.mem_flatMap.1 hentry
    obtain ⟨u, hu, hentry⟩ := List.mem_flatMap.1 hentry
    obtain ⟨name, hname, rfl⟩ := List.mem_map.1 hentry
    exact isNamed_iff.2 ((hloaded c hc).named u hu name hname)
  refine ⟨nodup_build categories, fun name owner => ?_, ?_⟩
  · rw [mem_build_iff, find?_build, hnamed]
  · rw [build_snd, hnamed]

/-- A category of one unit. -/
def oneUnit (name key : String) (aliases : List String) : Category :=
  ⟨name, key, [⟨key, key, key, aliases, .factor (.ofNat 1), some (.ofNat 1), none, none⟩], none⟩

/-- A metre, and a minute with aliases that the metre has, as an alias and as its key. -/
def namesakes : List Category :=
  [oneUnit "length" "metre" ["m", "Meters"], oneUnit "time" "minute" ["M", "metre"]]

/-- Both categories have documents. -/
theorem isLoaded_of_mem_namesakes : ∀ c ∈ namesakes, c.IsLoaded := by
  have loaded (name key : String) (aliases : List Json) (category : Category)
      (h : Category.ofDocument
        (.object [("category", .text name), ("baseUnit", .text key),
          ("units", .object [(key, .object [("name", .text key), ("symbol", .text key),
            ("aliases", .list aliases), ("factor", .integer 1)])])])
        (.text name) = .ok category) : category.IsLoaded := ⟨_, _, h⟩
  refine List.forall_mem_cons.2 ⟨?_, List.forall_mem_singleton.2 ?_⟩
  · exact loaded "length" "metre" [.text "m", .text "Meters"] _ (by with_unfolding_all rfl)
  · exact loaded "time" "minute" [.text "M", .text "metre"] _ (by with_unfolding_all rfl)

/-- An alias of the minute goes before the key of the metre, but not before an alias of the
metre. -/
theorem build_first_served_minute :
    (∀ c ∈ namesakes, c.IsLoaded) ∧
    ("m", ⟨"length", "metre"⟩) ∈ (build namesakes).1 ∧
    ("metre", ⟨"time", "minute"⟩) ∈ (build namesakes).1 ∧
    (build namesakes).2 = ["Duplicate alias 'M' in time/minute already maps to length/metre"] := by
  obtain ⟨-, hentries, hwarnings⟩ := build_first_served isLoaded_of_mem_namesakes
  refine ⟨isLoaded_of_mem_namesakes, (hentries _ _).2 ?_, (hentries _ _).2 ?_, hwarnings.trans ?_⟩
  · decide +kernel
  · decide +kernel
  · decide +kernel

/-- Whether no two entries of different units have one name. -/
def Unambiguous (entries : List NameEntry) : Prop :=
  ∀ e ∈ entries, ∀ f ∈ entries, normalize e.name = normalize f.name → e.owner = f.owner

instance (entries : List NameEntry) : Decidable (Unambiguous entries) :=
  inferInstanceAs (Decidable (∀ e ∈ entries, ∀ f ∈ entries, _ → _))

namespace Unambiguous

variable {entries others : List NameEntry}

theorem firstOwner?_eq_some_iff (h : Unambiguous entries) {name : String} {owner : UnitRef} :
    firstOwner? entries name = some owner ↔
      ∃ entry ∈ entries, normalize entry.name = name ∧ entry.owner = owner := by
  constructor
  · intro hfound
    obtain ⟨entry, hentry, rfl⟩ := Option.map_eq_some_iff.1 hfound
    exact ⟨entry, List.mem_of_find?_eq_some hentry, by simpa using List.find?_some hentry, rfl⟩
  · rintro ⟨entry, hentry, rfl, rfl⟩
    exact firstOwner?_eq_some ⟨entry, hentry, rfl⟩ fun other hother hname =>
      h other hother entry hentry hname

theorem perm (h : Unambiguous entries) (hperm : entries.Perm others) : Unambiguous others :=
  fun e he f hf => h e (hperm.mem_iff.2 he) f (hperm.mem_iff.2 hf)

/-- The order of such entries does not matter. -/
theorem firstOwner?_perm (h : Unambiguous entries) (hperm : entries.Perm others) (name : String) :
    firstOwner? others name = firstOwner? entries name := by
  ext owner
  simp only [h.firstOwner?_eq_some_iff, (h.perm hperm).firstOwner?_eq_some_iff, hperm.mem_iff]

theorem filter (h : Unambiguous entries) (p : NameEntry → Bool) : Unambiguous (entries.filter p) :=
  fun e he f hf => h e (List.mem_filter.1 he).1 f (List.mem_filter.1 hf).1

theorem duplicateWarnings_eq_nil (h : Unambiguous entries) : duplicateWarnings entries = [] := by
  rw [duplicateWarnings, List.filterMap_eq_nil_iff]
  rintro ⟨entry, i⟩ hentry
  rw [Option.map_eq_none_iff, rival?, Option.filter_eq_none_iff]
  intro owner howner
  obtain ⟨other, hother, rfl⟩ := Option.map_eq_some_iff.1 howner
  have hname : normalize other.name = normalize entry.name := by simpa using List.find?_some hother
  have hmem : other ∈ entries := List.mem_of_mem_take (List.mem_of_find?_eq_some hother)
  simpa using h other hmem entry (List.fst_mem_of_mem_zipIdx hentry) hname

end Unambiguous

theorem aliasEntries_perm {categories others : List Category} (h : categories.Perm others) :
    (aliasEntries categories).Perm (aliasEntries others) :=
  h.flatMap_right _

theorem keyEntries_perm {categories others : List Category} (h : categories.Perm others) :
    (keyEntries categories).Perm (keyEntries others) :=
  h.flatMap_right _

/-- Where no two units share an alias and no two share a key, any order of the categories gives the
same index, and nothing is reported. An alias of one unit may be the key of another. -/
theorem build_perm {categories others : List Category} (hperm : categories.Perm others)
    (haliases : Unambiguous (aliasEntries categories))
    (hkeys : Unambiguous (keyEntries categories)) :
    (∀ name, (build others).1.find? name = (build categories).1.find? name) ∧
      (build others).1.Perm (build categories).1 ∧ (build others).2 = [] := by
  have hnamed : Unambiguous ((aliasEntries categories).filter isNamed) := haliases.filter isNamed
  have haliasPerm := (aliasEntries_perm hperm).filter isNamed
  have hsame (name : String) : (build others).1.find? name = (build categories).1.find? name := by
    rw [find?_build, find?_build, hnamed.firstOwner?_perm haliasPerm,
      hkeys.firstOwner?_perm (keyEntries_perm hperm)]
  refine ⟨hsame, ?_, ?_⟩
  · rw [List.perm_ext_iff_of_nodup (.of_map _ (nodup_build others))
      (.of_map _ (nodup_build categories))]
    exact fun named => by rw [mem_build_iff, mem_build_iff, hsame]
  · rw [build_snd, (hnamed.perm haliasPerm).duplicateWarnings_eq_nil]

/-- An alias of the minute goes before the key of the metre, whichever category comes first. -/
theorem build_perm_minute :
    [oneUnit "length" "metre" ["m"], oneUnit "time" "minute" ["metre"]].Perm
      [oneUnit "time" "minute" ["metre"], oneUnit "length" "metre" ["m"]] ∧
    Unambiguous (aliasEntries [oneUnit "length" "metre" ["m"], oneUnit "time" "minute" ["metre"]]) ∧
    Unambiguous (keyEntries [oneUnit "length" "metre" ["m"], oneUnit "time" "minute" ["metre"]]) ∧
    (build [oneUnit "time" "minute" ["metre"], oneUnit "length" "metre" ["m"]]).1.find? "metre" =
      some ⟨"time", "minute"⟩ := by
  have hperm : [oneUnit "length" "metre" ["m"], oneUnit "time" "minute" ["metre"]].Perm
      [oneUnit "time" "minute" ["metre"], oneUnit "length" "metre" ["m"]] := .swap _ _ _
  have haliases : Unambiguous
      (aliasEntries [oneUnit "length" "metre" ["m"], oneUnit "time" "minute" ["metre"]]) := by
    decide +kernel
  have hkeys : Unambiguous
      (keyEntries [oneUnit "length" "metre" ["m"], oneUnit "time" "minute" ["metre"]]) := by
    decide +kernel
  refine ⟨hperm, haliases, hkeys, ((build_perm hperm haliases hkeys).1 "metre").trans ?_⟩
  decide +kernel

end AliasIndex

end UnitConversion
