import UnitConversion.Proofs.Catalog.Naming
import UnitConversion.Proofs.Catalog.Registry

/-!
# Blank names

All blank texts have the empty normal form, so there is one blank name at most in a registry. A
blank alias is left out of the index, but the key of a unit is entered even if it is blank, and no
check of a document asks for more than that keys are texts. The first unit with a blank key is what
all blank texts stand for. In a text, the characters U+BD800 to U+BDFFF stand for lone surrogates,
as `Text.surrogate?` says.

* `Text.isBlankText_trimSpacing`: a key is as blank as it is written.
* `AliasIndex.find?_build_empty`: what the empty name stands for in the index of some categories.
* `Category.hasBlankKey_eq_false_iff`: documents of categories without blank keys.
* `Registry.resolve?_blank`: what blank texts stand for in a registry that was loaded.
-/

namespace UnitConversion

namespace Text

variable {p q : Char → Bool}

theorem all_dropWhile (h : ∀ c, p c = true → q c = true) (cs : List Char) :
    (cs.dropWhile p).all q = cs.all q := by
  induction cs with
  | nil => rfl
  | cons c cs ih =>
      by_cases hc : p c = true
      · rw [List.dropWhile_cons_of_pos hc, ih, List.all_cons, h c hc, Bool.true_and]
      · rw [List.dropWhile_cons_of_neg hc]

theorem all_dropWhileEnd (h : ∀ c, p c = true → q c = true) (cs : List Char) :
    (dropWhileEnd p cs).all q = cs.all q := by
  rw [dropWhileEnd, List.all_reverse, all_dropWhile h, List.all_reverse]

/-- Cutting spacing off a text makes it neither blank nor less blank. -/
theorem isBlankText_trimSpacing (s : String) :
    isBlankText (String.ofList (trimSpacing s.toList)) = isBlankText s := by
  have hspacing (c : Char) (hc : isSpacing c = true) : isBlank c = true :=
    (Bool.and_eq_true_iff.1 hc).1
  rw [isBlankText, String.toList_ofList, trimSpacing, all_dropWhileEnd hspacing,
    all_dropWhile hspacing, isBlankText]

end Text

namespace AliasIndex

/-- The unit with the first blank key of some categories. -/
def firstBlank? (categories : List Category) : Option UnitRef :=
  ((keyEntries categories).find? fun entry => Text.isBlankText entry.name).map (·.owner)

theorem firstBlank?_eq_none_iff {categories : List Category} :
    firstBlank? categories = none ↔
      ∀ c ∈ categories, ∀ u ∈ c.units, Text.isBlankText u.key = false := by
  simp only [firstBlank?, Option.map_eq_none_iff, List.find?_eq_none, keyEntries,
    List.mem_flatMap, List.mem_map, Bool.not_eq_true]
  constructor
  · exact fun h c hc u hu => h ⟨u.key, ⟨c.name, u.key⟩⟩ ⟨c, hc, u, hu, rfl⟩
  · rintro h entry ⟨c, hc, u, hu, rfl⟩
    exact h c hc u hu

/-- No alias has the empty name, so it goes to the first blank key. -/
theorem find?_build_empty (categories : List Category) :
    (build categories).1.find? "" = firstBlank? categories := by
  have haliases : firstOwner? ((aliasEntries categories).filter isNamed) "" = none := by
    rw [firstOwner?, Option.map_eq_none_iff, List.find?_eq_none]
    intro entry hentry
    rw [beq_iff_eq]
    exact isNamed_iff.1 (List.mem_filter.1 hentry).2
  have hblank : (fun entry : NameEntry => UnitText.normalize entry.name == "") =
      fun entry => Text.isBlankText entry.name := by
    funext entry
    rw [Bool.eq_iff_iff, beq_iff_eq, UnitText.normalize_eq_empty_iff]
  rw [find?_build, haliases, Option.none_or, firstOwner?, hblank, firstBlank?]

end AliasIndex

namespace Category

/-- Whether a document has a unit under a blank key. -/
def hasBlankKey (document : Json) : Bool :=
  match document.get? "units" with
  | some (.object entries) => entries.any fun entry => Text.isBlankText entry.1
  | _ => false

/-- The keys of a category are as blank as those of its document. -/
theorem hasBlankKey_eq_false_iff {document expected : Json} {category : Category}
    (h : ofDocument document expected = .ok category) :
    hasBlankKey document = false ↔ ∀ u ∈ category.units, Text.isBlankText u.key = false := by
  obtain ⟨entries, hfound, hkeys⟩ := mem_keys_of_ofDocument h
  have hall : (∀ u ∈ category.units, Text.isBlankText u.key = false) ↔
      ∀ key ∈ category.units.map (·.key), Text.isBlankText key = false := by
    rw [List.forall_mem_map]
  rw [hall, hasBlankKey, hfound, List.any_eq_false]
  constructor
  · intro hentries key hkey
    obtain ⟨entry, hentry, rfl⟩ := (hkeys key).1 hkey
    rw [Text.isBlankText_trimSpacing, ← Bool.not_eq_true]
    exact hentries entry hentry
  · intro hunits entry hentry
    rw [← Text.isBlankText_trimSpacing, Bool.not_eq_true]
    exact hunits _ ((hkeys _).2 ⟨entry, hentry, rfl⟩)

end Category

namespace Registry

variable {directory : Directory} {names : List Json} {registry : Registry}

/-- A blank text stands for what the empty name stands for. -/
theorem resolve?_eq_find?_empty {token : String} (hblank : Text.isBlankText token = true) :
    registry.resolve? (.text token) = registry.aliases.find? "" := by
  rw [resolve?, UnitText.normalize_eq_empty_iff.2 hblank]

/-- In a registry that was loaded, a blank text stands for the first unit with a blank key, whatever
the aliases are. It stands for nothing just in case the index has no empty name, that is, if no
document has a unit under a blank key. -/
theorem resolve?_blank (hload : (load directory names).outcome = .ok registry) {token : String}
    (hblank : Text.isBlankText token = true) :
    registry.resolve? (.text token) = AliasIndex.firstBlank? registry.categories ∧
      (registry.resolve? (.text token) = none ↔ "" ∉ registry.aliases.map Prod.fst) ∧
      (registry.resolve? (.text token) = none ↔ ∀ c ∈ registry.categories, ∀ document,
        directory.readDocument c.name = .ok document → Category.hasBlankKey document = false) := by
  have hsound := (sound_of_load hload).1
  obtain ⟨selected, categories, -, -, -, rfl⟩ := load_eq_ok_iff.1 hload
  have hanswer : resolve? ⟨categories, (AliasIndex.build categories).1⟩ (.text token) =
      AliasIndex.firstBlank? categories := by
    rw [resolve?_eq_find?_empty hblank, AliasIndex.find?_build_empty]
  refine ⟨hanswer, ?_, ?_⟩
  · rw [resolve?_eq_find?_empty hblank, AliasIndex.find?_eq_none_iff]
  · rw [hanswer, AliasIndex.firstBlank?_eq_none_iff]
    refine forall₂_congr fun c hc => ?_
    -- The category is that of the document under its name.
    obtain ⟨document, hread, hcategory, -⟩ := loadCategory_eq_ok_iff.1 (hsound.loads c hc)
    rw [← Category.hasBlankKey_eq_false_iff hcategory]
    constructor
    · intro h other hother
      obtain rfl : document = other := Except.ok.inj (hread.symm.trans hother)
      exact h
    · exact fun h => h document hread

/-- A directory with one document, in which the foot stands under an empty key. -/
def namelessDirectory : Directory :=
  ⟨⟨[.ofPath "units" [("length.json", .document (Bundled.category "length" "metre" "Distances" [
    Bundled.scaled "metre" "Metre" "m" ["m"] (.integer 1),
    Bundled.scaled "" "Foot" "ft" ["ft"] (.text "0.3048")]))]], 0⟩, "units"⟩

/-- The registry of this directory. -/
def nameless : Registry :=
  let unit (key name symbol : String) (factor : Decimal) : MeasurementUnit :=
    ⟨key, name, symbol, [symbol], .factor factor, some factor, none, none⟩
  let ref (key : String) : UnitRef := ⟨"length", key⟩
  ⟨[⟨"length", "metre",
    [unit "metre" "Metre" "m" (.ofNat 1), unit "" "Foot" "ft" (.finite false 3048 (-4))],
    some "Distances"⟩], [("m", ref "metre"), ("ft", ref ""), ("metre", ref "metre"), ("", ref "")]⟩

theorem load_nameless : (load namelessDirectory [.text "length"]).outcome = .ok nameless := by
  with_unfolding_all rfl

/-- A tab and a wide space stand for the foot. -/
theorem resolve?_blank_foot :
    (load namelessDirectory [.text "length"]).outcome = .ok nameless ∧
      Text.isBlankText "\t\u2003" = true ∧
      nameless.resolve? (.text "\t\u2003") = some ⟨"length", ""⟩ := by
  have hblank : Text.isBlankText "\t\u2003" = true := by decide
  exact ⟨load_nameless, hblank, (resolve?_blank load_nameless hblank).1.trans (by decide)⟩

/-- Not in every registry that is loaded do blank texts stand for nothing. -/
theorem not_forall_blank_unresolved : ¬∀ directory names registry,
    (load directory names).outcome = .ok registry → ∀ token, Text.isBlankText token = true →
      registry.resolve? (.text token) = none := by
  intro h
  have hnone := h namelessDirectory [.text "length"] nameless load_nameless "" (by decide)
  have hfoot : nameless.resolve? (.text "") = some ⟨"length", ""⟩ := by decide
  rw [hfoot] at hnone
  cases hnone

end Registry

end UnitConversion
