import UnitConversion.Proofs.Catalog.Audit
import UnitConversion.Proofs.Catalog.Document
import UnitConversion.Proofs.Catalog.Naming
import UnitConversion.Proofs.UnitText

/-!
# Documents as pages of characters

A page holds what a category document says, with the characters of its texts. Whether the document
is taken as it is written is computed from the page, and so is the category that it then is.

* `Row.reads`: the unit of an entry.
* `Page.ofDocument_eq`: the category of a document.
* `Page.fits_spec`: the rules of a category are of the kinds that are known to return.
* `Page.pairwise_of_marks`: units are told apart by numbers for their names.
* `Page.resolve?_key`: the keys of units whose names do not collide stand for the units.
-/

namespace UnitConversion

open Schema

/-- An entry of a document, with the characters of its texts. -/
inductive Row where
  | scaled (key name symbol : List Char) (aliases : List (List Char)) (factor : Json)
  | transformed (key name symbol : List Char) (aliases : List (List Char))
      (toBase fromBase : List Char)

namespace Row

/-- The entries of documents beside their characters. -/
inductive Spells : String × Json → Row → Prop where
  | scaled {k n s : List Char} {aliases : List String} {as : List (List Char)} {factor : Json}
      (haliases : Spelled aliases as) :
      Spells (Bundled.scaled (String.ofList k) (String.ofList n) (String.ofList s) aliases factor)
        (scaled k n s as factor)
  | transformed {k n s a b : List Char} {aliases : List String} {as : List (List Char)}
      (haliases : Spelled aliases as) :
      Spells (Bundled.transformed (String.ofList k) (String.ofList n) (String.ofList s) aliases
        (String.ofList a) (String.ofList b)) (transformed k n s as a b)

/-- The key of the unit. -/
def key : Row → List Char
  | scaled k .. => k
  | transformed k .. => k

/-- The aliases of the unit. -/
def aliases : Row → List (List Char)
  | scaled _ _ _ as _ => as
  | transformed _ _ _ as .. => as

/-- The names in normal form that the unit goes by. -/
def names (row : Row) : List (List Char) :=
  (row.key :: row.aliases).map UnitText.normalChars

/-- The unit, if its factor is positive or its formulas can be read. -/
def unit? : Row → Option MeasurementUnit
  | scaled k n s as factor =>
    match positiveDecimal factor with
    | .error _ => none
    | .ok f =>
      some ⟨String.ofList k, String.ofList n, String.ofList s, as.map String.ofList,
        .factor f, some f, none, none⟩
  | transformed k n s as a b =>
    match Formula.ofChars? a, Formula.ofChars? b with
    | some f, some g =>
      some ⟨String.ofList k, String.ofList n, String.ofList s, as.map String.ofList, .formulas f g,
        MeasurementUnit.factorOf f, none, none⟩
    | _, _ => none

/-- Whether the texts can be taken as they are. -/
def isTaken : Row → Bool
  | scaled k n s as _ => isReadable k n s as
  | transformed k n s as a b => isReadable k n s as && isTidy a && isTidy b

theorem unit?_names {row : Row} {unit : MeasurementUnit} (hunit : row.unit? = some unit) :
    unit.key = String.ofList row.key ∧ unit.aliases = row.aliases.map String.ofList := by
  cases row with
  | scaled k n s as factor =>
      simp only [unit?] at hunit
      split at hunit
      · cases hunit
      · rw [← Option.some.inj hunit]
        exact ⟨rfl, rfl⟩
  | transformed k n s as a b =>
      simp only [unit?] at hunit
      split at hunit
      · rw [← Option.some.inj hunit]
        exact ⟨rfl, rfl⟩
      · cases hunit

/-- An entry with tidy texts describes the unit that its characters give. -/
theorem reads {entry : String × Json} {row : Row} {unit : MeasurementUnit}
    (hspells : Spells entry row) (htaken : row.isTaken = true) (hunit : row.unit? = some unit) :
    Reads entry unit := by
  cases hspells with
  | scaled haliases =>
      simp only [unit?] at hunit
      split at hunit
      · cases hunit
      · next f hfactor =>
          rw [haliases.eq_map, ← Option.some.inj hunit]
          exact reads_scaled htaken hfactor
  | transformed haliases =>
      simp only [isTaken, Bool.and_eq_true] at htaken
      simp only [unit?] at hunit
      split at hunit
      · next f g hf hg =>
          rw [haliases.eq_map, ← Option.some.inj hunit]
          exact reads_transformed htaken.1.1 htaken.1.2 htaken.2 (Formula.ofText_of_ofChars? hf)
            (Formula.ofText_of_ofChars? hg)
      · cases hunit

end Row

/-- What a category document says, with the characters of its texts. -/
structure Page where
  name : List Char
  baseUnit : List Char
  description : List Char
  rows : List Row

namespace Page

/-- Documents beside their characters. -/
inductive Spells : String × Json → Page → Prop where
  | intro {n b d : List Char} {entries : List (String × Json)} {rows : List Row}
      (hrows : List.Forall₂ Row.Spells entries rows) :
      Spells (String.ofList n,
        Bundled.category (String.ofList n) (String.ofList b) (String.ofList d) entries)
          ⟨n, b, d, rows⟩

/-- The units of the rows. -/
def units (page : Page) : List MeasurementUnit :=
  page.rows.filterMap Row.unit?

/-- The category of a document that is taken as it is written. -/
def category (page : Page) : Category :=
  ⟨String.ofList page.name, String.ofList page.baseUnit, page.units,
    some (String.ofList page.description)⟩

/-- Whether the first row is that of a base unit. -/
def startsWithBase (page : Page) : Bool :=
  match page.rows with
  | row :: _ => row.key == page.baseUnit && row.unit?.any MeasurementUnit.isIdentity
  | [] => false

/-- Whether a document is taken as it is written. -/
def isTaken (page : Page) : Bool :=
  isTidy page.name && isTidy page.baseUnit && isTidy page.description && page.startsWithBase &&
    page.rows.all (fun row => row.isTaken && row.unit?.isSome) &&
      decide (page.rows.map Row.key).Nodup

theorem reads_units {entries : List (String × Json)} {rows : List Row}
    (hrows : List.Forall₂ Row.Spells entries rows)
    (htaken : ∀ row ∈ rows, row.isTaken = true ∧ row.unit?.isSome = true) :
    List.Forall₂ Reads entries (rows.filterMap Row.unit?) := by
  induction hrows with
  | nil => exact .nil
  | @cons entry row entries rows hrow _ ih =>
      obtain ⟨hrowTaken, hsome⟩ := htaken row List.mem_cons_self
      obtain ⟨unit, hunit⟩ := Option.isSome_iff_exists.1 hsome
      rw [List.filterMap_cons, hunit]
      exact .cons (Row.reads hrow hrowTaken hunit)
        (ih fun r hr => htaken r (List.mem_cons_of_mem _ hr))

/-- The keys of the units are those of their rows. -/
theorem map_key_units {page : Page} (hsome : ∀ row ∈ page.rows, row.unit?.isSome = true) :
    page.units.map (·.key) = (page.rows.map Row.key).map String.ofList := by
  obtain ⟨name, baseUnit, description, rows⟩ := page
  change (rows.filterMap Row.unit?).map (·.key) = (rows.map Row.key).map String.ofList
  induction rows with
  | nil => rfl
  | cons row rows ih =>
      obtain ⟨unit, hunit⟩ := Option.isSome_iff_exists.1 (hsome row List.mem_cons_self)
      rw [List.filterMap_cons, hunit, List.map_cons, List.map_cons, List.map_cons,
        (Row.unit?_names hunit).1, ih fun r hr => hsome r (List.mem_cons_of_mem _ hr)]

theorem startsWithBase_spec {page : Page} (h : page.startsWithBase = true) :
    (page.units.find? (·.key == String.ofList page.baseUnit)).any
      MeasurementUnit.isIdentity = true := by
  unfold startsWithBase at h
  split at h
  · next row rows hrows =>
      rw [Bool.and_eq_true, beq_iff_eq, Option.any_eq_true] at h
      obtain ⟨hkey, unit, hunit, hidentity⟩ := h
      have hname := (Row.unit?_names hunit).1
      rw [units, hrows, List.filterMap_cons, hunit, List.find?_cons, hname, hkey]
      simpa using hidentity
  · cases h

theorem isTaken_iff {page : Page} : page.isTaken = true ↔
    isTidy page.name = true ∧ isTidy page.baseUnit = true ∧ isTidy page.description = true ∧
      page.startsWithBase = true ∧
      (∀ row ∈ page.rows, row.isTaken = true ∧ row.unit?.isSome = true) ∧
      (page.rows.map Row.key).Nodup := by
  simp only [isTaken, Bool.and_eq_true, List.all_eq_true, decide_eq_true_eq, and_assoc]

theorem nodup_keys {page : Page} (htaken : page.isTaken = true) :
    (page.units.map (·.key)).Nodup := by
  obtain ⟨-, -, -, -, hall, hnodup⟩ := isTaken_iff.1 htaken
  rw [map_key_units fun row hrow => (hall row hrow).2]
  exact hnodup.map fun _ _ h => String.ofList_injective h

/-- A document that is taken as it is written is the category of its page. -/
theorem ofDocument_eq {document : String × Json} {page : Page} (hspells : page.Spells document)
    (htaken : page.isTaken = true) :
    Category.ofDocument document.2 (.text document.1) = .ok page.category := by
  obtain ⟨hname, hbase, hdescription, hstarts, hall, -⟩ := isTaken_iff.1 htaken
  have hnodup := nodup_keys htaken
  obtain ⟨hrows⟩ := hspells
  exact Category.ofDocument_eq (filledText_of_tidy hname) (filledText_of_tidy hbase)
    (text_of_tidy hdescription) (reads_units hrows hall) hnodup (startsWithBase_spec hstarts)

end Page

/-- What a unit of temperature is called. -/
def Scale.name : Scale → String
  | kelvin => "kelvin"
  | celsius => "celsius"
  | fahrenheit => "fahrenheit"
  | rankine => "rankine"

theorem Scale.name_injective : Function.Injective Scale.name := by
  intro scale scale' h
  cases scale <;> cases scale' <;> first | rfl | exact absurd h (by decide)

/-- A unit of temperature has the rule of the scale that it is called after. -/
def MeasurementUnit.FitsScale (unit : MeasurementUnit) : Prop :=
  ∃ scale : Scale, unit.key = scale.name ∧ unit.rule.IsScale scale

/-- A unit relates to the base unit by a monomial in each direction. -/
def MeasurementUnit.FitsMonomials (unit : MeasurementUnit) : Prop :=
  ∃ there back : Monomial, unit.rule.Proportional there back

/-- The units of temperature have the rules of scales, and those of other categories are
proportional. -/
structure Category.Fits (category : Category) : Prop where
  temperature : category.name = "temperature" → ∀ unit ∈ category.units, unit.FitsScale
  other : category.name ≠ "temperature" → ∀ unit ∈ category.units, unit.FitsMonomials

theorem Category.Fits.audit_exists_ok {category : Category} (h : category.Fits) :
    ∃ findings, category.audit = .ok findings := by
  apply Category.audit_exists_ok
  intro unit hunit
  by_cases hname : category.name = "temperature"
  · obtain ⟨scale, -, hrule⟩ := h.temperature hname unit hunit
    exact hrule.returning
  · obtain ⟨there, back, hrule⟩ := h.other hname unit hunit
    exact hrule.returning

namespace Row

/-- Whether the unit is one of the scales of temperature. -/
def fitsScale (row : Row) : Bool :=
  row.unit?.any fun unit => unit.rule.scale?.any fun scale => row.key == scale.name.toList

/-- Whether the unit is proportional to the base unit. -/
def fitsMonomials (row : Row) : Bool :=
  row.unit?.any (·.rule.isProportional)

theorem fitsScale_spec {row : Row} {unit : MeasurementUnit} (hunit : row.unit? = some unit)
    (h : row.fitsScale = true) : unit.FitsScale := by
  simp only [fitsScale, hunit, Option.any_some, Option.any_eq_true, beq_iff_eq] at h
  obtain ⟨scale, hscale, hkey⟩ := h
  refine ⟨scale, ?_, Rule.isScale_of_scale? hscale⟩
  rw [(unit?_names hunit).1, hkey, String.ofList_toList]

theorem fitsMonomials_spec {row : Row} {unit : MeasurementUnit} (hunit : row.unit? = some unit)
    (h : row.fitsMonomials = true) : unit.FitsMonomials := by
  simp only [fitsMonomials, hunit, Option.any_some] at h
  exact Rule.exists_proportional h

end Row

namespace Page

/-- Whether the rules are of the kinds that the name of the category asks for. -/
def fits (page : Page) : Bool :=
  if page.name == "temperature".toList then page.rows.all Row.fitsScale
  else page.rows.all Row.fitsMonomials

theorem mem_units {page : Page} {unit : MeasurementUnit} :
    unit ∈ page.units ↔ ∃ row ∈ page.rows, row.unit? = some unit :=
  List.mem_filterMap

theorem fits_spec {page : Page} (h : page.fits = true) : page.category.Fits := by
  have hname : page.category.name = "temperature" ↔ (page.name == "temperature".toList) = true := by
    rw [beq_iff_eq, category, ← String.toList_inj, String.toList_ofList]
  unfold fits at h
  constructor
  · intro htemperature unit hunit
    rw [if_pos (hname.1 htemperature), List.all_eq_true] at h
    obtain ⟨row, hrow, hunit⟩ := mem_units.1 hunit
    exact Row.fitsScale_spec hunit (h row hrow)
  · intro hother unit hunit
    rw [if_neg fun heq => hother (hname.2 heq), List.all_eq_true] at h
    obtain ⟨row, hrow, hunit⟩ := mem_units.1 hunit
    exact Row.fitsMonomials_spec hunit (h row hrow)

/-- The rows of some pages, each with the name of its category. -/
def namedRows (pages : List Page) : List (List Char × Row) :=
  pages.flatMap fun page => page.rows.map fun row => (page.name, row)

/-- The unit that a row gives, by its category's name and its key. -/
def refOf (named : List Char × Row) : UnitRef :=
  ⟨String.ofList named.1, String.ofList named.2.key⟩

/-- Every entry of the index of some pages comes from a row, whose unit owns it. -/
theorem exists_named_of_mem_entries {pages : List Page} {entry : NameEntry}
    (hentry : entry ∈ AliasIndex.aliasEntries (pages.map category) ++
      AliasIndex.keyEntries (pages.map category)) :
    ∃ named ∈ namedRows pages, entry.owner = refOf named ∧
      ∃ cs ∈ named.2.key :: named.2.aliases, entry.name = String.ofList cs := by
  have hnamed {page : Page} (hpage : page ∈ pages) {row : Row} (hrow : row ∈ page.rows) :
      (page.name, row) ∈ namedRows pages :=
    List.mem_flatMap.2 ⟨page, hpage, List.mem_map_of_mem hrow⟩
  rcases List.mem_append.1 hentry with halias | hkey
  · simp only [AliasIndex.aliasEntries, List.mem_flatMap, List.mem_map] at halias
    obtain ⟨_, ⟨page, hpage, rfl⟩, unit, hunit, name, hname, rfl⟩ := halias
    obtain ⟨row, hrow, hunit⟩ := mem_units.1 hunit
    obtain ⟨hkey, haliases⟩ := Row.unit?_names hunit
    rw [haliases, List.mem_map] at hname
    obtain ⟨cs, hcs, rfl⟩ := hname
    exact ⟨_, hnamed hpage hrow, by rw [refOf, hkey]; rfl, cs, List.mem_cons_of_mem _ hcs, rfl⟩
  · simp only [AliasIndex.keyEntries, List.mem_flatMap, List.mem_map] at hkey
    obtain ⟨_, ⟨page, hpage, rfl⟩, unit, hunit, rfl⟩ := hkey
    obtain ⟨row, hrow, hunit⟩ := mem_units.1 hunit
    have hkey := (Row.unit?_names hunit).1
    exact ⟨_, hnamed hpage hrow, by rw [refOf, hkey]; rfl, row.key, List.mem_cons_self, hkey⟩

/-- Whether neither of two units goes by the name that is the other's key. -/
def areApart (names names' : List (List Char)) : Bool :=
  match names, names' with
  | key :: _, key' :: _ => !names'.contains key && !names.contains key'
  | _, _ => false

/-- A number for a text, by which texts can be told apart. -/
def markOf (cs : List Char) : Nat :=
  cs.foldl (fun mark c => (31 * mark + c.toNat) % 1048573) 0

/-- The marks of the keys and of all names of some units, as the bits of two numbers, if they tell
the units apart. Each unit is compared with the collected marks and not with the other units one by
one. -/
def marks? : List (List (List Char)) → Option (Nat × Nat)
  | [] => some (0, 0)
  | [] :: _ => none
  | (key :: aliases) :: rest =>
    match marks? rest with
    | none => none
    | some (keys, names) =>
      if names.testBit (markOf key) ||
        (key :: aliases).any (fun name => keys.testBit (markOf name)) then none
      else some (1 <<< markOf key ||| keys, Text.maskOf ((key :: aliases).map markOf) ||| names)

theorem marks?_spec {units : List (List (List Char))} {keys names : Nat}
    (h : marks? units = some (keys, names)) :
    units.Pairwise (fun x y => areApart x y = true) ∧
      ∀ unit ∈ units, ∃ key aliases, unit = key :: aliases ∧ keys.testBit (markOf key) = true ∧
        ∀ name ∈ unit, names.testBit (markOf name) = true := by
  induction units generalizing keys names with
  | nil => simp
  | cons unit rest ih =>
      cases unit with
      | nil => simp [marks?] at h
      | cons key aliases =>
          cases hrest : marks? rest with
          | none => simp [marks?, hrest] at h
          | some collected =>
              obtain ⟨keys', names'⟩ := collected
              obtain ⟨hpairwise, hmarked⟩ := ih hrest
              simp only [marks?, hrest, Option.ite_none_left_eq_some, Bool.or_eq_true, not_or,
                Bool.not_eq_true, List.any_eq_false, Option.some.injEq, Prod.mk.injEq] at h
              obtain ⟨⟨hkey, hnames⟩, rfl, rfl⟩ := h
              refine ⟨List.pairwise_cons.2 ⟨fun unit hunit => ?_, hpairwise⟩, fun unit hunit => ?_⟩
              · -- A name in common would have a mark in common, and the step has found none.
                obtain ⟨key', aliases', rfl, hkey', hnames'⟩ := hmarked unit hunit
                have hleft : key ∉ key' :: aliases' := fun hmem => by
                  simp [hnames' key hmem] at hkey
                have hright : key' ∉ key :: aliases := fun hmem => by
                  simp [hnames key' hmem] at hkey'
                simp only [areApart, List.contains_eq_mem, hleft, hright, decide_false,
                  Bool.not_false, Bool.and_self]
              · rcases List.mem_cons.1 hunit with rfl | hunit
                · refine ⟨key, aliases, rfl, by simp, fun name hname => ?_⟩
                  rw [Nat.testBit_or, Text.testBit_maskOf,
                    decide_eq_true (List.mem_map_of_mem hname), Bool.true_or]
                · obtain ⟨key', aliases', rfl, hkey', hnames'⟩ := hmarked unit hunit
                  exact ⟨key', aliases', rfl, by simp [hkey'],
                    fun name hname => by simp [hnames' name hname]⟩

/-- Units that their marks tell apart are apart. -/
theorem pairwise_of_marks {units : List (List (List Char))} (h : (marks? units).isSome = true) :
    units.Pairwise fun x y => areApart x y = true := by
  obtain ⟨⟨keys, names⟩, hmarks⟩ := Option.isSome_iff_exists.1 h
  exact (marks?_spec hmarks).1

/-- The registry of the categories of some pages. -/
def registry (pages : List Page) : Registry :=
  ⟨pages.map category, (AliasIndex.build (pages.map category)).1⟩

/-- When no unit goes by another one's key, keys stand for their units. -/
theorem resolve?_key {pages : List Page}
    (hapart : (namedRows pages).Pairwise fun x y => areApart x.2.names y.2.names = true)
    {page : Page} (hpage : page ∈ pages) {unit : MeasurementUnit} (hunit : unit ∈ page.units)
    (hfilled : UnitText.normalize unit.key ≠ "") :
    (registry pages).resolve? (.text unit.key) = some ⟨page.category.name, unit.key⟩ := by
  have hentry : ⟨unit.key, ⟨page.category.name, unit.key⟩⟩ ∈
      AliasIndex.keyEntries (pages.map category) :=
    List.mem_flatMap.2 ⟨_, List.mem_map_of_mem hpage, List.mem_map.2 ⟨unit, hunit, rfl⟩⟩
  obtain ⟨row, hrow, hunit⟩ := mem_units.1 hunit
  have hkey := (Row.unit?_names hunit).1
  have hmem : (page.name, row) ∈ namedRows pages :=
    List.mem_flatMap.2 ⟨page, hpage, List.mem_map_of_mem hrow⟩
  refine AliasIndex.find?_build_of_unique hfilled ⟨_, List.mem_append_right _ hentry, rfl⟩ ?_
  intro entry hentry hname
  obtain ⟨named, hnamed, howner, cs, hcs, hspelled⟩ := exists_named_of_mem_entries hentry
  by_cases hsame : named = (page.name, row)
  · rw [howner, hsame, refOf, hkey]
    rfl
  -- An entry of another row has another name, whichever of the two rows comes first.
  exfalso
  have hnormal : UnitText.normalChars row.key ∈ named.2.names := by
    rw [hspelled, hkey, UnitText.normalize, UnitText.normalize, String.toList_ofList,
      String.toList_ofList] at hname
    exact List.mem_map.2 ⟨cs, hcs, String.ofList_injective hname⟩
  have hsymm : Std.Symm fun x y : List Char × Row => areApart x.2.names y.2.names = true := by
    refine ⟨fun x y h => ?_⟩
    simp only [areApart, Row.names, List.map_cons, Bool.and_eq_true] at h ⊢
    exact h.symm
  have h := hapart.forall hmem hnamed (Ne.symm hsame)
  simp only [areApart, Row.names, List.map_cons, Bool.and_eq_true, Bool.not_eq_true'] at h
  rw [List.contains_eq_mem, decide_eq_false_iff_not] at h
  exact h.1 (by simpa [Row.names] using hnormal)

end Page

end UnitConversion
