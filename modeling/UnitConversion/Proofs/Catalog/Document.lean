import UnitConversion.Catalog.Bundled
import UnitConversion.Catalog.Category
import Mathlib

/-!
# Documents that are taken as they are written

A category document whose texts have no spacing around them is read as it stands: its units keep
their names, symbols, aliases and keys, and a factor or two formulas decide their rules.

* `Spelled`: texts beside their characters. Conditions on texts are decided on the characters.
* `isTidy`: the characters of a text that a check takes as it is.
* `Reads`: the unit that an entry of a document describes.
* `reads_scaled`, `reads_transformed`: units with a factor, and units with formulas.
* `Category.ofDocument_eq`: a document as a whole.
-/

namespace UnitConversion

/-- Texts beside their characters. -/
def Spelled (texts : List String) (spellings : List (List Char)) : Prop :=
  List.Forall₂ (fun s cs => s = String.ofList cs) texts spellings

theorem Spelled.eq_map {texts : List String} {spellings : List (List Char)}
    (h : Spelled texts spellings) :
    texts = spellings.map String.ofList := by
  induction h with
  | nil => rfl
  | cons hs _ ih => rw [hs, ih, List.map_cons]

namespace Schema

/-- Whether a check takes a text as it is: there are characters, none stands for a surrogate, and
none is spacing at an end. -/
def isTidy (cs : List Char) : Bool :=
  !cs.isEmpty && !Text.hasSurrogate cs && Text.trimSpacing cs == cs

theorem text_of_tidy {cs : List Char} (h : isTidy cs = true) :
    text (.text (String.ofList cs)) = .ok (String.ofList cs) := by
  simp only [isTidy, Bool.and_eq_true, Bool.not_eq_true', beq_iff_eq] at h
  obtain ⟨⟨-, hsurrogate⟩, htrim⟩ := h
  rw [text, String.toList_ofList, hsurrogate, htrim]
  rfl

theorem filledText_of_tidy {cs : List Char} (h : isTidy cs = true) :
    filledText (.text (String.ofList cs)) = .ok (String.ofList cs) := by
  have hempty : (String.ofList cs).isEmpty = false := by
    rw [String.isEmpty_eq_false_iff]
    intro hnone
    have hcs : cs = [] := by rw [← String.toList_ofList (l := cs), hnone]; rfl
    simp [hcs, isTidy] at h
  rw [filledText, text_of_tidy h]
  simp only [hempty]
  rfl

theorem collect_itemsFrom {α : Type} {check : Json → Checked α} {values : List Json}
    {results : List α}
    (h : List.Forall₂ (fun value result => check value = .ok result) values results) (i : Nat) :
    collect (itemsFrom check i values) = .ok results := by
  induction h generalizing i with
  | nil => rfl
  | cons hvalue _ ih => simp [itemsFrom, hvalue, Checked.under, collect, ih, Except.map]

end Schema

open Schema

namespace UnitDescription

/-- The characters of an alias that are compared with those of the aliases before it. -/
def loweredChars (cs : List Char) : List Char :=
  Text.lower (Text.trimChars cs)

/-- Whether aliases break no rule: each has characters that are no blanks, and no two differ in case
only. -/
def areDistinct (aliases : List (List Char)) : Bool :=
  (aliases.map loweredChars).all (! ·.isEmpty) && decide (aliases.map loweredChars).Nodup

theorem brokenAliasRule?_eq_none {seen : List (List Char)} {aliases : List (List Char)}
    (hfilled : ∀ cs ∈ aliases, loweredChars cs ≠ []) (hnodup : (aliases.map loweredChars).Nodup)
    (hfresh : ∀ cs ∈ aliases, loweredChars cs ∉ seen) :
    brokenAliasRule? (seen.map String.ofList) (aliases.map String.ofList) = none := by
  induction aliases generalizing seen with
  | nil => rfl
  | cons cs rest ih =>
      have hlowered : Text.lowerString (Text.trim (String.ofList cs)) =
          String.ofList (loweredChars cs) := by
        rw [Text.lowerString, Text.trim, String.toList_ofList, String.toList_ofList, loweredChars]
      have hempty : (String.ofList (loweredChars cs)).isEmpty = false := by
        rw [String.isEmpty_eq_false_iff]
        intro hnone
        apply hfilled cs List.mem_cons_self
        rw [← String.toList_ofList (l := loweredChars cs), hnone]
        rfl
      have hnew : (seen.map String.ofList).contains (String.ofList (loweredChars cs)) = false := by
        rw [List.contains_eq_mem, decide_eq_false_iff_not, List.mem_map]
        rintro ⟨other, hmem, heq⟩
        exact hfresh cs List.mem_cons_self (String.ofList_injective heq ▸ hmem)
      rw [List.map_cons, List.nodup_cons] at hnodup
      rw [List.map_cons, brokenAliasRule?]
      simp only [hlowered, hempty, hnew, Bool.false_eq_true, if_false]
      rw [← List.map_cons]
      refine ih (fun c hc => hfilled c (List.mem_cons_of_mem _ hc)) hnodup.2 ?_
      intro c hc hmem
      rcases List.mem_cons.1 hmem with heq | hmem
      · exact hnodup.1 (heq ▸ List.mem_map_of_mem hc)
      · exact hfresh c (List.mem_cons_of_mem _ hc) hmem

theorem checkAliases_of_tidy {aliases : List (List Char)} (hsome : aliases ≠ [])
    (htidy : ∀ cs ∈ aliases, isTidy cs = true) (hdistinct : areDistinct aliases = true) :
    checkAliases (.list ((aliases.map String.ofList).map .text)) =
      .ok (aliases.map String.ofList) := by
  have hitems : collect (itemsFrom text 0 ((aliases.map String.ofList).map .text)) =
      .ok (aliases.map String.ofList) := by
    apply collect_itemsFrom
    rw [List.forall₂_map_left_iff, List.forall₂_same]
    intro s hs
    obtain ⟨cs, hcs, rfl⟩ := List.mem_map.1 hs
    exact text_of_tidy (htidy cs hcs)
  have hfilled : filledList text (.list ((aliases.map String.ofList).map .text)) =
      .ok (aliases.map String.ofList) := by
    rw [filledList, hitems]
    obtain ⟨cs, rest, rfl⟩ := List.exists_cons_of_ne_nil hsome
    rfl
  simp only [areDistinct, Bool.and_eq_true, List.all_map, List.all_eq_true, decide_eq_true_eq]
    at hdistinct
  have hbroken := @brokenAliasRule?_eq_none [] aliases
    (fun cs hcs hnone => by simpa [hnone] using hdistinct.1 cs hcs) hdistinct.2
    (fun cs _ => by simp)
  rw [checkAliases, hfilled]
  simp only [List.map_nil] at hbroken
  simp only [hbroken]

section

variable {name symbol toBase fromBase : String} {aliases : List String}

theorem check_scaled {factor : Json} {f : Decimal} (hname : filledText (.text name) = .ok name)
    (hsymbol : filledText (.text symbol) = .ok symbol)
    (haliases : checkAliases (.list (aliases.map .text)) = .ok aliases)
    (hfactor : positiveDecimal factor = .ok f) (key : String) :
    check (Bundled.scaled key name symbol aliases factor).2 =
      .ok ⟨name, symbol, aliases, .factor f, none, none⟩ := by
  cases factor with
  | null => cases hfactor
  | _ =>
      simp +decide [Bundled.scaled, Bundled.nameMembers, check, withKeys, required,
        lookup?, List.lookup, Schema.optional, extras, keys, hname, hsymbol, haliases,
        Checked.under, hfactor, RuleDescription.of?, Except.map]

theorem check_transformed (hname : filledText (.text name) = .ok name)
    (hsymbol : filledText (.text symbol) = .ok symbol)
    (haliases : checkAliases (.list (aliases.map .text)) = .ok aliases)
    (htoBase : filledText (.text toBase) = .ok toBase)
    (hfromBase : filledText (.text fromBase) = .ok fromBase) (key : String) :
    check (Bundled.transformed key name symbol aliases toBase fromBase).2 =
      .ok ⟨name, symbol, aliases, .formulas ⟨toBase, fromBase⟩ none, none, none⟩ := by
  have htexts : FormulaTexts.check
      (.object [("toBase", .text toBase), ("fromBase", .text fromBase)]) =
      .ok ⟨toBase, fromBase⟩ := by
    simp +decide [FormulaTexts.check, withKeys, required, lookup?, List.lookup, usedKey,
      extras, htoBase, hfromBase, Checked.under]
  simp +decide [Bundled.transformed, Bundled.nameMembers, check, withKeys, required,
    lookup?, List.lookup, Schema.optional, extras, keys, hname, hsymbol, haliases, Checked.under,
    htexts, RuleDescription.of?, Except.map]

end

end UnitDescription

namespace Formula

/-- The formula that some characters are, if they are one. -/
def ofChars? (cs : List Char) : Option Formula :=
  match normalForm cs with
  | .error _ => none
  | .ok normalized =>
    match parse normalized with
    | .error _ => none
    | .ok e => some ⟨String.ofList cs, String.ofList normalized, e⟩

theorem ofText_of_ofChars? {cs : List Char} {f : Formula} (h : ofChars? cs = some f) :
    ofText (String.ofList cs) = .ok f := by
  unfold ofChars? at h
  split at h
  · cases h
  · next normalized hnormal =>
      split at h
      · cases h
      · next e hparse =>
          rw [← Option.some.inj h]
          simp [ofText, String.toList_ofList, hnormal, hparse, bind, Except.bind]

end Formula

/-- The unit that an entry of a document describes. -/
def Reads (entry : String × Json) (unit : MeasurementUnit) : Prop :=
  ∃ d, CategoryDescription.checkUnit entry.1 entry.2 = .ok (unit.key, d) ∧
    MeasurementUnit.ofDescription unit.key d = .ok unit

/-- Whether the texts of a unit can be taken as they are. -/
def isReadable (key name symbol : List Char) (aliases : List (List Char)) : Bool :=
  isTidy key && isTidy name && isTidy symbol && !aliases.isEmpty && aliases.all isTidy &&
    UnitDescription.areDistinct aliases

section

variable {key name symbol : List Char} {aliases : List (List Char)}

theorem isReadable_iff : isReadable key name symbol aliases = true ↔
    isTidy key = true ∧ isTidy name = true ∧ isTidy symbol = true ∧ aliases ≠ [] ∧
      (∀ cs ∈ aliases, isTidy cs = true) ∧ UnitDescription.areDistinct aliases = true := by
  simp only [isReadable, Bool.and_eq_true, Bool.not_eq_true', List.isEmpty_eq_false_iff,
    List.all_eq_true, and_assoc]

/-- The check of an entry is that of the unit under a key that stays as it is. -/
theorem checkUnit_of_tidy {value : Json} {d : UnitDescription} (hkey : isTidy key = true)
    (hvalue : UnitDescription.check value = .ok d) :
    CategoryDescription.checkUnit (String.ofList key) value = .ok (String.ofList key, d) := by
  have hchecked : CategoryDescription.checkKey (String.ofList key) = .ok (String.ofList key) := by
    rw [CategoryDescription.checkKey, text_of_tidy hkey]
    rfl
  rw [CategoryDescription.checkUnit, hchecked, hvalue]
  rfl

theorem reads_scaled {factor : Json} {f : Decimal}
    (hreadable : isReadable key name symbol aliases = true)
    (hfactor : positiveDecimal factor = .ok f) :
    Reads (Bundled.scaled (String.ofList key) (String.ofList name) (String.ofList symbol)
        (aliases.map String.ofList) factor)
      ⟨String.ofList key, String.ofList name, String.ofList symbol,
        aliases.map String.ofList, .factor f, some f, none, none⟩ := by
  obtain ⟨hkey, hname, hsymbol, hsome, htidy, hdistinct⟩ := isReadable_iff.1 hreadable
  have hchecked := UnitDescription.check_scaled (filledText_of_tidy hname)
    (filledText_of_tidy hsymbol) (UnitDescription.checkAliases_of_tidy hsome htidy hdistinct)
    hfactor (String.ofList key)
  exact ⟨_, checkUnit_of_tidy hkey hchecked, rfl⟩

theorem reads_transformed {toBase fromBase : List Char} {f h : Formula}
    (hreadable : isReadable key name symbol aliases = true) (htoBase : isTidy toBase = true)
    (hfromBase : isTidy fromBase = true) (hf : Formula.ofText (String.ofList toBase) = .ok f)
    (hh : Formula.ofText (String.ofList fromBase) = .ok h) :
    Reads (Bundled.transformed (String.ofList key) (String.ofList name) (String.ofList symbol)
        (aliases.map String.ofList) (String.ofList toBase) (String.ofList fromBase))
      ⟨String.ofList key, String.ofList name, String.ofList symbol, aliases.map String.ofList,
        .formulas f h, MeasurementUnit.factorOf f, none, none⟩ := by
  obtain ⟨hkey, hname, hsymbol, hsome, htidy, hdistinct⟩ := isReadable_iff.1 hreadable
  have hchecked := UnitDescription.check_transformed (filledText_of_tidy hname)
    (filledText_of_tidy hsymbol) (UnitDescription.checkAliases_of_tidy hsome htidy hdistinct)
    (filledText_of_tidy htoBase) (filledText_of_tidy hfromBase) (String.ofList key)
  refine ⟨_, checkUnit_of_tidy hkey hchecked, ?_⟩
  simp [MeasurementUnit.ofDescription, MeasurementUnit.ruleOf, MeasurementUnit.readFormula, hf, hh,
    Except.mapError, bind, Except.bind]

end

namespace Association

variable {κ α : Type} [DecidableEq κ]

theorem put_of_not_mem {entries : List (κ × α)} {key : κ}
    (hkey : key ∉ entries.map Prod.fst) (value : α) :
    put entries key value = entries ++ [(key, value)] := by
  induction entries with
  | nil => rfl
  | cons entry entries ih =>
      rw [List.map_cons, List.mem_cons, not_or] at hkey
      rw [put, if_neg (Ne.symm hkey.1), ih hkey.2, List.cons_append]

/-- Putting entries with different keys one after the other keeps them as they are. -/
theorem foldl_put {before entries : List (κ × α)}
    (hnodup : ((before ++ entries).map Prod.fst).Nodup) :
    entries.foldl (fun all entry => put all entry.1 entry.2) before = before ++ entries := by
  induction entries generalizing before with
  | nil => simp
  | cons entry entries ih =>
      have hkey : entry.1 ∉ before.map Prod.fst := by
        intro hmem
        rw [List.map_append, List.nodup_append] at hnodup
        exact hnodup.2.2 _ hmem _ (by simp) rfl
      rw [List.foldl_cons, put_of_not_mem hkey, ih (by simpa using hnodup)]
      simp

end Association

namespace Category

/-- The descriptions that lie between the entries of a document and its units. -/
theorem exists_descriptions {entries : List (String × Json)} {units : List MeasurementUnit}
    (hentries : List.Forall₂ Reads entries units) :
    ∃ described : List (String × UnitDescription),
      collect (CategoryDescription.checkEach entries) = .ok described ∧
      described.map Prod.fst = units.map (·.key) ∧
      described.mapM (fun u => MeasurementUnit.ofDescription u.1 u.2) = .ok units := by
  induction hentries with
  | nil => exact ⟨[], rfl, rfl, rfl⟩
  | @cons entry unit entries units hentry _ ih =>
      obtain ⟨d, hchecked, hunit⟩ := hentry
      obtain ⟨described, hcollected, hkeys, hunits⟩ := ih
      refine ⟨(unit.key, d) :: described, ?_, by simp [hkeys], ?_⟩
      · have hcons : CategoryDescription.checkEach (entry :: entries) =
            .ok (unit.key, d) :: CategoryDescription.checkEach entries := by
          rw [← hchecked]
          rfl
        rw [hcons, collect, hcollected]
        rfl
      · rw [List.mapM_cons, hunit, hunits]
        rfl

variable {name baseUnit description : String} {entries : List (String × Json)}
  {units : List MeasurementUnit}

theorem describeDocument_eq {described : List (String × UnitDescription)}
    (hname : filledText (.text name) = .ok name)
    (hbaseUnit : filledText (.text baseUnit) = .ok baseUnit)
    (hdescription : text (.text description) = .ok description)
    (hunits : CategoryDescription.checkUnits (.object entries) = .ok described) :
    describeDocument (Bundled.category name baseUnit description entries) =
      .ok ⟨name, baseUnit, some description, described⟩ := by
  simp +decide [describeDocument, Bundled.category, describe, CategoryDescription.check,
    withKeys, required, lookup?, List.lookup, Schema.optional, extras, usedKey, hname, hbaseUnit,
    hdescription, hunits, Checked.under, Except.map]

/-- A document with tidy texts, different keys and a base unit that relates to itself by the
identity is the category of its units. -/
theorem ofDocument_eq (hname : filledText (.text name) = .ok name)
    (hbaseUnit : filledText (.text baseUnit) = .ok baseUnit)
    (hdescription : text (.text description) = .ok description)
    (hentries : List.Forall₂ Reads entries units) (hnodup : (units.map (·.key)).Nodup)
    (hidentity : (units.find? (·.key == baseUnit)).any MeasurementUnit.isIdentity = true) :
    ofDocument (Bundled.category name baseUnit description entries) (.text name) =
      .ok ⟨name, baseUnit, units, some description⟩ := by
  obtain ⟨described, hcollected, hkeys, hunits⟩ := exists_descriptions hentries
  have hput : described.foldl (fun all u => Association.put all u.1 u.2) [] = described := by
    simpa using @Association.foldl_put _ _ _ [] described (by simpa [hkeys] using hnodup)
  have hbase : baseUnit ∈ described.map Prod.fst := by
    rw [hkeys]
    cases hfound : units.find? (·.key == baseUnit) with
    | none => simp [hfound] at hidentity
    | some base =>
        have hkey : base.key = baseUnit := by simpa using List.find?_some hfound
        exact hkey ▸ List.mem_map_of_mem (List.mem_of_find?_eq_some hfound)
  have hchecked : CategoryDescription.checkUnits (.object entries) = .ok described := by
    cases described with
    | nil => simp at hbase
    | cons u us =>
        rw [CategoryDescription.checkUnits, hcollected]
        simp only [hput]
  have hany : described.any (·.1 == baseUnit) = true := by
    obtain ⟨u, hu, hkey⟩ := List.mem_map.1 hbase
    exact List.any_eq_true.2 ⟨u, hu, by simpa using hkey⟩
  have hdescribed := describeDocument_eq hname hbaseUnit hdescription hchecked
  simp only [ofDocument, hdescribed, ofDescription, ofOwnDescription, Json.isText, hany, hunits,
    unit?, hidentity, beq_self_eq_true, Bool.not_true, Bool.false_eq_true, if_true, if_false, bind,
    Except.bind, pure, Except.pure, Except.mapError]

end Category

end UnitConversion
