import UnitConversion.Proofs.Catalog.Document
import UnitConversion.Proofs.Formula.Soundness

/-!
# What the category of a document is

A document becomes a category only if all its checks pass, so what they establish holds of every
category: its name is the text of the document without the spacing around it, its units have
different keys, their formulas can be read, and one of them is the base unit.

* `CategoryDescription.checkUnits_eq_ok`: how units are described under their keys.
* `Category.category_of_describeDocument`: where the name in a description comes from.
* `Category.ofDescription_eq_ok_iff`: a description is taken under no name but its own.
* `Category.ofDocument_interrupted_iff`: the documents that are neither a category nor have a
  problem.
* `Category.wellFormed_of_ofDocument`: the category of any document is well-formed.
* `Category.mem_keys_of_ofDocument`: the keys of a category are those of its document.
-/

namespace UnitConversion

section

variable {ε ε' α β : Type}

theorem mapError_eq_ok {r : Except ε α} {f : ε → ε'} {a : α} (h : r.mapError f = .ok a) :
    r = .ok a := by
  cases r with
  | error e => cases h
  | ok b => exact congrArg Except.ok (Except.ok.inj h)

/-- The results of a step for every member of a list. -/
theorem forall₂_of_mapM_eq_ok {f : α → Except ε β} {as : List α} {bs : List β}
    (h : as.mapM f = .ok bs) :
    List.Forall₂ (fun a b => f a = .ok b) as bs := by
  induction as generalizing bs with
  | nil =>
      rw [List.mapM_nil] at h
      cases h
      exact .nil
  | cons a as ih =>
      rw [List.mapM_cons] at h
      obtain ⟨b, hb, h⟩ := Formula.bind_eq_ok h
      obtain ⟨rest, hrest, h⟩ := Formula.bind_eq_ok h
      cases h
      exact .cons hb (ih hrest)

/-- What is related to the members of a list comes from one of them. -/
theorem exists_of_forall₂ {R : α → β → Prop} {as : List α} {bs : List β}
    (h : List.Forall₂ R as bs) {b : β} (hb : b ∈ bs) : ∃ a ∈ as, R a b := by
  induction h with
  | nil => cases hb
  | cons hab _ ih =>
      rcases List.mem_cons.1 hb with rfl | hb
      · exact ⟨_, List.mem_cons_self, hab⟩
      · obtain ⟨a, ha, hrel⟩ := ih hb
        exact ⟨a, List.mem_cons_of_mem _ ha, hrel⟩

end

namespace Schema

variable {α : Type} {members : List (String × Json)} {key : String}
    {check : Json → Checked α} {a : α}

theorem Checked.under_eq_ok {checked : Checked α} (h : checked.under key = .ok a) :
    checked = .ok a := by
  cases checked with
  | error findings => cases h
  | ok b => exact h

theorem withKeys_eq_ok {checked : Checked α} (h : withKeys members checked = .ok a) :
    checked = .ok a := by
  unfold withKeys at h
  split at h
  · cases h
  · exact h

/-- A part that is there passes its check. -/
theorem required_eq_ok {others : List String} (h : required members key others check = .ok a) :
    ∃ found value, lookup? members (key :: others) = some (found, value) ∧ check value = .ok a := by
  unfold required at h
  split at h
  · cases h
  · next found value hfound => exact ⟨found, value, hfound, Checked.under_eq_ok h⟩

theorem lookup?_single (members : List (String × Json)) (key : String) :
    lookup? members [key] = (members.lookup key).map fun value => (key, value) := by
  cases h : members.lookup key <;> simp [lookup?, h]

theorem required_single_eq_ok (h : required members key [] check = .ok a) :
    ∃ value, members.lookup key = some value ∧ check value = .ok a := by
  obtain ⟨found, value, hfound, hvalue⟩ := required_eq_ok h
  rw [lookup?_single] at hfound
  obtain ⟨other, hother, heq⟩ := Option.map_eq_some_iff.1 hfound
  cases heq
  exact ⟨value, hother, hvalue⟩

theorem text_eq_ok {value : Json} {s : String} (h : text value = .ok s) :
    ∃ raw, value = .text raw ∧ s = String.ofList (Text.trimSpacing raw.toList) := by
  cases value with
  | text raw =>
      rw [text] at h
      split at h
      · cases h
      · exact ⟨raw, rfl, (Except.ok.inj h).symm⟩
  | _ => cases h

theorem filledText_eq_ok {value : Json} {s : String} (h : filledText value = .ok s) :
    ∃ raw, value = .text raw ∧ s = String.ofList (Text.trimSpacing raw.toList) := by
  unfold filledText at h
  split at h
  · next t ht =>
      split at h
      · cases h
      · exact text_eq_ok (ht.trans h)
  · cases h

/-- What is collected are the results of the checks. -/
theorem forall₂_of_collect {β : Type} {f : β → Checked α} {bs : List β} {as : List α}
    (h : collect (bs.map f) = .ok as) : List.Forall₂ (fun b a => f b = .ok a) bs as := by
  induction bs generalizing as with
  | nil =>
      cases h
      exact .nil
  | cons b bs ih =>
      rw [List.map_cons] at h
      cases hfirst : f b with
      | error findings =>
          rw [hfirst] at h
          cases h
      | ok first =>
          cases hrest : collect (bs.map f) with
          | error findings => simp [hfirst, collect, hrest, Except.map] at h
          | ok rest =>
              obtain rfl : first :: rest = as := by
                simpa [hfirst, collect, hrest, Except.map] using h
              exact .cons hfirst (ih hrest)

end Schema

open Schema

theorem Json.isText_iff {value : Json} {s : String} : value.isText s = true ↔ value = .text s := by
  cases value <;> simp [Json.isText]

namespace Association

variable {κ α : Type} [DecidableEq κ]

theorem map_fst_put (entries : List (κ × α)) (key : κ) (value : α) :
    (put entries key value).map Prod.fst =
      if key ∈ entries.map Prod.fst then entries.map Prod.fst
      else entries.map Prod.fst ++ [key] := by
  induction entries with
  | nil => rfl
  | cons entry entries ih =>
      obtain ⟨k, v⟩ := entry
      rw [put]
      by_cases hk : k = key
      · simp [hk]
      · have hne : key ≠ k := Ne.symm hk
        rw [if_neg hk, List.map_cons, ih]
        by_cases hmem : key ∈ entries.map Prod.fst <;> simp [hmem, hne]

theorem mem_map_fst_put {entries : List (κ × α)} {key k : κ} {value : α} :
    k ∈ (put entries key value).map Prod.fst ↔ k ∈ entries.map Prod.fst ∨ k = key := by
  rw [map_fst_put]
  split
  · next hold =>
      refine ⟨.inl, ?_⟩
      rintro (h | rfl)
      · exact h
      · exact hold
  · rw [List.mem_append, List.mem_singleton]

/-- The keys after some entries were put in are the old ones and theirs. -/
theorem mem_map_fst_foldl_put {before entries : List (κ × α)} {k : κ} :
    k ∈ (entries.foldl (fun all entry => put all entry.1 entry.2) before).map Prod.fst ↔
      k ∈ before.map Prod.fst ∨ k ∈ entries.map Prod.fst := by
  induction entries generalizing before with
  | nil => simp
  | cons entry entries ih =>
      rw [List.foldl_cons, ih, mem_map_fst_put, List.map_cons, List.mem_cons, or_assoc]

/-- Putting a value under a key keeps the keys apart. -/
theorem nodup_put {entries : List (κ × α)} (hnodup : (entries.map Prod.fst).Nodup)
    (key : κ) (value : α) :
    ((put entries key value).map Prod.fst).Nodup := by
  rw [map_fst_put]
  split
  · exact hnodup
  · next hmem =>
      rw [List.nodup_append]
      refine ⟨hnodup, List.nodup_singleton key, ?_⟩
      rintro k hk k' hk' rfl
      exact hmem (List.mem_singleton.1 hk' ▸ hk)

/-- So do any number of such steps. -/
theorem nodup_foldl_put {before : List (κ × α)} (hnodup : (before.map Prod.fst).Nodup)
    (entries : List (κ × α)) :
    ((entries.foldl (fun all entry => put all entry.1 entry.2) before).map Prod.fst).Nodup := by
  induction entries generalizing before with
  | nil => exact hnodup
  | cons entry entries ih => exact ih (nodup_put hnodup entry.1 entry.2)

/-- Putting a value adds no other one. -/
theorem forall_put {P : α → Prop} {entries : List (κ × α)}
    (h : ∀ entry ∈ entries, P entry.2) (key : κ) {value : α} (hvalue : P value) :
    ∀ entry ∈ put entries key value, P entry.2 := by
  induction entries with
  | nil => simpa [put] using hvalue
  | cons first entries ih =>
      obtain ⟨k, v⟩ := first
      obtain ⟨hfirst, hrest⟩ := List.forall_mem_cons.1 h
      rw [put]
      split
      · exact List.forall_mem_cons.2 ⟨hvalue, hrest⟩
      · exact List.forall_mem_cons.2 ⟨hfirst, ih hrest⟩

theorem forall_foldl_put {P : α → Prop} {before entries : List (κ × α)}
    (hbefore : ∀ entry ∈ before, P entry.2) (h : ∀ entry ∈ entries, P entry.2) :
    ∀ entry ∈ entries.foldl (fun all entry => put all entry.1 entry.2) before, P entry.2 := by
  induction entries generalizing before with
  | nil => exact hbefore
  | cons first entries ih =>
      obtain ⟨hfirst, hrest⟩ := List.forall_mem_cons.1 h
      exact ih (forall_put hbefore first.1 hfirst) hrest

end Association

namespace CategoryDescription

/-- What a description says stood in the members, and passed the checks. -/
theorem check_eq_ok {members : List (String × Json)} {d : CategoryDescription}
    (h : check members = .ok d) :
    required members "category" [] filledText = .ok d.category ∧
      required members "units" [] checkUnits = .ok d.units := by
  have h := withKeys_eq_ok h
  dsimp only at h
  split at h
  · next hcategory _ _ hunits _ =>
      cases h
      exact ⟨hcategory, hunits⟩
  · cases h

/-- A unit is described under its key without the spacing around it. -/
theorem checkUnit_eq_ok {key : String} {value : Json} {u : String × UnitDescription}
    (h : checkUnit key value = .ok u) :
    u.1 = String.ofList (Text.trimSpacing key.toList) ∧ UnitDescription.check value = .ok u.2 := by
  have h := Checked.under_eq_ok h
  split at h
  · next hkey hvalue =>
      cases h
      obtain ⟨raw, hraw, hname⟩ := text_eq_ok (Checked.under_eq_ok hkey)
      cases hraw
      exact ⟨hname, hvalue⟩
  · cases h

/-- Units are described one after the other, and a later one under the same key takes the place of
an earlier one. -/
theorem checkUnits_eq_ok {value : Json} {units : List (String × UnitDescription)}
    (h : checkUnits value = .ok units) :
    ∃ entries described, value = .object entries ∧
      List.Forall₂ (fun entry u => checkUnit entry.1 entry.2 = .ok u) entries described ∧
      units = described.foldl (fun all u => Association.put all u.1 u.2) [] := by
  cases value with
  | object entries =>
      rw [checkUnits] at h
      split at h
      · cases h
      · next described _ hdescribed =>
          exact ⟨entries, described, rfl, forall₂_of_collect hdescribed, (Except.ok.inj h).symm⟩
      · cases h
  | _ => cases h

theorem nodup_of_checkUnits {value : Json} {units : List (String × UnitDescription)}
    (h : checkUnits value = .ok units) : (units.map Prod.fst).Nodup := by
  obtain ⟨entries, described, -, -, rfl⟩ := checkUnits_eq_ok h
  exact Association.nodup_foldl_put (by simp) described

/-- Every unit that is described passed its own check. -/
theorem exists_check_of_checkUnits {value : Json} {units : List (String × UnitDescription)}
    (h : checkUnits value = .ok units) :
    ∀ u ∈ units, ∃ value, UnitDescription.check value = .ok u.2 := by
  obtain ⟨entries, described, -, hdescribed, rfl⟩ := checkUnits_eq_ok h
  refine Association.forall_foldl_put (P := fun u =>
    ∃ value, UnitDescription.check value = .ok u) (by simp) fun u hu => ?_
  obtain ⟨entry, -, hentry⟩ := exists_of_forall₂ hdescribed hu
  exact ⟨entry.2, (checkUnit_eq_ok hentry).2⟩

/-- The keys of the units that are described are those of the entries without the spacing around
them. -/
theorem mem_keys_of_checkUnits {value : Json} {units : List (String × UnitDescription)}
    (h : checkUnits value = .ok units) :
    ∃ entries, value = .object entries ∧ ∀ key, key ∈ units.map Prod.fst ↔
      ∃ entry ∈ entries, key = String.ofList (Text.trimSpacing entry.1.toList) := by
  obtain ⟨entries, described, rfl, hdescribed, rfl⟩ := checkUnits_eq_ok h
  have hkeys : described.map Prod.fst =
      entries.map fun entry => String.ofList (Text.trimSpacing entry.1.toList) := by
    rw [← List.forall₂_eq_eq_eq, List.forall₂_map_left_iff, List.forall₂_map_right_iff]
    exact hdescribed.flip.imp fun _ _ hentry => (checkUnit_eq_ok hentry).1
  refine ⟨entries, rfl, fun key => ?_⟩
  rw [Association.mem_map_fst_foldl_put, hkeys]
  simp [eq_comm]

end CategoryDescription

/-- A formula is read again from its own text. -/
theorem Formula.ofText_source {s : String} {f : Formula} (h : ofText s = .ok f) :
    ofText f.source = .ok f := by
  obtain ⟨normalized, hnormal, hrest⟩ := Formula.bind_eq_ok h
  obtain ⟨expr, hexpr, hrest⟩ := Formula.bind_eq_ok hrest
  obtain rfl := Except.ok.inj hrest
  exact h

/-- Whether the formulas of a rule can be read from their own texts. -/
def Rule.IsReadable : Rule → Prop
  | .factor _ => True
  | .formulas f g => Formula.ofText f.source = .ok f ∧ Formula.ofText g.source = .ok g

namespace MeasurementUnit

theorem readFormula_eq_ok {key label formula : String} {f : Formula}
    (h : readFormula key label formula = .ok f) : Formula.ofText f.source = .ok f :=
  Formula.ofText_source (mapError_eq_ok h)

theorem ruleOf_eq_ok {key : String} {description : RuleDescription} {rule : Rule}
    {factor : Option Decimal} (h : ruleOf key description = .ok (rule, factor)) :
    rule.IsReadable := by
  cases description with
  | factor f =>
      cases h
      exact trivial
  | formulas texts known =>
      obtain ⟨f, hf, h⟩ := Formula.bind_eq_ok h
      obtain ⟨g, hg, h⟩ := Formula.bind_eq_ok h
      cases h
      exact ⟨readFormula_eq_ok hf, readFormula_eq_ok hg⟩

/-- A described unit has the key that it is described under. -/
theorem ofDescription_eq_ok {key : String} {d : UnitDescription} {unit : MeasurementUnit}
    (h : ofDescription key d = .ok unit) : unit.key = key ∧ unit.rule.IsReadable := by
  obtain ⟨⟨rule, factor⟩, hrule, h⟩ := Formula.bind_eq_ok h
  cases h
  exact ⟨rfl, ruleOf_eq_ok hrule⟩

end MeasurementUnit

namespace Category

/-- What the checks of a document establish for its category. -/
structure WellFormed (category : Category) : Prop where
  keys : (category.units.map (·.key)).Nodup
  formulas : ∀ unit ∈ category.units, unit.rule.IsReadable
  base : ∃ unit, category.unit? category.baseUnit = some unit ∧ unit.isIdentity = true

variable {d : CategoryDescription} {category : Category}

theorem describe_eq_ok_iff {members : List (String × Json)} :
    describe members = .ok d ↔ CategoryDescription.check members = .ok d := by
  unfold describe
  cases CategoryDescription.check members with
  | ok other => simp
  | error findings =>
      cases calledName members <;> simp [bind, Except.bind, throw, throwThe, MonadExceptOf.throw]

/-- What a description says stood in the document, and passed the checks. -/
theorem members_of_describeDocument {document : Json} (h : describeDocument document = .ok d) :
    (∃ value, document.get? "category" = some value ∧ filledText value = .ok d.category) ∧
      ∃ value, document.get? "units" = some value ∧
        CategoryDescription.checkUnits value = .ok d.units := by
  cases document with
  | object members =>
      have hchecked : CategoryDescription.check members = .ok d := describe_eq_ok_iff.1 h
      obtain ⟨hcategory, hunits⟩ := CategoryDescription.check_eq_ok hchecked
      exact ⟨required_single_eq_ok hcategory, required_single_eq_ok hunits⟩
  | _ => cases h

/-- The name in a description is that of the document without the spacing around it. -/
theorem category_of_describeDocument {document : Json} (h : describeDocument document = .ok d) :
    ∃ raw, document.get? "category" = some (.text raw) ∧
      d.category = String.ofList (Text.trimSpacing raw.toList) := by
  obtain ⟨⟨value, hfound, hvalue⟩, -⟩ := members_of_describeDocument h
  obtain ⟨raw, rfl, hname⟩ := filledText_eq_ok hvalue
  exact ⟨raw, hfound, hname⟩

theorem nodup_of_describeDocument {document : Json} (h : describeDocument document = .ok d) :
    (d.units.map Prod.fst).Nodup := by
  obtain ⟨-, value, -, hunits⟩ := members_of_describeDocument h
  exact CategoryDescription.nodup_of_checkUnits hunits

/-- Whether what a document is called by, in the place of its name, cannot be written. -/
def IsCalledLong (document : Json) : Prop :=
  ∃ value, document.get? "category" = some value ∧ value.hasLongInteger = true

theorem calledName_eq_error_iff {members : List (String × Json)} {failure : Failure} :
    calledName members = .error failure ↔
      failure = .interruption .longInteger ∧ IsCalledLong (.object members) := by
  unfold calledName IsCalledLong
  rw [Json.get?]
  cases members.lookup "category" with
  | none => simp
  | some value => simp [Json.shown_eq_error_iff, and_comm]

/-- Only what a document is called by interrupts its description: a name in the right shape can be
written. -/
theorem describeDocument_interrupted_iff {document : Json} {cause : Interruption} :
    describeDocument document = .error (.interruption cause) ↔
      cause = .longInteger ∧ IsCalledLong document := by
  have hshort {d : CategoryDescription} (hd : describeDocument document = .ok d) :
      ¬ IsCalledLong document := by
    rintro ⟨value, hvalue, hlong⟩
    obtain ⟨raw, hraw, -⟩ := category_of_describeDocument hd
    obtain rfl := Option.some.inj (hvalue.symm.trans hraw)
    simp [Json.hasLongInteger] at hlong
  cases document with
  | object members =>
      cases hchecked : CategoryDescription.check members with
      | ok d =>
          have hd : describeDocument (.object members) = .ok d := describe_eq_ok_iff.2 hchecked
          simp [hd, hshort hd]
      | error findings =>
          cases hname : calledName members with
          | error failure =>
              obtain ⟨rfl, hlong⟩ := calledName_eq_error_iff.1 hname
              simp [describeDocument, describe, hchecked, hname, hlong, bind, Except.bind, eq_comm]
          | ok name =>
              have hwritten : ¬ IsCalledLong (.object members) := by
                intro hlong
                rw [calledName_eq_error_iff.2 ⟨rfl, hlong⟩] at hname
                cases hname
              simp [describeDocument, describe, hchecked, hname, hwritten, bind, Except.bind,
                throw, throwThe, MonadExceptOf.throw]
  | _ => simp [describeDocument, IsCalledLong, Json.get?]

theorem ofDescription_own (d : CategoryDescription) :
    ofDescription d (.text d.category) = (ofOwnDescription d).mapError .problem := by
  rw [ofDescription, if_pos (Json.isText_iff.2 rfl)]

/-- A description is taken under no name but its own. -/
theorem ofDescription_eq_ok_iff {expected : Json} :
    ofDescription d expected = .ok category ↔
      expected = .text d.category ∧ ofDescription d (.text d.category) = .ok category := by
  by_cases hname : expected = .text d.category
  · simp [hname]
  · have hother : expected.isText d.category = false := by
      rw [Bool.eq_false_iff]
      exact fun h => hname (Json.isText_iff.1 h)
    constructor
    · intro h
      rw [ofDescription, hother] at h
      cases hshown : expected.shown <;>
        simp [hshown, bind, Except.bind, throw, throwThe, MonadExceptOf.throw] at h
    · exact fun h => absurd h.1 hname

theorem ofDescription_interrupted_iff {expected : Json} {cause : Interruption} :
    ofDescription d expected = .error (.interruption cause) ↔
      cause = .longInteger ∧ expected.hasLongInteger = true := by
  unfold ofDescription
  by_cases hname : expected.isText d.category = true
  · have hshort : expected.hasLongInteger = false := by
      rw [Json.isText_iff.1 hname]
      rfl
    rw [if_pos hname, hshort]
    cases ofOwnDescription d <;> simp [Except.mapError]
  · rw [if_neg hname]
    cases hshown : expected.shown with
    | error failure =>
        obtain ⟨hlong, rfl⟩ := Json.shown_eq_error_iff.1 hshown
        simp [hlong, bind, Except.bind, eq_comm]
    | ok text =>
        simp [(Json.shown_eq_ok_iff.1 hshown).1, bind, Except.bind, throw, throwThe,
          MonadExceptOf.throw]

/-- Neither a category nor a problem comes from a document if the value that it is called by, or the
name that is expected of one in the right shape, cannot be written. -/
theorem ofDocument_interrupted_iff {document expected : Json} {cause : Interruption} :
    ofDocument document expected = .error (.interruption cause) ↔
      cause = .longInteger ∧ (IsCalledLong document ∨
        (∃ d, describeDocument document = .ok d) ∧ expected.hasLongInteger = true) := by
  unfold ofDocument
  cases hd : describeDocument document with
  | error failure =>
      have hinterrupted := @describeDocument_interrupted_iff document cause
      rw [hd] at hinterrupted
      simpa [bind, Except.bind] using hinterrupted
  | ok d =>
      have hnot : ¬ IsCalledLong document := by
        intro hlong
        rw [describeDocument_interrupted_iff.2 ⟨rfl, hlong⟩] at hd
        cases hd
      simp [hnot, bind, Except.bind, ofDescription_interrupted_iff]

/-- A described category has the name and the units of the description, and its base unit relates to
itself by the identity. -/
theorem ofDescription_eq_ok {expected : Json} (h : ofDescription d expected = .ok category) :
    category.name = d.category ∧
      List.Forall₂ (fun u unit => MeasurementUnit.ofDescription u.1 u.2 = .ok unit) d.units
        category.units ∧
      (category.unit? category.baseUnit).any MeasurementUnit.isIdentity = true := by
  have hown : ofOwnDescription d = .ok category := by
    rw [(ofDescription_eq_ok_iff.1 h).1, ofDescription_own] at h
    exact mapError_eq_ok h
  simp only [ofOwnDescription, bind, Except.bind, pure, Except.pure, throw, throwThe,
    MonadExceptOf.throw] at hown
  split at hown
  · cases hown
  · split at hown
    · cases hown
    · next units hunits =>
        split at hown
        · cases hown
        · next hbase =>
            cases hown
            exact ⟨rfl, forall₂_of_mapM_eq_ok hunits, by simpa using hbase⟩

/-- The units have the keys that they are described under. -/
theorem keys_of_ofDescription {expected : Json} (h : ofDescription d expected = .ok category) :
    category.units.map (·.key) = d.units.map Prod.fst := by
  rw [← List.forall₂_eq_eq_eq, List.forall₂_map_left_iff, List.forall₂_map_right_iff]
  exact (ofDescription_eq_ok h).2.1.flip.imp fun _ _ hunit =>
    (MeasurementUnit.ofDescription_eq_ok hunit).1

/-- The category of any document is well-formed. -/
theorem wellFormed_of_ofDocument {document expected : Json}
    (h : ofDocument document expected = .ok category) :
    category.WellFormed := by
  obtain ⟨d, hd, h⟩ := Formula.bind_eq_ok h
  obtain ⟨-, hunits, hbase⟩ := ofDescription_eq_ok h
  refine ⟨keys_of_ofDescription h ▸ nodup_of_describeDocument hd, ?_, ?_⟩
  · intro unit hunit
    obtain ⟨u, -, hmade⟩ := exists_of_forall₂ hunits hunit
    exact (MeasurementUnit.ofDescription_eq_ok hmade).2
  · cases hfound : category.unit? category.baseUnit with
    | none => simp [hfound] at hbase
    | some unit => exact ⟨unit, rfl, by simpa [hfound] using hbase⟩

/-- Every unit of a category is made of a description that passed its check. -/
theorem exists_check_of_ofDocument {document expected : Json}
    (h : ofDocument document expected = .ok category) {unit : MeasurementUnit}
    (hunit : unit ∈ category.units) :
    ∃ key value d, UnitDescription.check value = .ok d ∧
      MeasurementUnit.ofDescription key d = .ok unit := by
  obtain ⟨description, hdescription, h⟩ := Formula.bind_eq_ok h
  obtain ⟨u, hu, hmade⟩ := exists_of_forall₂ (ofDescription_eq_ok h).2.1 hunit
  obtain ⟨-, units, -, hunits⟩ := members_of_describeDocument hdescription
  obtain ⟨value, hvalue⟩ := CategoryDescription.exists_check_of_checkUnits hunits u hu
  exact ⟨u.1, value, u.2, hvalue, hmade⟩

/-- The keys of a category are those in the document without the spacing around them. -/
theorem mem_keys_of_ofDocument {document expected : Json}
    (h : ofDocument document expected = .ok category) :
    ∃ entries, document.get? "units" = some (.object entries) ∧
      ∀ key, key ∈ category.units.map (·.key) ↔
      ∃ entry ∈ entries, key = String.ofList (Text.trimSpacing entry.1.toList) := by
  obtain ⟨d, hd, h⟩ := Formula.bind_eq_ok h
  obtain ⟨-, units, hfound, hunits⟩ := members_of_describeDocument hd
  obtain ⟨entries, rfl, hkeys⟩ := CategoryDescription.mem_keys_of_checkUnits hunits
  exact ⟨entries, hfound, fun key => by rw [keys_of_ofDescription h, hkeys]⟩

/-- A category is loaded under its own name. -/
theorem name_of_ofDocument {document expected : Json}
    (h : ofDocument document expected = .ok category) :
    expected = .text category.name := by
  obtain ⟨d, -, h⟩ := Formula.bind_eq_ok h
  rw [(ofDescription_eq_ok_iff.1 h).1, (ofDescription_eq_ok h).1]

end Category

end UnitConversion
