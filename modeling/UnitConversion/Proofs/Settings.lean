import UnitConversion.Proofs.Binary64.Nearest
import UnitConversion.Proofs.Binary64.Order
import UnitConversion.Proofs.Formula.Soundness
import UnitConversion.Settings

/-!
# Settings are read leniently

A configuration can hold anything under any key. What makes sense there is used, and any other value
leaves its field at the default, so settings are sound whatever the configuration says. What stops
the reading is a whole number that is too large to be compared with doubles or to be written.

* `Settings.Reads`: what the fields are read from, and what they are otherwise.
* `Settings.Sound`, `Settings.Reads.sound`: fields that are read in this way make sense.
* `Settings.isHuge_iff`: which whole numbers are too large to be compared with doubles.
* `Settings.exists_ofMembers_iff`: which members can be read.
-/

namespace UnitConversion

open Formula (bind_eq_ok)

/-! ### Readings with a fallback -/

section Chosen

variable {α β : Type} {sensible : α → Prop} {use : α → β} {reading : Option α} {fallback result : β}

/-- The result is what a reading is used as if this makes sense, and the fallback otherwise. -/
def Chosen (sensible : α → Prop) (use : α → β) (reading : Option α) (fallback result : β) : Prop :=
  (∃ a ∈ reading, sensible a ∧ result = use a) ∨ (∀ a ∈ reading, ¬sensible a) ∧ result = fallback

/-- Whatever was read, the result has what all sensible readings and the fallback have. -/
theorem Chosen.satisfies {p : β → Prop} (h : Chosen sensible use reading fallback result)
    (huse : ∀ a, sensible a → p (use a)) (hfallback : p fallback) : p result := by
  rcases h with ⟨a, -, ha, rfl⟩ | ⟨-, rfl⟩
  · exact huse a ha
  · exact hfallback

end Chosen

namespace Settings

/-! ### Fields that make sense -/

/-- A double between zero and one. -/
def IsShare (r : Binary64) : Prop :=
  r.isFinite = true ∧ 0 ≤ r.number ∧ r.number ≤ 1

/-- A positive decimal number. -/
def IsBound (d : Decimal) : Prop :=
  d.isFinite = true ∧ 0 < d.value

/-- Settings whose fields make sense. -/
structure Sound (settings : Settings) : Prop where
  maxSuggestions : 1 ≤ settings.maxSuggestions
  maxLines : 1 ≤ settings.maxLines
  maxInputLength : 1 ≤ settings.maxInputLength
  minSimilarity : IsShare settings.minSimilarity
  exponentialUpper : IsBound settings.exponentialUpper
  exponentialLower : IsBound settings.exponentialLower

theorem isShare_iff (r : Binary64) :
    (Binary64.le (.zero false) r && Binary64.le r (.ofInt 1)) = true ↔ IsShare r := by
  have hzero : (Binary64.zero false).number = 0 := by
    simp [Binary64.zero, Binary64.number, Decimal.signed]
  have hunit : Binary64.ofInt 1 = .finite false (2 ^ 52) (-52) := by decide
  have hone : (Binary64.ofInt 1).number = 1 := by
    rw [hunit, Binary64.number, Decimal.signed_cast]
    norm_num
  have hfinite : (Binary64.ofInt 1).isFinite = true := by rw [hunit]; rfl
  rw [Bool.and_eq_true]
  cases hr : r.isFinite with
  | true =>
      rw [Binary64.le_iff rfl hr, Binary64.le_iff hr hfinite, hzero, hone, IsShare, hr,
        eq_self, true_and]
  | false =>
      refine iff_of_false ?_ fun h => by rw [IsShare, hr] at h; exact Bool.false_ne_true h.1
      rw [hunit]
      -- An infinity is beyond zero or one, and an undefined result is not comparable.
      cases r with
      | finite s m e => cases hr
      | infinite s => cases s <;> decide
      | nan => decide

theorem isBound_iff (d : Decimal) :
    (d.isFinite && !d.isZero && !d.isNegative) = true ↔ IsBound d := by
  cases d with
  | finite s c e =>
      have hpos : 0 < Decimal.magnitude c e ↔ c ≠ 0 :=
        (Decimal.magnitude_nonneg c e).lt_iff_ne'.trans (Decimal.magnitude_eq_zero_iff c e).not
      cases s with
      | true => simp [IsBound, Decimal.isNegative, Decimal.value_finite, Decimal.magnitude_nonneg]
      | false =>
          simp [IsBound, Decimal.isFinite, Decimal.isZero, Decimal.isNegative,
            Decimal.value_finite, hpos]
  | infinite s => simp [IsBound, Decimal.isFinite]
  | nan s signaling payload => simp [IsBound, Decimal.isFinite]

/-- As a count of at least one, a double is as good as the whole number below it. -/
theorem max_signed_eq (s : Bool) (m : Nat) (e : Int) :
    max (Decimal.signed s (m * 2 ^ e.toNat / 2 ^ (-e).toNat)) 1 =
      max ⌊(Binary64.finite s m e).number⌋ 1 := by
  cases s with
  | true =>
      have hneg : (Binary64.finite true m e).number ≤ 0 := by
        rw [Binary64.number, Decimal.signed_cast, if_pos rfl]
        exact mul_nonpos_of_nonpos_of_nonneg (by simp) (by positivity)
      have hsigned (n : Nat) : Decimal.signed true n ≤ 0 := by simp [Decimal.signed]
      rw [max_eq_right ((hsigned _).trans zero_le_one),
        max_eq_right ((Int.floor_nonpos hneg).trans zero_le_one)]
  | false =>
      rw [Binary64.number, Decimal.signed_cast, if_neg Bool.false_ne_true, zpow_eq_div two_ne_zero,
        ← mul_div_assoc]
      have hfloor := Rat.floor_natCast_div_natCast (m * 2 ^ e.toNat) (2 ^ (-e).toNat)
      push_cast at hfloor
      rw [hfloor, Decimal.signed, if_neg Bool.false_ne_true]
      push_cast
      rfl

/-! ### Fields that were read -/

/-- A count is the whole part of the double that a value can be taken for, but at least one. -/
def ReadsCount (value : Option Json) (fallback result : Int) : Prop :=
  Chosen (fun r : Binary64 => r.isFinite = true) (fun r => max ⌊r.number⌋ 1) (value.bind asDouble?)
    fallback result

/-- A share is the double that a value can be taken for. -/
def ReadsShare (value : Option Json) (fallback result : Binary64) : Prop :=
  Chosen IsShare id (value.bind asDouble?) fallback result

/-- A bound is the decimal number that the text of a value is. -/
def ReadsBound (value : Option Json) (fallback result : Decimal) : Prop :=
  Chosen IsBound id (value.bind fun value => Decimal.ofText? value.inline) fallback result

/-- The numbers of settings are those that members of an object stand for, as far as these make
sense. -/
structure Reads (members : List (String × Json)) (settings : Settings) : Prop where
  maxSuggestions :
    ReadsCount ((groupOf (members.lookup "suggestions")).lookup "max_results") 3
      settings.maxSuggestions
  maxLines : ReadsCount (members.lookup "max_lines") 200 settings.maxLines
  maxInputLength : ReadsCount (members.lookup "max_input_length") 256 settings.maxInputLength
  minSimilarity :
    ReadsShare ((groupOf (members.lookup "suggestions")).lookup "min_similarity")
      Suggestion.standardSimilarity settings.minSimilarity
  exponentialUpper :
    ReadsBound ((groupOf (members.lookup "formatting")).lookup "exponential_upper")
      (.finite false 1 12) settings.exponentialUpper
  exponentialLower :
    ReadsBound ((groupOf (members.lookup "formatting")).lookup "exponential_lower")
      (.finite false 1 (-6)) settings.exponentialLower

variable {root : String} {members : List (String × Json)} {settings : Settings}

theorem isShare_standardSimilarity : IsShare Suggestion.standardSimilarity := by
  have hform : Suggestion.standardSimilarity = .finite false 5404319552844595 (-54) := by decide
  rw [IsShare, hform, Binary64.number, Decimal.signed_cast]
  norm_num [Binary64.isFinite]

/-- The defaults make sense, and so does whatever replaces them. -/
theorem Reads.sound (h : Reads members settings) : Sound settings where
  maxSuggestions := h.maxSuggestions.satisfies (fun _ _ => le_max_right _ _) (by decide)
  maxLines := h.maxLines.satisfies (fun _ _ => le_max_right _ _) (by decide)
  maxInputLength := h.maxInputLength.satisfies (fun _ _ => le_max_right _ _) (by decide)
  minSimilarity := h.minSimilarity.satisfies (fun _ hr => hr) isShare_standardSimilarity
  exponentialUpper := h.exponentialUpper.satisfies (fun _ hd => hd) ((isBound_iff _).1 rfl)
  exponentialLower := h.exponentialLower.satisfies (fun _ hd => hd) ((isBound_iff _).1 rfl)

theorem readsCount_countOf (value : Option Json) (fallback : Int) :
    ReadsCount value fallback (countOf value fallback) := by
  unfold ReadsCount countOf
  cases value.bind asDouble? with
  | none => exact .inr ⟨by simp, rfl⟩
  | some r =>
      cases r with
      | finite s m e => exact .inl ⟨.finite s m e, rfl, rfl, max_signed_eq s m e⟩
      | infinite s => exact .inr ⟨by simp [Binary64.isFinite], rfl⟩
      | nan => exact .inr ⟨by simp [Binary64.isFinite], rfl⟩

theorem readsShare_of_shareOf {value : Option Json} {fallback r : Binary64}
    (h : shareOf value fallback = .ok r) : ReadsShare value fallback r := by
  unfold shareOf at h
  cases value with
  | none => exact .inr ⟨by simp, (Except.ok.inj h).symm⟩
  | some value =>
      dsimp only at h
      split at h
      · cases h
      unfold ReadsShare
      rw [Option.bind_some]
      cases hdouble : asDouble? value with
      | none =>
          rw [hdouble] at h
          exact .inr ⟨by simp, (Except.ok.inj h).symm⟩
      | some x =>
          rw [hdouble] at h
          obtain rfl := Except.ok.inj h
          by_cases hshare : IsShare x
          · rw [if_pos ((isShare_iff x).2 hshare)]
            exact .inl ⟨x, rfl, hshare, rfl⟩
          · rw [if_neg fun hle => hshare ((isShare_iff x).1 hle)]
            exact .inr ⟨by simpa using hshare, rfl⟩

theorem readsBound_of_boundOf {value : Option Json} {fallback d : Decimal}
    (h : boundOf value fallback = .ok d) : ReadsBound value fallback d := by
  unfold boundOf at h
  cases value with
  | none => exact .inr ⟨by simp, (Except.ok.inj h).symm⟩
  | some value =>
      dsimp only [Json.shown] at h
      split at h
      · cases h
      obtain rfl := Except.ok.inj h
      unfold ReadsBound positiveOf
      rw [Option.bind_some]
      cases Decimal.ofText? value.inline with
      | none => exact .inr ⟨by simp, rfl⟩
      | some x =>
          dsimp only
          by_cases hbound : IsBound x
          · rw [if_pos ((isBound_iff x).2 hbound)]
            exact .inl ⟨x, rfl, hbound, rfl⟩
          · rw [if_neg fun hpositive => hbound ((isBound_iff x).1 hpositive)]
            exact .inr ⟨by simpa using hbound, rfl⟩

/-- Settings are read field by field. -/
theorem ofMembers_eq_ok_iff : ofMembers root members = .ok settings ↔
    directoryOf root (members.lookup "config_dir") = .ok settings.directory ∧
      categoriesOf (members.lookup "categories") = .ok settings.categories ∧
      shareOf ((groupOf (members.lookup "suggestions")).lookup "min_similarity")
        standard.minSimilarity = .ok settings.minSimilarity ∧
      boundOf ((groupOf (members.lookup "formatting")).lookup "exponential_upper")
        standard.exponentialUpper = .ok settings.exponentialUpper ∧
      boundOf ((groupOf (members.lookup "formatting")).lookup "exponential_lower")
        standard.exponentialLower = .ok settings.exponentialLower ∧
      settings.maxSuggestions =
        countOf ((groupOf (members.lookup "suggestions")).lookup "max_results")
          standard.maxSuggestions ∧
      settings.maxLines = countOf (members.lookup "max_lines") standard.maxLines ∧
      settings.maxInputLength = countOf (members.lookup "max_input_length")
        standard.maxInputLength := by
  constructor
  · intro h
    obtain ⟨directory, hdirectory, h⟩ := bind_eq_ok h
    obtain ⟨categories, hcategories, h⟩ := bind_eq_ok h
    obtain ⟨minSimilarity, hshare, h⟩ := bind_eq_ok h
    obtain ⟨upper, hupper, h⟩ := bind_eq_ok h
    obtain ⟨lower, hlower, h⟩ := bind_eq_ok h
    obtain rfl := Except.ok.inj h
    exact ⟨hdirectory, hcategories, hshare, hupper, hlower, rfl, rfl, rfl⟩
  · rintro ⟨hdirectory, hcategories, hshare, hupper, hlower, hresults, hlines, hlength⟩
    simp only [ofMembers, hdirectory, hcategories, hshare, hupper, hlower, ← hresults,
      ← hlines, ← hlength]
    rfl

theorem reads_of_ofMembers (h : ofMembers root members = .ok settings) :
    Reads members settings := by
  obtain ⟨-, -, hshare, hupper, hlower, hresults, hlines, hlength⟩ := ofMembers_eq_ok_iff.1 h
  exact {
    maxSuggestions := hresults ▸ readsCount_countOf _ _
    maxLines := hlines ▸ readsCount_countOf _ _
    maxInputLength := hlength ▸ readsCount_countOf _ _
    minSimilarity := readsShare_of_shareOf hshare
    exponentialUpper := readsBound_of_boundOf hupper
    exponentialLower := readsBound_of_boundOf hlower }

theorem ofJson_object (root : String) (members : List (String × Json)) :
    ofJson root (.object members) = ofMembers root members := by
  cases members <;> rfl

/-- Settings that were read make sense. -/
theorem sound_of_ofJson {value : Json} (h : ofJson root value = .ok settings) : Sound settings := by
  unfold ofJson at h
  split at h
  · exact (reads_of_ofMembers h).sound
  · split at h
    · exact (reads_of_ofMembers h).sound
    · cases h

/-! ### Members that can be read -/

/-- A whole number is too large to be compared with doubles if its nearest double is infinite. -/
theorem isHuge_iff (i : Int) : isHuge (.integer i) = true ↔ Binary64.rangeEnd ≤ |(i : Rat)| := by
  have hfinite := Binary64.isFinite_nearest_iff (i < 0) i.natAbs one_ne_zero
  rw [Nat.cast_one, div_one, Nat.cast_natAbs, Int.cast_abs] at hfinite
  rw [isHuge, Binary64.ofInt, Bool.not_eq_true', ← Bool.not_eq_true, hfinite, not_lt]

/-- No number that has to be compared with doubles is beyond them, and none that has to be written
is too long. -/
structure Readable (members : List (String × Json)) : Prop where
  minSimilarity : ∀ i, (groupOf (members.lookup "suggestions")).lookup "min_similarity" =
    some (.integer i) → |(i : Rat)| < Binary64.rangeEnd
  exponentialUpper : ∀ value ∈ (groupOf (members.lookup "formatting")).lookup "exponential_upper",
    value.hasLongInteger = false
  exponentialLower : ∀ value ∈ (groupOf (members.lookup "formatting")).lookup "exponential_lower",
    value.hasLongInteger = false
  categories : ∀ items, members.lookup "categories" = some (.list items) →
    ∀ item ∈ items, item.hasLongInteger = false

theorem exists_shareOf_iff (value : Option Json) (fallback : Binary64) :
    (∃ r, shareOf value fallback = .ok r) ↔ ∀ i, value = some (.integer i) →
    |(i : Rat)| < Binary64.rangeEnd := by
  cases value with
  | none => simp [shareOf]
  | some value =>
      have hread : (∃ r, shareOf (some value) fallback = .ok r) ↔ isHuge value = false := by
        rw [shareOf]
        cases isHuge value with
        | true => simp
        | false => cases hdouble : asDouble? value <;> simp
      rw [hread]
      cases value with
      | integer i => simp [← Bool.not_eq_true, isHuge_iff]
      | _ => simp [isHuge]

theorem exists_shown_iff (value : Json) :
    (∃ text, value.shown = .ok text) ↔ value.hasLongInteger = false := by
  simp [Json.shown_eq_ok_iff]

theorem exists_boundOf_iff (value : Option Json) (fallback : Decimal) :
    (∃ d, boundOf value fallback = .ok d) ↔ ∀ v ∈ value, v.hasLongInteger = false := by
  cases value with
  | none => simp [boundOf]
  | some value =>
      rw [boundOf, Json.shown]
      cases hlong : value.hasLongInteger <;> simp [Except.map, hlong]

theorem exists_mapM_shown_iff (items : List Json) :
    (∃ names, items.mapM Json.shown = .ok names) ↔ ∀ item ∈ items, item.hasLongInteger = false := by
  induction items with
  | nil => simp [pure, Except.pure]
  | cons item items ih =>
      rw [List.forall_mem_cons, ← ih, ← exists_shown_iff, List.mapM_cons]
      constructor
      · rintro ⟨names, h⟩
        obtain ⟨name, hname, h⟩ := bind_eq_ok h
        obtain ⟨rest, hrest, -⟩ := bind_eq_ok h
        exact ⟨⟨name, hname⟩, rest, hrest⟩
      · rintro ⟨⟨name, hname⟩, rest, hrest⟩
        exact ⟨name :: rest, by rw [hname, hrest]; rfl⟩

theorem exists_categoriesOf_iff (value : Option Json) :
    (∃ names, categoriesOf value = .ok names) ↔
      ∀ items, value = some (.list items) → ∀ item ∈ items, item.hasLongInteger = false := by
  unfold categoriesOf
  split
  · next items =>
      have hmap (names : Attempt (List String)) (f : List String → List String) :
          (∃ kept, names.map f = .ok kept) ↔ ∃ all, names = .ok all := by
        cases names <;> simp [Except.map]
      rw [hmap, exists_mapM_shown_iff]
      simp
  · next hother => exact iff_of_true ⟨[], rfl⟩ fun items hitems => (hother items hitems).elim

/-- Where the directory can be read, settings can be read if no number is too large for them. -/
theorem exists_ofMembers_iff {directory : Option String}
    (hdirectory : directoryOf root (members.lookup "config_dir") = .ok directory) :
    (∃ settings, ofMembers root members = .ok settings) ↔ Readable members := by
  constructor
  · rintro ⟨settings, h⟩
    obtain ⟨-, hcategories, hshare, hupper, hlower, -⟩ := ofMembers_eq_ok_iff.1 h
    exact {
      minSimilarity := (exists_shareOf_iff _ _).1 ⟨_, hshare⟩
      exponentialUpper := (exists_boundOf_iff _ _).1 ⟨_, hupper⟩
      exponentialLower := (exists_boundOf_iff _ _).1 ⟨_, hlower⟩
      categories := (exists_categoriesOf_iff _).1 ⟨_, hcategories⟩ }
  · intro h
    obtain ⟨categories, hcategories⟩ := (exists_categoriesOf_iff _).2 h.categories
    obtain ⟨minSimilarity, hshare⟩ :=
      (exists_shareOf_iff _ standard.minSimilarity).2 h.minSimilarity
    obtain ⟨upper, hupper⟩ := (exists_boundOf_iff _ standard.exponentialUpper).2 h.exponentialUpper
    obtain ⟨lower, hlower⟩ := (exists_boundOf_iff _ standard.exponentialLower).2 h.exponentialLower
    exact ⟨⟨directory, categories, _, minSimilarity, upper, lower, _, _⟩, ofMembers_eq_ok_iff.2
      ⟨hdirectory, hcategories, hshare, hupper, hlower, rfl, rfl, rfl⟩⟩

end Settings

end UnitConversion
