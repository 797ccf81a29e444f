import UnitConversion.Catalog.Registry
import UnitConversion.Proofs.Request.Settling

/-!
# Spellings of a name

A name keeps its normal form when ASCII letters change their case, when blanks are added or removed
at its ends, and when other blanks stand between its words. The lower case of a capital sigma
depends on the letters around it, but a blank ends the search for them on both sides, and ASCII
letters have their case whichever it is. So every word has a lower case of its own, and the normal
form consists of these, with one space between them. In a text, the characters U+BD800 to U+BDFFF
stand for lone surrogates, as `Text.surrogate?` says.

* `UnitText.plainFrom_append_blank`: what stands behind a blank is lowered on its own.
* `UnitText.normalChars_eq_intercalate`: the normal form by words.
* `Text.lowerFrom_map_toLower`: the case of ASCII letters makes no difference.
* `Registry.resolve?_of_sameWords`: names of the same words stand for the same unit.
-/

namespace UnitConversion

open Request (Becomes exists_becomes_cons)

namespace Text

/-! ### Classes of characters that do not meet -/

/-- Whether no interval of one list meets an interval of the other. -/
def areApart (is js : List (Nat × Nat)) : Bool :=
  is.all fun i => js.all fun j => decide (i.2 < j.1) || decide (j.2 < i.1)

theorem memIntervals_of_areApart {is js : List (Nat × Nat)} (h : areApart is js = true) {n : Nat}
    (hn : memIntervals is n = true) : memIntervals js n = false := by
  obtain ⟨i, hi, hin⟩ := List.any_eq_true.1 hn
  rw [Bool.and_eq_true, decide_eq_true_eq, decide_eq_true_eq] at hin
  rw [memIntervals, List.any_eq_false]
  intro j hj
  have hapart := List.all_eq_true.1 (List.all_eq_true.1 h i hi) j hj
  rw [Bool.or_eq_true, decide_eq_true_eq, decide_eq_true_eq] at hapart
  rw [Bool.and_eq_true, decide_eq_true_eq, decide_eq_true_eq]
  omega

/-- The intervals of the ASCII letters. -/
def letterIntervals : List (Nat × Nat) :=
  [(65, 90), (97, 122)]

set_option maxRecDepth 4000 in
/-- A search for case stops at every letter and at every blank. -/
theorem not_ignorable :
    areApart (letterIntervals ++ blankIntervals) caseIgnorableIntervals = true := by
  decide

theorem blanks_not_cased : areApart blankIntervals casedIntervals = true := by
  decide

theorem not_isCaseIgnorable {c : Char}
    (h : memIntervals letterIntervals c.toNat = true ∨ isBlank c = true) :
    isCaseIgnorable c = false := by
  apply memIntervals_of_areApart not_ignorable
  rwa [memIntervals, List.any_append, Bool.or_eq_true]

/-! ### Lower case between blanks -/

variable {b : Char}

/-- A blank ends the search for a cased character as the end of the text does. -/
theorem meetsCased_append_blank (hb : isBlank b = true) (front cs : List Char) :
    meetsCased (front ++ b :: cs) = meetsCased front := by
  have hcased : memIntervals casedIntervals b.toNat = false :=
    memIntervals_of_areApart blanks_not_cased hb
  have hstop : ¬isCaseIgnorable b = true := by simp [not_isCaseIgnorable (.inr hb)]
  rw [meetsCased, meetsCased, List.dropWhile_append, List.dropWhile_cons_of_neg hstop]
  cases front.dropWhile isCaseIgnorable with
  | nil => simpa using hcased
  | cons c others => rfl

/-- What stands in front of a blank does not count behind it. -/
theorem lowerFrom_append_blank (hb : isBlank b = true) (front before cs : List Char) :
    lowerFrom (front ++ b :: before) cs = lowerFrom front cs := by
  induction cs generalizing front with
  | nil => rfl
  | cons c cs ih => rw [lowerFrom, lowerFrom, meetsCased_append_blank hb, ← List.cons_append, ih]

/-! ### Lower case of capitals and small letters -/

theorem toLower_cases (c : Char) : c.toLower = c ∨
    memIntervals letterIntervals c.toNat = true ∧
    memIntervals letterIntervals c.toLower.toNat = true := by
  by_cases hc : c.toNat < 128
  · exact forall_ascii (P := fun c => c.toLower = c ∨ memIntervals letterIntervals c.toNat = true ∧
      memIntervals letterIntervals c.toLower.toNat = true) (by decide) hc
  · exact .inl (toLower_eq_self (not_lt.1 hc))

theorem isCaseIgnorable_toLower (c : Char) : isCaseIgnorable c.toLower = isCaseIgnorable c := by
  rcases toLower_cases c with h | ⟨hc, hlower⟩
  · rw [h]
  · rw [not_isCaseIgnorable (.inl hc), not_isCaseIgnorable (.inl hlower)]

/-- ASCII letters are cased, whichever case they have. -/
theorem cased_of_letter {n : Nat} (h : memIntervals letterIntervals n = true) :
    memIntervals casedIntervals n = true := by
  obtain ⟨i, hi, hn⟩ := List.any_eq_true.1 h
  have hletters : letterIntervals ⊆ casedIntervals := by decide
  exact List.any_eq_true.2 ⟨i, hletters hi, hn⟩

theorem cased_toLower (c : Char) :
    memIntervals casedIntervals c.toLower.toNat = memIntervals casedIntervals c.toNat := by
  rcases toLower_cases c with h | ⟨hc, hlower⟩
  · rw [h]
  · rw [cased_of_letter hc, cased_of_letter hlower]

theorem meetsCased_map_toLower (cs : List Char) :
    meetsCased (cs.map Char.toLower) = meetsCased cs := by
  have hskips : isCaseIgnorable ∘ Char.toLower = isCaseIgnorable := funext isCaseIgnorable_toLower
  rw [meetsCased, meetsCased, List.dropWhile_map, hskips]
  cases cs.dropWhile isCaseIgnorable with
  | nil => rfl
  | cons c others => exact cased_toLower c

theorem lowerChar_toLower (c : Char) : lowerChar c.toLower = lowerChar c := by
  by_cases hc : c.toNat < 128
  · exact forall_ascii (P := fun c => lowerChar c.toLower = lowerChar c) (by decide) hc
  · rw [toLower_eq_self (not_lt.1 hc)]

/-- The case of ASCII letters makes no difference for the lower case, neither in a text nor in front
of it. -/
theorem lowerFrom_map_toLower (before cs : List Char) :
    lowerFrom (before.map Char.toLower) (cs.map Char.toLower) = lowerFrom before cs := by
  induction cs generalizing before with
  | nil => rfl
  | cons c cs ih =>
      have hsigma : c.toLower = capitalSigma ↔ c = capitalSigma := by
        have := apply_toLower (p := fun c => c == capitalSigma) (by decide) c
        rwa [Bool.eq_iff_iff, beq_iff_eq, beq_iff_eq] at this
      rw [List.map_cons, lowerFrom, lowerFrom, ← List.map_cons, ih, meetsCased_map_toLower,
        meetsCased_map_toLower, lowerChar_toLower, if_congr hsigma rfl rfl]

end Text

open Text

namespace UnitText

/-! ### Normal forms by words -/

/-- A text in lower case and plain letters, with `before` in front of it. -/
def plainFrom (before cs : List Char) : List Char :=
  (lowerFrom before cs).flatMap plainGlyph

theorem plainFrom_filled {w : List Char} (hw : ∀ c ∈ w, isBlank c = false) (before : List Char) :
    ∀ d ∈ plainFrom before w, isBlank d = false := by
  induction w generalizing before with
  | nil => simp [plainFrom, lowerFrom]
  | cons c w ih =>
      obtain ⟨hc, hw⟩ := List.forall_mem_cons.1 hw
      obtain ⟨ds, hds, hform⟩ := exists_becomes_cons before c w
      rw [plainFrom, hform]
      exact List.forall_mem_append.2 ⟨hds.filled hc, ih hw (c :: before)⟩

theorem plainFrom_ne_nil {w : List Char} (hne : w ≠ []) (before : List Char) :
    plainFrom before w ≠ [] := by
  obtain ⟨c, w, rfl⟩ := List.exists_cons_of_ne_nil hne
  obtain ⟨ds, hds, hform⟩ := exists_becomes_cons before c w
  rw [plainFrom, hform]
  exact List.append_ne_nil_of_left_ne_nil hds.ne_nil _

/-- What stands behind a blank is lowered on its own, and so is what stands in front of it. -/
theorem plainFrom_append_blank {b : Char} (hb : isBlank b = true) (before w cs : List Char) :
    plainFrom before (w ++ b :: cs) = plainFrom before w ++ b :: plainFrom [] cs := by
  induction w generalizing before with
  | nil =>
      have hsigma : b ≠ capitalSigma := by
        rintro rfl
        exact absurd hb (by decide)
      have hform : (lowerChar b).flatMap plainGlyph = [b] := Request.plainForm_of_isBlank hb
      have hcontext := lowerFrom_append_blank hb [] before cs
      rw [List.nil_append] at hcontext
      rw [List.nil_append, plainFrom, lowerFrom, if_neg hsigma, hcontext,
        List.flatMap_append, hform]
      rfl
  | cons c w ih =>
      simp only [plainFrom, List.cons_append, lowerFrom, meetsCased_append_blank hb,
        List.flatMap_append, List.append_assoc] at ih ⊢
      rw [ih]

theorem words_plainFrom (cs : List Char) :
    words (plainFrom [] cs) = (words cs).map (plainFrom []) := by
  induction cs using gap_induction with
  | word w hw =>
      rcases eq_or_ne w [] with rfl | hne
      · rfl
      · rw [words_of_filled hw hne,
          words_of_filled (plainFrom_filled hw []) (plainFrom_ne_nil hne [])]
        rfl
  | gap w b cs hw hb ih =>
      rw [plainFrom_append_blank hb, words_append_blank _ _ hb, words_append_blank _ _ hb,
        List.map_append, ih]
      rcases eq_or_ne w [] with rfl | hne
      · rfl
      · rw [words_of_filled hw hne,
          words_of_filled (plainFrom_filled hw []) (plainFrom_ne_nil hne [])]
        rfl

/-- A normal form consists of the words in lower case and plain letters, with one space between
them. -/
theorem normalChars_eq_intercalate (cs : List Char) :
    normalChars cs = [' '].intercalate ((words cs).map (plainFrom [])) := by
  rw [normalChars, trimChars_collapseBlanks, ← words_trimChars cs, ← words_plainFrom]
  rfl

theorem plainFrom_map_toLower (w : List Char) :
    plainFrom [] (w.map Char.toLower) = plainFrom [] w :=
  congrArg (List.flatMap plainGlyph) (lowerFrom_map_toLower [] w)

/-- Whether two texts have the same words, up to the case of ASCII letters. Then they differ in
nothing but this case and the blanks around and between the words. -/
def SameWords (s t : String) : Prop :=
  (words s.toList).map (List.map Char.toLower) = (words t.toList).map (List.map Char.toLower)

theorem normalize_of_sameWords {s t : String} (h : SameWords s t) : normalize s = normalize t := by
  have hwords (cs : List Char) : (words cs).map (plainFrom []) =
      ((words cs).map (List.map Char.toLower)).map (plainFrom []) := by
    rw [List.map_map]
    exact List.map_congr_left fun w _ => (plainFrom_map_toLower w).symm
  rw [normalize, normalize, normalChars_eq_intercalate, normalChars_eq_intercalate,
    hwords, h, ← hwords]

end UnitText

namespace Registry

open UnitText

/-- Names of the same words have one normal form, so that they stand for the same unit in every
registry, or both for none. -/
theorem resolve?_of_sameWords {s t : String} (h : SameWords s t) :
    normalize s = normalize t ∧ ∀ registry : Registry, registry.resolve? (.text s) =
      registry.resolve? (.text t) := by
  have hnormal := normalize_of_sameWords h
  refine ⟨hnormal, fun registry => ?_⟩
  rw [resolve?, resolve?, hnormal]

/-- The sigma ends a word in front of the blanks as it does at the end of a text. -/
theorem resolve?_seaMile : SameWords "\tSea  MILΕΣ KM" "sea milΕΣ\u2003\n km " ∧
    normalize "\tSea  MILΕΣ KM" = normalize "sea milΕΣ\u2003\n km " ∧ ∀ registry : Registry,
      registry.resolve? (.text "\tSea  MILΕΣ KM") =
        registry.resolve? (.text "sea milΕΣ\u2003\n km ") := by
  have hwords : SameWords "\tSea  MILΕΣ KM" "sea milΕΣ\u2003\n km " := by
    unfold SameWords
    decide
  exact ⟨hwords, resolve?_of_sameWords hwords⟩

end Registry

end UnitConversion
