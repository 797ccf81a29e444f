import UnitConversion.Proofs.Decimal.Reading

/-!
# The words of a text

A text is split at its blanks, so what stands on either side of a blank can be looked at on its own.
When runs of blanks are collapsed and the blanks at both ends are cut off, the words are left with
one space between them. In a text, the characters U+BD800 to U+BDFFF stand for lone surrogates, as
`Text.surrogate?` says.

* `Text.gap_induction`: induction from word to word.
* `Text.words_append_blank`: the words on both sides of a blank.
* `Text.trimChars_collapseBlanks`: what is left of a text.
-/

namespace UnitConversion

namespace Text

theorem splitWhere_eq (p : Char → Bool) (cs : List Char) : splitWhere p cs = cs.splitOnP p := by
  induction cs with
  | nil => rw [splitWhere, List.splitOnP_nil]
  | cons c cs ih =>
      rw [splitWhere, List.splitOnP_cons_eq_if_modifyHead, ih]
      obtain ⟨piece, pieces, hsplit⟩ := List.exists_cons_of_ne_nil (List.splitOnP_ne_nil p cs)
      simp [hsplit]

/-- A text is one word, or a word and what follows a blank. The word can be empty. -/
theorem gap_induction {P : List Char → Prop} (word : ∀ w, (∀ c ∈ w, isBlank c = false) → P w)
    (gap : ∀ w b cs, (∀ c ∈ w, isBlank c = false) → isBlank b = true → P cs → P (w ++ b :: cs))
    (cs : List Char) :
    P cs := by
  induction hlength : cs.length using Nat.strong_induction_on generalizing cs with
  | h n ih =>
      have hsplit := List.takeWhile_append_dropWhile (p := (! isBlank ·)) (l := cs)
      have hword : ∀ c ∈ cs.takeWhile (! isBlank ·), isBlank c = false :=
        fun c hc => by simpa using mem_takeWhile hc
      cases hrest : cs.dropWhile (! isBlank ·) with
      | nil =>
          rw [hrest, List.append_nil] at hsplit
          exact hsplit ▸ word _ hword
      | cons b rest =>
          have hb : isBlank b = true := by
            have := head?_dropWhile_eq_false (p := (! isBlank ·)) cs b (by rw [hrest]; rfl)
            simpa using this
          rw [hrest] at hsplit
          have hshorter : rest.length < n := by
            rw [← hlength, ← hsplit, List.length_append, List.length_cons]
            omega
          rw [← hsplit]
          exact gap _ b rest hword hb (ih _ hshorter rest rfl)

/-! ### Words -/

theorem words_append_blank (xs ys : List Char) {b : Char} (hb : isBlank b = true) :
    words (xs ++ b :: ys) = words xs ++ words ys := by
  simp only [words, splitWhere_eq, List.splitOnP_append_cons xs ys hb, List.filter_append]

theorem words_of_filled {w : List Char} (hw : ∀ c ∈ w, isBlank c = false) (hne : w ≠ []) :
    words w = [w] := by
  simp [words, splitWhere_eq, List.splitOnP_eq_singleton hw, hne]

theorem ne_nil_of_mem_words {w cs : List Char} (h : w ∈ words cs) : w ≠ [] := by
  simpa using (List.mem_filter.1 h).2

theorem words_append_blanks (cs : List Char) {blanks : List Char}
    (h : ∀ c ∈ blanks, isBlank c = true) :
    words (cs ++ blanks) = words cs := by
  induction blanks generalizing cs with
  | nil => rw [List.append_nil]
  | cons b blanks ih =>
      obtain ⟨hb, hblanks⟩ := List.forall_mem_cons.1 h
      have hnone := ih [] hblanks
      rw [List.nil_append] at hnone
      rw [words_append_blank cs blanks hb, hnone]
      exact List.append_nil _

theorem words_dropWhile (cs : List Char) : words (cs.dropWhile isBlank) = words cs := by
  induction cs with
  | nil => rfl
  | cons c cs ih =>
      rw [List.dropWhile_cons]
      split
      · next hc =>
          rw [ih]
          exact (words_append_blank [] cs hc).symm
      · rfl

/-- The blanks at both ends belong to no word. -/
theorem words_trimChars (cs : List Char) : words (trimChars cs) = words cs := by
  obtain ⟨blanks, hsplit, hblanks⟩ := exists_cut isBlank (cs.dropWhile isBlank)
  rw [← words_dropWhile cs, hsplit, words_append_blanks _ hblanks]
  rfl

/-! ### What is left of a text -/

theorem collapseFrom_append {ds : List Char} (hne : ds ≠ [])
    (hds : ∀ d ∈ ds, isBlank d = false) (gap : Bool) (cs : List Char) :
    collapseFrom gap (ds ++ cs) = ds ++ collapseFrom false cs := by
  induction ds generalizing gap with
  | nil => exact absurd rfl hne
  | cons d ds ih =>
      obtain ⟨hd, hds⟩ := List.forall_mem_cons.1 hds
      rw [List.cons_append, collapseFrom, if_neg (by simp [hd]), List.cons_append]
      cases ds with
      | nil => rfl
      | cons e ds => rw [ih (by simp) hds]

theorem intercalate_ne_nil {ws : List (List Char)} (hne : ws ≠ []) (hws : ∀ w ∈ ws, w ≠ []) :
    [' '].intercalate ws ≠ [] := by
  obtain ⟨w, others, rfl⟩ := List.exists_cons_of_ne_nil hne
  have hw := hws w List.mem_cons_self
  rcases eq_or_ne others [] with rfl | hothers
  · rwa [List.intercalate_singleton]
  · simp [List.intercalate_cons_of_ne_nil hothers]

/-- Behind a gap, the words are left with one space between them, and with another space at the end
at most. -/
theorem dropWhileEnd_collapseFrom (cs : List Char) :
    dropWhileEnd isBlank (collapseFrom true cs) = [' '].intercalate (words cs) := by
  induction cs using gap_induction with
  | word w hw =>
      rcases eq_or_ne w [] with rfl | hne
      · rfl
      · have hcollapsed := collapseFrom_append hne hw true []
        rw [List.append_nil] at hcollapsed
        rw [hcollapsed, words_of_filled hw hne, List.intercalate_singleton]
        exact (congrArg _ (List.append_nil w)).trans (dropWhileEnd_eq_self hw)
  | gap w b cs hw hb ih =>
      rw [words_append_blank w cs hb]
      rcases eq_or_ne w [] with rfl | hne
      · rw [List.nil_append, collapseFrom, if_pos hb, if_pos rfl, ih]
        rfl
      · have hspace : dropWhileEnd isBlank [' '] = [] := by decide
        rw [collapseFrom_append hne hw, collapseFrom, if_pos hb, if_neg (by simp),
          dropWhileEnd_append, ← List.singleton_append, dropWhileEnd_append, ih,
          words_of_filled hw hne, dropWhileEnd_eq_self hw]
        by_cases hwords : words cs = []
        · simp [hwords, hspace]
        · have hmore := intercalate_ne_nil hwords fun w => ne_nil_of_mem_words
          simp [hmore, List.intercalate_cons_of_ne_nil hwords]

/-- What is left of the blanks at the start goes with the blanks at both ends. -/
theorem dropWhile_collapseFrom (gap : Bool) (cs : List Char) :
    (collapseFrom gap cs).dropWhile isBlank = collapseFrom true cs := by
  induction cs generalizing gap with
  | nil => rfl
  | cons c cs ih =>
      cases hc : isBlank c with
      | false => simp [collapseFrom, hc]
      | true =>
          have hspace : isBlank ' ' = true := by decide
          cases gap <;> simp [collapseFrom, hc, hspace, ih]

/-- The words of a text are left, with one space between them. -/
theorem trimChars_collapseBlanks (cs : List Char) :
    trimChars (collapseBlanks cs) = [' '].intercalate (words cs) := by
  rw [trimChars, collapseBlanks, dropWhile_collapseFrom, dropWhileEnd_collapseFrom]

end Text

end UnitConversion
