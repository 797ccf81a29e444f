import UnitConversion.Proofs.Request.Division

/-!
# Where the first unit ends

The first unit of a line ends in front of the first word that can stand between the units, with a
unit behind it. So whether a division is the shortest can be seen from its first unit alone: the
unit must not hold such a word itself, neither at its end nor in front of something that a unit can
start with.

* `Request.EndsInWord`, `Request.HasWordBefore`: the words that would end a unit earlier.
* `Request.shortestTail_iff`: which first units are the shortest.
* `Request.division_append_iff`: the divisions of a line that starts with a numeral are those of its
  rest.
-/

namespace UnitConversion.Request

open Numeral

/-! ### Characters of units -/

theorem isUnitChar_of_isBlank {c : Char} (h : Text.isBlank c = true) : isUnitChar c = true := by
  simp [isUnitChar, h]

theorem unitStartCodes_in_unit :
    (unitStartCodes.all fun n => isUnitChar (Char.ofNat n)) = true := by
  decide +kernel

theorem isUnitChar_of_isUnitStart {c : Char} (h : isUnitStart c = true) : isUnitChar c = true := by
  rcases Bool.or_eq_true_iff.1 h with halpha | hcode
  · have hascii : c.toNat < 128 := by
      simp only [Char.isAlpha, Char.isUpper, Char.isLower, Bool.or_eq_true, Bool.and_eq_true,
        decide_eq_true_eq, UInt32.le_iff_toNat_le, ge_iff_le] at halpha
      change (65 ≤ c.toNat ∧ c.toNat ≤ 90) ∨ (97 ≤ c.toNat ∧ c.toNat ≤ 122) at halpha
      omega
    simp [isUnitChar, Text.isWord, hascii, Char.isAlphanum, halpha]
  · have hunit := List.all_eq_true.1 unitStartCodes_in_unit c.toNat (List.contains_iff_mem.1 hcode)
    rwa [Char.ofNat_toNat] at hunit

/-- The letters of the connective words, in the order in which they stand. -/
theorem mem_of_isConnective {a b : Char} (h : isConnective a b = true) :
    a ∈ ['t', 'T', 'a', 'A'] ∧ b ∈ ['o', 'O', 's', 'S', 'ſ'] := by
  simp only [isConnective, Bool.or_eq_true, Bool.and_eq_true, beq_iff_eq] at h
  simp only [List.mem_cons, List.not_mem_nil, or_false]
  tauto

theorem second_letters_in_unit : (['o', 'O', 's', 'S', 'ſ'].all isUnitChar) = true := by
  decide +kernel

theorem IsConnective.isUnit {word : List Char} (h : IsConnective word) : IsUnit word := by
  obtain ⟨a, b, rfl, hword⟩ := h
  obtain ⟨ha, hb⟩ := mem_of_isConnective hword
  refine ⟨a, [b], rfl, ?_, fun c hc => ?_⟩
  · fin_cases ha <;> decide
  · obtain rfl := List.mem_singleton.1 hc
    exact List.all_eq_true.1 second_letters_in_unit c hb

theorem IsConnective.not_isBlank {word : List Char} (h : IsConnective word) :
    ∀ c ∈ word, Text.isBlank c = false := by
  obtain ⟨a, b, rfl, hword⟩ := h
  obtain ⟨ha, hb⟩ := mem_of_isConnective hword
  refine List.forall_mem_cons.2 ⟨?_, fun c hc => ?_⟩
  · fin_cases ha <;> decide
  · obtain rfl := List.mem_singleton.1 hc
    fin_cases hb <;> decide

theorem IsUnit.isUnitChar {unit : List Char} (h : IsUnit unit) :
    ∀ c ∈ unit, isUnitChar c = true := by
  obtain ⟨first, others, rfl, hfirst, hothers⟩ := h
  exact List.forall_mem_cons.2 ⟨isUnitChar_of_isUnitStart hfirst, hothers⟩

theorem isUnitChar_of_isGap {gap : List Char} (h : IsGap gap) :
    ∀ c ∈ gap, isUnitChar c = true := fun c hc =>
  isUnitChar_of_isBlank (h.2 c hc)

theorem IsUnit.head?_filled {unit : List Char} (h : IsUnit unit) :
    ∀ c ∈ unit.head?, Text.isBlank c = false := by
  obtain ⟨first, others, rfl, hfirst, -⟩ := h
  simpa using not_isBlank_of_unitStart hfirst

/-- A unit with more characters of units behind it is a unit. -/
theorem IsUnit.append {unit others : List Char} (h : IsUnit unit)
    (hothers : ∀ c ∈ others, Request.isUnitChar c = true) : IsUnit (unit ++ others) := by
  obtain ⟨first, rest, rfl, hfirst, hrest⟩ := h
  exact ⟨first, rest ++ others, rfl, hfirst, List.forall_mem_append.2 ⟨hrest, hothers⟩⟩

/-- The front of a unit is a unit, if anything is left. -/
theorem IsUnit.of_append {unit others : List Char} (h : IsUnit (unit ++ others)) (hne : unit ≠ []) :
    IsUnit unit := by
  obtain ⟨c, cs, rfl⟩ := List.exists_cons_of_ne_nil hne
  obtain ⟨first, rest, heq, hfirst, hrest⟩ := h
  obtain ⟨rfl, rfl⟩ := List.cons.inj heq
  exact ⟨c, cs, rfl, hfirst, fun d hd => hrest d (List.mem_append_left _ hd)⟩

/-! ### Words inside of units -/

/-- Whether a text ends in a gap and a word that could stand between units. -/
def EndsInWord (cs : List Char) : Prop :=
  ∃ before gap word, cs = before ++ (gap ++ word) ∧ IsGap gap ∧ IsConnective word

/-- Whether a text holds a word between gaps that could stand between units, in front of a character
with the property `p`. -/
def HasWordBefore (p : Char → Prop) (cs : List Char) : Prop :=
  ∃ before gap word gap' first after, cs = before ++
    (gap ++ (word ++ (gap' ++ first :: after))) ∧ IsGap gap ∧
    IsConnective word ∧ IsGap gap' ∧ p first

theorem EndsInWord.append {cs : List Char} (h : EndsInWord cs) (front : List Char) :
    EndsInWord (front ++ cs) := by
  obtain ⟨before, gap, word, rfl, hgap, hword⟩ := h
  exact ⟨front ++ before, gap, word, (List.append_assoc ..).symm, hgap, hword⟩

theorem HasWordBefore.append {p : Char → Prop} {cs : List Char} (h : HasWordBefore p cs)
    (front : List Char) :
    HasWordBefore p (front ++ cs) := by
  obtain ⟨before, gap, word, gap', first, after, rfl, hrest⟩ := h
  exact ⟨front ++ before, gap, word, gap', first, after, (List.append_assoc ..).symm, hrest⟩

theorem not_hasWordBefore_of_filled {p : Char → Prop} {cs : List Char}
    (h : ∀ c ∈ cs, Text.isBlank c = false) :
    ¬HasWordBefore p cs := by
  rintro ⟨before, gap, word, gap', first, after, rfl, hgap, -⟩
  obtain ⟨c, hc⟩ := List.exists_mem_of_ne_nil gap hgap.1
  have hfilled := h c (by simp [hc])
  simp [hgap.2 c hc] at hfilled

/-- Whether a text ends in no blank. -/
def EndsFilled (cs : List Char) : Prop :=
  ∀ c ∈ cs.getLast?, Text.isBlank c = false

theorem EndsFilled.ne_append_gap {cs gap : List Char} (h : EndsFilled cs) (hgap : IsGap gap)
    (before : List Char) :
    cs ≠ before ++ gap := by
  rintro rfl
  have hlast := List.getLast?_eq_some_getLast hgap.1
  have hfilled := h (gap.getLast hgap.1) (by rw [List.getLast?_append, hlast]; rfl)
  simp [hgap.2 _ (List.getLast_mem hgap.1)] at hfilled

theorem EndsFilled.of_append {xs ys : List Char} (h : EndsFilled (xs ++ ys)) : EndsFilled ys := by
  by_cases hys : ys = []
  · simp [EndsFilled, hys]
  · intro c hc
    exact h c (by rwa [List.getLast?_append_of_ne_nil _ hys])

theorem EndsFilled.append {xs ys : List Char} (h : EndsFilled ys) (hys : ys ≠ []) :
    EndsFilled (xs ++ ys) := by
  intro c hc
  rw [List.getLast?_append_of_ne_nil _ hys] at hc
  exact h c hc

/-- A first unit that is the shortest with which the rest of a line can be divided. -/
def ShortestTail (cs source target : List Char) : Prop :=
  IsTail cs source target ∧ ∀ source' target', IsTail cs source' target' →
    source.length ≤ source'.length

section

variable {source gap word gap' target : List Char}

/-- A unit that starts with something blank behind it is never empty. -/
theorem ne_nil_of_isUnit_append_gap {before gap rest : List Char}
    (h : IsUnit (before ++ (gap ++ rest))) (hgap : IsGap gap) : before ≠ [] := by
  rintro rfl
  obtain ⟨c, cs, hcons, hblank⟩ := head?_of_isGap hgap rest
  obtain ⟨first, others, heq, hfirst, -⟩ := h
  obtain ⟨rfl, rfl⟩ := List.cons.inj (hcons.symm.trans heq)
  rw [not_isBlank_of_unitStart hfirst] at hblank
  cases hblank

/-- A word inside of a unit, with a unit behind it, ends the unit earlier. -/
theorem not_shortestTail_of_split {before gap rest behind target' : List Char}
    (hsource : IsUnit (before ++ (gap ++ rest))) (hgap : IsGap gap)
    (hfound : targetOf? (gap ++ rest ++ behind) = some target') :
    ¬ShortestTail (before ++ (gap ++ rest) ++ behind) (before ++ (gap ++ rest)) target := by
  rintro ⟨-, hshortest⟩
  have hbefore := hsource.of_append (ne_nil_of_isUnit_append_gap hsource hgap)
  have hle :=
    hshortest before target' ⟨gap ++ rest ++ behind, List.append_assoc .., hbefore, hfound⟩
  have hpos := List.length_pos_iff.2 hgap.1
  rw [List.length_append, List.length_append] at hle
  omega

theorem targetOf?_append (hgap : IsGap gap) (hword : IsConnective word) (hgap' : IsGap gap')
    (htarget : IsUnit target) :
    targetOf? (gap ++ (word ++ (gap' ++ target))) = some target :=
  (targetOf?_eq_some_iff ..).2 ⟨gap, word, gap', rfl, hgap, hword, hgap', htarget⟩

theorem isUnit_of_targetOf? {behind : List Char} (h : targetOf? behind = some target) :
    IsUnit target := by
  obtain ⟨_, _, _, -, -, -, -, htarget⟩ := (targetOf?_eq_some_iff ..).1 h
  exact htarget

/-- A word that could stand between units, read from inside of a unit, is in that unit. -/
theorem word_of_targetOf? {rest behind target' : List Char} (hgap : IsGap gap) (hrest : rest ≠ [])
    (hfilled : EndsFilled rest) (h : targetOf? (rest ++ (gap ++ behind)) = some target') :
    EndsInWord rest ∨ HasWordBefore (isUnitStart · = true) rest := by
  obtain ⟨g, w, g', heq, hg, hw, hg', htarget⟩ := (targetOf?_eq_some_iff ..).1 h
  -- The unit ends somewhere in the gap, the word and the gap that were read, or behind them.
  rcases List.append_eq_append_iff.1 heq with ⟨more, rfl, -⟩ | ⟨rest, rfl, hword⟩
  · exact absurd rfl
      (hfilled.ne_append_gap ⟨hrest, fun c hc => hg.2 c (List.mem_append_left _ hc)⟩ [])
  rcases List.append_eq_append_iff.1 hword with ⟨rest, rfl, hgap''⟩ | ⟨more, rfl, hmore⟩
  · rcases List.append_eq_append_iff.1 hgap'' with ⟨rest, rfl, hunit⟩ | ⟨more, rfl, -⟩
    · cases rest with
      | nil => exact absurd (by simp) (hfilled.ne_append_gap hg' (g ++ w))
      | cons first after =>
          have hfirst := htarget.head? [] first (by simp [hunit])
          exact .inr ⟨[], g, w, g', first, after, rfl, hg, hw, hg', hfirst⟩
    · cases rest with
      | nil => exact .inl ⟨[], g, w, by simp, hg, hw⟩
      | cons c rest =>
          have hblanks : IsGap (c :: rest) :=
            ⟨by simp, fun d hd => hg'.2 d (List.mem_append_left _ hd)⟩
          exact absurd (by simp) (hfilled.ne_append_gap hblanks (g ++ w))
  · cases more with
    | nil => exact .inl ⟨[], g, _, rfl, hg, by simpa using hw⟩
    | cons c more =>
        -- The word is not cut in two, since a gap follows the unit.
        obtain ⟨d, ds, hcons, hblank⟩ := head?_of_isGap hgap behind
        obtain ⟨rfl, -⟩ := List.cons.inj (hcons.symm.trans hmore)
        simp [hw.not_isBlank d (by simp)] at hblank

section

variable (hsource : IsUnit source) (hgap : IsGap gap) (hword : IsConnective word)
    (hgap' : IsGap gap')
  (htarget : IsUnit target)

include hsource hgap hword hgap' htarget

/-- The shortest first unit ends in no blank, which could stand in front of the word as well. -/
theorem ShortestTail.endsFilled
    (h : ShortestTail (source ++ (gap ++ (word ++ (gap' ++ target)))) source target) :
    EndsFilled source := by
  intro c hc
  by_contra hblank
  rw [Bool.not_eq_false] at hblank
  obtain ⟨before, rfl⟩ := List.getLast?_eq_some_iff.1 hc
  have hone : IsGap [c] := ⟨by simp, by simpa using hblank⟩
  have hwider : IsGap ([c] ++ gap) := ⟨by simp, List.forall_mem_append.2 ⟨hone.2, hgap.2⟩⟩
  have hearly := targetOf?_append hwider hword hgap' htarget
  rw [List.append_assoc, ← List.append_nil [c]] at hearly
  rw [← List.append_nil [c]] at hsource h
  exact not_shortestTail_of_split hsource hone hearly h

/-- The shortest first unit does not end in a word that could stand in front of what follows it. -/
theorem ShortestTail.not_endsInWord
    (h : ShortestTail (source ++ (gap ++ (word ++ (gap' ++ target)))) source target) :
    ¬EndsInWord source := by
  rintro ⟨before, g, w, rfl, hg, hw⟩
  have hlate : IsUnit (word ++ (gap' ++ target)) :=
    hword.isUnit.append (List.forall_mem_append.2 ⟨isUnitChar_of_isGap hgap', htarget.isUnitChar⟩)
  have hearly := targetOf?_append hg hw hgap hlate
  rw [← List.append_assoc g] at hearly
  exact not_shortestTail_of_split hsource hg hearly h

/-- The shortest first unit holds no word in front of something that a unit could start with. -/
theorem ShortestTail.not_hasWordBefore
    (h : ShortestTail (source ++ (gap ++ (word ++ (gap' ++ target)))) source target) :
    ¬HasWordBefore (isUnitStart · = true) source := by
  rintro ⟨before, g, w, g', first, after, rfl, hg, hw, hg', hfirst⟩
  have hothers : ∀ c ∈ after ++ (gap ++ (word ++ (gap' ++ target))), isUnitChar c = true := by
    have hall := hsource.isUnitChar
    simp only [List.forall_mem_append, List.forall_mem_cons] at hall ⊢
    exact ⟨hall.2.2.2.2.2, isUnitChar_of_isGap hgap, hword.isUnit.isUnitChar,
      isUnitChar_of_isGap hgap', htarget.isUnitChar⟩
  have hearly := targetOf?_append hg hw hg' ⟨first, _, rfl, hfirst, hothers⟩
  have hsplit : g ++ (w ++ (g' ++ first :: (after ++ (gap ++ (word ++ (gap' ++ target)))))) =
      g ++ (w ++ (g' ++ first :: after)) ++ (gap ++ (word ++ (gap' ++ target))) := by
    simp
  rw [hsplit] at hearly
  exact not_shortestTail_of_split hsource hg hearly h

/-- A first unit that ends in no blank and holds no such word is the shortest. -/
theorem shortestTail_of_not (hfilled : EndsFilled source) (hend : ¬EndsInWord source)
    (hinner : ¬HasWordBefore (isUnitStart · = true) source) :
    ShortestTail (source ++ (gap ++ (word ++ (gap' ++ target)))) source target := by
  refine ⟨⟨_, rfl, hsource, targetOf?_append hgap hword hgap' htarget⟩, ?_⟩
  rintro source' target' ⟨behind, heq, -, hfound⟩
  by_contra hlt
  obtain ⟨rest, rfl, rfl⟩ : ∃ rest, source = source' ++ rest ∧
      behind = rest ++ (gap ++ (word ++ (gap' ++ target))) := by
    rcases List.append_eq_append_iff.1 heq with ⟨rest, rfl, -⟩ | ⟨rest, rfl, hrest⟩
    · simp at hlt
    · exact ⟨rest, rfl, hrest⟩
  have hrest : rest ≠ [] := by
    rintro rfl
    simp at hlt
  rcases word_of_targetOf? hgap hrest hfilled.of_append hfound with hword' | hword'
  · exact hend (hword'.append source')
  · exact hinner (hword'.append source')

/-- The shortest first units are those that end in no blank and hold no word that would end them
earlier. -/
theorem shortestTail_iff :
    ShortestTail (source ++ (gap ++ (word ++ (gap' ++ target)))) source target ↔
      EndsFilled source ∧ ¬EndsInWord source ∧ ¬HasWordBefore (isUnitStart · = true) source := by
  constructor
  · intro h
    exact ⟨h.endsFilled hsource hgap hword hgap' htarget,
      h.not_endsInWord hsource hgap hword hgap' htarget,
      h.not_hasWordBefore hsource hgap hword hgap' htarget⟩
  · rintro ⟨hfilled, hend, hinner⟩
    exact shortestTail_of_not hsource hgap hword hgap' htarget hfilled hend hinner

end

end

/-! ### Lines that start with a numeral -/

/-- The divisions of a line that starts with a numeral are those of what follows it. -/
theorem division_append_iff {numeral gap tail : List Char} (hnumeral : IsNumeral numeral)
    (hgap : IsGap gap) (htail : ∀ c ∈ tail.head?, isUnitStart c = true)
    (numeral' source target : List Char) :
    Division (numeral ++ (gap ++ tail)) numeral' source target ↔
      numeral' = numeral ∧ IsTail tail source target := by
  have hsplit := splitNumeral?_append hnumeral hgap htail
  have hdrop := (span_gap hgap fun c hc => not_isBlank_of_unitStart (htail c hc)).2
  rw [division_iff]
  constructor
  · rintro ⟨rest, hrest, hunits⟩
    obtain ⟨rfl, rfl⟩ := Prod.mk.inj (Option.some.inj (hsplit.symm.trans hrest))
    rw [hdrop] at hunits
    exact ⟨rfl, hunits⟩
  · rintro ⟨rfl, hunits⟩
    refine ⟨_, hsplit, ?_⟩
    rwa [hdrop]

theorem shortestDivision_append_iff {numeral gap tail : List Char} (hnumeral : IsNumeral numeral)
    (hgap : IsGap gap) (htail : ∀ c ∈ tail.head?, isUnitStart c = true)
    (source target : List Char) :
    ShortestDivision (numeral ++ (gap ++ tail)) numeral source target ↔
      ShortestTail tail source target := by
  simp only [ShortestDivision, ShortestTail, division_append_iff hnumeral hgap htail,
    true_and, and_imp]
  exact and_congr_right fun _ => ⟨fun h s t => h numeral s t rfl, fun h _ s t _ => h s t⟩

end UnitConversion.Request
