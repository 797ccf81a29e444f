import UnitConversion.Proofs.Request.Numeral
import UnitConversion.Request.Line
import Mathlib

/-!
# How a line is divided

A line asks for a conversion when it can be divided into a numeral, a unit, the word `to` or `as`,
and another unit, with blanks between them. Units can consist of several words, so a line can have
many divisions; the one with the shortest first unit counts. In a text, the characters U+BD800 to
U+BDFFF stand for lone surrogates, as `Text.surrogate?` says.

* `Request.parts?_eq_none_iff`: the reader finds nothing exactly when there is no division.
* `Request.parts?_eq_some_iff`: what it finds is the division with the shortest first unit.
* `Request.parts?_eq_some_iff_first`: trying one form of numerals after the other comes to the same.
* `Request.answered`: how every line that is neither empty nor too long is answered.
-/

namespace UnitConversion.Request

open Numeral

/-- The word between the units. -/
def IsConnective (cs : List Char) : Prop :=
  ∃ a b, cs = [a, b] ∧ isConnective a b = true

/-- A unit: a character that units can start with, and characters that they can contain. -/
def IsUnit (cs : List Char) : Prop :=
  ∃ first others, cs = first :: others ∧ isUnitStart first = true ∧
    ∀ c ∈ others, isUnitChar c = true

/-- A line with its numeral, the unit that it counts and the unit wanted. -/
def Division (line numeral source target : List Char) : Prop :=
  ∃ gap₁ gap₂ word gap₃,
    line = numeral ++ (gap₁ ++ (source ++ (gap₂ ++ (word ++ (gap₃ ++ target))))) ∧
      IsNumeral numeral ∧ IsGap gap₁ ∧ IsUnit source ∧ IsGap gap₂ ∧ IsConnective word ∧ IsGap gap₃ ∧
        IsUnit target

/-- A division whose first unit is as short as in any other. -/
def ShortestDivision (line numeral source target : List Char) : Prop :=
  Division line numeral source target ∧
    ∀ numeral' source' target', Division line numeral' source' target' →
      source.length ≤ source'.length

section Characters

variable {c : Char}

theorem isBlank_iff (c : Char) : Text.isBlank c = true ↔
    (9 ≤ c.toNat ∧ c.toNat ≤ 13) ∨ (28 ≤ c.toNat ∧ c.toNat ≤ 32) ∨ c.toNat = 133 ∨ c.toNat = 160 ∨
      c.toNat = 5760 ∨ (8192 ≤ c.toNat ∧ c.toNat ≤ 8202) ∨ (8232 ≤ c.toNat ∧ c.toNat ≤ 8233) ∨
        c.toNat = 8239 ∨ c.toNat = 8287 ∨ c.toNat = 12288 := by
  simp only [Text.isBlank, Text.memIntervals, Text.blankIntervals, List.any_cons, List.any_nil,
    Bool.or_eq_true, Bool.and_eq_true, decide_eq_true_eq, Bool.or_false]
  omega

theorem not_isBlank_of_digit (hc : Decimal.isDigitChar c = true) : Text.isBlank c = false := by
  rw [isDigitChar_iff] at hc
  rw [Bool.eq_false_iff, Ne, isBlank_iff]
  omega

theorem isUnitStart_iff (c : Char) : isUnitStart c = true ↔
    (65 ≤ c.toNat ∧ c.toNat ≤ 90) ∨ (97 ≤ c.toNat ∧ c.toNat ≤ 122) ∨ c.toNat ∈ unitStartCodes := by
  simp only [isUnitStart, Char.isAlpha, Char.isUpper, Char.isLower, Bool.or_eq_true,
    Bool.and_eq_true, decide_eq_true_eq, List.contains_iff_mem, ge_iff_le,
    UInt32.le_iff_toNat_le, or_assoc]
  exact Iff.rfl

theorem not_isBlank_of_unitStart (hc : isUnitStart c = true) : Text.isBlank c = false := by
  rw [isUnitStart_iff] at hc
  simp only [unitStartCodes, List.mem_cons, List.not_mem_nil, or_false] at hc
  rw [Bool.eq_false_iff, Ne, isBlank_iff]
  omega

theorem not_isDigitChar_of_unitStart (hc : isUnitStart c = true) :
    Decimal.isDigitChar c = false := by
  rw [isUnitStart_iff] at hc
  simp only [unitStartCodes, List.mem_cons, List.not_mem_nil, or_false] at hc
  rw [Bool.eq_false_iff, Ne, isDigitChar_iff]
  omega

theorem not_isBlank_of_connective {a b : Char} (h : isConnective a b = true) :
    Text.isBlank a = false := by
  simp only [isConnective, Bool.or_eq_true, Bool.and_eq_true, beq_iff_eq] at h
  rcases h with ⟨rfl | rfl, -⟩ | ⟨rfl | rfl, -⟩ <;> decide

end Characters

theorem isUnit_iff (cs : List Char) : isUnit cs = true ↔ IsUnit cs := by
  constructor
  · intro h
    cases cs with
    | nil => cases h
    | cons c cs =>
        rw [isUnit, Bool.and_eq_true, List.all_eq_true] at h
        exact ⟨c, cs, rfl, h⟩
  · rintro ⟨first, others, rfl, hfirst, hothers⟩
    rw [isUnit, Bool.and_eq_true, List.all_eq_true]
    exact ⟨hfirst, hothers⟩

theorem IsUnit.head? {cs : List Char} (hunit : IsUnit cs) (rest : List Char) :
    ∀ c ∈ (cs ++ rest).head?, isUnitStart c = true := by
  obtain ⟨first, others, rfl, hfirst, -⟩ := hunit
  intro c hc
  obtain rfl := Option.some.inj hc
  exact hfirst

/-- Blanks in front of something else are cut off. -/
theorem span_gap {gap rest : List Char} (hgap : IsGap gap)
    (hrest : ∀ c ∈ rest.head?, Text.isBlank c = false) :
    (gap ++ rest).takeWhile Text.isBlank = gap ∧ (gap ++ rest).dropWhile Text.isBlank = rest :=
  span_append hgap.2 hrest

theorem head?_of_isGap {gap : List Char} (hgap : IsGap gap) (rest : List Char) :
    ∃ c cs, gap ++ rest = c :: cs ∧ Text.isBlank c = true := by
  obtain ⟨hne, hall⟩ := hgap
  cases gap with
  | nil => exact absurd rfl hne
  | cons c cs => exact ⟨c, cs ++ rest, rfl, hall c (by simp)⟩

/-- What is cut off in front of something that starts with a blank is a gap. -/
theorem isGap_takeWhile {c : Char} {cs : List Char} (hc : Text.isBlank c = true) :
    IsGap ((c :: cs).takeWhile Text.isBlank) := by
  refine ⟨?_, fun d hd => mem_takeWhile hd⟩
  simp [hc]

theorem splitWord_append {word rest : List Char} (hword : ∀ c ∈ word, Text.isBlank c = false)
    (hrest : ∀ c ∈ rest.head?, Text.isBlank c = true) :
    splitWord (word ++ rest) = (word, rest) := by
  have hnot : ∀ c ∈ word, (!Text.isBlank c) = true := fun c hc => by simp [hword c hc]
  have hstop : ∀ c ∈ rest.head?, (!Text.isBlank c) = false := fun c hc => by simp [hrest c hc]
  exact Prod.ext (span_append hnot hstop).1 (span_append hnot hstop).2

theorem head?_splitWord (cs : List Char) : ∀ c ∈ (splitWord cs).2.head?, Text.isBlank c = true := by
  intro c hc
  simpa using head?_dropWhile_eq_false cs c hc

theorem splitWord_eq (cs : List Char) : (splitWord cs).1 ++ (splitWord cs).2 = cs :=
  List.takeWhile_append_dropWhile

section Numerals

theorem not_isBlank_of_isDigits {cs : List Char} (hcs : IsDigits cs) :
    ∀ c ∈ cs, Text.isBlank c = false :=
  fun c hc => not_isBlank_of_digit (hcs.2 c hc)

theorem not_isBlank_of_isDecimal {cs : List Char} (hcs : IsDecimal cs) :
    ∀ c ∈ cs, Text.isBlank c = false := by
  intro c hc
  rcases mem_of_isDecimal hcs c hc with hdigit | hmark
  · exact not_isBlank_of_digit hdigit
  · fin_cases hmark <;> decide

theorem not_isBlank_of_isFraction {cs : List Char} (hcs : IsFraction cs) :
    ∀ c ∈ cs, Text.isBlank c = false := by
  obtain ⟨numerator, denominator, rfl, hnumerator, hdenominator⟩ := hcs
  intro c hc
  rcases List.mem_append.1 hc with hc | hc
  · exact not_isBlank_of_isDigits hnumerator c hc
  rcases List.mem_cons.1 hc with rfl | hc
  · decide
  · exact not_isBlank_of_isDigits hdenominator c hc

theorem isDecimal_of_isDigits {cs : List Char} (hcs : IsDigits cs) : IsDecimal cs :=
  ⟨[], cs, [], [], by simp, .inl rfl, hcs, .inl rfl, .inl rfl⟩

/-- A unit does not start like a fraction. -/
theorem fraction?_eq_none_of_unitStart {cs : List Char}
    (hcs : ∀ c ∈ cs.head?, isUnitStart c = true) :
    fraction? cs = none := by
  rw [← Option.not_isSome_iff_eq_none, isSome_fraction?_iff]
  rintro ⟨numerator, denominator, rfl, hnumerator, -⟩
  obtain ⟨hne, hall⟩ := hnumerator
  cases numerator with
  | nil => exact absurd rfl hne
  | cons c numerator =>
      have hdigit := hall c (by simp)
      rw [not_isDigitChar_of_unitStart (hcs c rfl)] at hdigit
      cases hdigit

/-- The first word of something that starts with a unit starts like that unit. -/
theorem head?_splitWord_fst {cs : List Char} (hcs : ∀ c ∈ cs.head?, isUnitStart c = true) :
    ∀ c ∈ (splitWord cs).1.head?, isUnitStart c = true := by
  cases cs with
  | nil => exact hcs
  | cons c cs =>
      have hc := hcs c rfl
      intro d hd
      simp only [splitWord, List.takeWhile_cons, not_isBlank_of_unitStart hc,
        Bool.not_false, if_true, List.head?_cons, Option.mem_def, Option.some.injEq] at hd
      exact hd ▸ hc

/-- A numeral in front of a unit is found, whichever form it has. -/
theorem splitNumeral?_append {numeral gap rest : List Char} (hnumeral : IsNumeral numeral)
    (hgap : IsGap gap) (hrest : ∀ c ∈ rest.head?, isUnitStart c = true) :
    splitNumeral? (numeral ++ (gap ++ rest)) = some (numeral, gap ++ rest) := by
  have hgapHead : ∀ rest', ∀ c ∈ (gap ++ rest').head?, Text.isBlank c = true := by
    intro rest' c hc
    obtain ⟨d, ds, hd, hblank⟩ := head?_of_isGap hgap rest'
    rw [hd] at hc
    exact Option.some.inj hc ▸ hblank
  have hrestHead : ∀ c ∈ rest.head?, Text.isBlank c = false :=
    fun c hc => not_isBlank_of_unitStart (hrest c hc)
  have hone : (∀ c ∈ numeral, Text.isBlank c = false) → IsDecimal numeral ∨ IsFraction numeral →
      splitNumeral? (numeral ++ (gap ++ rest)) = some (numeral, gap ++ rest) := by
    intro hclean hform
    have hfirst := splitWord_append hclean (hgapHead rest)
    have hsecond := fraction?_eq_none_of_unitStart (head?_splitWord_fst hrest)
    rw [← isDecimal_iff, ← isSome_fraction?_iff] at hform
    simp [splitNumeral?, hfirst, (span_gap hgap hrestHead).2, hsecond, hform]
  rcases hnumeral with hdecimal | hfraction | ⟨whole, gap', fraction, rfl, hwhole, hgap', hfraction⟩
  · exact hone (not_isBlank_of_isDecimal hdecimal) (.inl hdecimal)
  · exact hone (not_isBlank_of_isFraction hfraction) (.inr hfraction)
  · have hfractionHead : ∀ c ∈ (fraction ++ (gap ++ rest)).head?, Text.isBlank c = false := by
      obtain ⟨numerator, denominator, rfl, hnumerator, -⟩ := hfraction
      intro c hc
      rw [List.append_assoc] at hc
      exact not_isBlank_of_digit (head?_of_isDigits hnumerator _ c hc)
    have hgapHead' : ∀ c ∈ (gap' ++ (fraction ++ (gap ++ rest))).head?, Text.isBlank c = true := by
      intro c hc
      obtain ⟨d, ds, hd, hblank⟩ := head?_of_isGap hgap' (fraction ++ (gap ++ rest))
      rw [hd] at hc
      exact Option.some.inj hc ▸ hblank
    have hfirst := splitWord_append (not_isBlank_of_isDigits hwhole) hgapHead'
    have hsecond := splitWord_append (not_isBlank_of_isFraction hfraction) (hgapHead rest)
    obtain ⟨htake, hdrop⟩ := span_gap hgap' hfractionHead
    have hdecimal := (isDecimal_iff _).2 (isDecimal_of_isDigits hwhole)
    have hsome := (isSome_fraction?_iff _).2 hfraction
    simp [splitNumeral?, hfirst, hdecimal, hdrop, htake, hsecond, hsome, (isWhole_iff _).2 hwhole]

/-- What is split off a line as a numeral is one. -/
theorem splitNumeral?_sound {cs numeral rest : List Char}
    (h : splitNumeral? cs = some (numeral, rest)) :
    cs = numeral ++ rest ∧ IsNumeral numeral ∧ ∀ c ∈ rest.head?, Text.isBlank c = true := by
  unfold splitNumeral? at h
  dsimp only at h
  have hfirst := splitWord_eq cs
  have hhead := head?_splitWord cs
  generalize splitWord cs = first at h hfirst hhead
  split at h
  · next hform =>
      have hsecond := splitWord_eq (first.2.dropWhile Text.isBlank)
      have hhead' := head?_splitWord (first.2.dropWhile Text.isBlank)
      generalize splitWord (first.2.dropWhile Text.isBlank) = second at h hsecond hhead'
      split at h
      · next hmixed =>
          obtain ⟨rfl, rfl⟩ := Prod.mk.inj (Option.some.inj h)
          rw [Bool.and_eq_true, isWhole_iff, isSome_fraction?_iff] at hmixed
          have hgapSplit := List.takeWhile_append_dropWhile (p := Text.isBlank) (l := first.2)
          refine ⟨?_,
            .inr (.inr ⟨first.1, _, second.1, List.append_assoc .., hmixed.1, ?_, hmixed.2⟩),
            hhead'⟩
          · rw [List.append_assoc, hsecond, List.append_assoc, hgapSplit, hfirst]
          · cases hbehind : first.2 with
            | nil =>
                rw [hbehind] at hsecond
                obtain ⟨hnil, -⟩ := List.append_eq_nil_iff.1 hsecond
                obtain ⟨numerator, denominator, hslash, -⟩ := hmixed.2
                rw [hnil] at hslash
                exact absurd hslash.symm (by simp)
            | cons c behind => exact isGap_takeWhile (hhead c (by rw [hbehind]; rfl))
      · obtain rfl := Option.some.inj h
        rw [Bool.or_eq_true, isDecimal_iff, isSome_fraction?_iff] at hform
        refine ⟨hfirst.symm, ?_, hhead⟩
        rcases hform with hdecimal | hfraction
        · exact .inl hdecimal
        · exact .inr (.inl hfraction)
  · cases h

end Numerals

section Units

/-- The reader cuts off blanks, tests the next two characters and the blank behind them, and cuts
off blanks again. -/
theorem targetOf?_eq_some_iff_cut {cs target : List Char} : targetOf? cs = some target ↔
    ∃ c behind a b d rest, cs = c :: behind ∧ Text.isBlank c = true ∧
      cs.dropWhile Text.isBlank = a :: b :: d :: rest ∧
      isConnective a b = true ∧ Text.isBlank d = true ∧
      rest.dropWhile Text.isBlank = target ∧ IsUnit target := by
  constructor
  · intro h
    unfold targetOf? at h
    split at h
    · next c behind =>
        split at h
        · next hblank =>
            split at h
            · next a b d rest hfound =>
                simp only [Option.ite_none_right_eq_some, Bool.and_eq_true, isUnit_iff] at h
                obtain ⟨⟨⟨hword, hblank'⟩, hunit⟩, htarget⟩ := h
                obtain rfl := Option.some.inj htarget
                exact ⟨c, behind, a, b, d, rest, rfl, hblank, hfound, hword, hblank', rfl, hunit⟩
            · cases h
        · cases h
    · cases h
  · rintro ⟨c, behind, a, b, d, rest, rfl, hblank, hfound, hword, hblank', rfl, hunit⟩
    simp only [targetOf?, hblank, if_true, hfound, hword, hblank', (isUnit_iff _).2 hunit,
      Bool.and_self]

theorem targetOf?_eq_some_iff (cs target : List Char) :
    targetOf? cs = some target ↔ ∃ gap word gap', cs =
      gap ++ (word ++ (gap' ++ target)) ∧ IsGap gap ∧
      IsConnective word ∧ IsGap gap' ∧ IsUnit target := by
  rw [targetOf?_eq_some_iff_cut]
  constructor
  · rintro ⟨c, behind, a, b, d, rest, rfl, hblank, hfound, hword, hblank', rfl, hunit⟩
    refine ⟨(c :: behind).takeWhile Text.isBlank, [a, b], (d :: rest).takeWhile Text.isBlank, ?_,
      isGap_takeWhile hblank, ⟨a, b, rfl, hword⟩, isGap_takeWhile hblank', hunit⟩
    have hsplit := List.takeWhile_append_dropWhile (p := Text.isBlank) (l := c :: behind)
    have hsplit' := List.takeWhile_append_dropWhile (p := Text.isBlank) (l := d :: rest)
    rw [hfound] at hsplit
    rw [List.dropWhile_cons_of_pos hblank'] at hsplit'
    rw [hsplit']
    exact hsplit.symm
  · rintro ⟨gap, word, gap', rfl, hgap, ⟨a, b, rfl, hword⟩, hgap', hunit⟩
    have hwordHead : ∀ c ∈ ([a, b] ++ (gap' ++ target)).head?, Text.isBlank c = false := by
      intro c hc
      obtain rfl := Option.some.inj hc
      exact not_isBlank_of_connective hword
    have hunitHead : ∀ c ∈ target.head?, Text.isBlank c = false := by
      intro c hc
      have hstart := hunit.head? []
      rw [List.append_nil] at hstart
      exact not_isBlank_of_unitStart (hstart c hc)
    obtain ⟨c, behind, hcs, hblank⟩ := head?_of_isGap hgap ([a, b] ++ (gap' ++ target))
    obtain ⟨d, rest, hbehind, hblank'⟩ := head?_of_isGap hgap' target
    have htarget := (span_gap hgap' hunitHead).2
    rw [hbehind, List.dropWhile_cons_of_pos hblank'] at htarget
    refine ⟨c, behind, a, b, d, rest, hcs, hblank, ?_, hword, hblank', htarget, hunit⟩
    rw [(span_gap hgap hwordHead).2, hbehind]
    rfl

/-- What follows a numeral and blanks: a unit, the connective word and another unit. -/
def IsTail (cs source target : List Char) : Prop :=
  ∃ behind, cs = source ++ behind ∧ IsUnit source ∧ targetOf? behind = some target

theorem divide?_sound {cs source target : List Char} (h : divide? cs = some (source, target)) :
    ∃ behind, cs = source ++ behind ∧ (∀ c ∈ source, isUnitChar c = true) ∧
      targetOf? behind = some target := by
  induction cs generalizing source with
  | nil => cases h
  | cons c cs ih =>
      unfold divide? at h
      split at h
      · next hfound =>
          obtain ⟨rfl, rfl⟩ := Prod.mk.inj (Option.some.inj h)
          exact ⟨c :: cs, rfl, by simp, hfound⟩
      · split at h
        · next hchar =>
            obtain ⟨⟨rest, target'⟩, hrest, heq⟩ := Option.map_eq_some_iff.1 h
            obtain ⟨rfl, rfl⟩ := Prod.mk.inj heq
            obtain ⟨behind, rfl, hall, hfound⟩ := ih hrest
            refine ⟨behind, rfl, ?_, hfound⟩
            intro d hd
            rcases List.mem_cons.1 hd with rfl | hd
            · exact hchar
            · exact hall d hd
        · cases h

/-- Wherever a unit can end, the division ends there or before. -/
theorem divide?_least {source behind target : List Char}
    (hsource : ∀ c ∈ source, isUnitChar c = true) (hbehind : targetOf? behind = some target) :
    ∃ source' target', divide? (source ++ behind) = some (source', target') ∧
      source'.length ≤ source.length := by
  induction source with
  | nil =>
      cases behind with
      | nil => cases hbehind
      | cons c cs =>
          refine ⟨[], target, ?_, Nat.le_refl _⟩
          rw [List.nil_append, divide?, hbehind]
  | cons c source ih =>
      obtain ⟨source', target', hdivide, hlength⟩ := ih fun d hd => hsource d (by simp [hd])
      rw [List.cons_append, divide?]
      split
      · next target'' _ => exact ⟨[], target'', rfl, by simp⟩
      · refine ⟨c :: source', target', ?_, by simpa using hlength⟩
        rw [if_pos (hsource c (by simp)), hdivide]
        rfl

theorem units?_sound {cs source target : List Char} (h : units? cs = some (source, target)) :
    IsTail cs source target := by
  unfold units? at h
  split at h
  · cases h
  · next c cs =>
      split at h
      · next hstart =>
          obtain ⟨⟨rest, target'⟩, hrest, heq⟩ := Option.map_eq_some_iff.1 h
          obtain ⟨rfl, rfl⟩ := Prod.mk.inj heq
          obtain ⟨behind, rfl, hall, hfound⟩ := divide?_sound hrest
          exact ⟨behind, rfl, ⟨c, rest, rfl, hstart, hall⟩, hfound⟩
      · cases h

theorem units?_least {cs source target : List Char} (h : IsTail cs source target) :
    ∃ source' target', units? cs = some (source', target') ∧ source'.length ≤ source.length := by
  obtain ⟨behind, rfl, ⟨first, others, rfl, hfirst, hothers⟩, hfound⟩ := h
  obtain ⟨source', target', hdivide, hlength⟩ := divide?_least hothers hfound
  refine ⟨first :: source', target', ?_, by simpa using hlength⟩
  rw [List.cons_append, units?, if_pos hfirst, hdivide]
  rfl

/-- Two tails with first units of one length are the same. -/
theorem IsTail.unique {cs source target source' target' : List Char} (h : IsTail cs source target)
    (h' : IsTail cs source' target') (hlength : source.length = source'.length) :
    source = source' ∧ target = target' := by
  obtain ⟨behind, rfl, -, hfound⟩ := h
  obtain ⟨behind', heq, -, hfound'⟩ := h'
  obtain ⟨rfl, rfl⟩ := List.append_inj heq hlength
  rw [hfound] at hfound'
  exact ⟨rfl, Option.some.inj hfound'⟩

end Units

/-- A division is a numeral that the reader splits off, and a tail behind the blanks. -/
theorem division_iff (line numeral source target : List Char) :
    Division line numeral source target ↔
      ∃ rest, splitNumeral? line = some (numeral, rest) ∧
        IsTail (rest.dropWhile Text.isBlank) source target := by
  constructor
  · rintro ⟨gap₁, gap₂, word, gap₃, rfl, hnumeral, hgap₁, hsource, hgap₂, hword, hgap₃, htarget⟩
    have hhead := hsource.head? (gap₂ ++ (word ++ (gap₃ ++ target)))
    refine ⟨_, splitNumeral?_append hnumeral hgap₁ hhead, ?_⟩
    rw [(span_gap hgap₁ fun c hc => not_isBlank_of_unitStart (hhead c hc)).2]
    exact ⟨_, rfl, hsource,
      (targetOf?_eq_some_iff ..).2 ⟨gap₂, word, gap₃, rfl, hgap₂, hword, hgap₃, htarget⟩⟩
  · rintro ⟨rest, hsplit, behind, hrest, hsource, hfound⟩
    obtain ⟨rfl, hnumeral, hhead⟩ := splitNumeral?_sound hsplit
    obtain ⟨gap₂, word, gap₃, rfl, hgap₂, hword, hgap₃, htarget⟩ :=
      (targetOf?_eq_some_iff ..).1 hfound
    have hgapSplit := List.takeWhile_append_dropWhile (p := Text.isBlank) (l := rest)
    refine ⟨rest.takeWhile Text.isBlank, gap₂, word, gap₃, ?_, hnumeral, ?_, hsource,
      hgap₂, hword, hgap₃, htarget⟩
    · rw [← hrest, hgapSplit]
    · cases rest with
      | nil =>
          obtain ⟨first, others, rfl, -⟩ := hsource
          cases hrest
      | cons c rest => exact isGap_takeWhile (hhead c rfl)

theorem parts?_eq_some_iff (line numeral source target : List Char) :
    parts? line = some (numeral, source, target) ↔ ShortestDivision line numeral source target := by
  constructor
  · intro h
    unfold parts? at h
    split at h
    · cases h
    · next numeral' rest hsplit =>
        obtain ⟨⟨source', target'⟩, hunits, heq⟩ := Option.map_eq_some_iff.1 h
        obtain ⟨rfl, rfl, rfl⟩ : numeral' = numeral ∧ source' = source ∧ target' = target := by
          simpa using heq
        refine ⟨(division_iff ..).2 ⟨rest, hsplit, units?_sound hunits⟩, ?_⟩
        intro numeral'' source'' target'' hdivision
        obtain ⟨rest', hsplit', htail⟩ := (division_iff ..).1 hdivision
        rw [hsplit] at hsplit'
        obtain ⟨rfl, rfl⟩ := Prod.mk.inj (Option.some.inj hsplit')
        obtain ⟨source₀, target₀, hunits₀, hlength⟩ := units?_least htail
        rw [hunits] at hunits₀
        obtain ⟨rfl, rfl⟩ := Prod.mk.inj (Option.some.inj hunits₀)
        exact hlength
  · rintro ⟨hdivision, hshortest⟩
    obtain ⟨rest, hsplit, htail⟩ := (division_iff ..).1 hdivision
    obtain ⟨source', target', hunits, hlength⟩ := units?_least htail
    have htail' := units?_sound hunits
    have hle := hshortest numeral source' target' ((division_iff ..).2 ⟨rest, hsplit, htail'⟩)
    obtain ⟨rfl, rfl⟩ := htail.unique htail' (by omega)
    simp [parts?, hsplit, hunits]

theorem parts?_eq_none_iff (line : List Char) :
    parts? line = none ↔ ¬ ∃ numeral source target, Division line numeral source target := by
  constructor
  · rintro h ⟨numeral, source, target, hdivision⟩
    obtain ⟨rest, hsplit, htail⟩ := (division_iff ..).1 hdivision
    obtain ⟨source', target', hunits, -⟩ := units?_least htail
    simp [parts?, hsplit, hunits] at h
  · intro h
    cases hparts : parts? line with
    | none => rfl
    | some parts =>
        obtain ⟨numeral, source, target⟩ := parts
        exact absurd ⟨numeral, source, target, ((parts?_eq_some_iff ..).1 hparts).1⟩ h

/-- The forms of numerals, in the order in which a line is tried with them. -/
def forms : List (List Char → Prop) :=
  [IsDecimal, IsFraction, IsMixed]

/-- The division of a line with a numeral of one form: the one with the shortest first unit. -/
structure FormDivision (Form : List Char → Prop)
    (line numeral source target : List Char) : Prop where
  form : Form numeral
  division : Division line numeral source target
  shortest : ∀ numeral' source' target', Form numeral' → Division line numeral' source' target' →
    source.length ≤ source'.length

/-- The division with the first form of numerals that any division of the line has. -/
def FirstFormDivision (line numeral source target : List Char) : Prop :=
  ∃ before form after, forms = before ++ form :: after ∧
    FormDivision form line numeral source target ∧
    ∀ other ∈ before, ∀ numeral' source' target', other numeral' →
      ¬ Division line numeral' source' target'

/-- All divisions of a line have one numeral. -/
theorem Division.numeral_eq {line numeral source target numeral' source' target' : List Char}
    (h : Division line numeral source target) (h' : Division line numeral' source' target') :
    numeral' = numeral := by
  obtain ⟨rest, hsplit, -⟩ := (division_iff ..).1 h
  obtain ⟨rest', hsplit', -⟩ := (division_iff ..).1 h'
  rw [hsplit] at hsplit'
  exact (Prod.mk.inj (Option.some.inj hsplit')).1.symm

/-- The reader, which splits off any numeral at once, finds what trying one form after the other
would find. -/
theorem parts?_eq_some_iff_first (line numeral source target : List Char) :
    parts? line = some (numeral, source, target) ↔
      FirstFormDivision line numeral source target := by
  rw [parts?_eq_some_iff]
  constructor
  · rintro ⟨hdivision, hshortest⟩
    have hfirst (before : List (List Char → Prop)) (form : List Char → Prop)
        (after : List (List Char → Prop)) (hforms : forms = before ++ form :: after)
        (hform : form numeral) (hbefore : ∀ other ∈ before, ¬ other numeral) :
        FirstFormDivision line numeral source target := by
      refine ⟨before, form, after, hforms, ⟨hform, hdivision, fun n s t _ => hshortest n s t⟩, ?_⟩
      intro other hother numeral' source' target' hnumeral hdivision'
      exact hbefore other hother (hdivision.numeral_eq hdivision' ▸ hnumeral)
    by_cases hdecimal : IsDecimal numeral
    · exact hfirst [] IsDecimal _ rfl hdecimal (by simp)
    · by_cases hfraction : IsFraction numeral
      · exact hfirst [IsDecimal] IsFraction _ rfl hfraction (by simpa using hdecimal)
      · obtain ⟨-, -, -, -, -, hnumeral, -⟩ := hdivision
        have hmixed : IsMixed numeral := (hnumeral.resolve_left hdecimal).resolve_left hfraction
        exact hfirst [IsDecimal, IsFraction] IsMixed _ rfl hmixed (by simp [hdecimal, hfraction])
  · rintro ⟨before, form, after, -, hdivision, -⟩
    refine ⟨hdivision.division, fun numeral' source' target' hdivision' => ?_⟩
    have hform : form numeral' := hdivision.division.numeral_eq hdivision' ▸ hdivision.form
    exact hdivision.shortest numeral' source' target' hform hdivision'

/-- How a line without blanks around it is to be answered: as one of the wrong form when it has no
division, and else as its shortest division says. -/
structure Answered (line : List Char) (answer : Except Problem Request) : Prop where
  wrongForm : answer = .error (Problem.invalidFormat none) ↔
    ¬ ∃ numeral source target, Division line numeral source target
  shortest : (∃ numeral source target, Division line numeral source target) →
    ∃ numeral source target, ShortestDivision line numeral source target
  divided : ∀ numeral source target, ShortestDivision line numeral source target →
    answer = match numericValue? numeral with
      | none => .error (Problem.invalidNumber (String.ofList numeral))
      | some value =>
        if UnitText.normalChars source = UnitText.normalChars target then
          .error (Problem.sameUnits (String.ofList (UnitText.normalChars source)))
        else
          .ok ⟨value, String.ofList (UnitText.normalChars source),
            String.ofList (UnitText.normalChars target), String.ofList line⟩

/-- A division that is found is never answered as if the line had the wrong form. -/
theorem ofParts_ne_invalidFormat (numeral source target line : List Char) :
    ofParts numeral source target line ≠ .error (Problem.invalidFormat none) := by
  intro h
  have hsuggestions : ∀ p : Problem, .error p = ofParts numeral source target line →
      p.suggestions ≠ (Problem.invalidFormat none).suggestions := by
    intro p hp
    unfold ofParts at hp
    split at hp
    · rw [Except.error.inj hp]
      simp [Problem.invalidNumber, Problem.invalidFormat]
    · dsimp only at hp
      split at hp
      · rw [Except.error.inj hp]
        simp [Problem.sameUnits, Problem.invalidFormat]
      · cases hp
  exact hsuggestions _ h.symm rfl

/-- Every line that has something on it and is not too long is answered by its shortest division. -/
theorem answered {limit : Int} {line : String} (hline : Text.trimChars line.toList ≠ [])
    (hlimit : ((Text.trimChars line.toList).length : Int) ≤ limit) :
    Answered (Text.trimChars line.toList) (ofText limit line) := by
  have hempty : (Text.trimChars line.toList).isEmpty = false := by simpa using hline
  unfold ofText
  simp only [hempty, Int.not_lt.2 hlimit, Bool.false_eq_true, if_false]
  generalize Text.trimChars line.toList = cs
  cases hparts : parts? cs with
  | none =>
      have hnone := (parts?_eq_none_iff cs).1 hparts
      refine ⟨⟨fun _ => hnone, fun _ => rfl⟩, fun h => absurd h hnone, ?_⟩
      intro numeral source target hshortest
      exact absurd ⟨numeral, source, target, hshortest.1⟩ hnone
  | some parts =>
      obtain ⟨numeral, source, target⟩ := parts
      have hshortest := (parts?_eq_some_iff ..).1 hparts
      refine ⟨⟨?_, ?_⟩, fun _ => ⟨numeral, source, target, hshortest⟩, ?_⟩
      · intro h
        exact (ofParts_ne_invalidFormat _ _ _ _ h).elim
      · intro h
        exact absurd ⟨numeral, source, target, hshortest.1⟩ h
      · intro numeral' source' target' hshortest'
        have hparts' := (parts?_eq_some_iff ..).2 hshortest'
        rw [hparts] at hparts'
        obtain ⟨rfl, rfl, rfl⟩ : numeral = numeral' ∧ source = source' ∧ target = target' := by
          simpa using hparts'
        rfl

/-- The mixed number is the numeral of this line, since no unit starts with a digit. -/
theorem answered_mixed : Answered (Text.trimChars " 1 1/2 cup to to ml ".toList)
    (ofText 256 " 1 1/2 cup to to ml ") :=
  answered (by decide) (by decide)

end UnitConversion.Request
