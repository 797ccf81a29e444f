import UnitConversion.Proofs.Request.Alphabet
import UnitConversion.Proofs.Words

/-!
# From a unit to its normal form

A unit's text and its normal form, side by side: every character that is no blank leaves what it
becomes, and every run of blanks leaves one space. The normal form can be cut where the text is cut,
and the text where the normal form has a space, so the words of the one are found again in the
other.

* `Request.Settles`: a text and what it leaves.
* `Request.settles_normalChars`: a text without blanks at its ends leaves its normal form.
* `Request.Settles.append`, `Request.Settles.exists_of_space`, `Request.Settles.exists_of_filled`:
  the ways to cut it.
* `Request.Settles.isUnit_iff`: which units have normal forms that are units.
* `Request.Settles.endsInWord`, `Request.Settles.hasWordBefore`,
  `Request.Settles.hasWordBefore_of_ordinal`: which words of a unit could stand between units after
  it is brought into its normal form.
-/

namespace UnitConversion.Request

open Text UnitText
open Numeral (IsGap)

/-- Whether a text leaves another one; `gap` says that a blank stands in front of it. -/
inductive Settles : Bool → List Char → List Char → Prop where
  | nil {gap : Bool} : Settles gap [] []
  | skip {c : Char} {cs es : List Char} (hc : isBlank c = true) (h : Settles true cs es) :
      Settles true (c :: cs) es
  | space {c : Char} {cs es : List Char} (hc : isBlank c = true) (h : Settles true cs es) :
      Settles false (c :: cs) (' ' :: es)
  | filled {gap : Bool} {c : Char} {cs ds es : List Char} (hc : isBlank c = false)
      (hds : Becomes c ds) (h : Settles false cs es) : Settles gap (c :: cs) (ds ++ es)

/-! ### Normal forms -/

/-- A character leaves what it becomes, whatever stands around it. -/
theorem exists_becomes_cons (before : List Char) (c : Char) (cs : List Char) :
    ∃ ds, Becomes c ds ∧ (lowerFrom before (c :: cs)).flatMap plainGlyph =
      ds ++ (lowerFrom (c :: before) cs).flatMap plainGlyph := by
  rw [lowerFrom, List.flatMap_append]
  split
  · next hsigma =>
      subst hsigma
      split
      · exact ⟨_, .finalSigma, rfl⟩
      · exact ⟨_, .plain _, by rw [plainForm_capitalSigma]; rfl⟩
  · exact ⟨_, .plain c, rfl⟩

/-- The steps that lead to a normal form, taken together. -/
theorem settles_collapseFrom (gap : Bool) (before cs : List Char) :
    Settles gap cs (collapseFrom gap ((lowerFrom before cs).flatMap plainGlyph)) := by
  induction cs generalizing gap before with
  | nil => exact .nil
  | cons c cs ih =>
      cases hc : isBlank c with
      | true =>
          have hsigma : c ≠ capitalSigma := by
            rintro rfl
            exact absurd hc (by decide)
          have hform : (lowerChar c).flatMap plainGlyph = [c] := plainForm_of_isBlank hc
          rw [lowerFrom, if_neg hsigma, List.flatMap_append, hform, List.singleton_append,
            collapseFrom, if_pos hc]
          cases gap with
          | true => exact .skip hc (ih true _)
          | false => exact .space hc (ih true _)
      | false =>
          obtain ⟨ds, hds, hform⟩ := exists_becomes_cons before c cs
          rw [hform, collapseFrom_append hds.ne_nil (hds.filled hc)]
          exact .filled hc hds (ih false _)

/-- Whether what has been read of a text ends in a blank, if `gap` says so of what stands in front
of it. -/
def gapAfter (gap : Bool) (cs : List Char) : Bool :=
  cs.foldl (fun _ c => isBlank c) gap

theorem gapAfter_of_getLast? {gap : Bool} {cs : List Char} {c : Char} (h : cs.getLast? = some c) :
    gapAfter gap cs = isBlank c := by
  obtain ⟨init, rfl⟩ := List.getLast?_eq_some_iff.1 h
  simp [gapAfter]

namespace Settles

variable {gap : Bool} {cs es : List Char}

/-- Where a text is cut, what it leaves can be cut. -/
theorem append {xs ys : List Char} (h : Settles gap (xs ++ ys) es) :
    ∃ as bs, es = as ++ bs ∧ Settles gap xs as ∧ Settles (gapAfter gap xs) ys bs := by
  induction xs generalizing gap es with
  | nil => exact ⟨[], es, rfl, .nil, h⟩
  | cons c xs ih =>
      cases h with
      | skip hc h =>
          obtain ⟨as, bs, rfl, has, hbs⟩ := ih h
          exact ⟨as, bs, rfl, .skip hc has, by simpa [gapAfter, hc] using hbs⟩
      | space hc h =>
          obtain ⟨as, bs, rfl, has, hbs⟩ := ih h
          exact ⟨' ' :: as, bs, rfl, .space hc has, by simpa [gapAfter, hc] using hbs⟩
      | @filled _ _ _ ds _ hc hds h =>
          obtain ⟨as, bs, rfl, has, hbs⟩ := ih h
          exact ⟨ds ++ as, bs, (List.append_assoc ..).symm, .filled hc hds has,
            by simpa [gapAfter, hc] using hbs⟩

/-- Where something is left by a character that is no blank, all of it is. -/
theorem exists_of_filled {a : Char} {rest : List Char} (h : Settles gap cs (a :: rest))
    (ha : isBlank a = false) :
    ∃ blanks c cs' ds es', cs = blanks ++ c :: cs' ∧
      (∀ d ∈ blanks, isBlank d = true) ∧ (gap = false → blanks = []) ∧
      isBlank c = false ∧ Becomes c ds ∧ a :: rest = ds ++ es' ∧ Settles false cs' es' := by
  generalize hes : a :: rest = es at h
  induction h with
  | nil => cases hes
  | @skip c cs es hc h ih =>
      obtain ⟨blanks, d, cs', ds, es', rfl, hblanks, -, hrest⟩ := ih hes
      exact ⟨c :: blanks, d, cs', ds, es', rfl, List.forall_mem_cons.2 ⟨hc, hblanks⟩,
        by simp, hrest⟩
  | space hc h ih =>
      obtain ⟨rfl, -⟩ := List.cons.inj hes
      exact absurd ha (by decide)
  | @filled _ c cs ds es hc hds h ih =>
      exact ⟨[], c, cs, ds, es, rfl, by simp, fun _ => rfl, hc, hds, rfl, h⟩

/-- Where a text leaves a space, it has a blank. -/
theorem exists_of_space {as bs : List Char} (h : Settles gap cs (as ++ ' ' :: bs)) :
    ∃ xs c ys, cs = xs ++ c :: ys ∧ isBlank c = true ∧ Settles gap xs as ∧ Settles true ys bs := by
  generalize hes : as ++ ' ' :: bs = es at h
  induction h generalizing as with
  | nil => simp at hes
  | @skip c cs es hc h ih =>
      obtain ⟨xs, d, ys, rfl, hd, hxs, hys⟩ := ih hes
      exact ⟨c :: xs, d, ys, rfl, hd, .skip hc hxs, hys⟩
  | @space c cs es hc h ih =>
      cases as with
      | nil =>
          obtain ⟨-, rfl⟩ := List.cons.inj hes
          exact ⟨[], c, cs, rfl, hc, .nil, h⟩
      | cons a as =>
          obtain ⟨rfl, hrest⟩ := List.cons.inj hes
          obtain ⟨xs, d, ys, rfl, hd, hxs, hys⟩ := ih hrest
          exact ⟨c :: xs, d, ys, rfl, hd, .space hc hxs, hys⟩
  | @filled gap c cs ds es hc hds h ih =>
      -- The space is not among what a character that is no blank becomes.
      have hspace : ' ' ∉ ds := fun hmem => absurd (hds.filled hc _ hmem) (by decide)
      rcases List.append_eq_append_iff.1 hes with ⟨more, rfl, hmore⟩ | ⟨more, rfl, hmore⟩
      · cases more with
        | nil =>
            obtain ⟨xs, d, ys, rfl, hd, hxs, hys⟩ := @ih [] hmore
            exact ⟨c :: xs, d, ys, rfl, hd, by simpa using Settles.filled hc hds hxs, hys⟩
        | cons e more =>
            obtain ⟨rfl, -⟩ := List.cons.inj hmore
            exact absurd (by simp) hspace
      · obtain ⟨xs, d, ys, rfl, hd, hxs, hys⟩ := ih hmore.symm
        exact ⟨c :: xs, d, ys, rfl, hd, .filled hc hds hxs, hys⟩

/-- Each character that is no blank leaves what it becomes. -/
theorem exists_becomes (h : Settles gap cs es) {c : Char} (hmem : c ∈ cs) (hc : isBlank c = false) :
    ∃ ds, Becomes c ds ∧ ∀ d ∈ ds, d ∈ es := by
  induction h with
  | nil => cases hmem
  | skip hd h ih =>
      rcases List.mem_cons.1 hmem with rfl | hmem
      · simp [hd] at hc
      · exact ih hmem
  | space hd h ih =>
      rcases List.mem_cons.1 hmem with rfl | hmem
      · simp [hd] at hc
      · obtain ⟨ds, hds, hall⟩ := ih hmem
        exact ⟨ds, hds, fun d hd => List.mem_cons_of_mem _ (hall d hd)⟩
  | @filled _ _ _ ds _ hd hds h ih =>
      rcases List.mem_cons.1 hmem with rfl | hmem
      · exact ⟨ds, hds, fun d hd => List.mem_append_left _ hd⟩
      · obtain ⟨ds', hds', hall⟩ := ih hmem
        exact ⟨ds', hds', fun d hd => List.mem_append_right _ (hall d hd)⟩

/-- Blanks behind a blank leave nothing. -/
theorem eq_nil_of_blanks {blanks : List Char} (h : Settles true blanks es)
    (hblanks : ∀ c ∈ blanks, isBlank c = true) :
    es = [] := by
  generalize hgap : true = gap at h
  induction h with
  | nil => rfl
  | skip hc h ih => exact ih (List.forall_mem_cons.1 hblanks).2 rfl
  | space hc h ih => cases hgap
  | filled hc hds h ih => simp [(List.forall_mem_cons.1 hblanks).1] at hc

/-- A gap leaves one space. -/
theorem eq_space {blanks : List Char} (h : Settles false blanks es) (hblanks : IsGap blanks) :
    es = [' '] := by
  obtain ⟨c, blanks, rfl⟩ := List.exists_cons_of_ne_nil hblanks.1
  obtain ⟨hc, hrest⟩ := List.forall_mem_cons.1 hblanks.2
  cases h with
  | space hc h => rw [h.eq_nil_of_blanks hrest]
  | filled hfilled => simp [hc] at hfilled

theorem of_filled_cons {c : Char} (h : Settles gap (c :: cs) es) (hc : isBlank c = false) :
    ∃ ds es', es = ds ++ es' ∧ Becomes c ds ∧ Settles false cs es' := by
  cases h with
  | skip hblank => simp [hc] at hblank
  | space hblank => simp [hc] at hblank
  | filled hc hds h => exact ⟨_, _, rfl, hds, h⟩

/-- Where nothing is left behind something filled, nothing was there. -/
theorem eq_nil (h : Settles false cs []) : cs = [] := by
  cases cs with
  | nil => rfl
  | cons c cs =>
      cases hc : isBlank c with
      | true =>
          generalize hes : ([] : List Char) = es at h
          cases h with
          | space hc h => cases hes
          | filled hfilled => simp [hc] at hfilled
      | false =>
          obtain ⟨ds, rest, heq, hds, -⟩ := h.of_filled_cons hc
          exact absurd (List.append_eq_nil_iff.1 heq.symm).1 hds.ne_nil

theorem endsFilled (h : Settles gap cs es) (hcs : EndsFilled cs) : EndsFilled es := by
  rcases List.eq_nil_or_concat cs with rfl | ⟨init, c, rfl⟩
  · cases h
    simp [EndsFilled]
  · rw [List.concat_eq_append] at h hcs
    have hc : isBlank c = false := hcs c (by simp)
    obtain ⟨as, bs, rfl, -, hbs⟩ := h.append
    obtain ⟨ds, rest, rfl, hds, hrest⟩ := hbs.of_filled_cons hc
    cases hrest
    intro d hd
    rw [List.append_nil, List.getLast?_append_of_ne_nil _ hds.ne_nil] at hd
    exact hds.filled hc d (List.mem_of_getLast? hd)

end Settles

theorem EndsFilled.dropWhileEnd_eq {cs : List Char} (h : EndsFilled cs) :
    dropWhileEnd isBlank cs = cs := by
  obtain ⟨tail, hcut, hblanks⟩ := exists_cut isBlank cs
  by_cases htail : tail = []
  · rw [htail, List.append_nil] at hcut
    exact hcut.symm
  · exact absurd hcut (h.ne_append_gap ⟨htail, hblanks⟩ _)

theorem trimChars_of_filled {cs : List Char} (hfirst : ∀ c ∈ cs.head?, isBlank c = false)
    (hlast : EndsFilled cs) :
    trimChars cs = cs := by
  have hfront : cs.dropWhile isBlank = cs := by
    cases cs with
    | nil => rfl
    | cons c cs => exact List.dropWhile_cons_of_neg (by simp [hfirst c rfl])
  rw [trimChars, hfront, hlast.dropWhileEnd_eq]

/-- A text without blanks at its ends leaves its normal form. -/
theorem settles_normalChars {cs : List Char} (hfirst : ∀ c ∈ cs.head?, isBlank c = false)
    (hlast : EndsFilled cs) :
    Settles false cs (normalChars cs) := by
  have hsettles : Settles false cs (collapseBlanks ((lower cs).flatMap plainGlyph)) :=
    settles_collapseFrom false [] cs
  rw [normalChars, trimChars_of_filled hfirst hlast,
    trimChars_of_filled ?_ (hsettles.endsFilled hlast)]
  · exact hsettles
  · cases cs with
    | nil =>
        simp [collapseBlanks, collapseFrom, lower, lowerFrom]
    | cons c cs =>
        have hc := hfirst c rfl
        obtain ⟨ds, rest, heq, hds, -⟩ := hsettles.of_filled_cons hc
        obtain ⟨d, ds, rfl⟩ := List.exists_cons_of_ne_nil hds.ne_nil
        rw [heq]
        simpa using hds.filled hc d List.mem_cons_self

/-! ### Units -/

/-- A unit's normal form starts as units do. -/
theorem Settles.exists_unitStart {cs es : List Char} (h : Settles false cs es) (hcs : IsUnit cs) :
    ∃ first others, es = first :: others ∧ isUnitStart first = true := by
  obtain ⟨c, cs, rfl, hc, -⟩ := hcs
  obtain ⟨ds, rest, rfl, hds, -⟩ := h.of_filled_cons (not_isBlank_of_unitStart hc)
  obtain ⟨d, ds, rfl⟩ := List.exists_cons_of_ne_nil hds.ne_nil
  exact ⟨d, ds ++ rest, rfl, (hds.isUnitStart_iff d rfl).2 (.inl hc)⟩

/-- What is left by characters of units, apart from two of them, is made of such characters. -/
theorem Settles.isUnitChar {gap : Bool} {cs es : List Char} (h : Settles gap cs es)
    (hcs : ∀ c ∈ cs, Request.isUnitChar c = true) (hdot : '·' ∉ cs) (hdotted : 'İ' ∉ cs) :
    ∀ e ∈ es, Request.isUnitChar e = true := by
  induction h with
  | nil => simp
  | skip hc h ih =>
      rw [List.mem_cons, not_or] at hdot hdotted
      exact ih (List.forall_mem_cons.1 hcs).2 hdot.2 hdotted.2
  | space hc h ih =>
      rw [List.mem_cons, not_or] at hdot hdotted
      exact List.forall_mem_cons.2 ⟨by decide, ih (List.forall_mem_cons.1 hcs).2 hdot.2 hdotted.2⟩
  | filled hc hds h ih =>
      rw [List.mem_cons, not_or] at hdot hdotted
      obtain ⟨hunit, hcs⟩ := List.forall_mem_cons.1 hcs
      exact List.forall_mem_append.2 ⟨hds.isUnitChar hunit (Ne.symm hdot.1) (Ne.symm hdotted.1),
        ih hcs hdot.2 hdotted.2⟩

/-- A unit's normal form is a unit unless the unit has one of two characters. -/
theorem Settles.isUnit_iff {cs es : List Char} (h : Settles false cs es) (hcs : IsUnit cs) :
    IsUnit es ↔ '·' ∉ cs ∧ 'İ' ∉ cs := by
  constructor
  · intro hes
    refine ⟨fun hmem => ?_, fun hmem => ?_⟩
    · obtain ⟨ds, hds, hall⟩ := h.exists_becomes hmem (by decide)
      have hstar := hes.isUnitChar '*' (hall _ (by simp [hds.of_dot]))
      exact absurd hstar (by decide)
    · obtain ⟨ds, hds, hall⟩ := h.exists_becomes hmem (by decide)
      have hmark := hes.isUnitChar '\u0307' (hall _ (by simp [hds.of_dotted]))
      simp [leave_alphabet.2.2.2] at hmark
  · rintro ⟨hdot, hdotted⟩
    have hall := h.isUnitChar hcs.isUnitChar hdot hdotted
    obtain ⟨first, others, rfl, hfirst⟩ := h.exists_unitStart hcs
    exact ⟨first, others, rfl, hfirst, (List.forall_mem_cons.1 hall).2⟩

/-! ### Words inside of units -/

/-- There are no other gaps than spaces where no blanks stand side by side. -/
theorem eq_space_of_spaced {before gap after : List Char} (h : Spaced (before ++ (gap ++ after)))
    (hgap : IsGap gap) :
    gap = [' '] := by
  obtain ⟨c, cs, rfl⟩ := List.exists_cons_of_ne_nil hgap.1
  obtain ⟨hc, hcs⟩ := List.forall_mem_cons.1 hgap.2
  have hpart : Spaced (c :: cs) := h.of_isInfix ⟨before, after, List.append_assoc ..⟩
  obtain ⟨rfl, hnext⟩ := (spaced_cons_iff.1 hpart).1 hc
  cases cs with
  | nil => rfl
  | cons d cs =>
      have hd := hcs d List.mem_cons_self
      simp [hnext d rfl] at hd

/-- A connective word was one before. -/
theorem Settles.exists_word {cs rest : List Char} {a b : Char}
    (h : Settles true cs (a :: b :: rest)) (hword : isConnective a b = true) :
    ∃ blanks c d cs', cs = blanks ++ c :: d :: cs' ∧
      (∀ e ∈ blanks, isBlank e = true) ∧ isConnective c d = true ∧ Settles false cs' rest := by
  have hfilled := IsConnective.not_isBlank ⟨a, b, rfl, hword⟩
  obtain ⟨blanks, c, cs, ds, es, rfl, hblanks, -, -, hds, heq, h⟩ :=
    h.exists_of_filled (hfilled a (by simp))
  obtain ⟨rfl, hc⟩ := hds.first_letter hword heq
  obtain rfl : b :: rest = es := by simpa using heq
  obtain ⟨blanks', d, cs', ds, es, rfl, -, hnone, -, hds, heq, h⟩ :=
    h.exists_of_filled (hfilled b (by simp))
  obtain ⟨rfl, hd⟩ := hds.second_letter hword heq
  obtain rfl : rest = es := by simpa using heq
  exact ⟨blanks, c, d, cs', by rw [hnone rfl, List.nil_append], hblanks,
    by rwa [isConnective_congr hc hd], h⟩

section

variable {cs es : List Char}

theorem isGap_cons {c : Char} {blanks : List Char} (hc : isBlank c = true)
    (hblanks : ∀ d ∈ blanks, isBlank d = true) :
    IsGap (c :: blanks) :=
  ⟨by simp, List.forall_mem_cons.2 ⟨hc, hblanks⟩⟩

theorem isGap_space : IsGap [' '] :=
  isGap_cons (by decide) (by simp)

/-- A word at the end of a normal form stood at the end before. -/
theorem Settles.endsInWord (h : Settles false cs es) (hspaced : Spaced es) (hes : EndsInWord es) :
    EndsInWord cs := by
  obtain ⟨before, gap, word, rfl, hgap, ⟨a, b, rfl, hword⟩⟩ := hes
  obtain rfl := eq_space_of_spaced hspaced hgap
  obtain ⟨xs, c, ys, rfl, hc, -, hys⟩ := h.exists_of_space
  obtain ⟨blanks, c₁, c₂, rest, rfl, hblanks, hword', hrest⟩ := hys.exists_word hword
  obtain rfl := hrest.eq_nil
  exact ⟨xs, c :: blanks, [c₁, c₂], by simp, isGap_cons hc hblanks, ⟨c₁, c₂, rfl, hword'⟩⟩

/-- A word inside of a normal form, with a unit behind it, was there before, or an ordinal sign is
what stands behind it. -/
theorem Settles.hasWordBefore (h : Settles false cs es) (hspaced : Spaced es)
    (hes : HasWordBefore (isUnitStart · = true) es) :
    HasWordBefore (fun c => isUnitStart c = true ∨ c = 'º') cs := by
  obtain ⟨before, gap, word, gap', first, after, rfl, hgap, ⟨a, b, rfl, hword⟩, hgap', hfirst⟩ :=
    hes
  obtain rfl := eq_space_of_spaced hspaced hgap
  have hspaced' : Spaced ((before ++ [' ', a, b]) ++ (gap' ++ first :: after)) := by
    simpa using hspaced
  obtain rfl := eq_space_of_spaced hspaced' hgap'
  obtain ⟨xs, c, ys, rfl, hc, -, hys⟩ := h.exists_of_space
  obtain ⟨blanks, c₁, c₂, rest, rfl, hblanks, hword', hrest⟩ := hys.exists_word hword
  obtain ⟨zs, d, ws, rfl, hd, hzs, hws⟩ := @Settles.exists_of_space _ _ [] _ hrest
  obtain ⟨blanks', e, ws, ds, es, rfl, hblanks', -, -, hds, heq, -⟩ :=
    hws.exists_of_filled (not_isBlank_of_unitStart hfirst)
  obtain rfl := hzs.eq_nil
  obtain ⟨f, ds, rfl⟩ := List.exists_cons_of_ne_nil hds.ne_nil
  obtain ⟨rfl, -⟩ := List.cons.inj heq
  exact ⟨xs, c :: blanks, [c₁, c₂], d :: blanks', e, ws, by simp, isGap_cons hc hblanks,
    ⟨c₁, c₂, rfl, hword'⟩, isGap_cons hd hblanks', (hds.isUnitStart_iff first rfl).1 hfirst⟩

/-- The blanks in front of a gap belong to it. -/
theorem exists_wider_gap (before : List Char) {gap : List Char} (hgap : IsGap gap) :
    ∃ before' gap', before ++ gap = before' ++ gap' ∧ IsGap gap' ∧ EndsFilled before' := by
  obtain ⟨tail, hcut, hblanks⟩ := exists_cut isBlank before
  refine ⟨dropWhileEnd isBlank before, tail ++ gap, ?_, ⟨by simp [hgap.1], ?_⟩,
    getLast?_dropWhileEnd isBlank before⟩
  · rw [← List.append_assoc, ← hcut]
  · exact List.forall_mem_append.2 ⟨hblanks, hgap.2⟩

theorem gapAfter_of_endsFilled {xs : List Char} (h : EndsFilled xs) :
    gapAfter false xs = false := by
  cases hlast : xs.getLast? with
  | none =>
      rw [List.getLast?_eq_none_iff] at hlast
      rw [hlast]
      rfl
  | some c => rw [gapAfter_of_getLast? hlast, h c hlast]

/-- A word inside of a unit, in front of an ordinal sign, stands in front of a unit in the normal
form. -/
theorem Settles.hasWordBefore_of_ordinal (h : Settles false cs es)
    (hcs : HasWordBefore (· = 'º') cs) :
    HasWordBefore (isUnitStart · = true) es := by
  obtain ⟨before, gap, word, gap', first, after, rfl, hgap, ⟨c₁, c₂, rfl, hword⟩, hgap', rfl⟩ := hcs
  obtain ⟨before', gap'', hwider, hgap'', hfilled⟩ := exists_wider_gap before hgap
  rw [← List.append_assoc, hwider, List.append_assoc] at h
  -- Each part leaves something of its own, since no two of them meet in blanks.
  obtain ⟨as, rest, rfl, -, hgaps⟩ := h.append
  rw [gapAfter_of_endsFilled hfilled] at hgaps
  obtain ⟨space, rest, rfl, hspace, hword'⟩ := hgaps.append
  obtain rfl := hspace.eq_space hgap''
  have hletters := IsConnective.not_isBlank ⟨c₁, c₂, rfl, hword⟩
  rw [List.cons_append, List.singleton_append] at hword'
  obtain ⟨ds₁, rest, rfl, hds₁, hword'⟩ := Settles.of_filled_cons hword' (hletters c₁ (by simp))
  obtain ⟨ds₂, rest, rfl, hds₂, hgaps'⟩ := Settles.of_filled_cons hword' (hletters c₂ (by simp))
  obtain ⟨space, rest, rfl, hspace', hfirst⟩ := hgaps'.append
  obtain rfl := hspace'.eq_space hgap'
  obtain ⟨ds, rest, rfl, hds, -⟩ := hfirst.of_filled_cons (by decide)
  obtain ⟨hmem₁, hmem₂⟩ := mem_connectiveLetters hword
  rw [hds₁.eq_of_letter hmem₁, hds₂.eq_of_letter hmem₂]
  obtain ⟨d, ds, rfl⟩ := List.exists_cons_of_ne_nil hds.ne_nil
  refine ⟨as, [' '], [c₁.toLower, c₂.toLower], [' '], d, ds ++ rest, by simp, isGap_space,
    ⟨_, _, rfl, ?_⟩, isGap_space, ?_⟩
  · rwa [isConnective_toLower]
  · exact (hds.isUnitStart_iff d rfl).2 (.inr rfl)

end

end UnitConversion.Request
