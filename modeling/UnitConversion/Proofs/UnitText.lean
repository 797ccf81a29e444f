import UnitConversion.UnitText
import Mathlib

/-!
# Normal forms stay as they are

The normal form of a name has only characters that neither the lower case nor the plain letters
change, no two blanks side by side and none at an end. Whatever has these properties is its own
normal form, so a name that is brought into its normal form twice is the same as after the first
time. In a text, the characters U+BD800 to U+BDFFF stand for lone surrogates, as `Text.surrogate?`
says.

* `Text.lowerChar_of_mem_lower`: what stands in lower case stays there.
* `Text.spaced_collapseBlanks`, `Text.collapseBlanks_of_spaced`: texts without runs of blanks.
* `UnitText.normalize_normalize`: a normal form is its own normal form.
* `UnitText.normalize_eq_empty_iff`: only blank names have an empty normal form.
-/

namespace UnitConversion

namespace Text

/-- The code points of a run. -/
def CaseRun.codes (run : CaseRun) : List Nat :=
  (List.range ((run.last - run.first) / run.step + 1)).map fun k => run.first + k * run.step

/-- The code points that have another lower-case form, as far as the runs say. -/
def movedCodes : List Nat :=
  lowerCaseRuns.flatMap CaseRun.codes

/-- Some code points as the bits of a number, so that they can be looked up in one step. -/
def maskOf (codes : List Nat) : Nat :=
  codes.foldr (fun n mask => 1 <<< n ||| mask) 0

theorem testBit_maskOf (codes : List Nat) (n : Nat) :
    (maskOf codes).testBit n = decide (n ∈ codes) := by
  induction codes with
  | nil => simp [maskOf]
  | cons m codes ih =>
      have hsplit : maskOf (m :: codes) = 1 <<< m ||| maskOf codes := rfl
      rw [hsplit, Nat.testBit_or, ih, Nat.one_shiftLeft, Nat.testBit_two_pow]
      by_cases h : m = n
      · simp [h]
      · simp [h, Ne.symm h]

/-- The code points of some intervals as the bits of a number. -/
def intervalMask (intervals : List (Nat × Nat)) : Nat :=
  intervals.foldr (fun i mask => (2 ^ (i.2 + 1 - i.1) - 1) <<< i.1 ||| mask) 0

theorem testBit_intervalMask (intervals : List (Nat × Nat)) (n : Nat) :
    (intervalMask intervals).testBit n = memIntervals intervals n := by
  induction intervals with
  | nil => simp [intervalMask, memIntervals]
  | cons i intervals ih =>
      have hsplit : intervalMask (i :: intervals) =
          (2 ^ (i.2 + 1 - i.1) - 1) <<< i.1 ||| intervalMask intervals := rfl
      rw [hsplit, Nat.testBit_or, ih, Nat.testBit_shiftLeft, Nat.testBit_two_pow_sub_one,
        memIntervals, memIntervals, List.any_cons]
      congr 1
      rw [Bool.eq_iff_iff]
      simp only [Bool.and_eq_true, decide_eq_true_eq]
      omega

/-- Whether a code point is one that the lower case does not change; `mask` holds those that the
runs change. -/
def isAtRest (mask n : Nat) : Bool :=
  n.isValidChar && n != 304 &&
    if n < 128 then (Char.ofNat n).toLower == Char.ofNat n else !mask.testBit n

/-- No run leads to a code point that has another lower-case form. -/
theorem runs_end_at_rest : (lowerCaseRuns.all fun run =>
    run.codes.all fun n => isAtRest (maskOf movedCodes) (n + run.offset).toNat) = true := by
  decide +kernel

theorem toNat_of_mem_codes {run : CaseRun} (hrun : run ∈ lowerCaseRuns) {n : Nat}
    (hn : n ∈ run.codes) :
    (Char.ofNat (n + run.offset).toNat).toNat = (n + run.offset).toNat := by
  have hrest := List.all_eq_true.1 (List.all_eq_true.1 runs_end_at_rest run hrun) n hn
  simp only [isAtRest, Bool.and_eq_true, decide_eq_true_eq] at hrest
  rw [Char.toNat_ofNat, if_pos hrest.1.1]

theorem mem_codes_of_offset? {run : CaseRun} {n : Nat} {offset : Int}
    (h : run.offset? n = some offset) :
    offset = run.offset ∧ n ∈ run.codes := by
  unfold CaseRun.offset? at h
  split at h
  · next hn =>
      simp only [Bool.and_eq_true, decide_eq_true_eq, beq_iff_eq] at hn
      obtain ⟨⟨hfirst, hlast⟩, hstep⟩ := hn
      obtain ⟨k, hk⟩ := Nat.dvd_of_mod_eq_zero hstep
      refine ⟨(Option.some.inj h).symm, List.mem_map.2 ⟨(n - run.first) / run.step, ?_, ?_⟩⟩
      · have hle : (n - run.first) / run.step ≤ (run.last - run.first) / run.step :=
          Nat.div_le_div_right (by omega)
        exact List.mem_range.2 (by omega)
      · rw [Nat.div_mul_cancel (Nat.dvd_of_mod_eq_zero hstep)]
        omega
  · cases h

theorem mem_movedCodes {n : Nat} {offset : Int}
    (h : lowerCaseRuns.findSome? (·.offset? n) = some offset) : n ∈ movedCodes := by
  obtain ⟨run, hrun, hoffset⟩ := List.exists_of_findSome?_eq_some h
  exact List.mem_flatMap.2 ⟨run, hrun, (mem_codes_of_offset? hoffset).2⟩

theorem lowerChar_of_isAtRest {n : Nat} (h : isAtRest (maskOf movedCodes) n = true) :
    lowerChar (Char.ofNat n) = [Char.ofNat n] := by
  simp only [isAtRest, Bool.and_eq_true, bne_iff_ne, ne_eq] at h
  obtain ⟨⟨hvalid, hdotted⟩, hrest⟩ := h
  have hn : (Char.ofNat n).toNat = n := by
    rw [Char.toNat_ofNat, if_pos]
    simpa using hvalid
  rw [lowerChar, hn]
  by_cases hascii : n < 128
  · rw [if_pos hascii] at hrest ⊢
    rw [beq_iff_eq.1 hrest]
  · rw [if_neg hascii] at hrest ⊢
    rw [if_neg hdotted]
    cases hfound : lowerCaseRuns.findSome? (·.offset? n) with
    | none => rfl
    | some offset => simp [testBit_maskOf, mem_movedCodes hfound] at hrest

/-- A property of all ASCII characters, checked code point by code point. -/
theorem forall_ascii {P : Char → Prop} (h : ∀ n < 128, P (Char.ofNat n)) {c : Char}
    (hc : c.toNat < 128) : P c := by
  have hchar := h c.toNat hc
  rwa [Char.ofNat_toNat] at hchar

theorem toLower_eq_self {c : Char} (hc : 128 ≤ c.toNat) : c.toLower = c := by
  apply Char.toLower_eq_of_not_isUpper
  intro hupper
  simp only [Char.isUpper, decide_eq_true_eq] at hupper
  have : c.toNat ≤ 90 := UInt32.le_iff_toNat_le.1 hupper.2
  omega

/-- What the ASCII letters have in common with their capitals can be asked after lowering as
well. -/
theorem apply_toLower {p : Char → Bool}
    (hp : ∀ n < 128, p (Char.ofNat n).toLower = p (Char.ofNat n)) (c : Char) :
    p c.toLower = p c := by
  by_cases hc : c.toNat < 128
  · exact forall_ascii (P := fun c => p c.toLower = p c) hp hc
  · rw [toLower_eq_self (not_lt.1 hc)]

/-- Where a lower-case form comes from: ASCII letters, the capital with a dot, the runs, or the
character itself. -/
theorem lowerChar_cases (c : Char) :
    (c.toNat < 128 ∧ lowerChar c = [c.toLower]) ∨ (c = 'İ' ∧ lowerChar c = ['i', '\u0307']) ∨
      (∃ run ∈ lowerCaseRuns, c.toNat ∈ run.codes ∧
        lowerChar c = [Char.ofNat (c.toNat + run.offset).toNat]) ∨
        (128 ≤ c.toNat ∧ lowerChar c = [c]) := by
  by_cases hascii : c.toNat < 128
  · exact .inl ⟨hascii, by rw [lowerChar, if_pos hascii]⟩
  by_cases hdotted : c.toNat = 304
  · have hc : c = 'İ' := Char.toNat_inj.1 hdotted
    exact .inr (.inl ⟨hc, by rw [lowerChar, if_neg hascii, if_pos hdotted]⟩)
  simp only [lowerChar, if_neg hascii, if_neg hdotted]
  cases hfound : lowerCaseRuns.findSome? (·.offset? c.toNat) with
  | none => exact .inr (.inr (.inr ⟨not_lt.1 hascii, rfl⟩))
  | some offset =>
      obtain ⟨run, hrun, hoffset⟩ := List.exists_of_findSome?_eq_some hfound
      obtain ⟨rfl, hcode⟩ := mem_codes_of_offset? hoffset
      exact .inr (.inr (.inl ⟨run, hrun, hcode, rfl⟩))

/-- A lower-case form is made of characters that are their own lower-case forms. -/
theorem lowerChar_of_mem_lowerChar {c d : Char} (h : d ∈ lowerChar c) : lowerChar d = [d] := by
  rcases lowerChar_cases c
    with ⟨hascii, hform⟩ | ⟨-, hform⟩ | ⟨run, hrun, hcode, hform⟩ | ⟨-, hform⟩
  · rw [hform] at h
    rw [List.mem_singleton.1 h]
    exact forall_ascii (P := fun c => lowerChar c.toLower = [c.toLower]) (by decide) hascii
  · rw [hform] at h
    simp only [List.mem_cons, List.not_mem_nil, or_false] at h
    obtain rfl | rfl := h <;> decide
  · rw [hform] at h
    rw [List.mem_singleton.1 h]
    exact lowerChar_of_isAtRest
      (List.all_eq_true.1 (List.all_eq_true.1 runs_end_at_rest run hrun) _ hcode)
  · rw [hform] at h
    rw [List.mem_singleton.1 h, hform]

theorem lowerChar_of_mem_lowerFrom {before cs : List Char} {d : Char}
    (h : d ∈ lowerFrom before cs) :
    lowerChar d = [d] := by
  induction cs generalizing before with
  | nil => cases h
  | cons c cs ih =>
      rw [lowerFrom] at h
      rcases List.mem_append.1 h with h | h
      · split at h
        · split at h
          · obtain rfl := List.mem_singleton.1 h
            decide
          · obtain rfl := List.mem_singleton.1 h
            decide
        · exact lowerChar_of_mem_lowerChar h
      · exact ih h

/-- What stands in lower case stays there. -/
theorem lowerChar_of_mem_lower {cs : List Char} {d : Char} (h : d ∈ lower cs) : lowerChar d = [d] :=
  lowerChar_of_mem_lowerFrom h

theorem lowerFrom_eq_self (before : List Char) {cs : List Char} (h : ∀ c ∈ cs, lowerChar c = [c]) :
    lowerFrom before cs = cs := by
  induction cs generalizing before with
  | nil => rfl
  | cons c cs ih =>
      have hc := h c List.mem_cons_self
      have hsigma : c ≠ capitalSigma := by
        rintro rfl
        exact absurd hc (by decide)
      rw [lowerFrom, ih _ fun d hd => h d (List.mem_cons_of_mem _ hd), if_neg hsigma, hc]
      rfl

/-- A text that no character of has another lower-case form stands in lower case. -/
theorem lower_eq_self {cs : List Char} (h : ∀ c ∈ cs, lowerChar c = [c]) : lower cs = cs :=
  lowerFrom_eq_self [] h

/-- No two blanks stand side by side, and every blank is a space. -/
structure Spaced (cs : List Char) : Prop where
  space : ∀ c ∈ cs, isBlank c = true → c = ' '
  apart : cs.IsChain fun a b => ¬ (isBlank a = true ∧ isBlank b = true)

theorem Spaced.of_isInfix {cs ds : List Char} (h : Spaced ds) (hpart : cs <:+: ds) : Spaced cs where
  space c hc := h.space c (hpart.subset hc)
  apart := List.IsChain.infix h.apart hpart

theorem spaced_cons_iff {c : Char} {cs : List Char} :
    Spaced (c :: cs) ↔
      (isBlank c = true → c = ' ' ∧ ∀ d ∈ cs.head?, isBlank d = false) ∧ Spaced cs := by
  constructor
  · intro h
    have happart := List.isChain_cons.1 h.apart
    refine ⟨fun hc => ⟨h.space c List.mem_cons_self hc, fun d hd => ?_⟩,
      fun d hd => h.space d (List.mem_cons_of_mem _ hd), happart.2⟩
    simpa [hc] using happart.1 d hd
  · rintro ⟨hblank, h⟩
    refine ⟨?_, List.isChain_cons.2 ⟨?_, h.apart⟩⟩
    · intro d hd hd'
      rcases List.mem_cons.1 hd with rfl | hd
      · exact (hblank hd').1
      · exact h.space d hd hd'
    · rintro d hd ⟨hc, hd'⟩
      simp [(hblank hc).2 d hd] at hd'

/-- Collapsing blanks leaves no two of them side by side, and none at the start of what follows a
gap. -/
theorem spaced_collapseFrom (gap : Bool) (cs : List Char) :
    Spaced (collapseFrom gap cs) ∧
      (gap = true → ∀ d ∈ (collapseFrom gap cs).head?, isBlank d = false) := by
  induction cs generalizing gap with
  | nil => exact ⟨⟨by simp [collapseFrom], by simp [collapseFrom]⟩, by simp [collapseFrom]⟩
  | cons c cs ih =>
      cases hc : isBlank c with
      | false =>
          simp only [collapseFrom, hc, Bool.false_eq_true, if_false]
          exact ⟨spaced_cons_iff.2 ⟨by simp [hc], (ih false).1⟩, fun _ => by simpa using hc⟩
      | true =>
          cases gap with
          | true =>
              rw [show collapseFrom true (c :: cs) =
                collapseFrom true cs by simp [collapseFrom, hc]]
              exact ih true
          | false =>
              simp only [collapseFrom, hc, if_true, Bool.false_eq_true, if_false]
              exact ⟨spaced_cons_iff.2 ⟨fun _ => ⟨rfl, (ih true).2 rfl⟩, (ih true).1⟩, by simp⟩

theorem spaced_collapseBlanks (cs : List Char) : Spaced (collapseBlanks cs) :=
  (spaced_collapseFrom false cs).1

theorem mem_collapseFrom {gap : Bool} {cs : List Char} {d : Char} (h : d ∈ collapseFrom gap cs) :
    d = ' ' ∨ d ∈ cs := by
  induction cs generalizing gap with
  | nil => cases h
  | cons c cs ih =>
      simp only [collapseFrom] at h
      split at h
      · split at h
        · exact (ih h).imp_right (List.mem_cons_of_mem _)
        · rcases List.mem_cons.1 h with rfl | h
          · exact .inl rfl
          · exact (ih h).imp_right (List.mem_cons_of_mem _)
      · rcases List.mem_cons.1 h with rfl | h
        · exact .inr List.mem_cons_self
        · exact (ih h).imp_right (List.mem_cons_of_mem _)

theorem collapseFrom_of_spaced {gap : Bool} {cs : List Char} (h : Spaced cs)
    (hgap : gap = true → ∀ c ∈ cs.head?, isBlank c = false) : collapseFrom gap cs = cs := by
  induction cs generalizing gap with
  | nil => rfl
  | cons c cs ih =>
      obtain ⟨hblank, hrest⟩ := spaced_cons_iff.1 h
      cases hc : isBlank c with
      | false =>
          simp only [collapseFrom, hc, Bool.false_eq_true, if_false]
          rw [ih hrest (by simp)]
      | true =>
          have hopen : gap = false := by
            cases gap with
            | false => rfl
            | true => simp [hc] at hgap
          obtain ⟨rfl, hnext⟩ := hblank hc
          simp only [collapseFrom, hc, hopen, if_true, Bool.false_eq_true, if_false]
          rw [ih hrest fun _ => hnext]

/-- Where no blanks stand side by side, there is nothing to collapse. -/
theorem collapseBlanks_of_spaced {cs : List Char} (h : Spaced cs) : collapseBlanks cs = cs :=
  collapseFrom_of_spaced h (by simp)

/-- A trimmed text is the part of the text between the blanks at its ends. -/
theorem trimChars_isInfix (cs : List Char) : trimChars cs <:+: cs := by
  have hback : trimChars cs <+: cs.dropWhile isBlank := List.rdropWhile_prefix isBlank _
  have hfront : cs.dropWhile isBlank <:+ cs := List.dropWhile_suffix isBlank
  exact hback.isInfix.trans hfront.isInfix

theorem trimChars_trimChars (cs : List Char) : trimChars (trimChars cs) = trimChars cs := by
  change ((trimChars cs).dropWhile isBlank).rdropWhile isBlank = trimChars cs
  have hfront : (trimChars cs).dropWhile isBlank = trimChars cs := by
    -- What is left starts like the text without the blanks at its start.
    have hback : trimChars cs <+: cs.dropWhile isBlank := List.rdropWhile_prefix isBlank _
    obtain ⟨rest, hrest⟩ := hback
    cases htrim : trimChars cs with
    | nil => rfl
    | cons c ds =>
        have hhead : (cs.dropWhile isBlank).head? = some c := by rw [← hrest, htrim]; rfl
        have hc : isBlank c = false := by simpa [hhead] using List.head?_dropWhile_not isBlank cs
        rw [List.dropWhile_cons, hc]
        rfl
  rw [hfront]
  exact List.rdropWhile_idempotent isBlank (cs.dropWhile isBlank)

/-- No run leads to a blank. -/
theorem runs_lead_to_no_blank : (lowerCaseRuns.all fun run =>
    run.codes.all fun n => !(intervalMask blankIntervals).testBit
      (n + run.offset).toNat) = true := by
  decide +kernel

/-- Lower case turns nothing into a blank. -/
theorem not_isBlank_of_mem_lowerChar {c d : Char} (hc : isBlank c = false) (h : d ∈ lowerChar c) :
    isBlank d = false := by
  rcases lowerChar_cases c
    with ⟨hascii, hform⟩ | ⟨-, hform⟩ | ⟨run, hrun, hcode, hform⟩ | ⟨-, hform⟩
  · rw [hform] at h
    rw [List.mem_singleton.1 h, apply_toLower (p := isBlank) (by decide) c, hc]
  · rw [hform] at h
    simp only [List.mem_cons, List.not_mem_nil, or_false] at h
    obtain rfl | rfl := h <;> decide
  · have hfilled := List.all_eq_true.1 (List.all_eq_true.1 runs_lead_to_no_blank run hrun) _ hcode
    rw [testBit_intervalMask, Bool.not_eq_true', ← toNat_of_mem_codes hrun hcode] at hfilled
    rw [hform] at h
    rwa [List.mem_singleton.1 h]
  · rw [hform] at h
    rwa [List.mem_singleton.1 h]

theorem lowerChar_ne_nil (c : Char) : lowerChar c ≠ [] := by
  rcases lowerChar_cases c
    with ⟨-, hform⟩ | ⟨-, hform⟩ | ⟨_, _, _, hform⟩ | ⟨-, hform⟩ <;> simp [hform]

/-- Lower case makes no character disappear or turn into blanks alone. -/
theorem exists_filled_lowerChar {c : Char} (hc : isBlank c = false) :
    ∃ d ∈ lowerChar c, isBlank d = false := by
  obtain ⟨d, hd⟩ := List.exists_mem_of_ne_nil _ (lowerChar_ne_nil c)
  exact ⟨d, hd, not_isBlank_of_mem_lowerChar hc hd⟩

theorem exists_filled_lowerFrom {before cs : List Char} (h : ∃ c ∈ cs, isBlank c = false) :
    ∃ d ∈ lowerFrom before cs, isBlank d = false := by
  induction cs generalizing before with
  | nil => simp at h
  | cons c cs ih =>
      simp only [lowerFrom, List.mem_append]
      obtain ⟨d, hd, hfilled⟩ := h
      rcases List.mem_cons.1 hd with rfl | hd
      · split
        · split
          · exact ⟨'ς', by simp, by decide⟩
          · exact ⟨'σ', by simp, by decide⟩
        · obtain ⟨e, he, hfilled⟩ := exists_filled_lowerChar hfilled
          exact ⟨e, .inl he, hfilled⟩
      · obtain ⟨e, he, hfilled⟩ := ih ⟨d, hd, hfilled⟩
        exact ⟨e, .inr he, hfilled⟩

theorem mem_collapseFrom_of_filled {gap : Bool} {cs : List Char} {c : Char} (h : c ∈ cs)
    (hc : isBlank c = false) : c ∈ collapseFrom gap cs := by
  induction cs generalizing gap with
  | nil => cases h
  | cons d cs ih =>
      rw [collapseFrom]
      rcases List.mem_cons.1 h with rfl | h
      · simp [hc]
      · split
        · split
          · exact ih h
          · exact List.mem_cons_of_mem _ (ih h)
        · exact List.mem_cons_of_mem _ (ih h)

/-- Nothing is left of a text between the blanks at its ends exactly when it is blank. -/
theorem trimChars_eq_nil_iff {cs : List Char} : trimChars cs = [] ↔ ∀ c ∈ cs, isBlank c = true := by
  change (cs.dropWhile isBlank).rdropWhile isBlank = [] ↔ _
  rw [List.rdropWhile_eq_nil_iff]
  constructor
  · intro h c hc
    by_contra hfilled
    have hne : cs.dropWhile isBlank ≠ [] := fun hnil =>
      hfilled (List.dropWhile_eq_nil_iff.1 hnil c hc)
    have hhead : isBlank ((cs.dropWhile isBlank).head hne) = false := by
      simpa using List.head_dropWhile_not isBlank hne
    exact absurd (h _ (List.head_mem hne)) (by simp [hhead])
  · intro h c hc
    exact h c ((List.dropWhile_suffix isBlank).subset hc)

end Text

namespace UnitText

open Text

/-- Whether neither the lower case nor the plain letters change a character. -/
def IsSettled (c : Char) : Prop :=
  lowerChar c = [c] ∧ plainGlyph c = [c]

/-- The letters and signs that stand for other characters. -/
def glyphs : List Char :=
  ['d', 'e', 'g', 'u', 'a', 'n', 's', 't', 'r', 'o', 'm', '"', '\'', '-', '2', '3', '*']

theorem plainGlyph_eq_or (c : Char) :
    plainGlyph c = [c] ∨ (plainGlyph c).all glyphs.contains = true := by
  unfold plainGlyph
  repeat' split
  all_goals first
    | exact .inl rfl
    | exact .inr (by decide)

theorem settled_glyphs :
    (glyphs.all fun d => lowerChar d == [d] && plainGlyph d == [d]) = true := by
  decide

/-- What stands for a lower-case character is settled. -/
theorem isSettled_of_mem_plainGlyph {c d : Char} (hc : lowerChar c = [c]) (h : d ∈ plainGlyph c) :
    IsSettled d := by
  rcases plainGlyph_eq_or c with hplain | hglyphs
  · rw [hplain] at h
    obtain rfl := List.mem_singleton.1 h
    exact ⟨hc, hplain⟩
  · have hd : d ∈ glyphs := by simpa using List.all_eq_true.1 hglyphs d h
    simpa [IsSettled] using List.all_eq_true.1 settled_glyphs d hd

theorem flatMap_plainGlyph {cs : List Char} (h : ∀ c ∈ cs, IsSettled c) :
    cs.flatMap plainGlyph = cs := by
  induction cs with
  | nil => rfl
  | cons c cs ih =>
      rw [List.flatMap_cons, (h c List.mem_cons_self).2,
        ih fun d hd => h d (List.mem_cons_of_mem _ hd)]
      rfl

/-- What distinguishes normal forms. -/
structure IsNormal (cs : List Char) : Prop where
  settled : ∀ c ∈ cs, IsSettled c
  spaced : Spaced cs
  trimmed : trimChars cs = cs

theorem isNormal_normalChars (cs : List Char) : IsNormal (normalChars cs) where
  settled c hc := by
    rcases mem_collapseFrom ((trimChars_isInfix _).subset hc) with rfl | hc
    · exact ⟨by decide, by decide⟩
    · obtain ⟨d, hd, hcd⟩ := List.mem_flatMap.1 hc
      exact isSettled_of_mem_plainGlyph (lowerChar_of_mem_lower hd) hcd
  spaced := (spaced_collapseBlanks _).of_isInfix (trimChars_isInfix _)
  trimmed := trimChars_trimChars _

theorem IsNormal.normalChars_eq {cs : List Char} (h : IsNormal cs) : normalChars cs = cs := by
  rw [normalChars, h.trimmed, lower_eq_self fun c hc => (h.settled c hc).1,
    flatMap_plainGlyph h.settled, collapseBlanks_of_spaced h.spaced, h.trimmed]

/-- A normal form is its own normal form. -/
theorem normalize_normalize (s : String) : normalize (normalize s) = normalize s := by
  rw [normalize, normalize, String.toList_ofList, (isNormal_normalChars s.toList).normalChars_eq]

/-- Plain letters turn nothing into a blank. -/
theorem not_isBlank_of_mem_plainGlyph {c d : Char} (hc : isBlank c = false) (h : d ∈ plainGlyph c) :
    isBlank d = false := by
  rcases plainGlyph_eq_or c with hplain | hglyphs
  · rw [hplain] at h
    rwa [List.mem_singleton.1 h]
  · have hfilled : (glyphs.all (!isBlank ·)) = true := by decide
    have hd : d ∈ glyphs := by simpa using List.all_eq_true.1 hglyphs d h
    simpa using List.all_eq_true.1 hfilled d hd

theorem plainGlyph_ne_nil (c : Char) : plainGlyph c ≠ [] := by
  unfold plainGlyph
  repeat' split
  all_goals exact List.cons_ne_nil _ _

theorem exists_filled_plainGlyph {c : Char} (hc : isBlank c = false) :
    ∃ d ∈ plainGlyph c, isBlank d = false := by
  obtain ⟨d, hd⟩ := List.exists_mem_of_ne_nil _ (plainGlyph_ne_nil c)
  exact ⟨d, hd, not_isBlank_of_mem_plainGlyph hc hd⟩

/-- Only blank texts have an empty normal form. -/
theorem normalChars_eq_nil_iff {cs : List Char} :
    normalChars cs = [] ↔ ∀ c ∈ cs, isBlank c = true := by
  constructor
  · rw [normalChars, trimChars_eq_nil_iff]
    contrapose!
    intro h
    -- A character that is no blank stays in each step, or another one comes for it.
    have htrimmed : trimChars cs ≠ [] := fun hnil => by
      obtain ⟨c, hc, hfilled⟩ := h
      exact hfilled (trimChars_eq_nil_iff.1 hnil c hc)
    have hfirst : ∃ c ∈ trimChars cs, isBlank c = false := by
      by_contra hnone
      push Not at hnone
      apply htrimmed
      rw [← trimChars_trimChars, trimChars_eq_nil_iff]
      exact fun c hc => by simpa using hnone c hc
    obtain ⟨d, hd, hfilled⟩ : ∃ d ∈ lower (trimChars cs), isBlank d = false :=
      exists_filled_lowerFrom hfirst
    obtain ⟨e, he, hfilled⟩ := exists_filled_plainGlyph hfilled
    refine ⟨e, mem_collapseFrom_of_filled (List.mem_flatMap.2 ⟨d, hd, he⟩) hfilled,
      by simp [hfilled]⟩
  · intro h
    rw [normalChars, trimChars_eq_nil_iff.2 h]
    rfl

theorem normalize_eq_empty_iff {s : String} : normalize s = "" ↔ isBlankText s = true := by
  rw [normalize, String.ofList_eq, String.toList_empty, normalChars_eq_nil_iff, isBlankText,
    List.all_eq_true]

end UnitText

end UnitConversion
