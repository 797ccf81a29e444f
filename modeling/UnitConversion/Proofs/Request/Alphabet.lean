import UnitConversion.Proofs.Request.Shortest
import UnitConversion.Proofs.UnitText

/-!
# The characters of units in normal forms

What comes in a normal form for a character that units can contain. With two exceptions it is made
of such characters again, and with one exception it starts as units do only if the character itself
does.

* `Request.Becomes`: what a character can become.
* `Request.Becomes.cases`: ASCII letters, the marked characters, and the others, which stay single
  characters.
* `Request.Becomes.isUnitChar`: only `·` and `İ` leave the alphabet of units.
* `Request.Becomes.isUnitStart_iff`: only `º` becomes something that units can start with.
* `Request.Becomes.first_letter`, `Request.Becomes.second_letter`: connective words come from
  connective words.
-/

namespace UnitConversion.Request

open Text UnitText

/-- What comes for a character that is no sigma at the end of a word. -/
def plainForm (c : Char) : List Char :=
  (lowerChar c).flatMap plainGlyph

/-- What a character can become in a normal form. -/
inductive Becomes : Char → List Char → Prop where
  | plain (c : Char) : Becomes c (plainForm c)
  | finalSigma : Becomes capitalSigma ['ς']

/-! ### Marked characters and letters -/

/-- The characters beyond ASCII whose normal forms are not single characters beyond ASCII, or that
stand for each other. -/
def marked : List Char :=
  ['İ', 'Å', 'å', '\u212B', '\u039C', 'μ', 'µ', '\u212A', '°', 'º', '“', '”', '″', '‘', '’', '′',
    '–', '—', '²', '³', '·']

/-- The letters of connective words. -/
def connectiveLetters : List Char :=
  ['t', 'T', 'a', 'A'] ++ ['o', 'O', 's', 'S', 'ſ']

/-- Characters that other ones do not become: the blanks and marked characters, and those that units
start with. -/
def reserved : List Nat :=
  marked.map Char.toNat ++ unitStartCodes ++ blankIntervals.flatMap fun i =>
    List.range' i.1 (i.2 + 1 - i.1)

/-- What holds of the marked characters. -/
structure Mark (c : Char) : Prop where
  beyond : 128 ≤ c.toNat
  filled : isBlank c = false
  closed : isUnitChar c = true → c = '·' ∨ c = 'İ' ∨ (plainForm c).all isUnitChar = true
  starts : ∀ d ∈ (plainForm c).head?, isUnitStart d = (isUnitStart c || c == 'º')
  /-- Of the normal forms only the name of the angstrom starts with a letter of a connective
  word. -/
  letters : ∀ d ∈ (plainForm c).head?, d ∈ connectiveLetters →
    plainForm c = ['a', 'n', 'g', 's', 't', 'r', 'o', 'm']

/-- The same, as a check. -/
def isMark (c : Char) : Bool :=
  128 ≤ c.toNat && !isBlank c &&
    (!isUnitChar c || c == '·' || c == 'İ' || (plainForm c).all isUnitChar) &&
    ((plainForm c).head?.all fun d => isUnitStart d == (isUnitStart c || c == 'º')) &&
    (((plainForm c).head?.all fun d => !connectiveLetters.contains d) ||
      plainForm c == ['a', 'n', 'g', 's', 't', 'r', 'o', 'm'])

theorem all_marked : (marked.all isMark) = true := by
  decide +kernel

theorem mark_of_mem {c : Char} (h : c ∈ marked) : Mark c := by
  have hmark := List.all_eq_true.1 all_marked c h
  simp only [isMark, Bool.and_eq_true, Bool.or_eq_true, decide_eq_true_eq,
    Bool.not_eq_true', beq_iff_eq, Option.all_eq_true, List.contains_eq_mem,
    decide_eq_false_iff_not] at hmark
  obtain ⟨⟨⟨⟨hbeyond, hfilled⟩, hclosed⟩, hstarts⟩, hletters⟩ := hmark
  constructor
  case beyond => exact hbeyond
  case filled => exact hfilled
  case closed =>
    intro hunit
    simpa [hunit, or_assoc] using hclosed
  case starts => exact hstarts
  case letters =>
    intro d hd hletter
    exact hletters.resolve_left fun hnone => hnone d hd hletter

/-- What holds of the letters of connective words. -/
structure Letter (c : Char) : Prop where
  ne_sigma : c ≠ capitalSigma
  plain : plainForm c = [c.toLower]
  known : c.toNat < 128 ∨ c.toNat ∈ reserved

/-- The same, as a check. -/
def isLetter (c : Char) : Bool :=
  c != capitalSigma && plainForm c == [c.toLower] && (c.toNat < 128 || reserved.contains c.toNat)

theorem all_letters : (connectiveLetters.all isLetter) = true := by
  decide +kernel

theorem letter_of_mem {c : Char} (h : c ∈ connectiveLetters) : Letter c := by
  have hletter := List.all_eq_true.1 all_letters c h
  simp only [isLetter, Bool.and_eq_true, Bool.or_eq_true, bne_iff_ne, beq_iff_eq, decide_eq_true_eq,
    List.contains_iff_mem] at hletter
  exact ⟨hletter.1.1, hletter.1.2, hletter.2⟩

theorem mem_connectiveLetters {a b : Char} (h : isConnective a b = true) :
    a ∈ connectiveLetters ∧ b ∈ connectiveLetters := by
  obtain ⟨ha, hb⟩ := mem_of_isConnective h
  exact ⟨List.mem_append_left _ ha, List.mem_append_right _ hb⟩

/-- The normal forms of two characters leave the alphabet of units. -/
theorem leave_alphabet :
    plainForm '·' = ['*'] ∧ isUnitChar '*' = false ∧ plainForm 'İ' = ['i', '\u0307'] ∧
    isUnitChar '\u0307' = false := by
  decide +kernel

theorem plainForm_capitalSigma : plainForm capitalSigma = ['σ'] := by
  decide +kernel

theorem signs_marked : (unitSigns.all fun c => c.toNat < 128 || marked.contains c) = true := by
  decide +kernel

/-! ### How other characters move -/

/-- Whether a code point may move to another one: it is marked, or both are not reserved and words
stay words. -/
def isPlainMove (exempt others words n m : Nat) : Bool :=
  128 ≤ n && (exempt.testBit n ||
    (128 ≤ m && !others.testBit n && !others.testBit m && (!words.testBit n || words.testBit m)))

theorem runs_are_plain : (lowerCaseRuns.all fun run => run.codes.all fun n =>
    isPlainMove (maskOf (marked.map Char.toNat)) (maskOf reserved) (intervalMask wordIntervals) n
      (n + run.offset).toNat) = true := by
  decide +kernel

theorem mem_reserved_of_isBlank {c : Char} (h : isBlank c = true) : c.toNat ∈ reserved := by
  obtain ⟨i, hi, hbounds⟩ := List.any_eq_true.1 h
  simp only [Bool.and_eq_true, decide_eq_true_eq] at hbounds
  exact List.mem_append_right _ (List.mem_flatMap.2 ⟨i, hi, List.mem_range'_1.2 (by omega)⟩)

theorem mem_reserved_of_marked {c : Char} (h : c ∈ marked) : c.toNat ∈ reserved :=
  List.mem_append_left _ (List.mem_append_left _ (List.mem_map_of_mem h))

theorem mem_reserved_of_isUnitStart {c : Char} (hc : 128 ≤ c.toNat) (h : isUnitStart c = true) :
    c.toNat ∈ reserved := by
  rw [isUnitStart_iff] at h
  have hcode : c.toNat ∈ unitStartCodes := by
    rcases h with h | h | h
    · omega
    · omega
    · exact h
  exact List.mem_append_left _ (List.mem_append_right _ hcode)

theorem plainGlyph_eq_self {c : Char} (h : c ∉ marked) : plainGlyph c = [c] := by
  simp only [marked, List.mem_cons, List.not_mem_nil, or_false, not_or] at h
  simp [plainGlyph, h]

/-- How a character beyond ASCII that is not marked moves to another one. -/
structure Moves (c d : Char) : Prop where
  unmarked : c ∉ marked
  source : 128 ≤ c.toNat
  target : 128 ≤ d.toNat
  word : isWord c = true → isWord d = true
  free : c = d ∨ c.toNat ∉ reserved ∧ d.toNat ∉ reserved

theorem moves_sigma : Moves capitalSigma 'ς' := by
  have hsigma : capitalSigma ∉ marked ∧ isWord 'ς' = true ∧
      capitalSigma.toNat ∉ reserved ∧ 'ς'.toNat ∉ reserved := by
    decide +kernel
  exact ⟨hsigma.1, by decide, by decide, fun _ => hsigma.2.1, .inr hsigma.2.2⟩

theorem Moves.refl {c : Char} (hmarked : c ∉ marked) (hc : 128 ≤ c.toNat) : Moves c c :=
  ⟨hmarked, hc, hc, id, .inl rfl⟩

theorem isWord_of_le {c : Char} (hc : 128 ≤ c.toNat) :
    isWord c = (intervalMask wordIntervals).testBit c.toNat := by
  rw [isWord, if_neg (by omega), testBit_intervalMask]

/-- A run moves each of its characters that is not marked. -/
theorem moves_of_mem_codes {run : CaseRun} (hrun : run ∈ lowerCaseRuns) {c : Char}
    (hcode : c.toNat ∈ run.codes) (hmarked : c ∉ marked) :
    Moves c (Char.ofNat (c.toNat + run.offset).toNat) ∧
      (Char.ofNat (c.toNat + run.offset).toNat).toNat ∉ reserved := by
  have hplain := List.all_eq_true.1 (List.all_eq_true.1 runs_are_plain run hrun) _ hcode
  have hexempt : c.toNat ∉ marked.map Char.toNat := by
    rintro hmem
    obtain ⟨d, hd, hcd⟩ := List.mem_map.1 hmem
    exact hmarked (Char.toNat_inj.1 hcd ▸ hd)
  have htarget := toNat_of_mem_codes hrun hcode
  generalize Char.ofNat (c.toNat + run.offset).toNat = d at htarget ⊢
  simp only [isPlainMove, ← htarget, testBit_maskOf, decide_eq_false hexempt, Bool.false_or,
    Bool.and_eq_true, decide_eq_true_eq, Bool.not_eq_true', decide_eq_false_iff_not,
    Bool.or_eq_true] at hplain
  obtain ⟨hsource, ⟨⟨hlarge, hfree⟩, hfree'⟩, hword⟩ := hplain
  refine ⟨⟨hmarked, hsource, hlarge, ?_, .inr ⟨hfree, hfree'⟩⟩, hfree'⟩
  rw [isWord_of_le hsource, isWord_of_le hlarge]
  intro h
  simpa [h] using hword

/-- Characters beyond ASCII that are not marked become single characters. -/
theorem plainForm_cases (c : Char) :
    (c.toNat < 128 ∧ plainForm c = [c.toLower]) ∨
      c ∈ marked ∨ ∃ d, plainForm c = [d] ∧ Moves c d := by
  by_cases hmarked : c ∈ marked
  · exact .inr (.inl hmarked)
  have hsingle {d : Char} (hform : lowerChar c = [d]) (hd : d ∉ marked) : plainForm c = [d] := by
    rw [plainForm, hform, List.flatMap_singleton, plainGlyph_eq_self hd]
  rcases lowerChar_cases c
    with ⟨hascii, hform⟩ | ⟨rfl, -⟩ | ⟨run, hrun, hcode, hform⟩ | ⟨hlarge, hform⟩
  · have hlow := apply_toLower (p := fun c => c.toNat < 128) (by decide) c
    have hbeyond : c.toLower ∉ marked := by
      intro hmem
      simp [hascii, not_lt.2 (mark_of_mem hmem).beyond] at hlow
    exact .inl ⟨hascii, hsingle hform hbeyond⟩
  · exact absurd (by decide) hmarked
  · obtain ⟨hmoves, hfree⟩ := moves_of_mem_codes hrun hcode hmarked
    exact .inr (.inr ⟨_, hsingle hform fun hmem => hfree (mem_reserved_of_marked hmem), hmoves⟩)
  · exact .inr (.inr ⟨c, hsingle hform hmarked, .refl hmarked hlarge⟩)

/-! ### What characters become -/

namespace Becomes

variable {c : Char} {ds : List Char}

theorem cases (h : Becomes c ds) :
    (c.toNat < 128 ∧ ds = [c.toLower]) ∨ (c ∈ marked ∧ ds = plainForm c) ∨
      ∃ d, ds = [d] ∧ Moves c d := by
  cases h with
  | plain c =>
      rcases plainForm_cases c with hascii | hmarked | hmoves
      · exact .inl hascii
      · exact .inr (.inl ⟨hmarked, rfl⟩)
      · exact .inr (.inr hmoves)
  | finalSigma => exact .inr (.inr ⟨'ς', rfl, moves_sigma⟩)

theorem eq_plainForm (h : Becomes c ds) (hc : c ≠ capitalSigma) : ds = plainForm c := by
  cases h with
  | plain c => rfl
  | finalSigma => exact absurd rfl hc

theorem ne_nil (h : Becomes c ds) : ds ≠ [] := by
  cases h with
  | plain c =>
      obtain ⟨d, hd⟩ := List.exists_mem_of_ne_nil _ (lowerChar_ne_nil c)
      obtain ⟨e, he⟩ := List.exists_mem_of_ne_nil _ (plainGlyph_ne_nil d)
      exact List.ne_nil_of_mem (List.mem_flatMap.2 ⟨d, hd, he⟩)
  | finalSigma => simp

/-- Nothing but blanks becomes blank. -/
theorem filled (h : Becomes c ds) (hc : isBlank c = false) : ∀ d ∈ ds, isBlank d = false := by
  cases h with
  | plain c =>
      intro e he
      obtain ⟨d, hd, he⟩ := List.mem_flatMap.1 he
      exact not_isBlank_of_mem_plainGlyph (not_isBlank_of_mem_lowerChar hc hd) he
  | finalSigma => simpa using (by decide : isBlank 'ς' = false)

/-- Two characters only leave the alphabet of units. -/
theorem isUnitChar (h : Becomes c ds) (hc : Request.isUnitChar c = true) (hdot : c ≠ '·')
    (hdotted : c ≠ 'İ') :
    ∀ d ∈ ds, Request.isUnitChar d = true := by
  rcases h.cases with ⟨hascii, rfl⟩ | ⟨hmarked, rfl⟩ | ⟨d, rfl, hmoves⟩
  · simpa [apply_toLower (p := Request.isUnitChar) (by decide) c] using hc
  · have hclosed := ((mark_of_mem hmarked).closed hc).resolve_left hdot
    exact List.all_eq_true.1 (hclosed.resolve_left hdotted)
  · simp only [List.mem_singleton, forall_eq]
    rcases hmoves.free with rfl | ⟨hfree, -⟩
    · exact hc
    · simp only [Request.isUnitChar, Bool.or_eq_true, List.contains_iff_mem] at hc ⊢
      rcases hc with (hword | hblank) | hsign
      · exact .inl (.inl (hmoves.word hword))
      · exact absurd (mem_reserved_of_isBlank hblank) hfree
      · have hsource := hmoves.source
        have hsigns := List.all_eq_true.1 signs_marked c hsign
        rw [Bool.or_eq_true, decide_eq_true_eq, List.contains_iff_mem] at hsigns
        exact absurd (hsigns.resolve_left (by omega)) hmoves.unmarked

/-- One character only becomes something that units can start with, without being such a
character. -/
theorem isUnitStart_iff (h : Becomes c ds) :
    ∀ d ∈ ds.head?, isUnitStart d = true ↔ isUnitStart c = true ∨ c = 'º' := by
  rcases h.cases with ⟨hascii, rfl⟩ | ⟨hmarked, rfl⟩ | ⟨d, rfl, hmoves⟩
  · have hc : c ≠ 'º' := by
      rintro rfl
      exact absurd hascii (by decide)
    simp [apply_toLower (p := isUnitStart) (by decide) c, hc]
  · intro d hd
    rw [(mark_of_mem hmarked).starts d hd, Bool.or_eq_true, beq_iff_eq]
  · have hc : c ≠ 'º' := by
      rintro rfl
      exact hmoves.unmarked (by decide)
    simp only [List.head?_cons, Option.mem_def, Option.some_inj, forall_eq', hc, or_false]
    rcases hmoves.free with rfl | ⟨hfree, hfree'⟩
    · exact Iff.rfl
    · exact iff_of_false (mt (mem_reserved_of_isUnitStart hmoves.target) hfree')
        (mt (mem_reserved_of_isUnitStart hmoves.source) hfree)

/-- A letter of a connective word comes from the same letter, or it starts a longer word. -/
theorem of_letter (h : Becomes c ds) {d : Char} (hd : d ∈ connectiveLetters)
    (hhead : d ∈ ds.head?) :
    (ds = [d] ∧ c.toLower = d.toLower) ∨ ds = ['a', 'n', 'g', 's', 't', 'r', 'o', 'm'] := by
  rcases h.cases with ⟨hascii, rfl⟩ | ⟨hmarked, rfl⟩ | ⟨e, rfl, hmoves⟩
  · obtain rfl : c.toLower = d := by simpa using hhead
    exact .inl ⟨rfl, (Char.toLower_toLower_eq_toLower c).symm⟩
  · exact .inr ((mark_of_mem hmarked).letters d hhead hd)
  · obtain rfl : e = d := by simpa using hhead
    have htarget := hmoves.target
    rcases hmoves.free with rfl | ⟨-, hfree⟩
    · exact .inl ⟨rfl, rfl⟩
    · exact absurd ((letter_of_mem hd).known.resolve_left (by omega)) hfree

end Becomes

theorem isConnective_toLower (a b : Char) :
    isConnective a.toLower b.toLower = isConnective a b := by
  have ht := apply_toLower (p := fun c => c == 't' || c == 'T') (by decide) a
  have ho := apply_toLower (p := fun c => c == 'o' || c == 'O') (by decide) b
  have ha := apply_toLower (p := fun c => c == 'a' || c == 'A') (by decide) a
  have hs := apply_toLower (p := fun c => c == 's' || c == 'S' || c == 'ſ') (by decide) b
  rw [isConnective, ht, ho, ha, hs, isConnective]

theorem isConnective_congr {a b c d : Char} (hc : c.toLower = a.toLower)
    (hd : d.toLower = b.toLower) :
    isConnective c d = isConnective a b := by
  rw [← isConnective_toLower, hc, hd, isConnective_toLower]

namespace Becomes

variable {a b c : Char} {ds es rest : List Char}

/-- The first letter of a connective word comes from the same letter. -/
theorem first_letter (h : Becomes c ds) (hword : Request.isConnective a b = true)
    (heq : a :: b :: rest = ds ++ es) :
    ds = [a] ∧ c.toLower = a.toLower := by
  obtain ⟨-, hb⟩ := mem_of_isConnective hword
  obtain ⟨d, ds, rfl⟩ := List.exists_cons_of_ne_nil h.ne_nil
  obtain ⟨rfl, hrest⟩ := List.cons.inj heq
  rcases h.of_letter (mem_connectiveLetters hword).1 rfl with hsame | hlong
  · exact hsame
  · -- An `n` follows in the longer word.
    obtain ⟨rfl, rfl⟩ := List.cons.inj hlong
    obtain ⟨rfl, -⟩ := List.cons.inj hrest
    exact absurd hb (by decide)

/-- The second letter of a connective word comes from the same letter. -/
theorem second_letter (h : Becomes c ds) (hword : Request.isConnective a b = true)
    (heq : b :: rest = ds ++ es) :
    ds = [b] ∧ c.toLower = b.toLower := by
  obtain ⟨-, hb⟩ := mem_of_isConnective hword
  obtain ⟨d, ds, rfl⟩ := List.exists_cons_of_ne_nil h.ne_nil
  obtain ⟨rfl, hrest⟩ := List.cons.inj heq
  rcases h.of_letter (mem_connectiveLetters hword).2 rfl with hsame | hlong
  · exact hsame
  · obtain ⟨rfl, -⟩ := List.cons.inj hlong
    exact absurd hb (by decide)

/-- Letters of connective words become lower case. -/
theorem eq_of_letter (h : Becomes c ds) (hc : c ∈ connectiveLetters) : ds = [c.toLower] := by
  have hletter := letter_of_mem hc
  rw [h.eq_plainForm hletter.ne_sigma, hletter.plain]

end Becomes

/-! ### Single characters -/

/-- Blanks stay what they are. -/
theorem plainForm_of_isBlank {c : Char} (hc : isBlank c = true) : plainForm c = [c] := by
  rcases plainForm_cases c with ⟨hascii, hform⟩ | hmarked | ⟨d, hform, hmoves⟩
  · rw [hform, forall_ascii (P := fun c => isBlank c = true → c.toLower = c) (by decide) hascii hc]
  · simp [(mark_of_mem hmarked).filled] at hc
  · rcases hmoves.free with rfl | ⟨hfree, -⟩
    · exact hform
    · exact absurd (mem_reserved_of_isBlank hc) hfree

theorem Becomes.of_dot {ds : List Char} (h : Becomes '·' ds) : ds = ['*'] :=
  (h.eq_plainForm (by decide)).trans leave_alphabet.1

theorem Becomes.of_dotted {ds : List Char} (h : Becomes 'İ' ds) : ds = ['i', '\u0307'] :=
  (h.eq_plainForm (by decide)).trans leave_alphabet.2.2.1

end UnitConversion.Request
