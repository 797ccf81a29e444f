import UnitConversion.Proofs.Formula.Printing

/-!
# The tokens of a written text

A text that is written token by token is cut into these tokens again, if no token can run into the
next one: behind a numeral or a name stands a sign, and no product or quotient sign is doubled.

* `Token.number?_append`, `Token.next?_append`: a numeral, and any token, is read up to its end.
* `Token.scan?_spell`: what the text of tokens that fit together is cut into.
* `normalForm_spell`: the normal form of such a text.
-/

namespace UnitConversion.Formula

/-! ### Numerals -/

/-- Whether what follows a numeral or a name cannot belong to it. -/
def Breaks (rest : List Char) : Prop :=
  ∀ c ∈ rest.head?, Token.isNameChar c = false ∧ c ≠ '.'

theorem isDigit_eq_false_of_breaks {rest : List Char} (h : Breaks rest) :
    ∀ c ∈ rest.head?, c.isDigit = false ∧ c ≠ '_' := by
  intro c hc
  obtain ⟨hname, -⟩ := h c hc
  simp only [Token.isNameChar, Char.isAlphanum, Bool.or_eq_false_iff, beq_eq_false_iff_ne] at hname
  exact ⟨hname.1.2, hname.2⟩

theorem DigitRun.exists_cons {ds : List Char} (h : DigitRun ds) :
    ∃ d tail, ds = d :: tail ∧ d.isDigit = true := by
  cases h with
  | single hd => exact ⟨_, _, rfl, hd⟩
  | cons hd _ => exact ⟨_, _, rfl, hd⟩
  | underscore hd _ => exact ⟨_, _, rfl, hd⟩

theorem IsFraction.exists_digits {cs : List Char} (h : IsFraction cs) (hlength : 1 < cs.length) :
    ∃ ds, DigitRun ds ∧ cs = '.' :: ds := by
  cases h with
  | none => cases hlength
  | point => simp at hlength
  | digits hds => exact ⟨_, hds, rfl⟩

namespace Literal

/-- The characters of a numeral other than digits. -/
def marks : List Char :=
  ['.', '_', 'e', 'E', '+', '-']

/-- Whether a character can occur in a numeral. -/
def IsMember (c : Char) : Prop :=
  c.isDigit = true ∨ c ∈ marks

theorem isMember_of_digitRun {ds : List Char} (h : DigitRun ds) : ∀ c ∈ ds, IsMember c := by
  have hunderscore : IsMember '_' := .inr (by decide)
  induction h with
  | single hd => simp [IsMember, hd]
  | cons hd _ ih => exact List.forall_mem_cons.2 ⟨.inl hd, ih⟩
  | underscore hd _ ih =>
      exact List.forall_mem_cons.2 ⟨.inl hd, List.forall_mem_cons.2 ⟨hunderscore, ih⟩⟩

theorem isMember_of_isFraction {cs : List Char} (h : IsFraction cs) : ∀ c ∈ cs, IsMember c := by
  have hpoint : IsMember '.' := .inr (by decide)
  cases h with
  | none => simp
  | point => simpa using hpoint
  | digits hds => exact List.forall_mem_cons.2 ⟨hpoint, isMember_of_digitRun hds⟩

theorem isMember_of_isExponent {cs : List Char} (h : IsExponent cs) : ∀ c ∈ cs, IsMember c := by
  have hmark {c : Char} (hc : c = 'e' ∨ c = 'E') : IsMember c := by
    rcases hc with rfl | rfl <;> exact .inr (by decide)
  have hsign {c : Char} (hc : c = '+' ∨ c = '-') : IsMember c := by
    rcases hc with rfl | rfl <;> exact .inr (by decide)
  cases h with
  | none => simp
  | unsigned hcase hds => exact List.forall_mem_cons.2 ⟨hmark hcase, isMember_of_digitRun hds⟩
  | signed hcase hs hds =>
      exact List.forall_mem_cons.2
        ⟨hmark hcase, List.forall_mem_cons.2 ⟨hsign hs, isMember_of_digitRun hds⟩⟩

theorem isMember_of_mem_text {n : Literal} : ∀ c ∈ n.text, IsMember c := by
  rw [text, List.forall_mem_append, List.forall_mem_append]
  refine ⟨⟨?_, isMember_of_isFraction n.isFraction⟩, isMember_of_isExponent n.isExponent⟩
  rcases n.whole_digits with hnone | hdigits
  · simp [hnone]
  · exact isMember_of_digitRun hdigits

theorem text_ne_nil (n : Literal) : n.text ≠ [] := by
  intro hnone
  rw [text, List.append_eq_nil_iff, List.append_eq_nil_iff] at hnone
  have := n.has_digits hnone.1.1
  simp [hnone.1.2] at this

theorem caret_not_mem_text (n : Literal) : '^' ∉ n.text := fun hmem =>
  absurd (isMember_of_mem_text _ hmem) (by unfold IsMember; decide)

end Literal

namespace Token

theorem digits?_stop {rest : List Char} (hrest : ∀ c ∈ rest.head?, c.isDigit = false ∧ c ≠ '_') :
    digits? Char.isDigit rest = some ([], rest) := by
  cases rest with
  | nil => rfl
  | cons c rest =>
      obtain ⟨hdigit, hunderscore⟩ := hrest c rfl
      simp [digits?, hdigit, hunderscore]

theorem digits?_append {ds rest : List Char} (hds : DigitRun ds)
    (hrest : ∀ c ∈ rest.head?, c.isDigit = false ∧ c ≠ '_') :
    digits? Char.isDigit (ds ++ rest) = some (ds, rest) := by
  induction hds with
  | single hd => simp [digits?, hd, digits?_stop hrest]
  | cons hd _ ih => simp [digits?, hd, ih]
  | @underscore d ds hd hds ih =>
      obtain ⟨d', ds, rfl, hd'⟩ := hds.exists_cons
      rw [List.cons_append] at ih
      rw [List.cons_append, List.cons_append, List.cons_append, digits?, if_pos hd, digits?,
        if_neg (by decide), if_pos rfl]
      simp [hd', ih]

theorem fraction?_append {fraction rest : List Char} (hfraction : IsFraction fraction)
    (hrest : ∀ c ∈ rest.head?, c.isDigit = false ∧ c ≠ '_' ∧ c ≠ '.') :
    fraction? (fraction ++ rest) = some (fraction, rest) := by
  cases hfraction with
  | none =>
      cases rest with
      | nil => rfl
      | cons c rest =>
          obtain ⟨-, -, hpoint⟩ := hrest c rfl
          simp [fraction?, hpoint]
  | point =>
      cases rest with
      | nil => rfl
      | cons c rest =>
          obtain ⟨hdigit, -, -⟩ := hrest c rfl
          simp [fraction?, hdigit]
  | @digits ds hds =>
      have hread := digits?_append hds fun c hc => ⟨(hrest c hc).1, (hrest c hc).2.1⟩
      obtain ⟨d, ds, rfl, hd⟩ := hds.exists_cons
      rw [List.cons_append] at hread
      simp [fraction?, hd, hread]

theorem exponent?_append {exponent rest : List Char} (hexponent : IsExponent exponent)
    (hrest : Breaks rest) :
    exponent? (exponent ++ rest) = some (exponent, rest) := by
  cases hexponent with
  | none =>
      cases rest with
      | nil => rfl
      | cons c rest =>
          have hmark : ¬(c = 'e' ∨ c = 'E') := by
            rintro (rfl | rfl) <;> exact absurd (hrest _ rfl).1 (by decide)
          simp [exponent?, hmark]
  | @unsigned mark ds hmark hds =>
      have hread := digits?_append hds (isDigit_eq_false_of_breaks hrest)
      obtain ⟨d, ds, rfl, hd⟩ := hds.exists_cons
      have hsign : ¬(d = '+' ∨ d = '-') := by
        rintro (rfl | rfl) <;> cases hd
      rw [List.cons_append] at hread
      -- A single digit at the end of the text is a case of its own.
      cases htail : ds ++ rest with
      | nil =>
          obtain ⟨rfl, rfl⟩ := List.append_eq_nil_iff.1 htail
          simp [exponent?, hmark, hsign, hd]
      | cons c tail =>
          rw [htail] at hread
          simp [exponent?, hmark, hsign, hd, htail, hread]
  | @signed mark sign ds hmark hsign hds =>
      have hread := digits?_append hds (isDigit_eq_false_of_breaks hrest)
      obtain ⟨d, ds, rfl, hd⟩ := hds.exists_cons
      rw [List.cons_append] at hread
      simp [exponent?, hmark, hsign, hd, hread]

theorem head?_exponent {exponent rest : List Char} (hexponent : IsExponent exponent)
    (hrest : Breaks rest) :
    ∀ c ∈ (exponent ++ rest).head?, c.isDigit = false ∧ c ≠ '_' ∧ c ≠ '.' := by
  have hmark {c : Char} (hc : c = 'e' ∨ c = 'E') : c.isDigit = false ∧ c ≠ '_' ∧ c ≠ '.' := by
    rcases hc with rfl | rfl <;> decide
  intro c hc
  cases hexponent with
  | none =>
      obtain ⟨hdigit, hunderscore⟩ := isDigit_eq_false_of_breaks hrest c hc
      exact ⟨hdigit, hunderscore, (hrest c hc).2⟩
  | unsigned hcase _ => exact Option.some.inj hc ▸ hmark hcase
  | signed hcase _ _ => exact Option.some.inj hc ▸ hmark hcase

theorem head?_fraction {fraction rest : List Char} (hfraction : IsFraction fraction)
    (hrest : ∀ c ∈ rest.head?, c.isDigit = false ∧ c ≠ '_') :
    ∀ c ∈ (fraction ++ rest).head?, c.isDigit = false ∧ c ≠ '_' := by
  intro c hc
  cases hfraction with
  | none => exact hrest c hc
  | point => exact Option.some.inj hc ▸ by decide
  | digits _ => exact Option.some.inj hc ▸ by decide

theorem hasLeadingZero_whole (n : Literal) (hfraction : n.fraction = [])
    (hexponent : n.exponent = []) :
    hasLeadingZero n.whole = false := by
  have hzeros := n.leading_zero hfraction hexponent
  unfold hasLeadingZero
  split
  · next ds hwhole =>
      rw [hwhole] at hzeros
      rw [List.any_eq_false]
      intro c hc
      rcases hzeros rfl c (List.mem_cons_of_mem _ hc) with rfl | rfl <;> decide
  · rfl

theorem decimalNumber?_append (n : Literal) {rest : List Char} (hrest : Breaks rest) :
    decimalNumber? (n.text ++ rest) = some (.number n.text false, rest) := by
  have hexponent := head?_exponent n.isExponent hrest
  have hfraction := head?_fraction n.isFraction fun c hc =>
    ⟨(hexponent c hc).1, (hexponent c hc).2.1⟩
  have hwhole : digits? Char.isDigit (n.whole ++ (n.fraction ++ (n.exponent ++ rest))) =
      some (n.whole, n.fraction ++ (n.exponent ++ rest)) := by
    rcases n.whole_digits with hnone | hdigits
    · rw [hnone, List.nil_append]
      exact digits?_stop hfraction
    · exact digits?_append hdigits hfraction
  have hunit : imaginaryUnit rest = ([], rest) := by
    cases rest with
    | nil => rfl
    | cons c rest =>
        have hletter : ¬(c = 'j' ∨ c = 'J') := by
          rintro (rfl | rfl) <;> exact absurd (hrest _ rfl).1 (by decide)
        simp [imaginaryUnit, hletter]
  have hends : endsNumber rest = true := by
    cases rest with
    | nil => rfl
    | cons c rest => simp [endsNumber, (hrest c rfl).1]
  rw [Literal.text, List.append_assoc, List.append_assoc, decimalNumber?, hwhole]
  simp [fraction?_append n.isFraction hexponent, exponent?_append n.isExponent hrest, hunit, hends]
  intro hzero hnone hnone'
  rw [hasLeadingZero_whole n hnone hnone'] at hzero
  cases hzero

/-- A numeral is read up to its end, where no character follows that could belong to it. -/
theorem number?_append (n : Literal) {rest : List Char} (hrest : Breaks rest) :
    number? (n.text ++ rest) = some (.number n.text false, rest) := by
  rw [← decimalNumber?_append n hrest]
  -- The second character is no letter of another base.
  have hsecond {c d : Char} {tail : List Char} (h : n.text ++ rest = c :: d :: tail) :
      d ∉ ['x', 'X', 'o', 'O', 'b', 'B'] := by
    intro hletter
    have hname : isNameChar d = true ∧ ¬Literal.IsMember d := by
      fin_cases hletter <;> exact ⟨rfl, by unfold Literal.IsMember; decide⟩
    cases htext : n.text with
    | nil => exact absurd htext n.text_ne_nil
    | cons c' tail' =>
        rw [htext, List.cons_append] at h
        obtain ⟨-, htail⟩ := List.cons.inj h
        cases tail' with
        | nil =>
            rw [List.nil_append] at htail
            rw [htail] at hrest
            exact absurd (hname.1.symm.trans (hrest d rfl).1) (by decide)
        | cons d' tail' =>
            obtain ⟨rfl, -⟩ := List.cons.inj htail
            have hmem : d' ∈ n.text := by
              rw [htext]
              exact List.mem_cons_of_mem _ List.mem_cons_self
            exact hname.2 (Literal.isMember_of_mem_text _ hmem)
  unfold number?
  split
  case h_7 => rfl
  all_goals next h => exact absurd (hsecond h) (by decide)

theorem startsNumber_append (n : Literal) (rest : List Char) :
    startsNumber (n.text ++ rest) = true := by
  rw [Literal.text, List.append_assoc, List.append_assoc]
  rcases n.whole_digits with hnone | hdigits
  · obtain ⟨ds, hds, hfraction⟩ := n.isFraction.exists_digits (n.has_digits hnone)
    obtain ⟨d, tail, rfl, hd⟩ := hds.exists_cons
    rw [hnone, hfraction]
    exact hd
  · obtain ⟨d, tail, htail, hd⟩ := hdigits.exists_cons
    rw [htail]
    unfold startsNumber
    split <;> simp_all

/-! ### Tokens -/

/-- The names that occur in expressions. -/
def names : List (List Char) :=
  [['x'], UnaryFunction.abs.name, UnaryFunction.neg.name, UnaryFunction.sqrt.name, powerName,
    Choice.least.name, Choice.greatest.name]

/-- The signs that occur in expressions. -/
def signs : List Token :=
  [.leftParen, .rightParen, .comma, .plus, .minus, .star, .doubleStar, .slash, .percent]

/-- Whether a token occurs in expressions. -/
inductive IsWritten : Token → Prop where
  | number (n : Literal) : IsWritten (.number n.text false)
  | name {text : List Char} (h : text ∈ names) : IsWritten (.name text)
  | sign {t : Token} (h : t ∈ signs) : IsWritten t

/-- Whether a token can stand in front of characters without belonging together with them. -/
def Admits (rest : List Char) : Token → Prop
  | .number _ _ => Breaks rest
  | .name _ => Breaks rest
  | .star => rest.head? ≠ some '*'
  | .slash => rest.head? ≠ some '/'
  | _ => True

theorem next?_name {text : List Char} (h : text ∈ names) {rest : List Char} (hrest : Breaks rest) :
    next? (text ++ rest) = some (.name text, rest) := by
  have hspan : (text ++ rest).takeWhile isNameChar = text ∧
      (text ++ rest).dropWhile isNameChar = rest :=
    span_append (List.all_eq_true.1 (by fin_cases h <;> decide)) fun c hc => (hrest c hc).1
  have hword : ofWord text = .name text := by fin_cases h <;> decide +kernel
  obtain ⟨c, tail, rfl, hletter, hdigit⟩ : ∃ c tail, text = c :: tail ∧ isNameStart c = true ∧
      startsNumber (c :: tail ++ rest) = false := by
    fin_cases h <;> exact ⟨_, _, rfl, rfl, rfl⟩
  unfold next?
  rw [hdigit]
  simp only [Bool.false_eq_true, if_false, List.cons_append, hletter, if_true]
  rw [← List.cons_append, hspan.1, hspan.2, hword]

theorem expandCarets_of_not_mem {cs : List Char} (h : '^' ∉ cs) : expandCarets cs = cs := by
  induction cs with
  | nil => rfl
  | cons c cs ih =>
      obtain ⟨hc, hcs⟩ := not_or.1 (mt List.mem_cons.2 h)
      rw [expandCarets, List.flatMap_cons, if_neg (Ne.symm hc)]
      exact congrArg (c :: ·) (ih hcs)

theorem next?_star {rest : List Char} (hrest : rest.head? ≠ some '*') :
    next? ('*' :: rest) = some (.star, rest) := by
  cases rest with
  | nil => rfl
  | cons c rest =>
      have hc : c ≠ '*' := fun hc => hrest (congrArg some hc)
      change sign? _ = _
      simp [sign?, hc]

theorem next?_slash {rest : List Char} (hrest : rest.head? ≠ some '/') :
    next? ('/' :: rest) = some (.slash, rest) := by
  cases rest with
  | nil => rfl
  | cons c rest =>
      have hc : c ≠ '/' := fun hc => hrest (congrArg some hc)
      change sign? _ = _
      simp [sign?, hc]

theorem next?_append {t : Token} (ht : IsWritten t) {rest : List Char} (hrest : t.Admits rest) :
    next? (expandCarets t.spell ++ rest) = some (t, rest) := by
  cases ht with
  | number n =>
      rw [spell, expandCarets_of_not_mem n.caret_not_mem_text]
      unfold next?
      rw [if_pos (startsNumber_append n rest)]
      exact number?_append n hrest
  | @name text h =>
      have hcaret : '^' ∉ text := by fin_cases h <;> decide
      rw [spell, expandCarets_of_not_mem hcaret]
      exact next?_name h hrest
  | sign h =>
      fin_cases h
      case «5» => exact next?_star hrest
      case «7» => exact next?_slash hrest
      all_goals rfl

/-- Whether two tokens can stand next to each other without anything between them. -/
def Fits (t u : Token) : Prop :=
  match t with
  | .number _ _ => u ∈ signs
  | .name _ => u ∈ signs
  | .star => u ≠ .star ∧ u ≠ .doubleStar
  | .slash => u ≠ .slash
  | _ => True

/-- The start of a written token: it is no blank, and tells what the token cannot be. -/
theorem exists_head_of_isWritten {u : Token} (hu : IsWritten u) :
    ∃ c tail, expandCarets u.spell = c :: tail ∧ Text.isBlank c = false ∧
      (u ∈ signs → isNameChar c = false ∧ c ≠ '.') ∧ (c = '*' → u = .star ∨ u = .doubleStar) ∧
        (c = '/' → u = .slash) := by
  cases hu with
  | number n =>
      obtain ⟨c, tail, htext, hc⟩ : ∃ c tail, n.text = c :: tail ∧
          Decimal.isNumberStart c = true := by
        have hstarts := startsNumber_append n []
        rw [List.append_nil] at hstarts
        unfold startsNumber at hstarts
        split at hstarts
        · next htext => exact ⟨_, _, htext, rfl⟩
        · next c tail _ htext => exact ⟨c, tail, htext, by simp [Decimal.isNumberStart, hstarts]⟩
        · cases hstarts
      refine ⟨c, tail, ?_, Decimal.isBlank_of_isNumberStart hc, ?_, ?_, ?_⟩
      · rw [spell, expandCarets_of_not_mem n.caret_not_mem_text, htext]
      · simp [signs]
      · rintro rfl
        cases hc
      · rintro rfl
        cases hc
  | name h => fin_cases h <;> exact ⟨_, _, rfl, by decide +kernel⟩
  | sign h => fin_cases h <;> exact ⟨_, _, rfl, by decide +kernel⟩

theorem admits_of_fits {t u : Token} (hu : IsWritten u) (h : Fits t u) (rest : List Char) :
    t.Admits (expandCarets u.spell ++ rest) := by
  obtain ⟨c, tail, hspell, -, hsign, hstar, hslash⟩ := exists_head_of_isWritten hu
  rw [hspell, List.cons_append]
  have hbreaks (hu : u ∈ signs) : Breaks (c :: (tail ++ rest)) :=
    fun d hd => Option.some.inj hd ▸ hsign hu
  unfold Fits at h
  split at h
  · exact hbreaks h
  · exact hbreaks h
  · exact fun hc => (hstar (Option.some.inj hc)).elim h.1 h.2
  · exact fun hc => h (hslash (Option.some.inj hc))
  · unfold Admits
    split <;> simp_all

theorem expandCarets_append (cs ds : List Char) :
    expandCarets (cs ++ ds) = expandCarets cs ++ expandCarets ds :=
  List.flatMap_append

theorem admits_of_isChain {t : Token} {ts : List Token} (hwritten : ∀ t ∈ ts, IsWritten t)
    (hfits : (t :: ts).IsChain Fits) : t.Admits (expandCarets (ts.flatMap spell)) := by
  cases ts with
  | nil =>
      unfold Admits
      split <;> simp [expandCarets, Breaks]
  | cons u us =>
      rw [List.flatMap_cons, expandCarets_append]
      exact admits_of_fits (hwritten u List.mem_cons_self) (List.isChain_cons_cons.1 hfits).1 _

/-- Tokens that fit together are what their characters are cut into. -/
theorem scanFrom_spell {ts : List Token} (hwritten : ∀ t ∈ ts, IsWritten t)
    (hfits : ts.IsChain Fits) {fuel : Nat} (depth : Nat) (hfuel : ts.length < fuel) :
    scanFrom fuel depth (expandCarets (ts.flatMap spell)) = some ts := by
  induction ts generalizing fuel depth with
  | nil =>
      cases fuel with
      | zero => cases hfuel
      | succ fuel => rfl
  | cons t ts ih =>
      cases fuel with
      | zero => cases hfuel
      | succ fuel =>
          obtain ⟨ht, hts⟩ := List.forall_mem_cons.1 hwritten
          have hrest : scanFrom fuel (t.depthAfter depth)
              (expandCarets (ts.flatMap spell)) = some ts :=
            ih hts hfits.tail _ (by simpa using hfuel)
          have hnext := next?_append ht (admits_of_isChain hts hfits)
          obtain ⟨c, tail, hspell, hblank, -⟩ := exists_head_of_isWritten ht
          have hspace : ¬(c = ' ' ∨ c = '\t' ∨ c = '\x0c') := by
            rintro (rfl | rfl | rfl) <;> cases hblank
          have hbreak : ¬(c = '\n' ∨ c = '\r') := by
            rintro (rfl | rfl) <;> cases hblank
          rw [List.flatMap_cons, expandCarets_append]
          rw [hspell, List.cons_append] at hnext ⊢
          rw [scanFrom, if_neg hspace, if_neg hbreak, hnext]
          simp only [hrest, Option.map_some]

theorem length_le_length_spell {ts : List Token} (hwritten : ∀ t ∈ ts, IsWritten t) :
    ts.length ≤ (expandCarets (ts.flatMap spell)).length := by
  induction ts with
  | nil => rfl
  | cons t ts ih =>
      obtain ⟨ht, hts⟩ := List.forall_mem_cons.1 hwritten
      obtain ⟨c, tail, hspell, -⟩ := exists_head_of_isWritten ht
      have hrest := ih hts
      rw [List.flatMap_cons, expandCarets_append, hspell]
      simp only [List.length_cons, List.length_append]
      omega

theorem scan?_spell {ts : List Token} (hwritten : ∀ t ∈ ts, IsWritten t) (hfits : ts.IsChain Fits) :
    scan? (expandCarets (ts.flatMap spell)) = some ts :=
  scanFrom_spell hwritten hfits 0 (Nat.lt_succ_of_le (length_le_length_spell hwritten))

end Token

/-! ### The normal form -/

theorem isFormulaChar_of_isWritten {t : Token} (ht : t.IsWritten) :
    ∀ c ∈ t.spell, isFormulaChar c = true ∧ Text.isBlank c = false := by
  suffices hall : (t.spell.all fun c => isFormulaChar c && !Text.isBlank c) = true by
    simpa using hall
  cases ht with
  | number n =>
      refine List.all_eq_true.2 fun c hc => ?_
      rcases Literal.isMember_of_mem_text c hc with hdigit | hmark
      · have hblank : Text.isBlank c = false :=
          Decimal.isBlank_of_isNumberStart (by simp [Decimal.isNumberStart, hdigit])
        simp [isFormulaChar, Char.isAlphanum, hdigit, hblank]
      · fin_cases hmark <;> decide +kernel
  | name h => fin_cases h <;> decide +kernel
  | sign h => fin_cases h <;> decide +kernel

/-- The text of written tokens is in normal form, carets apart. -/
theorem normalForm_spell {ts : List Token} (hne : ts ≠ []) (hwritten : ∀ t ∈ ts, t.IsWritten)
    (hlength : (ts.flatMap Token.spell).length ≤ longest) :
    normalForm (ts.flatMap Token.spell) = .ok (expandCarets (ts.flatMap Token.spell)) := by
  have hchars : ∀ c ∈ ts.flatMap Token.spell, isFormulaChar c = true ∧ Text.isBlank c = false := by
    intro c hc
    obtain ⟨t, ht, hct⟩ := List.mem_flatMap.1 hc
    exact isFormulaChar_of_isWritten (hwritten t ht) c hct
  have hblank : (ts.flatMap Token.spell).all Text.isBlank = false := by
    obtain ⟨t, ts, rfl⟩ := List.exists_cons_of_ne_nil hne
    have hspell : t.spell ≠ [] := by
      obtain ⟨c, tail, hspell, -⟩ := Token.exists_head_of_isWritten (hwritten t List.mem_cons_self)
      rintro hnone
      rw [hnone] at hspell
      cases hspell
    obtain ⟨c, tail, hc⟩ := List.exists_cons_of_ne_nil hspell
    rw [List.flatMap_cons, hc, List.cons_append, List.all_cons, (hchars c (by simp [hc])).2,
      Bool.false_and]
  have hall : (ts.flatMap Token.spell).all isFormulaChar = true :=
    List.all_eq_true.2 fun c hc => (hchars c hc).1
  unfold normalForm
  rw [hblank, hall, if_neg (by decide), if_neg (not_lt.2 hlength), if_neg (by decide),
    Text.trimChars_eq_self fun c hc => (hchars c hc).2]

end UnitConversion.Formula
