import UnitConversion.Proofs.Formula.Grammar
import UnitConversion.Proofs.Formula.Exact
import UnitConversion.Proofs.Decimal.Reading

/-!
# The literals of a formula

The numbers among the tokens of a text start with a digit or with a point. So a literal never names
an infinity or an undefined result, although such names can be read as decimals.

* `Decimal.isFinite_of_ofChars?`: a text that starts as numbers do denotes a finite number, if it
  denotes one.
* `Token.eachNumber_of_scanFrom`: the numbers that a text is cut into start so.
* `Formula.isFinite_of_literal_mem_parts`: the literals of a formula that was read are finite.
-/

namespace UnitConversion

namespace Decimal

theorem isFinite_of_ofParts? {negative : Bool} {c : Nat} {e : Int} {d : Decimal}
    (h : ofParts? negative c e = some d) : d.isFinite = true := by
  unfold ofParts? at h
  split at h
  · obtain rfl := Option.some.inj h
    rfl
  · cases h

theorem isFinite_of_numberOf? {negative : Bool} {cs : List Char} {d : Decimal}
    (h : numberOf? negative cs = some d) : d.isFinite = true := by
  simp only [numberOf?, Option.bind_eq_bind, Option.ite_none_left_eq_some, Option.bind_eq_some_iff]
    at h
  obtain ⟨-, e, -, he⟩ := h
  exact isFinite_of_ofParts? he

/-- Whether a text starts as a number without a sign does. -/
def StartsAsNumber (text : List Char) : Prop :=
  ∃ c cs, text = c :: cs ∧ isNumberStart c = true

/-- A text that starts as numbers do names no infinity and no undefined result. -/
theorem isFinite_of_ofChars? {text : List Char} (htext : StartsAsNumber text) {d : Decimal}
    (h : ofChars? text = some d) : d.isFinite = true := by
  obtain ⟨c, cs, rfl, hc⟩ := htext
  obtain ⟨hlow, hhigh⟩ := toNat_of_isNumberStart hc
  have hunderscore : c ≠ '_' := by
    rintro rfl
    simp at hhigh
  obtain ⟨ascii, hascii, hread⟩ := Option.bind_eq_some_iff.1 h
  rw [Text.trimChars_cons (isBlank_of_isNumberStart hc),
    List.filter_cons_of_pos (by simpa using hunderscore), List.mapM_cons, toAsciiDigit?,
    if_pos (by omega)] at hascii
  simp only [Option.bind_eq_bind, Option.bind_some, Option.bind_eq_some_iff] at hascii
  obtain ⟨rest, -, hrest⟩ := hascii
  obtain rfl := Option.some.inj hrest
  rw [show ofAscii? (c :: rest) = numberOf? false (c :: rest)
    from ofAscii?_of_isNumberStart .none hc rest] at hread
  exact isFinite_of_numberOf? hread

end Decimal

namespace Formula

namespace Token

open Decimal (StartsAsNumber)

theorem ofWord_ne_number (word text : List Char) (imaginary : Bool) :
    ofWord word ≠ .number text imaginary := by
  unfold ofWord
  split
  · simp
  · split <;> simp

theorem sign?_ne_number {cs rest : List Char} {t : Token} (h : sign? cs = some (t, rest))
    (text : List Char) (imaginary : Bool) : t ≠ .number text imaginary := by
  unfold sign? at h
  split at h <;> cases h <;> simp

theorem startsAsNumber_of_basedNumber? {start cs rest text : List Char} {isDigit : Char → Bool}
    {imaginary : Bool} (hstart : StartsAsNumber start)
    (h : basedNumber? start isDigit cs = some (.number text imaginary, rest)) :
    StartsAsNumber text := by
  obtain ⟨⟨ds, after⟩, -, hds⟩ := Option.bind_eq_some_iff.1 h
  simp only [Option.ite_none_left_eq_some] at hds
  obtain ⟨-, htext⟩ := hds
  obtain ⟨c, cs, rfl, hc⟩ := hstart
  cases htext
  exact ⟨c, cs ++ ds, rfl, hc⟩

/-- The characters of a number to base ten are those of its whole part and its fraction, and then
others. -/
theorem exists_parts_of_decimalNumber? {cs rest text : List Char} {imaginary : Bool}
    (h : decimalNumber? cs = some (.number text imaginary, rest)) :
    ∃ whole fraction others afterWhole afterFraction,
      digits? Char.isDigit cs = some (whole, afterWhole) ∧
      fraction? afterWhole = some (fraction, afterFraction) ∧
      text = whole ++ fraction ++ others := by
  obtain ⟨⟨whole, afterWhole⟩, hwhole, h⟩ := Option.bind_eq_some_iff.1 h
  obtain ⟨⟨fraction, afterFraction⟩, hfraction, h⟩ := Option.bind_eq_some_iff.1 h
  obtain ⟨⟨exponent, afterExponent⟩, -, h⟩ := Option.bind_eq_some_iff.1 h
  simp only [Option.ite_none_left_eq_some] at h
  obtain ⟨-, -, htext⟩ := h
  cases htext
  exact ⟨whole, fraction, _, afterWhole, afterFraction, hwhole, hfraction, List.append_assoc ..⟩

theorem startsAsNumber_of_decimalNumber? {cs rest text : List Char} {imaginary : Bool}
    (hstarts : startsNumber cs = true)
    (h : decimalNumber? cs = some (.number text imaginary, rest)) :
    StartsAsNumber text := by
  obtain ⟨whole, fraction, others, afterWhole, afterFraction, hwhole, hfraction, rfl⟩ :=
    exists_parts_of_decimalNumber? h
  unfold startsNumber at hstarts
  split at hstarts
  · next c cs =>
      -- There is no whole part, and the point belongs to the fraction.
      obtain ⟨rfl, rfl⟩ : whole = [] ∧ afterWhole = '.' :: c :: cs := by
        simpa [digits?, eq_comm] using hwhole
      simp only [fraction?, hstarts, if_true, Option.map_eq_some_iff] at hfraction
      obtain ⟨r, -, hr⟩ := hfraction
      cases hr
      exact ⟨'.', _, rfl, rfl⟩
  · next c cs _ =>
      simp only [digits?, hstarts, if_true, Option.map_eq_some_iff] at hwhole
      obtain ⟨r, -, hr⟩ := hwhole
      cases hr
      exact ⟨c, _, rfl, by simp [Decimal.isNumberStart, hstarts]⟩
  · cases hstarts

theorem startsAsNumber_of_number? {cs rest text : List Char} {imaginary : Bool}
    (hstarts : startsNumber cs = true) (h : number? cs = some (.number text imaginary, rest)) :
    StartsAsNumber text := by
  unfold number? at h
  split at h
  case h_7 => exact startsAsNumber_of_decimalNumber? hstarts h
  all_goals exact startsAsNumber_of_basedNumber? ⟨'0', _, rfl, rfl⟩ h

theorem startsAsNumber_of_next? {cs rest text : List Char} {imaginary : Bool}
    (h : next? cs = some (.number text imaginary, rest)) : StartsAsNumber text := by
  unfold next? at h
  split at h
  · next hstarts => exact startsAsNumber_of_number? hstarts h
  · split at h
    · split at h
      · exact absurd (Prod.mk.inj (Option.some.inj h)).1 (ofWord_ne_number _ _ _)
      · exact absurd rfl (sign?_ne_number h text imaginary)
    · cases h

/-- The numbers that a text is cut into start as numbers do. -/
theorem eachNumber_of_scanFrom {fuel depth : Nat} {cs : List Char} {ts : List Token}
    (h : scanFrom fuel depth cs = some ts) : EachNumber StartsAsNumber ts := by
  induction fuel generalizing depth cs ts with
  | zero => cases h
  | succ fuel ih =>
      cases cs with
      | nil =>
          cases h
          simp [EachNumber]
      | cons c cs =>
          rw [scanFrom] at h
          split at h
          · exact ih h
          split at h
          · split at h
            · cases h
            · exact ih h
          split at h
          · cases h
          · next t rest hnext =>
              obtain ⟨ts, hts, rfl⟩ := Option.map_eq_some_iff.1 h
              rw [eachNumber_cons]
              refine ⟨?_, ih hts⟩
              rintro text imaginary rfl
              exact startsAsNumber_of_next? hnext

end Token

/-! ### From phrases to expressions -/

section

variable {α : Type} {P : α → Prop} {read : List Char → Option α}

/-- A call is made of its arguments. -/
theorem Function.parts_apply? {g : Function} {es : List (Expr α)} {e : Expr α}
    (h : g.apply? es = some e) :
    e.parts = e :: Expr.partsAll es := by
  unfold Function.apply? at h
  split at h <;> cases h <;> simp [Expr.parts, Expr.partsAll]

theorem Function.apply?_ne_literal {g : Function} {es : List (Expr α)} (a : α) :
    g.apply? es ≠ some (.literal a) := by
  unfold Function.apply?
  split <;> simp

/-- The literals of a call are those of its arguments. -/
theorem Function.mapLiterals?_apply? {g : Function} {es : List (Expr (List Char))}
    {e : Expr (List Char)} (h : g.apply? es = some e) :
    e.mapLiterals? read = (Expr.mapAll? read es).bind g.apply? := by
  unfold Function.apply? at h
  split at h
  · next f a =>
      obtain rfl := Option.some.inj h
      cases ha : a.mapLiterals? read <;> simp [Expr.mapLiterals?, Expr.mapAll?, Function.apply?, ha]
  · next b a =>
      obtain rfl := Option.some.inj h
      cases hb : b.mapLiterals? read <;> cases ha : a.mapLiterals? read <;>
        simp [Expr.mapLiterals?, Expr.mapAll?, Function.apply?, ha, hb]
  · next c a as =>
      obtain rfl := Option.some.inj h
      cases ha : a.mapLiterals? read <;> cases has : Expr.mapAll? read as <;>
        simp [Expr.mapLiterals?, Expr.mapAll?, Function.apply?, ha, has]
  · cases h

mutual

/-- If what is read from each number of a phrase has a property, each literal of the expression that
it is has it. -/
theorem eachLiteral_of_ofPhrase : ∀ (p : Phrase) {e : Expr (List Char)} {e' : Expr α},
    p.EachNumber (fun text => ∀ a, read text = some a → P a) → ofPhrase p = .ok e →
      e.mapLiterals? read = some e' → ∀ a, .literal a ∈ e'.parts → P a
  | .number text imaginary, e, e', hp, h, hliterals => by
      rw [ofPhrase] at h
      split at h
      · cases h
      · obtain rfl := Except.ok.inj h
        obtain ⟨d, hd, rfl⟩ := Option.map_eq_some_iff.1 hliterals
        simpa [Expr.parts] using hp d hd
  | .constant, e, e', _, h, _ => by cases h
  | .name _, e, e', _, h, hliterals => by
      rw [ofPhrase] at h
      split at h
      · obtain rfl := Except.ok.inj h
        obtain rfl := Option.some.inj hliterals
        simp [Expr.parts]
      · cases h
  | .sign negative operand, e, e', hp, h, hliterals => by
      rw [ofPhrase] at h
      obtain ⟨a, ha, hout⟩ := bind_eq_ok h
      obtain rfl := Except.ok.inj hout
      obtain ⟨a', ha', rfl⟩ := Option.map_eq_some_iff.1 hliterals
      simpa [Expr.parts] using eachLiteral_of_ofPhrase operand hp ha ha'
  | .negation operand, e, e', _, h, _ => by cases h
  | .binary none left right, e, e', _, h, _ => by cases h
  | .binary (some op) left right, e, e', hp, h, hliterals => by
      rw [ofPhrase] at h
      obtain ⟨l, hl, hrest⟩ := bind_eq_ok h
      obtain ⟨r, hr, hout⟩ := bind_eq_ok hrest
      obtain rfl := Except.ok.inj hout
      obtain ⟨l', hl', hrest'⟩ := Option.bind_eq_some_iff.1 hliterals
      obtain ⟨r', hr', he'⟩ := Option.bind_eq_some_iff.1 hrest'
      obtain rfl := Option.some.inj he'
      have hleft := eachLiteral_of_ofPhrase left hp.1 hl hl'
      have hright := eachLiteral_of_ofPhrase right hp.2 hr hr'
      simpa [Expr.parts, or_imp, forall_and] using And.intro hleft hright
  | .call f arguments named, e, e', hp, h, hliterals => by
      rw [ofPhrase] at h
      obtain ⟨⟨name, g⟩, -, hrest⟩ := bind_eq_ok h
      obtain ⟨es, hes, hout⟩ := bind_eq_ok hrest
      split at hout
      · next e₁ happly =>
          obtain rfl := Except.ok.inj hout
          rw [Function.mapLiterals?_apply? happly] at hliterals
          obtain ⟨es', hes', happly'⟩ := Option.bind_eq_some_iff.1 hliterals
          intro a ha
          rw [Function.parts_apply? happly'] at ha
          obtain rfl | ha := List.mem_cons.1 ha
          · exact absurd happly' (Function.apply?_ne_literal a)
          · exact eachLiteral_of_ofPhrases arguments hp hes hes' a ha
      · cases hout
  | .unpacked, e, e', _, h, _ => by cases h
  | .other, e, e', _, h, _ => by cases h

theorem eachLiteral_of_ofPhrases :
    ∀ (ps : List Phrase) {es : List (Expr (List Char))} {es' : List (Expr α)},
    Phrase.EachNumberAll (fun text => ∀ a, read text = some a → P a) ps → ofPhrases ps = .ok es →
      Expr.mapAll? read es = some es' → ∀ a, .literal a ∈ Expr.partsAll es' → P a
  | [], es, es', _, h, hliterals => by
      obtain rfl := Except.ok.inj h
      obtain rfl := Option.some.inj hliterals
      simp [Expr.partsAll]
  | p :: ps, es, es', hp, h, hliterals => by
      rw [ofPhrases] at h
      obtain ⟨e, he, hrest⟩ := bind_eq_ok h
      obtain ⟨rest, hps, hout⟩ := bind_eq_ok hrest
      obtain rfl := Except.ok.inj hout
      obtain ⟨e', he', hrest'⟩ := Option.bind_eq_some_iff.1 hliterals
      obtain ⟨rest', hps', hes'⟩ := Option.bind_eq_some_iff.1 hrest'
      obtain rfl := Option.some.inj hes'
      have hfirst := eachLiteral_of_ofPhrase p hp.1 he he'
      have hothers := eachLiteral_of_ofPhrases ps hp.2 hps hps'
      simpa [Expr.partsAll, or_imp, forall_and] using And.intro hfirst hothers

end

end

/-- The literals of a formula that was read are finite numbers. -/
theorem isFinite_of_literal_mem_parts {text : String} {f : Formula}
    (hread : ofText text = .ok f) {d : Decimal} (hd : .literal d ∈ f.expr.parts) :
    d.isFinite = true := by
  obtain ⟨normalized, -, hrest⟩ := bind_eq_ok hread
  obtain ⟨expr, hparse, hout⟩ := bind_eq_ok hrest
  obtain rfl := Except.ok.inj hout
  obtain ⟨p, e, hphrase, haccepted, hliterals⟩ := parse_eq_ok hparse
  obtain ⟨ts, hts, hp⟩ := Option.bind_eq_some_iff.1 hphrase
  -- Whatever is read from a number among the tokens is finite.
  have hnumbers : Token.EachNumber (fun text =>
      ∀ d, Decimal.ofChars? text = some d → d.isFinite = true) ts := by
    intro text imaginary hmem d hd
    exact Decimal.isFinite_of_ofChars? (Token.eachNumber_of_scanFrom hts text imaginary hmem) hd
  exact eachLiteral_of_ofPhrase p (Phrase.eachNumber_of_ofTokens? hnumbers hp) haccepted
    hliterals d hd

end Formula

end UnitConversion
