import UnitConversion.Proofs.Formula.Reading
import UnitConversion.Proofs.Formula.Scanning

/-!
# Formulas are read as they are written

An expression that is written with no more parentheses than it needs is read back as itself: its
text is in normal form but for the carets, its tokens fit together and are its phrase, the phrase is
accepted, and its literals are the numbers that the numerals denote.

* `Shaped`, `Expr.shaped`: the shape of the tokens that an expression is written with.
* `Expr.ofPhrase_phrase`, `readLiterals_map`: the phrase of an expression is accepted as the
  expression.
* `ofText_text`: the text of an expression is a formula with the values of the expression.
-/

namespace UnitConversion.Formula

open Phrase

/-! ### The shape of written tokens -/

/-- The tokens that a phrase can end with. -/
def Token.closes : Token → Bool
  | .number _ _ => true
  | .name _ => true
  | .rightParen => true
  | _ => false

/-- Whether tokens can be the text of a phrase: they occur in expressions, fit together, and start
and end as phrases do. -/
structure Shaped (ts : List Token) : Prop where
  written : ∀ t ∈ ts, t.IsWritten
  fits : ts.IsChain Token.Fits
  opening : ∃ t ∈ ts.head?, opens t = true
  closing : ∃ t ∈ ts.getLast?, t.closes = true

theorem Token.fits_of_closes {t u : Token} (ht : t.closes = true) (hu : u ∈ Token.signs) :
    t.Fits u := by
  cases t <;> first | exact hu | trivial

theorem Token.fits_of_opens {t u : Token} (ht : t ∈ Token.signs) (hu : opens u = true) :
    t.Fits u := by
  fin_cases ht <;> first | trivial | (cases u <;> simp_all [Token.Fits, opens, opensOperand])

namespace Shaped

variable {ts us : List Token} {t : Token}

theorem single (ht : t.IsWritten) (hopens : opens t = true) (hcloses : t.closes = true) :
    Shaped [t] where
  written := by simpa using ht
  fits := .singleton t
  opening := ⟨t, rfl, hopens⟩
  closing := ⟨t, rfl, hcloses⟩

/-- What fits in front of a phrase and can start one makes a phrase with it. -/
theorem cons (h : Shaped ts) (ht : t.IsWritten) (hopens : opens t = true)
    (hfits : ∀ u ∈ ts.head?, t.Fits u) :
    Shaped (t :: ts) where
  written := List.forall_mem_cons.2 ⟨ht, h.written⟩
  fits := List.isChain_cons.2 ⟨hfits, h.fits⟩
  opening := ⟨t, rfl, hopens⟩
  closing := by
    obtain ⟨u, hu, hcloses⟩ := h.closing
    exact ⟨u, by simp_all [List.getLast?_cons], hcloses⟩

/-- Two phrases with a sign between them. -/
theorem join (hl : Shaped ts) (hr : Shaped us) (ht : t ∈ Token.signs) : Shaped (ts ++ t :: us) where
  written := List.forall_mem_append.2 ⟨hl.written, List.forall_mem_cons.2 ⟨.sign ht, hr.written⟩⟩
  fits := by
    obtain ⟨u, hu, hcloses⟩ := hl.closing
    obtain ⟨v, hv, hopens⟩ := hr.opening
    refine List.isChain_append.2 ⟨hl.fits, List.isChain_cons.2 ⟨?_, hr.fits⟩, ?_⟩
    · intro v' hv'
      obtain rfl := Option.mem_unique hv hv'
      exact Token.fits_of_opens ht hopens
    · intro u' hu' t' ht'
      obtain rfl := Option.mem_unique hu hu'
      obtain rfl := Option.some.inj ht'
      exact Token.fits_of_closes hcloses ht
  opening := by
    obtain ⟨u, hu, hopens⟩ := hl.opening
    exact ⟨u, by simp_all [List.head?_append], hopens⟩
  closing := by
    obtain ⟨u, hu, hcloses⟩ := hr.closing
    exact ⟨u, by simp_all [List.getLast?_append, List.getLast?_cons], hcloses⟩

theorem paren (h : Shaped ts) : Shaped (.leftParen :: (ts ++ [.rightParen])) where
  written := by
    have hright : Token.IsWritten .rightParen := .sign (by decide)
    refine List.forall_mem_cons.2 ⟨.sign (by decide), List.forall_mem_append.2 ⟨h.written, ?_⟩⟩
    simpa using hright
  fits := by
    obtain ⟨u, hu, hcloses⟩ := h.closing
    refine List.isChain_cons.2 ⟨fun _ _ => trivial,
      List.isChain_append.2 ⟨h.fits, .singleton _, ?_⟩⟩
    intro u' hu' t' ht'
    obtain rfl := Option.mem_unique hu hu'
    obtain rfl := Option.some.inj ht'
    exact Token.fits_of_closes hcloses (by decide)
  opening := ⟨.leftParen, rfl, rfl⟩
  closing := ⟨.rightParen, by simp [List.getLast?_cons], rfl⟩

theorem enclose (h : Shaped ts) (needed level : Nat) : Shaped (Expr.enclose needed level ts) := by
  unfold Expr.enclose
  split
  · exact h
  · exact h.paren

/-- Arguments with commas between them. -/
theorem arguments (h : Shaped ts) {others : List (List Token)} (hothers : ∀ o ∈ others, Shaped o) :
    Shaped (ts ++ others.flatMap (.comma :: ·)) := by
  induction others generalizing ts with
  | nil => simpa using h
  | cons o os ih =>
      obtain ⟨ho, hos⟩ := List.forall_mem_cons.1 hothers
      exact h.join (ih ho hos) (by decide)

theorem call {name : List Char} (hname : name ∈ Token.names) (h : Shaped ts)
    {others : List (List Token)} (hothers : ∀ o ∈ others, Shaped o) :
    Shaped (Expr.callTokens name ts others) := by
  rw [Expr.callTokens, ← List.append_assoc]
  refine (h.arguments hothers).paren.cons (.name hname) rfl fun u hu => ?_
  obtain rfl := Option.some.inj hu
  exact Token.fits_of_closes (t := .name name) rfl (by decide)

end Shaped

namespace Expr

mutual

/-- The tokens of an expression fit together. -/
theorem shaped : ∀ e : Expr Literal, Shaped e.tokens
  | .literal n => .single (.number n) rfl rfl
  | .unknown => .single (.name (by decide)) rfl rfl
  | .sign negative e => by
      rw [tokens]
      have he := (shaped e).enclose 2 e.level
      cases negative with
      | true => exact he.cons (.sign (by decide)) rfl fun _ _ => trivial
      | false => exact he.cons (.sign (by decide)) rfl fun _ _ => trivial
  | .binary op l r => by
      rw [tokens]
      exact ((shaped l).enclose _ _).join ((shaped r).enclose _ _) (by cases op <;> decide)
  | .call f e => by
      rw [tokens]
      exact (shaped e).call (by cases f <;> decide) (by simp)
  | .powerCall b e => by
      rw [tokens]
      exact (shaped b).call (by decide) (by simpa using shaped e)
  | .choice c e es => by
      rw [tokens]
      exact (shaped e).call (by cases c <;> decide) (shapedAll es)

theorem shapedAll : ∀ es : List (Expr Literal), ∀ ts ∈ tokensAll es, Shaped ts
  | [] => by simp [tokensAll]
  | e :: es => by
      rw [tokensAll]
      exact List.forall_mem_cons.2 ⟨shaped e, shapedAll es⟩

end

end Expr

/-! ### Acceptance -/

theorem calledFunction_name (f : UnaryFunction) :
    calledFunction (.name f.name) 1 false = .ok (f.name, .unary f) := by
  cases f <;> rfl

theorem calledFunction_powerName :
    calledFunction (.name powerName) 2 false = .ok (powerName, .power) := by
  rfl

theorem calledFunction_choice (c : Choice) (n : Nat) :
    calledFunction (.name c.name) (n + 1) false = .ok (c.name, .choice c) := by
  cases c <;> simp [calledFunction, functionOf?, Choice.name, Function.takes]

namespace Expr

mutual

/-- The phrase of an expression is accepted, and is the expression with its literals as they are
written. -/
theorem ofPhrase_phrase : ∀ e : Expr Literal, ofPhrase e.phrase = .ok (e.map Literal.text)
  | .literal n => rfl
  | .unknown => rfl
  | .sign negative e => by
      rw [phrase, ofPhrase, ofPhrase_phrase e]
      rfl
  | .binary op l r => by
      rw [phrase, ofPhrase, ofPhrase_phrase l, ofPhrase_phrase r]
      rfl
  | .call f e => by
      rw [phrase, ofPhrase, List.length_singleton, calledFunction_name, ofPhrases,
        ofPhrase_phrase e]
      rfl
  | .powerCall b e => by
      rw [phrase, ofPhrase, List.length_cons, List.length_singleton, calledFunction_powerName,
        ofPhrases, ofPhrases, ofPhrase_phrase b, ofPhrase_phrase e]
      rfl
  | .choice c e es => by
      rw [phrase, ofPhrase, List.length_cons, calledFunction_choice, ofPhrases, ofPhrase_phrase e,
        ofPhrases_phrases es]
      rfl

theorem ofPhrases_phrases :
    ∀ es : List (Expr Literal), ofPhrases (phrases es) = .ok (mapAll Literal.text es)
  | [] => rfl
  | e :: es => by
      rw [phrases, ofPhrases, ofPhrase_phrase e, ofPhrases_phrases es]
      rfl

end

mutual

/-- Reading the literals of an expression as they are written gives the numbers that they denote. -/
theorem mapLiterals?_map : ∀ e : Expr Literal,
    (e.map Literal.text).mapLiterals? Decimal.ofChars? = some (e.map Literal.number)
  | .literal n => by
      have hread : Decimal.ofChars? n.text = some n.number := n.denotes
      simp [map, mapLiterals?, hread]
  | .unknown => rfl
  | .sign negative e => by simp [map, mapLiterals?, mapLiterals?_map e]
  | .binary op l r => by simp [map, mapLiterals?, mapLiterals?_map l, mapLiterals?_map r]
  | .call f e => by simp [map, mapLiterals?, mapLiterals?_map e]
  | .powerCall b e => by simp [map, mapLiterals?, mapLiterals?_map b, mapLiterals?_map e]
  | .choice c e es => by simp [map, mapLiterals?, mapLiterals?_map e, mapAll?_mapAll es]

theorem mapAll?_mapAll : ∀ es : List (Expr Literal),
    mapAll? Decimal.ofChars? (mapAll Literal.text es) = some (mapAll Literal.number es)
  | [] => rfl
  | e :: es => by simp [mapAll, mapAll?, mapLiterals?_map e, mapAll?_mapAll es]

end

theorem exists_of_mapAll? {α β : Type} {f : α → Option β} :
    ∀ {es : List (Expr α)} {es' : List (Expr β)},
    mapAll? f es = some es' → ∀ e ∈ es, ∃ e', e.mapLiterals? f = some e'
  | [], _, _ => by simp
  | e :: es, _, h => by
      obtain ⟨e', he', hrest⟩ := Option.bind_eq_some_iff.1 h
      obtain ⟨rest, hes, -⟩ := Option.bind_eq_some_iff.1 hrest
      exact List.forall_mem_cons.2 ⟨⟨e', he'⟩, exists_of_mapAll? hes⟩

/-- If the literals of an expression can be replaced, so can those of its operands and arguments. -/
theorem exists_of_mem_children {α β : Type} {f : α → Option β} {e c : Expr α} {e' : Expr β}
    (h : e.mapLiterals? f = some e') (hc : c ∈ e.children) : ∃ c', c.mapLiterals? f = some c' := by
  cases e with
  | literal a => cases hc
  | unknown => cases hc
  | sign negative e =>
      obtain rfl := List.mem_singleton.1 hc
      obtain ⟨a, ha, -⟩ := Option.map_eq_some_iff.1 h
      exact ⟨a, ha⟩
  | binary op l r =>
      obtain ⟨a, ha, hrest⟩ := Option.bind_eq_some_iff.1 h
      obtain ⟨b, hb, -⟩ := Option.bind_eq_some_iff.1 hrest
      obtain rfl | hc := List.mem_cons.1 hc
      · exact ⟨a, ha⟩
      · exact ⟨b, List.mem_singleton.1 hc ▸ hb⟩
  | call g e =>
      obtain rfl := List.mem_singleton.1 hc
      obtain ⟨a, ha, -⟩ := Option.map_eq_some_iff.1 h
      exact ⟨a, ha⟩
  | powerCall b e =>
      obtain ⟨a, ha, hrest⟩ := Option.bind_eq_some_iff.1 h
      obtain ⟨a', ha', -⟩ := Option.bind_eq_some_iff.1 hrest
      obtain rfl | hc := List.mem_cons.1 hc
      · exact ⟨a, ha⟩
      · exact ⟨a', List.mem_singleton.1 hc ▸ ha'⟩
  | choice g e es =>
      obtain ⟨a, ha, hrest⟩ := Option.bind_eq_some_iff.1 h
      obtain ⟨as, has, -⟩ := Option.bind_eq_some_iff.1 hrest
      obtain rfl | hc := List.mem_cons.1 hc
      · exact ⟨a, ha⟩
      · exact exists_of_mapAll? has c hc

theorem isSome_of_mem_literalsByLevel {α β : Type} {f : α → Option β} {fuel : Nat}
    {es : List (Expr α)} (h : ∀ e ∈ es, ∃ e', e.mapLiterals? f = some e') :
    ∀ a ∈ literalsByLevel fuel es, (f a).isSome = true := by
  induction fuel generalizing es with
  | zero => simp [literalsByLevel]
  | succ fuel ih =>
      rw [literalsByLevel, List.forall_mem_append]
      constructor
      · intro a ha
        obtain ⟨e, he, hliteral⟩ := List.mem_filterMap.1 ha
        obtain ⟨e', he'⟩ := h e he
        cases e <;> cases hliteral
        obtain ⟨b, hb, -⟩ := Option.map_eq_some_iff.1 he'
        exact Option.isSome_of_eq_some hb
      · refine ih fun c hc => ?_
        obtain ⟨e, he, hchild⟩ := List.mem_flatMap.1 hc
        obtain ⟨e', he'⟩ := h e he
        exact exists_of_mem_children he' hchild

end Expr

theorem readLiterals_map (e : Expr Literal) :
    readLiterals (e.map Literal.text) = .ok (e.map Literal.number) := by
  have hmap := e.mapLiterals?_map
  have hnone : (e.map Literal.text).literals.find?
      (fun text => (Decimal.ofChars? text).isNone) = none := by
    rw [List.find?_eq_none]
    intro text htext
    have hsome := Expr.isSome_of_mem_literalsByLevel (by simpa using ⟨_, hmap⟩) text htext
    simpa [Option.isSome_iff_ne_none] using hsome
  rw [readLiterals, hnone]
  simp only [hmap]

/-- The value of an expression at `x`, computed from the inside out and brought into the context of
conversions. It has to be finite. -/
def Expr.valueAt (e : Expr Decimal) (x : Decimal) : Except NoValue Decimal :=
  match e.evaluate x >>= Decimal.plus .conversion with
  | .error signal => .error (.ofSignal signal)
  | .ok d => if d.isFinite then .ok d else .error .notFinite

/-- An expression that is written out in at most 256 characters is read as a formula of this
expression, which has the values of the expression. -/
theorem ofText_text (e : Expr Literal) (hlength : e.text.length ≤ 256) :
    ∃ f, ofText e.text = .ok f ∧ f.expr = e.map Literal.number ∧
      ∀ x, f.evaluate x = (e.map Literal.number).valueAt x := by
  have hshaped := e.shaped
  have hne : e.tokens ≠ [] := by
    obtain ⟨t, ht, -⟩ := hshaped.opening
    rintro hnone
    rw [hnone] at ht
    cases ht
  have hchars : e.text.toList = e.tokens.flatMap Token.spell := String.toList_ofList
  have hnormal := normalForm_spell hne hshaped.written (by rwa [← hchars, String.length_toList])
  have hparse : parse (expandCarets (e.tokens.flatMap Token.spell)) =
      .ok (e.map Literal.number) := by
    rw [parse, Token.scan?_spell hshaped.written hshaped.fits, Option.bind_some, e.ofTokens?_tokens]
    simp only [e.ofPhrase_phrase]
    exact readLiterals_map e
  refine ⟨⟨e.text, String.ofList (expandCarets (e.tokens.flatMap Token.spell)),
    e.map Literal.number⟩, ?_, rfl, fun x => rfl⟩
  rw [ofText, hchars, hnormal]
  simp only [bind, Except.bind, hparse]

/-- The numeral `1_0.5e-1`. -/
def Literal.underscored : Literal where
  whole := ['1', '_', '0']
  fraction := ['.', '5']
  exponent := ['e', '-', '1']
  number := .finite false 105 (-2)
  whole_digits := .inr (.underscore (by decide) (.single (by decide)))
  isFraction := .digits (.single (by decide))
  isExponent := .signed (by decide) (by decide) (.single (by decide))
  has_digits := by decide
  leading_zero := by decide
  denotes := by decide +kernel

/-- Signs, powers that group to the right, and a difference in parentheses. -/
theorem ofText_text_signedPower :
    ∃ e : Expr Literal, e.text = "-(x-1_0.5e-1)^-x^x%min(x,1_0.5e-1)" ∧
    e.text.length ≤ 256 ∧
    ∃ f, ofText e.text = .ok f ∧ f.expr = e.map Literal.number ∧
      ∀ x, f.evaluate x = (e.map Literal.number).valueAt x := by
  have hexists : ∃ e : Expr Literal, e.text = "-(x-1_0.5e-1)^-x^x%min(x,1_0.5e-1)" :=
    ⟨.binary .remainder
      (.sign true (.binary .power (.binary .subtract .unknown (.literal .underscored))
        (.sign true (.binary .power .unknown .unknown))))
      (.choice .least .unknown [.literal .underscored]), rfl⟩
  obtain ⟨e, htext⟩ := hexists
  have hlength : e.text.length ≤ 256 := by
    rw [htext]
    decide
  exact ⟨e, htext, hlength, ofText_text e hlength⟩

end UnitConversion.Formula
