import UnitConversion.Proofs.Formula.Printing

/-!
# Reading the tokens of an expression

Each function of the grammar reads the tokens of the expressions that are tight enough for it, and
stops behind them if a token follows that ends them. A function that groups operators to the left
goes on with what follows; so the lemmas about it say with which steps and which phrase it goes on.

* `Phrase.Reads`, `Phrase.ReadsOn`: what it means that a function of the grammar reads some tokens.
* `Phrase.ReadsAt`: the same for the function of a level.
* `Expr.readsAt`: the tokens of an expression are read at its level.
* `Expr.ofTokens?_tokens`: all the tokens of an expression together are its phrase.
-/

namespace UnitConversion.Formula

namespace Phrase

/-! ### What stands around a phrase -/

/-- The tokens that can start a phrase without a sign. -/
def opensOperand : Token → Bool
  | .number _ _ => true
  | .name _ => true
  | .leftParen => true
  | _ => false

/-- The tokens that can start a phrase. -/
def opens : Token → Bool
  | .plus => true
  | .minus => true
  | t => opensOperand t

theorem opens_of_opensOperand {t : Token} (h : opensOperand t = true) : opens t = true := by
  cases t <;> first | rfl | cases h

/-- Whether tokens start with one of some class. -/
def Opens (starts : Token → Bool) : List Token → Prop
  | [] => False
  | t :: _ => starts t = true

theorem Opens.append {starts : Token → Bool} {ts : List Token} (h : Opens starts ts)
    (us : List Token) :
    Opens starts (ts ++ us) :=
  match ts, h with
  | _ :: _, h => h

theorem Opens.length_pos {starts : Token → Bool} {ts : List Token} (h : Opens starts ts) :
    0 < ts.length :=
  match ts, h with
  | _ :: _, _ => Nat.succ_pos _

theorem Opens.sign {ts : List Token} (h : Opens opensOperand ts) : Opens opens ts :=
  match ts, h with
  | _ :: _, h => opens_of_opensOperand h

/-- The tokens that end an expression. -/
def endsExpression : List Token := [.rightParen, .comma]

/-- The tokens that end a term of a sum. -/
def endsTerm : List Token := .plus :: .minus :: endsExpression

/-- The tokens that end a factor of a term. -/
def endsFactor : List Token := .star :: .slash :: .percent :: endsTerm

/-- The tokens that end a primary. -/
def endsPrimary : List Token := .doubleStar :: endsFactor

/-- Whether tokens are none or start with one of some ends. -/
def Stops (ends : List Token) : List Token → Prop
  | [] => True
  | t :: _ => t ∈ ends

theorem Stops.cons {ends : List Token} {t : Token} (h : t ∈ ends) (ts : List Token) :
    Stops ends (t :: ts) := h

theorem Stops.mem {ends ts : List Token} {t : Token} (h : Stops ends (t :: ts)) : t ∈ ends := h

theorem Stops.mono {ends ends' rest : List Token} (h : Stops ends rest) (hsubset : ends ⊆ ends') :
    Stops ends' rest :=
  match rest, h with
  | [], _ => trivial
  | _ :: _, h => hsubset h

/-! ### Single steps -/

section

variable {n : Nat} {ts rest : List Token} {p q : Phrase}

theorem power_of_awaited (h : awaited n ts = some (p, rest)) (hrest : Stops endsFactor rest) :
    power (n + 1) ts = some (p, rest) := by
  rw [power, h]
  split
  · next heq =>
      cases heq
      exact absurd hrest.mem (by decide)
  · rfl

theorem awaited_of_primary (hts : Opens opensOperand ts) (h : primary n ts = some (p, rest)) :
    awaited (n + 1) ts = some (p, rest) := by
  rw [awaited, h]
  rintro _ rfl
  cases hts

theorem primaryRest_of_stops (hrest : Stops endsPrimary rest) :
    primaryRest (n + 1) p rest = some (p, rest) := by
  rw [primaryRest]
  · rintro _ rfl
    exact absurd hrest.mem (by decide)
  · rintro _ rfl
    exact absurd hrest.mem (by decide)

theorem factor_of_power (hts : Opens opensOperand ts) (h : power n ts = some (p, rest)) :
    factor (n + 1) ts = some (p, rest) := by
  rw [factor, h]
  · rintro _ rfl
    cases hts
  · rintro _ rfl
    cases hts

theorem termRest_of_stops (hrest : Stops endsTerm rest) :
    termRest (n + 1) p rest = some (p, rest) := by
  cases rest with
  | nil => rw [termRest]
  | cons u us =>
      have hoperator : termOperator? u = none := by
        have hu := hrest.mem
        fin_cases hu <;> rfl
      rw [termRest, hoperator]

theorem sumRest_of_stops (hrest : Stops endsExpression rest) :
    sumRest (n + 1) p rest = some (p, rest) := by
  cases rest with
  | nil => rw [sumRest]
  | cons u us =>
      have hoperator : sumOperator? u = none := by
        have hu := hrest.mem
        fin_cases hu <;> rfl
      rw [sumRest, hoperator]

theorem comparison_of_sum (h : sum n ts = some (p, rest)) (hrest : Stops endsExpression rest) :
    comparison (n + 1) ts = some (p, rest) := by
  have hwords : comparison? rest = none := by
    cases rest with
    | nil => rfl
    | cons u us =>
        have hu := hrest.mem
        fin_cases hu <;> rfl
  rw [comparison, h]
  simp only [hwords]

theorem negated_of_comparison (hts : Opens opens ts) (h : comparison n ts = some (p, rest)) :
    negated (n + 1) ts = some (p, rest) := by
  rw [negated, h]
  rintro _ rfl
  cases hts

theorem expression_of_negated (h : negated n ts = some (p, rest))
    (hrest : Stops endsExpression rest) :
    expression (n + 3) ts = some (p, rest) := by
  have hconjunction : conjunction (n + 1) ts = some (p, rest) := by
    rw [conjunction, h]
    split
    · next heq =>
        cases heq
        exact absurd hrest.mem (by decide)
    · rfl
  have hdisjunction : disjunction (n + 2) ts = some (p, rest) := by
    rw [disjunction, hconjunction]
    split
    · next heq =>
        cases heq
        exact absurd hrest.mem (by decide)
    · rfl
  rw [expression, hdisjunction]
  split
  · next heq =>
      cases heq
      exact absurd hrest.mem (by decide)
  · rfl

theorem parenthesized_of_expression (hts : Opens opens ts)
    (h : expression n ts = some (p, .rightParen :: rest)) :
    parenthesized (n + 1) ts = some (p, rest) := by
  rw [parenthesized, h]
  · rintro _ rfl
    cases hts
  · rintro _ rfl
    cases hts
  · rintro _ rfl
    cases hts

end


/-! ### Reading a phrase -/

/-- Whether a function of the grammar reads a phrase from tokens, whatever stands behind them that
ends it. It is given sixteen steps for each token, less those that led to it. -/
structure Reads (read : Nat → List Token → Reading) (starts : Token → Bool)
    (ends : List Token) (slack : Nat) (ts : List Token) (p : Phrase) : Prop where
  opening : Opens starts ts
  reading : ∀ n rest, Stops ends rest → 16 * ts.length ≤ n + slack →
    read n (ts ++ rest) = some (p, rest)

/-- Whether a function of the grammar reads a phrase from tokens, and goes on with what may stand
behind it. Operators that group to the left are read so. -/
structure ReadsOn (read : Nat → List Token → Reading) (goOn : Nat → Phrase → List Token → Reading)
    (ends : List Token) (slack : Nat) (ts : List Token) (p : Phrase) : Prop where
  opening : Opens opens ts
  reading : ∀ n rest, Stops ends rest → 16 * ts.length ≤ n + slack →
    ∃ m, n ≤ m + ts.length ∧ read n (ts ++ rest) = goOn m p rest

-- The steps that are spent before a function is called, and what ends that which it reads.

def ReadsPrimary : List Token → Phrase → Prop := Reads primary opensOperand endsPrimary 10

def ReadsPower : List Token → Phrase → Prop := Reads power opensOperand endsFactor 8

def ReadsFactor : List Token → Phrase → Prop := Reads factor opens endsFactor 7

def ReadsTerm : List Token → Phrase → Prop := ReadsOn term termRest endsFactor 6

def ReadsSum : List Token → Phrase → Prop := ReadsOn sum sumRest endsTerm 5

def ReadsExpression : List Token → Phrase → Prop := Reads expression opens endsExpression 0

section

variable {ts us : List Token} {p q : Phrase}

theorem ReadsPrimary.power (h : ReadsPrimary ts p) : ReadsPower ts p := by
  refine ⟨h.opening, fun n rest hrest hn => ?_⟩
  have hlength := h.opening.length_pos
  obtain ⟨n, rfl⟩ : ∃ m, n = m + 2 := ⟨n - 2, by omega⟩
  have hprimary := h.reading n rest (hrest.mono (by decide)) (by omega)
  exact power_of_awaited (awaited_of_primary (h.opening.append rest) hprimary) hrest

theorem ReadsPower.factor (h : ReadsPower ts p) : ReadsFactor ts p := by
  refine ⟨h.opening.sign, fun n rest hrest hn => ?_⟩
  have hlength := h.opening.length_pos
  obtain ⟨n, rfl⟩ : ∃ m, n = m + 1 := ⟨n - 1, by omega⟩
  exact factor_of_power (h.opening.append rest) (h.reading n rest hrest (by omega))

theorem ReadsFactor.term (h : ReadsFactor ts p) : ReadsTerm ts p := by
  refine ⟨h.opening, fun n rest hrest hn => ?_⟩
  have hlength := h.opening.length_pos
  obtain ⟨n, rfl⟩ : ∃ m, n = m + 1 := ⟨n - 1, by omega⟩
  refine ⟨n, by omega, ?_⟩
  rw [Phrase.term, h.reading n rest hrest (by omega)]

/-- Where a term ends, it is read as a whole. -/
theorem ReadsTerm.stop (h : ReadsTerm ts p) {n : Nat} {rest : List Token}
    (hrest : Stops endsTerm rest) (hn : 16 * ts.length ≤ n + 6) :
    Phrase.term n (ts ++ rest) = some (p, rest) := by
  have hlength := h.opening.length_pos
  obtain ⟨m, hm, hread⟩ := h.reading n rest (hrest.mono (by decide)) hn
  obtain ⟨m, rfl⟩ : ∃ k, m = k + 1 := ⟨m - 1, by omega⟩
  rw [hread, termRest_of_stops hrest]

theorem ReadsTerm.sum (h : ReadsTerm ts p) : ReadsSum ts p := by
  refine ⟨h.opening, fun n rest hrest hn => ?_⟩
  have hlength := h.opening.length_pos
  obtain ⟨n, rfl⟩ : ∃ m, n = m + 1 := ⟨n - 1, by omega⟩
  refine ⟨n, by omega, ?_⟩
  rw [Phrase.sum, h.stop hrest (by omega)]

theorem ReadsSum.expression (h : ReadsSum ts p) : ReadsExpression ts p := by
  refine ⟨h.opening, fun n rest hrest hn => ?_⟩
  have hlength := h.opening.length_pos
  obtain ⟨n, rfl⟩ : ∃ m, n = m + 5 := ⟨n - 5, by omega⟩
  obtain ⟨m, hm, hsum⟩ := h.reading n rest (hrest.mono (by decide)) (by omega)
  obtain ⟨m, rfl⟩ : ∃ k, m = k + 1 := ⟨m - 1, by omega⟩
  rw [sumRest_of_stops hrest] at hsum
  have hcomparison := comparison_of_sum hsum hrest
  exact expression_of_negated (negated_of_comparison (h.opening.append rest) hcomparison) hrest

theorem readsPrimary_number (text : List Char) :
    ReadsPrimary [.number text false] (.number text false) := by
  refine ⟨rfl, fun n rest hrest hn => ?_⟩
  obtain ⟨n, rfl⟩ : ∃ m, n = m + 2 := ⟨n - 2, by simp at hn; omega⟩
  rw [List.singleton_append, primary, atom]
  exact primaryRest_of_stops hrest

theorem readsPrimary_name (text : List Char) : ReadsPrimary [.name text] (.name text) := by
  refine ⟨rfl, fun n rest hrest hn => ?_⟩
  obtain ⟨n, rfl⟩ : ∃ m, n = m + 2 := ⟨n - 2, by simp at hn; omega⟩
  rw [List.singleton_append, primary, atom]
  exact primaryRest_of_stops hrest

theorem ReadsExpression.paren (h : ReadsExpression ts p) :
    ReadsPrimary (.leftParen :: (ts ++ [.rightParen])) p := by
  refine ⟨rfl, fun n rest hrest hn => ?_⟩
  simp only [List.length_cons, List.length_append, List.length_nil] at hn
  obtain ⟨n, rfl⟩ : ∃ m, n = m + 3 := ⟨n - 3, by omega⟩
  have hexpression := h.reading n (.rightParen :: rest) (.cons (by decide) rest) (by omega)
  rw [List.cons_append, List.append_assoc, List.singleton_append, primary, atom,
    parenthesized_of_expression (h.opening.append _) hexpression]
  exact primaryRest_of_stops hrest

theorem ReadsFactor.sign (h : ReadsFactor ts p) (negative : Bool) :
    ReadsFactor ((if negative then .minus else .plus) :: ts) (.sign negative p) := by
  refine ⟨by cases negative <;> rfl, fun n rest hrest hn => ?_⟩
  rw [List.length_cons] at hn
  obtain ⟨n, rfl⟩ : ∃ m, n = m + 1 := ⟨n - 1, by omega⟩
  have hfactor := h.reading n rest hrest (by omega)
  cases negative <;> simp [Phrase.factor, hfactor]

theorem ReadsPrimary.raise (hl : ReadsPrimary ts p) (hr : ReadsFactor us q) :
    ReadsPower (ts ++ .doubleStar :: us) (.binary (some .power) p q) := by
  refine ⟨hl.opening.append _, fun n rest hrest hn => ?_⟩
  simp only [List.length_cons, List.length_append] at hn
  obtain ⟨n, rfl⟩ : ∃ m, n = m + 2 := ⟨n - 2, by omega⟩
  have hleft := hl.reading n (.doubleStar :: (us ++ rest)) (.cons (by decide) _) (by omega)
  have hright := hr.reading (n + 1) rest hrest (by omega)
  rw [List.append_assoc, List.cons_append, Phrase.power,
    awaited_of_primary (hl.opening.append _) hleft]
  simp only [hright, Option.map_some]

theorem ReadsTerm.operate (hl : ReadsTerm ts p) (hr : ReadsFactor us q) {t : Token} {op : Operator}
    (ht : termOperator? t = some (some op)) :
    ReadsTerm (ts ++ t :: us) (.binary (some op) p q) := by
  refine ⟨hl.opening.append _, fun n rest hrest hn => ?_⟩
  simp only [List.length_cons, List.length_append] at hn
  have hends : t ∈ endsFactor := by
    cases t <;> first | decide | cases ht
  obtain ⟨m, hm, hleft⟩ := hl.reading n (t :: (us ++ rest)) (.cons hends _) (by omega)
  obtain ⟨m, rfl⟩ : ∃ k, m = k + 1 := ⟨m - 1, by omega⟩
  refine ⟨m, by simp only [List.length_cons, List.length_append]; omega, ?_⟩
  rw [List.append_assoc, List.cons_append, hleft, termRest, ht]
  simp only [hr.reading m rest hrest (by omega)]

theorem ReadsSum.operate (hl : ReadsSum ts p) (hr : ReadsTerm us q) {t : Token} {op : Operator}
    (ht : sumOperator? t = some op) : ReadsSum (ts ++ t :: us) (.binary (some op) p q) := by
  refine ⟨hl.opening.append _, fun n rest hrest hn => ?_⟩
  simp only [List.length_cons, List.length_append] at hn
  have hends : t ∈ endsTerm := by
    cases t <;> first | decide | cases ht
  obtain ⟨m, hm, hleft⟩ := hl.reading n (t :: (us ++ rest)) (.cons hends _) (by omega)
  obtain ⟨m, rfl⟩ : ∃ k, m = k + 1 := ⟨m - 1, by omega⟩
  refine ⟨m, by simp only [List.length_cons, List.length_append]; omega, ?_⟩
  rw [List.append_assoc, List.cons_append, hleft, sumRest, ht]
  simp only [hr.stop hrest (show 16 * us.length ≤ m + 6 by omega)]

/-! ### Calls -/

theorem clauseStart?_of_stops {rest : List Token} (hrest : Stops endsExpression rest) :
    clauseStart? rest = none := by
  cases rest with
  | nil => rfl
  | cons u us =>
      have hu := hrest.mem
      fin_cases hu <;> rfl

/-- The tokens of further arguments, and of the end of a call. -/
def moreTokens (others : List (List Token)) : List Token :=
  others.flatMap (.comma :: ·) ++ [.rightParen]

theorem stops_moreTokens (others : List (List Token)) (rest : List Token) :
    Stops endsExpression (moreTokens others ++ rest) := by
  cases others with
  | nil => exact .cons (by decide) rest
  | cons o os => exact .cons (by decide) _

theorem moreTokens_cons (o : List Token) (os : List (List Token)) :
    moreTokens (o :: os) = .comma :: (o ++ moreTokens os) := by
  simp [moreTokens]

theorem arguments_of_expression {n : Nat} {f : Phrase} {before : List Phrase} {rest : List Token}
    (hts : Opens opens ts) (h : expression n ts = some (p, rest)) :
    arguments (n + 1) f before ts = argumentsRest n f (p :: before) rest := by
  rw [arguments, h]
  · rintro _ rfl
    cases hts
  · rintro _ rfl
    cases hts

/-- Further arguments are read one after another, up to the end of the call. -/
theorem argumentsRest_moreTokens {others : List (List Token)} {ps : List Phrase}
    (h : List.Forall₂ ReadsExpression others ps) {n : Nat} (f : Phrase) (before : List Phrase)
    (rest : List Token) (hn : 16 * (moreTokens others).length ≤ n + 15) :
    argumentsRest n f before (moreTokens others ++ rest) =
      some (.call f (before.reverse ++ ps) false, rest) := by
  induction h generalizing n before with
  | nil =>
      simp only [moreTokens, List.flatMap_nil, List.nil_append, List.length_singleton] at hn
      obtain ⟨n, rfl⟩ : ∃ m, n = m + 1 := ⟨n - 1, by omega⟩
      simp [moreTokens, argumentsRest]
  | @cons o p os ps ho hos ih =>
      rw [moreTokens_cons] at hn ⊢
      simp only [List.length_cons, List.length_append] at hn
      have hmore : 0 < (moreTokens os).length := by simp [moreTokens]
      obtain ⟨n, rfl⟩ : ∃ m, n = m + 2 := ⟨n - 2, by omega⟩
      have hopening := ho.opening.append (moreTokens os ++ rest)
      have hexpression := ho.reading n _ (stops_moreTokens os rest) (by omega)
      rw [List.cons_append, List.append_assoc, argumentsRest,
        arguments_of_expression hopening hexpression, ih _ (by omega)]
      · simp
      -- The argument does not start with what would end the call.
      · rintro _ hright
        rw [hright] at hopening
        cases hopening

theorem callRest_of_expression {n : Nat} {f : Phrase} {rest : List Token} (hts : Opens opens ts)
    (h : expression n ts = some (p, rest)) (hrest : Stops endsExpression rest) :
    callRest (n + 1) f ts = argumentsRest n f [p] rest := by
  rw [callRest, h]
  · simp only [clauseStart?_of_stops hrest]
  · rintro _ rfl
    cases hts
  · rintro _ rfl
    cases hts
  · rintro _ rfl
    cases hts

theorem readsPrimary_call (name : List Char) {first : List Token} {others : List (List Token)}
    {ps : List Phrase} (hfirst : ReadsExpression first p)
    (hothers : List.Forall₂ ReadsExpression others ps) :
    ReadsPrimary (Expr.callTokens name first others) (.call (.name name) (p :: ps) false) := by
  refine ⟨rfl, fun n rest hrest hn => ?_⟩
  change 16 * (first ++ moreTokens others).length.succ.succ ≤ n + 10 at hn
  rw [List.length_append] at hn
  obtain ⟨n, rfl⟩ : ∃ m, n = m + 4 := ⟨n - 4, by omega⟩
  have hexpression := hfirst.reading (n + 1) _ (stops_moreTokens others rest) (by omega)
  have hmore := argumentsRest_moreTokens hothers (n := n + 1) (.name name) [p] rest (by omega)
  have hcall : callRest (n + 2) (.name name) (first ++ (moreTokens others ++ rest)) =
      some (.call (.name name) (p :: ps) false, rest) := by
    rw [callRest_of_expression (hfirst.opening.append _) hexpression (stops_moreTokens others rest),
      hmore]
    rfl
  have htokens : Expr.callTokens name first others ++ rest =
      .name name :: .leftParen :: (first ++ (moreTokens others ++ rest)) := by
    simp [Expr.callTokens, moreTokens]
  rw [htokens, primary, atom]
  simp only [primaryRest, hcall]
  exact primaryRest_of_stops hrest

end

/-! ### Levels -/

/-- Whether a phrase of some level is read from tokens. -/
def ReadsAt : Nat → List Token → Phrase → Prop
  | 0 => ReadsSum
  | 1 => ReadsTerm
  | 2 => ReadsFactor
  | 3 => ReadsPower
  | _ => ReadsPrimary

section

variable {ts : List Token} {p : Phrase}

theorem ReadsAt.loosen : ∀ {level : Nat}, ReadsAt (level + 1) ts p → ReadsAt level ts p
  | 0, h => ReadsTerm.sum h
  | 1, h => ReadsFactor.term h
  | 2, h => ReadsPower.factor h
  | 3, h => ReadsPrimary.power h
  | _ + 4, h => h

theorem ReadsAt.mono {level level' : Nat} (hle : level' ≤ level) (h : ReadsAt level ts p) :
    ReadsAt level' ts p := by
  induction hle with
  | refl => exact h
  | step _ ih => exact ih h.loosen

theorem ReadsAt.expression {level : Nat} (h : ReadsAt level ts p) : ReadsExpression ts p :=
  ReadsSum.expression (h.mono (Nat.zero_le level))

theorem ReadsAt.enclose {level : Nat} (h : ReadsAt level ts p) (needed : Nat) :
    ReadsAt needed (Expr.enclose needed level ts) p := by
  unfold Expr.enclose
  split
  · next hle => exact h.mono hle
  · have hparen : ReadsAt (needed + 4) (.leftParen :: (ts ++ [.rightParen])) p := h.expression.paren
    exact hparen.mono (Nat.le_add_right needed 4)

end

end Phrase

open Phrase

namespace Expr

mutual

/-- The phrase that an expression is read as. -/
def phrase : Expr Literal → Phrase
  | literal n => .number n.text false
  | unknown => .name ['x']
  | sign negative e => .sign negative e.phrase
  | binary op l r => .binary (some op) l.phrase r.phrase
  | call f e => .call (.name f.name) [e.phrase] false
  | powerCall b e => .call (.name powerName) [b.phrase, e.phrase] false
  | choice c e es => .call (.name c.name) (e.phrase :: phrases es) false

/-- The phrases that some expressions are read as. -/
def phrases : List (Expr Literal) → List Phrase
  | [] => []
  | e :: es => e.phrase :: phrases es

end

mutual

/-- The tokens of an expression are read as its phrase, at its own level. -/
theorem readsAt : ∀ e : Expr Literal, ReadsAt e.level e.tokens e.phrase
  | .literal n => readsPrimary_number n.text
  | .unknown => readsPrimary_name ['x']
  | .sign negative e => by
      have he : ReadsFactor _ _ := (readsAt e).enclose 2
      rw [tokens, phrase]
      exact he.sign negative
  | .binary op l r => by
      have hl := (readsAt l).enclose op.leftLevel
      have hr := (readsAt r).enclose op.rightLevel
      rw [tokens, phrase]
      cases op with
      | add => exact ReadsSum.operate hl hr rfl
      | subtract => exact ReadsSum.operate hl hr rfl
      | multiply => exact ReadsTerm.operate hl hr rfl
      | divide => exact ReadsTerm.operate hl hr rfl
      | remainder => exact ReadsTerm.operate hl hr rfl
      | power => exact ReadsPrimary.raise hl hr
  | .call f e => by
      rw [tokens, phrase]
      exact readsPrimary_call f.name (readsAt e).expression .nil
  | .powerCall b e => by
      rw [tokens, phrase]
      exact readsPrimary_call powerName (readsAt b).expression (.cons (readsAt e).expression .nil)
  | .choice c e es => by
      rw [tokens, phrase]
      exact readsPrimary_call c.name (readsAt e).expression (readsExpressions es)

theorem readsExpressions :
    ∀ es : List (Expr Literal), List.Forall₂ ReadsExpression (tokensAll es) (phrases es)
  | [] => .nil
  | e :: es => by
      rw [tokensAll, phrases]
      exact .cons (readsAt e).expression (readsExpressions es)

end

/-- All the tokens of an expression together are its phrase. -/
theorem ofTokens?_tokens (e : Expr Literal) : Phrase.ofTokens? e.tokens = some e.phrase := by
  have hread :=
    e.readsAt.expression.reading (stepsFor e.tokens.length) [] trivial (by simp [stepsFor])
  rw [List.append_nil] at hread
  simp only [Phrase.ofTokens?, hread]

end Expr

end UnitConversion.Formula
