import UnitConversion.Formula.Basic
import UnitConversion.Proofs.Decimal.Context

/-!
# Formulas that can be read can be evaluated

The reader of formulas refuses what an evaluation could not go on with. To say so, `Phrase.evaluate`
computes with phrases as the grammar leaves them, without any check: it stops at a construction or
an operator that has no meaning, at a function that is missing or called with the wrong number of
arguments, and at a literal that is no decimal number. In a text, the characters U+BD800 to U+BDFFF
stand for lone surrogates, as `Text.surrogate?` says.

* `Phrase.evaluate_eq`: none of this happens to a phrase that was accepted as an expression, and its
  value is the one of the expression.
* `Formula.sound_of_ofText`: a formula has a finite value that fits the context of conversions, or
  there is an arithmetic reason why it has none.
-/

namespace UnitConversion.Formula

/-- How the evaluation of an unchecked phrase can end without a number. -/
inductive Stop where
  /-- There is no such number. -/
  | noValue (reason : NoValue)
  /-- A construction has no meaning. -/
  | unsupported
  /-- An operator has no meaning. -/
  | operator
  /-- What is called is no known function. -/
  | missingFunction
  /-- A function does not take so many arguments. -/
  | argumentCount
  /-- A literal cannot be read as a decimal number. -/
  | literal
  deriving DecidableEq

/-- An arithmetic step of an evaluation. -/
def Stop.ofExcept {α : Type} (r : Except Signal α) : Except Stop α :=
  r.mapError fun signal => .noValue (.ofSignal signal)

/-- Calls a function with any number of arguments. -/
def Function.call : Function → List Decimal → Except Stop Decimal
  | .unary f, [a] => Stop.ofExcept (Expr.applyFunction f a)
  | .power, [a, b] => Stop.ofExcept (Expr.applyOperator .power a b)
  | .choice c, a :: as => Stop.ofExcept (Expr.applyChoice c a as)
  | _, _ => .error .argumentCount

mutual

/-- Evaluates a phrase as the grammar leaves it. Every name stands for the unknown, and named
arguments are not looked at. -/
def Phrase.evaluate (x : Decimal) : Phrase → Except Stop Decimal
  | .number text _ =>
    match Decimal.ofChars? text with
    | some d => .ok d
    | none => .error .literal
  | .constant => .error .literal
  | .name _ => .ok x
  | .sign negative operand => do
    let a ← operand.evaluate x
    Stop.ofExcept (Expr.applySign negative a)
  | .negation operand => do
    let a ← operand.evaluate x
    Stop.ofExcept (Expr.applySign true a)
  | .binary op left right => do
    let a ← left.evaluate x
    let b ← right.evaluate x
    match op with
    | some op => Stop.ofExcept (Expr.applyOperator op a b)
    | none => .error .operator
  | .call f arguments _ =>
    match f with
    | .name called =>
      match functionOf? called with
      | some g => do
        let as ← Phrase.evaluateAll x arguments
        g.call as
      | none => .error .missingFunction
    | _ => .error .missingFunction
  | .unpacked => .error .unsupported
  | .other => .error .unsupported

/-- Evaluates phrases from left to right. -/
def Phrase.evaluateAll (x : Decimal) : List Phrase → Except Stop (List Decimal)
  | [] => .ok []
  | p :: ps => do
    let a ← p.evaluate x
    let as ← Phrase.evaluateAll x ps
    .ok (a :: as)

end

/-- The value of a phrase, brought into the context of conversions. It has to be finite. -/
def Phrase.result (p : Phrase) (x : Decimal) : Except Stop Decimal := do
  let a ← p.evaluate x
  let r ← Stop.ofExcept (Decimal.plus .conversion a)
  if r.isFinite then .ok r else .error (.noValue .notFinite)

theorem bind_eq_ok {ε α β : Type} {step : Except ε α} {next : α → Except ε β} {b : β}
    (h : (step >>= next) = .ok b) : ∃ a, step = .ok a ∧ next a = .ok b := by
  cases step with
  | error e => cases h
  | ok a => exact ⟨a, rfl, h⟩

/-- A computation of two steps fails at one of them. -/
theorem bind_eq_error {ε α β : Type} {step : Except ε α} {next : α → Except ε β} {e : ε}
    (h : (step >>= next) = .error e) : step = .error e ∨ ∃ a, step = .ok a ∧ next a = .error e := by
  cases step with
  | error e' => exact .inl (congrArg _ (Except.error.inj h))
  | ok a => exact .inr ⟨a, rfl, h⟩

/-- What is decided of the result of a computation, if it has one, holds of one that it has. -/
theorem exists_ok_of_any {ε α : Type} {result : Except ε α} {p : α → Bool}
    (h : result.toOption.any p = true) :
    ∃ a, result = .ok a ∧ p a = true := by
  cases result with
  | error e => cases h
  | ok a => exact ⟨a, rfl, h⟩

theorem Stop.ofExcept_bind {α β : Type} (r : Except Signal α) (next : α → Except Signal β) :
    Stop.ofExcept (r >>= next) = Stop.ofExcept r >>= fun a => Stop.ofExcept (next a) := by
  cases r <;> rfl

@[simp] theorem Stop.ofExcept_ok {α : Type} (a : α) : Stop.ofExcept (.ok a) = .ok a := rfl

theorem calledFunction_eq_ok {f : Phrase} {n : Nat} {named : Bool} {name : List Char} {g : Function}
    (h : calledFunction f n named = .ok (name, g)) :
    f = .name name ∧ functionOf? name = some g ∧ g.takes n = true := by
  unfold calledFunction at h
  split at h
  · next name' =>
      split at h
      · cases h
      · split at h
        · cases h
        · next g' hg =>
            split at h
            · next htakes =>
                obtain ⟨rfl, rfl⟩ := Prod.mk.inj (Except.ok.inj h)
                exact ⟨rfl, hg, htakes⟩
            · cases h
  · cases h

/-- A call that was accepted is a call with as many arguments as the function takes. -/
theorem evaluate_apply? {g : Function} {es : List (Expr (List Char))} {e : Expr (List Char)}
    {e' : Expr Decimal} (happly : g.apply? es = some e)
    (hliterals : e.mapLiterals? Decimal.ofChars? = some e') (x : Decimal) :
    ∃ es', Expr.mapAll? Decimal.ofChars? es = some es' ∧
      (Stop.ofExcept (Expr.evaluateAll x es') >>= g.call) = Stop.ofExcept (e'.evaluate x) := by
  unfold Function.apply? at happly
  split at happly
  · next f a =>
      obtain rfl := Option.some.inj happly
      obtain ⟨a', ha, rfl⟩ := Option.map_eq_some_iff.1 hliterals
      refine ⟨[a'], by simp [Expr.mapAll?, ha], ?_⟩
      simp only [Expr.evaluateAll, Expr.evaluate, Stop.ofExcept_bind, bind_assoc]
      rfl
  · next b a =>
      obtain rfl := Option.some.inj happly
      obtain ⟨b', hb, hrest⟩ := Option.bind_eq_some_iff.1 hliterals
      obtain ⟨a', ha, he'⟩ := Option.bind_eq_some_iff.1 hrest
      obtain rfl := Option.some.inj he'
      refine ⟨[b', a'], by simp [Expr.mapAll?, ha, hb], ?_⟩
      simp only [Expr.evaluateAll, Expr.evaluate, Stop.ofExcept_bind, bind_assoc]
      rfl
  · next c a as =>
      obtain rfl := Option.some.inj happly
      obtain ⟨a', ha, hrest⟩ := Option.bind_eq_some_iff.1 hliterals
      obtain ⟨as', has, he'⟩ := Option.bind_eq_some_iff.1 hrest
      obtain rfl := Option.some.inj he'
      refine ⟨a' :: as', by simp [Expr.mapAll?, ha, has], ?_⟩
      simp only [Expr.evaluateAll, Expr.evaluate, Stop.ofExcept_bind, bind_assoc]
      rfl
  · cases happly

mutual

/-- An accepted phrase evaluates like the expression that it is. One case for each construction of
the grammar; those that are refused have nothing to show. -/
theorem Phrase.evaluate_eq (x : Decimal) :
    ∀ (p : Phrase) {e : Expr (List Char)} {e' : Expr Decimal},
    ofPhrase p = .ok e → e.mapLiterals? Decimal.ofChars? = some e' →
      p.evaluate x = Stop.ofExcept (e'.evaluate x)
  | .number text imaginary, e, e', h, hliterals => by
      rw [ofPhrase] at h
      split at h
      · cases h
      · obtain rfl := Except.ok.inj h
        obtain ⟨d, hd, rfl⟩ := Option.map_eq_some_iff.1 hliterals
        rw [Phrase.evaluate, hd]
        rfl
  | .constant, e, e', h, _ => by cases h
  | .name _, e, e', h, hliterals => by
      rw [ofPhrase] at h
      split at h
      · obtain rfl := Except.ok.inj h
        obtain rfl := Option.some.inj hliterals
        rfl
      · cases h
  | .sign negative operand, e, e', h, hliterals => by
      rw [ofPhrase] at h
      obtain ⟨a, ha, hout⟩ := bind_eq_ok h
      obtain rfl := Except.ok.inj hout
      obtain ⟨a', ha', rfl⟩ := Option.map_eq_some_iff.1 hliterals
      rw [Phrase.evaluate, Phrase.evaluate_eq x operand ha ha', Expr.evaluate, Stop.ofExcept_bind]
  | .negation operand, e, e', h, _ => by cases h
  | .binary none left right, e, e', h, _ => by cases h
  | .binary (some op) left right, e, e', h, hliterals => by
      rw [ofPhrase] at h
      obtain ⟨l, hl, hrest⟩ := bind_eq_ok h
      obtain ⟨r, hr, hout⟩ := bind_eq_ok hrest
      obtain rfl := Except.ok.inj hout
      obtain ⟨l', hl', hrest'⟩ := Option.bind_eq_some_iff.1 hliterals
      obtain ⟨r', hr', he'⟩ := Option.bind_eq_some_iff.1 hrest'
      obtain rfl := Option.some.inj he'
      rw [Phrase.evaluate, Phrase.evaluate_eq x left hl hl', Phrase.evaluate_eq x right hr hr',
        Expr.evaluate, Stop.ofExcept_bind]
      simp only [Stop.ofExcept_bind]
  | .call f arguments named, e, e', h, hliterals => by
      rw [ofPhrase] at h
      obtain ⟨⟨name, g⟩, hcalled, hrest⟩ := bind_eq_ok h
      obtain ⟨es, hes, hout⟩ := bind_eq_ok hrest
      obtain ⟨rfl, hg, -⟩ := calledFunction_eq_ok hcalled
      have happly : g.apply? es = some e := by
        cases hcase : g.apply? es with
        | some e₁ =>
            simp only [hcase] at hout
            rw [Except.ok.inj hout]
        | none =>
            simp only [hcase] at hout
            cases hout
      obtain ⟨es', hes', hcall⟩ := evaluate_apply? happly hliterals x
      rw [Phrase.evaluate, ← hcall]
      simp only [hg, Phrase.evaluateAll_eq x arguments hes hes']
  | .unpacked, e, e', h, _ => by cases h
  | .other, e, e', h, _ => by cases h

theorem Phrase.evaluateAll_eq (x : Decimal) : ∀ (ps : List Phrase) {es : List (Expr (List Char))}
    {es' : List (Expr Decimal)}, ofPhrases ps = .ok es →
      Expr.mapAll? Decimal.ofChars? es = some es' →
      Phrase.evaluateAll x ps = Stop.ofExcept (Expr.evaluateAll x es')
  | [], es, es', h, hliterals => by
      obtain rfl := Except.ok.inj h
      obtain rfl := Option.some.inj hliterals
      rfl
  | p :: ps, es, es', h, hliterals => by
      rw [ofPhrases] at h
      obtain ⟨e, he, hrest⟩ := bind_eq_ok h
      obtain ⟨rest, hps, hout⟩ := bind_eq_ok hrest
      obtain rfl := Except.ok.inj hout
      obtain ⟨e', he', hrest'⟩ := Option.bind_eq_some_iff.1 hliterals
      obtain ⟨rest', hps', hes'⟩ := Option.bind_eq_some_iff.1 hrest'
      obtain rfl := Option.some.inj hes'
      rw [Phrase.evaluateAll, Phrase.evaluate_eq x p he he', Phrase.evaluateAll_eq x ps hps hps',
        Expr.evaluateAll, Stop.ofExcept_bind]
      simp only [Stop.ofExcept_bind, Stop.ofExcept_ok]

end

/-- The literals of an expression that was read are all decimal numbers. -/
theorem mapLiterals?_of_readLiterals {e : Expr (List Char)} {e' : Expr Decimal}
    (h : readLiterals e = .ok e') : e.mapLiterals? Decimal.ofChars? = some e' := by
  unfold readLiterals at h
  split at h
  · cases h
  · split at h
    · next hmap => rw [hmap, Except.ok.inj h]
    · cases h

/-- A text in normal form that was read is an accepted phrase with readable literals. -/
theorem parse_eq_ok {cs : List Char} {e' : Expr Decimal} (h : parse cs = .ok e') :
    ∃ p e, (Token.scan? cs).bind Phrase.ofTokens? = some p ∧ ofPhrase p = .ok e ∧
      e.mapLiterals? Decimal.ofChars? = some e' := by
  unfold parse at h
  split at h
  · cases h
  · next p hp =>
      obtain ⟨e, he, hread⟩ := bind_eq_ok h
      exact ⟨p, e, hp, he, mapLiterals?_of_readLiterals hread⟩

theorem Phrase.result_eq {p : Phrase} {f : Formula} {x : Decimal}
    (hvalue : p.evaluate x = Stop.ofExcept (f.expr.evaluate x)) :
    p.result x = (f.evaluate x).mapError .noValue := by
  unfold Phrase.result Formula.evaluate Formula.value
  rw [hvalue]
  cases f.expr.evaluate x with
  | error signal => rfl
  | ok a =>
      cases hplus : Decimal.plus .conversion a with
      | error signal => simp [Stop.ofExcept, Except.mapError, bind, Except.bind, hplus]
      | ok r =>
          simp only [Stop.ofExcept, Except.mapError, bind, Except.bind, hplus]
          cases r.isFinite <;> rfl

/-- A value of a formula is a number of the context of conversions. -/
theorem evaluate_fits {f : Formula} {x d : Decimal} (h : f.evaluate x = .ok d) :
    Context.conversion.Fits d := by
  unfold evaluate at h
  split at h
  · cases h
  · next r hr =>
      split at h
      · next hfinite =>
          obtain rfl := Except.ok.inj h
          obtain ⟨a, -, hplus⟩ := bind_eq_ok hr
          cases a with
          | finite s c e => exact Context.finish_fits (by decide) hplus
          | infinite s =>
              obtain rfl := Except.ok.inj hplus
              cases hfinite
          | nan s signaling payload =>
              cases signaling with
              | true => cases hplus
              | false =>
                  obtain rfl := Except.ok.inj hplus
                  cases hfinite
      · cases h

/-- What a formula without a value is answered with. -/
def arithmeticMessages : List String :=
  ["Division by zero in transform expression", "Transform result overflowed",
    "Transform result underflowed", "Invalid arithmetic operation in transform expression",
    "Transform result is not finite"]

theorem message_mem_arithmeticMessages (reason : NoValue) :
    reason.message ∈ arithmeticMessages := by
  cases reason <;> simp [NoValue.message, arithmeticMessages]

/-- What the evaluation of a formula can come to. -/
structure Sound (f : Formula) : Prop where
  /-- Evaluating what the grammar reads, without any check, never gets stuck: it comes to the same
  as evaluating the formula. -/
  unstuck : ∃ p, (Token.scan? f.normalized.toList).bind Phrase.ofTokens? = some p ∧
    ∀ x, p.result x = (f.evaluate x).mapError .noValue
  /-- A value is finite, has at most forty digits, and its exponents are in range. -/
  value_fits : ∀ x d, f.evaluate x = .ok d → ∃ s c e, d = .finite s c e ∧ digitCount c ≤ 40 ∧
    Decimal.adjusted c e ≤ 999999 ∧ (c ≠ 0 → -1000038 ≤ e)
  /-- Where there is no value, the reason is one of arithmetic. -/
  reason_arithmetic : ∀ x reason, f.evaluate x = .error reason → reason.message ∈ arithmeticMessages

/-- A formula that was read can be evaluated at every number, finite or not. -/
theorem sound_of_ofText {text : String} {f : Formula} (hread : ofText text = .ok f) : f.Sound := by
  obtain ⟨normalized, -, hrest⟩ := bind_eq_ok hread
  obtain ⟨expr, hparse, hout⟩ := bind_eq_ok hrest
  obtain rfl := Except.ok.inj hout
  obtain ⟨p, e, hphrase, haccepted, hliterals⟩ := parse_eq_ok hparse
  refine ⟨⟨p, by simpa using hphrase, fun x => ?_⟩, ?_, ?_⟩
  · exact Phrase.result_eq (Phrase.evaluate_eq x p haccepted hliterals)
  · intro x d hd
    have hfits := evaluate_fits hd
    obtain ⟨s, c, e, rfl⟩ := Decimal.exists_of_isFinite (Context.isFinite_of_fits hfits)
    exact ⟨s, c, e, rfl, hfits⟩
  · intro x reason _
    exact message_mem_arithmeticMessages reason

/-- A formula with a function, an operator and a literal can be read, and so can be evaluated. -/
theorem sound_root_plus_literal : ∃ f, ofText "sqrt(x) + 1.5" = .ok f ∧ f.Sound := by
  have hread : (ofText "sqrt(x) + 1.5").toOption.isSome = true := by decide +kernel
  cases htext : ofText "sqrt(x) + 1.5" with
  | error fault =>
      rw [htext] at hread
      cases hread
  | ok f => exact ⟨f, rfl, sound_of_ofText htext⟩

end UnitConversion.Formula
