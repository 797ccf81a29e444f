import UnitConversion.Catalog.Loading
import UnitConversion.Proofs.Conversion.Alike
import UnitConversion.Proofs.Conversion.Course
import UnitConversion.Proofs.Formula.Soundness

/-!
# Conversions of one number written in two ways

`1.5` and `1.50` are converted to the same, or fail for the same reason. The two runs go side by
side: what they have computed is alike after each step, and alike numbers have the same double and
the same text.

The number that is given is the only one that can be longer than the context. So there is one step
that may part the runs, a power on the way to the base unit that has this number as its base, and an
exponent that is not whole.

* `Rule.levelPowers`: whether the way to the base unit has no such power for two numbers.
* `Conversion.Same`, `Outcome.SameAnswer`: what the two runs have in common.
* `Conversion.convertIn_agree`: the runs side by side, in a registry.
* `Conversion.convert_sameAnswer`: the two answers.
-/

namespace UnitConversion

open Decimal

namespace Rule

variable {x y : Decimal}

/-- Whether no power on the way to the base unit takes notice of which of two numbers the way starts
from. -/
def levelPowers (x y : Decimal) : Rule → Bool
  | factor _ => true
  | formulas f _ => f.expr.levelPowers x y

/-- With level powers, a rule turns two ways to write a number into alike numbers of the base
unit. -/
theorem toBase_agree (rule : Rule) {digits : Nat} (hdigits : Context.conversion.precision ≤ digits)
    (h : Decimal.Alike digits x y) (hlevel : rule.levelPowers x y = true) :
    Agree Formula.Alike (rule.toBase x) (rule.toBase y) := by
  cases rule with
  | factor f =>
      have hfactor : Formula.Alike f f := .refl f
      exact (mul_agree (by decide) le_rfl h hfactor).mapError _
  | formulas f _ => exact (f.evaluate_agree_of_level hdigits h hlevel).mapError _

/-- No power takes notice of two ways to write a number that the context has room for. -/
theorem levelPowers_of_alike (rule : Rule) (h : Formula.Alike x y) :
    rule.levelPowers x y = true := by
  cases rule with
  | factor f => rfl
  | formulas f _ => exact f.expr.levelPowers_of_alike h

end Rule

namespace Conversion

/-- Whether two conversions show the same: the value as a double and as a text, the units and the
category. Their exact results are equal as numbers. -/
structure Same (c c' : Conversion) : Prop where
  value : Binary64.ofDecimal c.exact = Binary64.ofDecimal c'.exact
  exact : c.exact.sameValue c'.exact = true
  formatted : c.formatted = c'.formatted
  input : Binary64.ofDecimal c.input = Binary64.ofDecimal c'.input
  source : c.source = c'.source
  target : c.target = c'.target
  sourceRef : c.sourceRef = c'.sourceRef
  targetRef : c.targetRef = c'.targetRef

variable {registry : Registry} {settings : Settings} {source target : Json} {v w : Decimal}
    {digits : Nat}

/-- Whether two data are alike and are numbers. -/
def AlikeNumbers (digits : Nat) (a b : Decimal) : Prop :=
  Decimal.Alike digits a b ∧ b.isFinite = true

theorem inputOf_agree (h : AlikeNumbers digits v w) :
    Agree (fun x y => x = v ∧ y = w) (inputOf (.decimal v)) (inputOf (.decimal w)) := by
  simp only [inputOf_decimal_eq, h.1.isFinite_eq, h.2, isRepresentable_congr h.1, Bool.not_true,
    Bool.false_eq_true, if_false]
  split
  · exact .error _
  · exact .ok ⟨rfl, rfl⟩

theorem apply_agree {u t : MeasurementUnit} (hdigits : Context.conversion.precision ≤ digits)
    (h : Decimal.Alike digits v w) (hlevel : u.rule.levelPowers v w = true) :
    Agree (AlikeNumbers digits) (apply u t v) (apply u t w) := by
  have hresult : Agree Formula.Alike ((u.rule.toBase v).bind t.rule.fromBase)
      ((u.rule.toBase w).bind t.rule.fromBase) :=
    (u.rule.toBase_agree hdigits h hlevel).bind fun _ _ => t.rule.fromBase_agree
  unfold apply
  generalize (u.rule.toBase v).bind t.rule.fromBase = r at hresult
  generalize (u.rule.toBase w).bind t.rule.fromBase = r' at hresult
  cases hresult with
  | error reason => exact .error _
  | ok hr =>
      simp only [hr.isFinite_eq, isRepresentable_congr hr]
      split
      · exact .error _
      · next hfinite =>
          split
          · exact .error _
          · exact .ok ⟨hr.mono hdigits, by simpa using hfinite⟩

theorem applyRefs_agree {s t : UnitRef} (hdigits : Context.conversion.precision ≤ digits)
    (h : AlikeNumbers digits v w)
    (hlevel : ∀ u, s ≠ t → registry.unit? s = some u → u.rule.levelPowers v w = true) :
    Agree (AlikeNumbers digits) (applyRefs registry s t v) (applyRefs registry s t w) := by
  unfold applyRefs
  split
  · exact .ok h
  · next hne =>
      cases hu : unitAt registry s with
      | error failure => exact .error failure
      | ok u =>
          cases ht : unitAt registry t with
          | error failure => exact .error failure
          | ok v =>
              exact (apply_agree hdigits h.1 (hlevel u hne (unitAt_eq_ok_iff.1 hu))).mapError _

theorem convertIn_agree (hdigits : Context.conversion.precision ≤ digits)
    (h : AlikeNumbers digits v w)
    (hlevel : ∀ s t u, registry.resolve? source = some s → registry.resolve? target = some t →
      s.category = t.category → s ≠ t → registry.unit? s = some u → u.rule.levelPowers v w = true) :
    Agree Same (convertIn registry settings (.decimal v) source target)
      (convertIn registry settings (.decimal w) source target) := by
  rw [convertIn_eq, convertIn_eq]
  refine (inputOf_agree h).bind ?_
  rintro x y ⟨rfl, rfl⟩
  cases hpair : resolvePair registry ⟨settings.maxSuggestions, settings.minSimilarity⟩
    source target with
  | error p => exact .error p
  | ok pair =>
      obtain ⟨s, t⟩ := pair
      obtain ⟨hs, ht, hcategory⟩ := resolvePair_eq_ok hpair
      have hrefs : Agree (AlikeNumbers digits) (applyRefs registry s t x)
          (applyRefs registry s t y) :=
        applyRefs_agree hdigits h fun u => hlevel s t u hs ht hcategory
      refine hrefs.bind fun a b ⟨hab, hfinite⟩ => ?_
      rw [format_congr settings hab]
      cases hformat : format settings b with
      | error signal => exact .error _
      | ok text =>
          have hexact : a.sameValue b = true :=
            (sameValue_iff (hab.isFinite_eq.trans hfinite) hfinite).2 hab.value_eq
          exact .ok
            ⟨Binary64.ofDecimal_congr hab, hexact, rfl, Binary64.ofDecimal_congr h.1, rfl,
              rfl, rfl, rfl⟩

end Conversion

/-- Whether two outcomes say the same: conversions that show the same, or one problem. -/
inductive Outcome.SameAnswer : Outcome → Outcome → Prop
  | success {c c' : Conversion} (h : c.Same c') : SameAnswer (.success c) (.success c')
  | failure (p : Problem) : SameAnswer (.failure p) (.failure p)

namespace Conversion

/-- How a number is written makes no difference to what becomes of its conversion, as far as the
powers on the way to the base unit take no notice of it. -/
theorem convert_sameAnswer (registry : Option Registry) (settings : Settings) (source target : Json)
    {v w : Decimal} (hv : v.isFinite = true) (hw : w.isFinite = true)
    (hsign : v.isNegative = w.isNegative) (hvalue : v.value = w.value)
    (hlevel : ∀ r s t u, registry = some r → r.resolve? source = some s →
      r.resolve? target = some t →
      s.category = t.category → s ≠ t → r.unit? s = some u → u.rule.levelPowers v w = true) :
    Outcome.SameAnswer (convert registry settings (.decimal v) source target)
      (convert registry settings (.decimal w) source target) := by
  cases registry with
  | none => exact .failure _
  | some r =>
      obtain ⟨digits, hdigits, halike⟩ :=
        Alike.exists_digits hv hw hsign hvalue Context.conversion.precision
      have h : Agree Same (convertIn r settings (.decimal v) source target)
          (convertIn r settings (.decimal w) source target) :=
        convertIn_agree hdigits ⟨halike, hw⟩ fun s t u => hlevel r s t u rfl
      rw [convert_some, convert_some]
      generalize convertIn r settings (.decimal v) source target = result at h
      generalize convertIn r settings (.decimal w) source target = result' at h
      cases h with
      | ok hsame => exact .success hsame
      | error failure => exact .failure (described failure)

/-- A document with a unit whose formula divides by the distance of a power from a literal, which is
`5 ^ 58` rounded to forty digits. -/
def powerDocument : Json :=
  let unit (name symbol : String) (rule : String × Json) : Json := .object [("name", .text name),
    ("symbol", .text symbol), ("aliases", .list [.text symbol]), rule]
  .object [("category", .text "power"), ("baseUnit", .text "plain"), ("units", .object
    [("plain", unit "Plain" "p" ("factor", .integer 1)),
      ("root", unit "Root" "r" ("transform", .object
        [("toBase", .text "1/(x^14.5-34694469519536141888238489627838134765630)"),
          ("fromBase", .text "x")]))])]

/-- A directory that holds this document. -/
def powerDirectory : Directory :=
  ⟨⟨[.ofPath "units" [("power.json", .document powerDocument)]], 0⟩, "units"⟩

/-- Two ways to write a number with few digits are converted to the same, although the unit has a
power whose exponent is not whole. -/
theorem two_sameAnswer : ∃ registry,
    (Registry.load powerDirectory [.text "power"]).outcome = .ok registry ∧
    (convert (some registry) .standard (.decimal (.ofNat 2)) (.text "r") (.text "p")).isSuccess =
      true ∧
    Outcome.SameAnswer (convert (some registry) .standard (.decimal (.ofNat 2))
      (.text "r") (.text "p"))
      (convert (some registry) .standard (.decimal (.finite false 200 (-2))) (.text "r")
        (.text "p")) := by
  have hdecided : (Registry.load powerDirectory [.text "power"]).outcome.toOption.any
      (fun registry =>
      (convert (some registry) .standard (.decimal (.ofNat 2)) (.text "r") (.text "p")).isSuccess) =
        true := by
    decide +kernel
  obtain ⟨registry, hload, hsuccess⟩ := Formula.exists_ok_of_any hdecided
  have hvalue : (Decimal.ofNat 2).value = (Decimal.finite false 200 (-2)).value := by
    norm_num [Decimal.ofNat, Decimal.value, Decimal.signed]
  have halike : Formula.Alike (.ofNat 2) (.finite false 200 (-2)) :=
    .of_length_le rfl rfl rfl hvalue (by decide) (by decide)
  exact ⟨registry, hload, hsuccess,
    convert_sameAnswer _ _ _ _ rfl rfl rfl hvalue fun _ _ _ u _ _ _ _ _ _ =>
    u.rule.levelPowers_of_alike halike⟩

/-- Written with forty-two zeros behind the point, `625` has a power that is less in its last digit.
So it has a number of the base unit, while without the zeros the formula divides by zero. -/
theorem zeros_change_answer : ∃ registry c,
    (Registry.load powerDirectory [.text "power"]).outcome = .ok registry ∧
    (Decimal.ofNat 625).value = (Decimal.finite false (625 * 10 ^ 42) (-42)).value ∧
    convert (some registry) .standard (.decimal (.ofNat 625)) (.text "r") (.text "p") =
      .failure (arithmeticProblem (.formula .divisionByZero)) ∧
    convert (some registry) .standard (.decimal (.finite false (625 * 10 ^ 42) (-42)))
      (.text "r") (.text "p") = .success c ∧ c.exact = .finite true 1 (-1) := by
  have hdecided : (Registry.load powerDirectory [.text "power"]).outcome.toOption.any
      (fun registry =>
      convert (some registry) .standard (.decimal (.ofNat 625)) (.text "r") (.text "p") =
        .failure (arithmeticProblem (.formula .divisionByZero)) ∧
      convert (some registry) .standard (.decimal (.finite false (625 * 10 ^ 42) (-42)))
        (.text "r") (.text "p") =
        .success ⟨.finite false (625 * 10 ^ 42) (-42), .finite true 1 (-1), "-0.1", "r", "p",
          "root", "plain", "power"⟩) = true := by
    decide +kernel
  obtain ⟨registry, hload, hchecked⟩ := Formula.exists_ok_of_any hdecided
  obtain ⟨hfailure, hsuccess⟩ := of_decide_eq_true hchecked
  have hvalue : (Decimal.ofNat 625).value = (Decimal.finite false (625 * 10 ^ 42) (-42)).value := by
    norm_num [Decimal.ofNat, Decimal.value, Decimal.signed]
  exact ⟨registry, _, hload, hvalue, hfailure, hsuccess, rfl⟩

end Conversion

end UnitConversion
