import UnitConversion.Proofs.Catalog.BaseUnit
import UnitConversion.Proofs.Catalog.Bundled
import UnitConversion.Proofs.Catalog.Registry
import UnitConversion.Proofs.Conversion.Course

/-!
# Conversions in a loaded registry

In a well-formed registry every name that is resolved leads to a unit, and the formulas of its units
have been read. So a conversion there is never stopped by a unit that is missing or by a formula
that cannot be read, and `Conversion.Cause` lists what is left.

* `Conversion.cause_of_convertIn`: why conversions in a well-formed registry fail.
* `Registry.Complete`, `Registry.complete_of_load`: what every registry that is loaded provides.
-/

namespace UnitConversion

namespace Formula

theorem head?_append {text : String} {c : Char} (h : text.toList.head? = some c) (more : String) :
    (text ++ more).toList.head? = some c := by
  rw [String.toList_append, List.head?_append, h]
  rfl

/-- The faults whose wording holds no part of the formula. -/
def Fault.fixed : List Fault :=
  [.empty, .tooLong, .badCharacter, .unreadable, .operator, .unaryOperator, .unnamedFunction,
    .namedArguments, .unpacking, .notNumeric, .unsupported]

/-- A text words no fault if it is no fixed wording and starts with another letter than those that
hold a part of the formula. -/
theorem message_ne {text : String}
    (hstart : text.toList.head? ≠ some 'U' ∧ text.toList.head? ≠ some 'W')
    (hfixed : ∀ fault ∈ Fault.fixed, fault.message ≠ text) (fault : Fault) :
    fault.message ≠ text := by
  cases fault with
  | unknownFunction name =>
      rintro rfl
      exact hstart.1 (head?_append (head?_append (by decide) _) _)
  | argumentCount name =>
      rintro rfl
      exact hstart.2 (head?_append (head?_append (by decide) _) _)
  | unknownName name =>
      rintro rfl
      exact hstart.1 (head?_append (by decide) _)
  | literal written =>
      rintro rfl
      exact hstart.1 (head?_append (head?_append (by decide) _) _)
  | _ => exact hfixed _ (by simp [Fault.fixed])

/-- No reason for a missing value is worded like a fault of a formula. -/
theorem message_ne_reason (fault : Fault) (reason : NoValue) : fault.message ≠ reason.message := by
  cases reason <;> exact message_ne (by decide) (by decide +kernel) fault

end Formula

namespace Conversion

/-- The problem with a unit or a category that is not there; `key` is what was looked up. -/
def missing (key : String) : Problem :=
  unexpected (.missingKey key)

/-- The problem with a formula that cannot be read. -/
def unreadable (fault : Formula.Fault) : Problem :=
  Problem.calculation ("Conversion calculation failed: " ++ fault.message)
    (some "Arithmetic error during unit conversion")

/-- Why a conversion in a well-formed registry fails. -/
inductive Cause : Failure → Prop
  | number (text : String) : Cause (.problem (Problem.calculation ("Invalid input value: " ++ text)
      (some "Input must be a valid number")))
  | range (message : String) : Cause (.problem (unrepresentable message))
  /-- The value or a name cannot be written. -/
  | unwritable : Cause (.interruption .longInteger)
  /-- The units are not known, or not of one category. -/
  | units {p : Problem} (hkind : p.kind ≠ .calculation) : Cause (.problem p)
  | arithmetic (reason : Rule.NoValue) : Cause (.problem (arithmeticProblem reason))
  | infinite : Cause (.problem (Problem.calculation "Conversion produced a non-finite result" none))
  /-- The result cannot be written. -/
  | writing (signal : Signal) : Cause (.interruption (.signal signal))

variable {registry : Registry} {settings : Settings} {value source target : Json}
    {failure : Failure}

theorem cause_of_inputOf (h : inputOf value = .error failure) : Cause failure := by
  obtain rfl | ⟨message, rfl⟩ | rfl := inputOf_eq_error h
  · obtain ⟨text, hinvalid⟩ | hinvalid := invalidInput_eq value
    · exact hinvalid ▸ .number text
    · exact hinvalid ▸ .unwritable
  · exact .range message
  · exact .unwritable

theorem cause_of_resolvePair {limits : Suggestion.Limits}
    (h : resolvePair registry limits source target = .error failure) : Cause failure := by
  obtain ⟨p, rfl, hkind⟩ | ⟨rfl, -⟩ := resolvePair_eq_error h
  · exact .units hkind
  · exact .unwritable

theorem cause_of_apply {u v : MeasurementUnit} {x : Decimal} {p : Problem}
    (h : apply u v x = .error p) :
    Cause (.problem p) := by
  obtain ⟨reason, rfl⟩ | rfl | ⟨message, rfl⟩ := apply_eq_error h
  · exact .arithmetic reason
  · exact .infinite
  · exact .range message

theorem cause_of_applyRefs (hregistry : registry.WellFormed) {s t : UnitRef} {x : Decimal}
    (hs : registry.resolve? source = some s) (ht : registry.resolve? target = some t)
    (h : applyRefs registry s t x = .error failure) : Cause failure := by
  obtain ⟨u, hu⟩ := hregistry.exists_unit hs
  obtain ⟨v, hv⟩ := hregistry.exists_unit ht
  by_cases hsame : s = t
  · rw [applyRefs, if_pos hsame] at h
    cases h
  · rw [applyRefs_of_units hsame hu hv] at h
    cases happly : apply u v x with
    | ok r =>
        rw [happly] at h
        cases h
    | error p =>
        rw [happly] at h
        exact Except.error.inj h ▸ cause_of_apply happly

/-- A conversion in a well-formed registry fails for one of the causes. -/
theorem cause_of_convertIn (hregistry : registry.WellFormed)
    (h : convertIn registry settings value source target = .error failure) : Cause failure := by
  have hcourse := convertIn_course registry settings value source target
  rw [h] at hcourse
  cases hcourse with
  | input hinput => exact cause_of_inputOf hinput
  | units _ hpair => exact cause_of_resolvePair hpair
  | calculation _ hpair happly =>
      obtain ⟨hs, ht, -⟩ := resolvePair_eq_ok hpair
      exact cause_of_applyRefs hregistry hs ht happly
  | writing => exact .writing _

theorem quoted_head? (key : String) :
    (Text.quoted key).toList.head? = some (Text.markFor key.toList) := by
  simp [Text.quoted]

/-- A text that starts with no quotation mark is not the wording of a missing key. -/
theorem quoted_ne {text : String} {c : Char} (hhead : text.toList.head? = some c)
    (hc : c ≠ '\'' ∧ c ≠ '"') (key : String) : Text.quoted key ≠ text := by
  rintro rfl
  have hmark : Text.markFor key.toList = c := Option.some.inj ((quoted_head? key).symm.trans hhead)
  unfold Text.markFor at hmark
  split at hmark
  · exact hc.2 hmark.symm
  · exact hc.1 hmark.symm

@[simp] theorem unrepresentable_context (message : String) :
    (unrepresentable message).context = some "Values must fit in a double-precision float" := rfl

@[simp] theorem arithmeticProblem_context (reason : Rule.NoValue) :
    (arithmeticProblem reason).context = some "Arithmetic error during unit conversion" := rfl

@[simp] theorem unexpected_context (cause : Interruption) :
    (unexpected cause).context = some "An unexpected error occurred during conversion" := rfl

@[simp] theorem missing_context (key : String) :
    (missing key).context = some "An unexpected error occurred during conversion" := rfl

@[simp] theorem unreadable_context (fault : Formula.Fault) :
    (unreadable fault).context = some "Arithmetic error during unit conversion" := rfl

@[simp] theorem calculation_none_context (message : String) :
    (Problem.calculation message none).context =
      some "An error occurred during the conversion calculation." := rfl

@[simp] theorem calculation_some_context (message context : String) (h : context ≠ "") :
    (Problem.calculation message (some context)).context = some context := by
  have hempty : context.isEmpty = false := String.isEmpty_eq_false_iff.2 h
  simp [Problem.calculation, Problem.orElse, hempty]

/-- What is unexpected is worded like the interruption, if this has a wording. -/
theorem unexpected_message {cause : Interruption} {text : String} {c : Char}
    (hcause : cause.message? = some text) (hhead : text.toList.head? = some c) :
    (unexpected cause).message = text := by
  have hempty : text.isEmpty = false := by
    rw [String.isEmpty_eq_false_iff]
    rintro rfl
    cases hhead
  simp [unexpected, Problem.calculation, Problem.orElse, hcause, hempty]

/-- An interruption that is worded in another way is not that of a missing key. -/
theorem unexpected_ne_missing {cause : Interruption} {text : String} {c : Char}
    (hcause : cause.message? = some text) (hhead : text.toList.head? = some c)
    (hc : c ≠ '\'' ∧ c ≠ '"') (key : String) : unexpected cause ≠ missing key := by
  intro heq
  have hmessage := congrArg Problem.message heq
  rw [unexpected_message hcause hhead, missing, unexpected_message rfl (quoted_head? key)]
    at hmessage
  exact quoted_ne hhead hc key hmessage.symm

namespace Cause

/-- Nothing is missing in a well-formed registry. -/
theorem ne_missing (h : Cause failure) (key : String) : described failure ≠ missing key := by
  intro heq
  -- The contexts tell most causes apart. Only what cannot be written shares that of a missing key.
  have hcontext := congrArg Problem.context heq
  cases h with
  | number text => simp [described] at hcontext
  | range message => simp [described] at hcontext
  | unwritable => exact unexpected_ne_missing (c := 'E') rfl (by decide +kernel) (by decide) key heq
  | units hkind => exact hkind (congrArg Problem.kind heq)
  | arithmetic reason => simp [described] at hcontext
  | infinite => simp [described] at hcontext
  | writing signal =>
      exact unexpected_ne_missing (c := '[') rfl (by cases signal <;> decide) (by decide) key heq

/-- Every formula of a well-formed registry can be read. -/
theorem ne_unreadable (h : Cause failure) (fault : Formula.Fault) :
    described failure ≠ unreadable fault := by
  intro heq
  -- A missing value shares the context of an unreadable formula, but no reason is worded like a
  -- fault.
  have hcontext := congrArg Problem.context heq
  cases h with
  | number text => simp [described] at hcontext
  | range message => simp [described] at hcontext
  | unwritable => simp [described] at hcontext
  | units hkind => exact hkind (congrArg Problem.kind heq)
  | arithmetic reason =>
      have hmessage := congrArg Problem.message heq
      cases reason with
      | signal signal =>
          have htext : "invalid arithmetic operation" = fault.message :=
            String.append_right_inj _ |>.1 hmessage
          exact Formula.message_ne (by decide) (by decide +kernel) fault htext.symm
      | formula reason =>
          have htext : reason.message = fault.message := String.append_right_inj _ |>.1 hmessage
          exact Formula.message_ne_reason fault reason htext.symm
  | infinite => simp [described] at hcontext
  | writing signal => simp [described] at hcontext

end Cause

end Conversion

namespace Registry

open MeasurementUnit

/-- What a registry provides that was loaded from a directory. -/
structure Complete (directory : Directory) (names : List Json) (registry : Registry) : Prop where
  /-- The categories are those that were selected, under the names by which they were. -/
  selected : ∃ selected, selectNames directory names = .ok selected ∧
    ∀ name, name ∈ selected ↔ ∃ c ∈ registry.categories, name = .text c.name
  /-- Each category is found under its name, and is the one that loads under it. -/
  categories : ∀ c ∈ registry.categories, registry.category? c.name = some c ∧
    (loadCategory directory (.text c.name)).outcome = .ok c
  /-- Each unit is found under its key. -/
  units : ∀ c ∈ registry.categories, ∀ u ∈ c.units, c.unit? u.key = some u
  /-- Both formulas of a unit can be read. -/
  formulas : ∀ c ∈ registry.categories, ∀ u ∈ c.units, ∀ f g, u.rule = .formulas f g →
    Formula.ofText f.source = .ok f ∧ Formula.ofText g.source = .ok g
  /-- The base unit is one of the units and returns some numbers in both directions, and if its rule
  is a factor, all numbers of at most forty digits that are not too large and not too small. -/
  base : ∀ c ∈ registry.categories, ∃ u ∈ c.units, u.key = c.baseUnit ∧
    c.unit? c.baseUnit = some u ∧
    fixes u.rule (.finite false 1 0) = true ∧ fixes u.rule (.finite false 7 0) = true ∧
    fixes u.rule (.finite false 25 (-2)) = true ∧
    ∀ f, u.rule = .factor f → ∀ s n e, digitCount n ≤ 40 → -900000 ≤ Decimal.adjusted n e →
      Decimal.adjusted n e ≤ 900000 → fixes u.rule (.finite s n e) = true
  /-- Each name in the index is in normal form and leads to a unit of a category. -/
  aliases : ∀ entry ∈ registry.aliases, UnitText.normalize entry.1 = entry.1 ∧
    ∃ c ∈ registry.categories, ∃ u ∈ c.units, entry.2 = ⟨c.name, u.key⟩
  /-- No conversion fails because something is missing or because a formula cannot be read. -/
  conversions : ∀ settings value source target p,
    Conversion.convert (some registry) settings value source target = .failure p →
      (∀ key, p ≠ Conversion.missing key) ∧ ∀ fault, p ≠ Conversion.unreadable fault

/-- A number of at most forty digits within the range of the context is a number of the context. -/
theorem fits_of_digits {s : Bool} {n : Nat} {e : Int} (hdigits : digitCount n ≤ 40)
    (hlow : -900000 ≤ Decimal.adjusted n e) (hhigh : Decimal.adjusted n e ≤ 900000) :
    Context.conversion.Fits (.finite s n e) := by
  refine ⟨hdigits, hhigh.trans (by decide), fun _ => ?_⟩
  show -999999 - ((40 : Int) - 1) ≤ e
  unfold Decimal.adjusted at hlow
  omega

/-- Every registry that is loaded is complete, whatever the documents are that it is loaded from. -/
theorem complete_of_load {directory : Directory} {names : List Json} {registry : Registry}
    (h : (load directory names).outcome = .ok registry) : Complete directory names registry := by
  have hregistry := wellFormed_of_load h
  obtain ⟨hsound, hselected⟩ := sound_of_load h
  refine ⟨hselected, fun c hc => ⟨category?_eq hsound.names hc, hsound.loads c hc⟩, ?_,
    ?_, ?_, ?_, ?_⟩
  · intro c hc u hu
    exact Category.unit?_eq (hregistry.categories c hc).keys hu
  · intro c hc u hu f g hrule
    have hreadable := (hregistry.categories c hc).formulas u hu
    rwa [hrule] at hreadable
  · intro c hc
    obtain ⟨u, hu, hidentity⟩ := (hregistry.categories c hc).base
    obtain ⟨hsamples, hfactor⟩ := fixes_of_isIdentity hidentity
    have hkey : u.key = c.baseUnit := by simpa using List.find?_some hu
    exact ⟨u, List.mem_of_find?_eq_some hu, hkey, hu, hsamples _ (by simp [identitySamples]),
      hsamples _ (by simp [identitySamples]), hsamples _ (by simp [identitySamples]),
      fun f hf s n e hdigits hlow hhigh => hfactor f hf _ (fits_of_digits hdigits hlow hhigh)⟩
  · exact fun entry hentry => ⟨hregistry.normal entry hentry, hregistry.owners entry hentry⟩
  · intro settings value source target p hfailure
    obtain ⟨failure, hresult, rfl⟩ := Conversion.convert_eq_failure_iff.1 hfailure
    have hcause := Conversion.cause_of_convertIn hregistry hresult
    exact ⟨hcause.ne_missing, hcause.ne_unreadable⟩

/-- The registry of the bundled documents is complete. -/
theorem bundled_complete :
    (load Bundled.directory []).outcome = .ok Bundled.registry ∧
      Complete Bundled.directory [] Bundled.registry :=
  ⟨Bundled.load_eq, complete_of_load Bundled.load_eq⟩

end Registry

end UnitConversion
