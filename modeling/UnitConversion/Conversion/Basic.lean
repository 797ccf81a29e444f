import UnitConversion.Conversion.Format
import UnitConversion.Conversion.Outcome
import UnitConversion.Request.Check

/-!
# Conversions

A value given in one unit is turned into a number of the base unit of its category and from there
into a number of another unit. Values and results have to be within the range of doubles, since they
are also given out as such. Between two names of the same unit the value stays as it is, digit for
digit.

`Conversion.convert` describes whatever stops a conversion. `Conversion.validate` looks at two units
without a value.
-/

namespace UnitConversion

namespace Conversion

/-- The failure that a value is if it is no number. -/
def invalidInput (value : Json) : Failure :=
  match value.shown with
  | .ok text =>
    .problem (Problem.calculation ("Invalid input value: " ++ text)
      (some "Input must be a valid number"))
  | .error failure => failure

/-- The problem with a number that is beyond the doubles. -/
def unrepresentable (message : String) : Problem :=
  Problem.calculation message (some "Values must fit in a double-precision float")

/-- Whether a number is within the range of doubles. -/
def isRepresentable (d : Decimal) : Bool :=
  (Binary64.ofDecimal d).isFinite

/-- The decimal number that a value stands for. A whole number is read from its text, if it can be
written. -/
def numberOf : Json → Attempt (Option Decimal)
  | .decimal d => .ok (some d)
  | .integer i => (Json.integer i).shown.map fun _ => some (.ofInt i)
  | .real r => .ok (some r.toDecimal)
  | .text s => .ok (Decimal.ofText? s)
  | _ => .ok none

/-- The number to convert. -/
def inputOf (value : Json) : Attempt Decimal := do
  match ← numberOf value with
  | none => throw (invalidInput value)
  | some d =>
    if !d.isFinite then throw (invalidInput value)
    else if !isRepresentable d then
      throw (.problem (unrepresentable "Input value is outside the representable range"))
    else return d

/-- The problem with arithmetic that gives no number. -/
def arithmeticProblem (reason : Rule.NoValue) : Problem :=
  let text := match reason with
    | .formula reason => reason.message
    | .signal _ => "invalid arithmetic operation"
  Problem.calculation ("Conversion calculation failed: " ++ text)
    (some "Arithmetic error during unit conversion")

/-- The problem with a condition that nobody described. -/
def unexpected (cause : Interruption) : Problem :=
  Problem.calculation (Problem.orElse cause.message? "Unknown conversion error")
    (some "An unexpected error occurred during conversion")

/-- The problem that a failure is for a user, who is told of an interruption too. -/
def described : Failure → Problem
  | .problem p => p
  | .interruption cause => unexpected cause

/-- The number of the unit `target` for `x` of the unit `source`. -/
def apply (source target : MeasurementUnit) (x : Decimal) : Except Problem Decimal :=
  match (source.rule.toBase x).bind target.rule.fromBase with
  | .error reason => .error (arithmeticProblem reason)
  | .ok r =>
    if !r.isFinite then .error (Problem.calculation "Conversion produced a non-finite result" none)
    else if !isRepresentable r then
      .error (unrepresentable "Conversion result is outside the representable range")
    else .ok r

/-- The unit that a reference points to. -/
def unitAt (registry : Registry) (ref : UnitRef) : Attempt MeasurementUnit :=
  match registry.category? ref.category with
  | none => .error (.interruption (.missingKey ref.category))
  | some category =>
    match category.unit? ref.unit with
    | none => .error (.interruption (.missingKey ref.unit))
    | some unit => .ok unit

/-- The number of one unit for `x` of another, both given by reference. -/
def applyRefs (registry : Registry) (source target : UnitRef) (x : Decimal) : Attempt Decimal :=
  if source = target then .ok x
  else do
    let sourceUnit ← unitAt registry source
    let targetUnit ← unitAt registry target
    (apply sourceUnit targetUnit x).mapError .problem

/-- Converts a value in a registry. -/
def convertIn (registry : Registry) (settings : Settings) (value source target : Json) :
    Attempt Conversion := do
  let input ← inputOf value
  match registry.resolve? source with
  | none =>
    let problem ← Request.unknownUnit .source source
    throw (.problem (Suggestion.enhance problem source (some registry)
      ⟨settings.maxSuggestions, settings.minSimilarity⟩))
  | some s =>
    match registry.resolve? target with
    | none =>
      let problem ← Request.unknownUnit .target target
      throw (.problem (Suggestion.enhance problem target (some registry)
        ⟨settings.maxSuggestions, settings.minSimilarity⟩))
    | some t =>
      if s.category ≠ t.category then
        throw (.problem (Request.differentCategories source target s t))
      else
        let exact ← applyRefs registry s t input
        let formatted ← (format settings exact).mapError (.interruption ∘ .signal)
        return {
          input := input
          exact := exact
          formatted := formatted
          source := source.inline
          target := target.inline
          sourceKey := s.unit
          targetKey := t.unit
          category := s.category }

/-- The outcome of an attempt at a conversion. -/
def outcomeOf : Attempt Conversion → Outcome
  | .ok c => .success c
  | .error failure => .failure (described failure)

/-- Converts a value from one unit to another. -/
def convert (registry : Option Registry) (settings : Settings)
    (value source target : Json) : Outcome :=
  outcomeOf do
    let registry ← (Request.requireRegistry registry).mapError .problem
    convertIn registry settings value source target

/-- Converts what a line asks for. -/
def convertText (registry : Option Registry) (settings : Settings) (line : Json) : Outcome :=
  match Request.ofJson settings.maxInputLength line with
  | .error p => .failure p
  | .ok request =>
    convert registry settings (.decimal request.value) (.text request.source) (.text request.target)

/-- Converts what each line of a text asks for. A value that is no text has no lines. -/
def convertLines (registry : Option Registry) (settings : Settings) : Json → List Outcome
  | .text text =>
    let lines := Text.lines text
    if settings.maxLines < lines.length then [.failure (Problem.manyLines settings.maxLines)]
    else lines.map fun line =>
      if Text.isBlankText line then .blank else convertText registry settings (.text line)
  | _ => []

/-- The verdict on two units. -/
structure Verdict where
  isValid : Bool
  error : Option Problem
  category : Option String
  deriving DecidableEq

/-- Looks at two units without a value: both have to be known, and to belong to one category. -/
def validate (registry : Option Registry) (settings : Settings) (source target : Json) :
    Attempt Verdict :=
  match Request.requireRegistry registry with
  | .error p => .ok ⟨false, some p, none⟩
  | .ok registry =>
    match registry.resolve? source with
    | none => do
      let problem ← Request.unknownUnit .source source
      let problem := Suggestion.enhance problem source (some registry)
        ⟨settings.maxSuggestions, settings.minSimilarity⟩
      return ⟨false, some problem, none⟩
    | some s =>
      match registry.resolve? target with
      | none => do
        let problem ← Request.unknownUnit .target target
        let problem := Suggestion.enhance problem target (some registry)
          ⟨settings.maxSuggestions, settings.minSimilarity⟩
        return ⟨false, some problem, none⟩
      | some t =>
        if s.category ≠ t.category then
          .ok ⟨false, some (Request.differentCategories source target s t), none⟩
        else .ok ⟨true, none, some s.category⟩

end Conversion

end UnitConversion
