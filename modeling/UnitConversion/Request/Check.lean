import UnitConversion.Failure
import UnitConversion.Request.Line
import UnitConversion.Suggestion.Similar

/-!
# Checking requests against a registry

Whether the units of a request are known and measure the same thing, for one line and for all lines
of a text.
-/

namespace UnitConversion

namespace Request

/-- The most characters of a request, unless settings say otherwise. -/
def standardLimit : Int := 256

/-- How many suggestions a check makes at most, unless it is told otherwise. -/
def standardSuggestions : Int := 3

/-- The problem with an unknown unit, without suggestions. -/
def unknownUnit (role : Problem.Role) (unit : Json) : Attempt Problem :=
  unit.shown.map (Problem.unknownUnit role)

/-- The problem with two units of different categories. What stands for a unit is a text, so it can
be written. -/
def differentCategories (source target : Json) (s t : UnitRef) : Problem :=
  Problem.differentCategories source.inline target.inline s.category t.category

/-- The published registry, without which nothing can be resolved. -/
def requireRegistry : Option Registry → Except Problem Registry
  | some registry => .ok registry
  | none => .error Problem.notReady

/-- The problem with two units, if there is one: both have to be known, and to belong to one
category. -/
def checkUnits (registry : Option Registry) (maxSuggestions : Int) (source target : Json) :
    Attempt (Option Problem) :=
  match requireRegistry registry with
  | .error p => .ok (some p)
  | .ok registry =>
    match registry.resolve? source with
    | none => do
      let problem ← unknownUnit .source source
      return some (Suggestion.enhance problem source (some registry)
        ⟨maxSuggestions, Suggestion.standardSimilarity⟩)
    | some s =>
      match registry.resolve? target with
      | none => do
        let problem ← unknownUnit .target target
        return some (Suggestion.enhance problem target (some registry)
          ⟨maxSuggestions, Suggestion.standardSimilarity⟩)
      | some t =>
        if s.category ≠ t.category then .ok (some (differentCategories source target s t))
        else .ok none

/-- Reads a request and checks its units. -/
def readChecked (registry : Option Registry) (line : Json) : Attempt Request := do
  let request ← (ofJson standardLimit line).mapError .problem
  match ← checkUnits registry standardSuggestions (.text request.source) (.text request.target) with
  | some p => throw (.problem p)
  | none => return request

/-- What a line of a text holds. -/
inductive LineReading where
  | request (request : Request)
  | problem (problem : Problem)
  /-- Nothing but blanks; lines are counted from one. -/
  | blank (number : Nat)

/-- Whether a line holds a request. -/
def LineReading.isRequest : LineReading → Bool
  | request _ => true
  | _ => false

/-- Reads the line with a number. -/
def readLine (registry : Option Registry) (number : Nat) (line : String) : Attempt LineReading :=
  if Text.isBlankText line then .ok (.blank number)
  else match readChecked registry (.text line) with
    | .ok request => .ok (.request request)
    | .error (.problem p) => .ok (.problem p)
    | .error failure => .error failure

/-- Reads the lines of a text from the line `number` on. -/
def readLinesFrom (registry : Option Registry) : Nat → List String → Attempt (List LineReading)
  | _, [] => .ok []
  | number, line :: lines => do
    let reading ← readLine registry number line
    let readings ← readLinesFrom registry (number + 1) lines
    return reading :: readings

/-- Reads and checks every line of a text. -/
def readLines (registry : Option Registry) (text : String) : Attempt (List LineReading) :=
  readLinesFrom registry 1 (Text.lines text)

end Request

end UnitConversion
