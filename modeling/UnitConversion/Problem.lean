/-!
# Problems

A problem is what a user is told when a request cannot be met: its kind, a message, perhaps some
context, and suggestions. The functions here are the problems that the library knows, each with its
wording.
-/

namespace UnitConversion

/-- The kinds of problems. -/
inductive ProblemKind where
  | invalidFormat
  | unknownUnit
  | calculation
  | configuration
  deriving DecidableEq

/-- The name of a kind. -/
def ProblemKind.name : ProblemKind → String
  | invalidFormat => "INVALID_FORMAT"
  | unknownUnit => "UNKNOWN_UNIT"
  | calculation => "CALCULATION_ERROR"
  | configuration => "CONFIGURATION_ERROR"

/-- What a user is told about a request that cannot be met. -/
structure Problem where
  kind : ProblemKind
  message : String
  context : Option String
  suggestions : List String
  deriving DecidableEq

namespace Problem

/-- The suggestions as lines of a list. -/
def suggestionLines (suggestions : List String) : String :=
  String.join (suggestions.map ("\n• " ++ ·))

/-- A message with its context and its suggestions as one text; empty parts are left out. -/
def layOut (message : String) (context : Option String) (suggestions : List String) : String :=
  let context := match context with
    | some c => if c.isEmpty then "" else "\n\n" ++ c
    | none => ""
  let suggestions := if suggestions.isEmpty then ""
  else "\n\nSuggestions:" ++ suggestionLines suggestions
  message ++ context ++ suggestions

/-- The problem as one text. -/
def formatted (p : Problem) : String :=
  layOut p.message p.context p.suggestions

/-- A text, or another one if it is missing or empty. -/
def orElse (text : Option String) (fallback : String) : String :=
  match text with
  | some s => if s.isEmpty then fallback else s
  | none => fallback

/-- Nothing was asked for. -/
def emptyInput : Problem :=
  ⟨.invalidFormat, "Input cannot be empty", some "Empty input provided", []⟩

/-- A request has more than `limit` characters. -/
def longInput (limit : Int) : Problem :=
  ⟨.invalidFormat, "Input is too long",
    some ("Conversion requests are limited to " ++ toString limit ++ " characters."), []⟩

/-- There are more than `limit` lines. -/
def manyLines (limit : Int) : Problem :=
  ⟨.invalidFormat, "Too many lines",
    some ("At most " ++ toString limit ++ " conversion lines are processed at once."), []⟩

/-- A request does not have the form of one. -/
def invalidFormat (context : Option String) : Problem :=
  ⟨.invalidFormat, "Invalid conversion format",
    some (orElse context
      ("Please use the format: \"NUMBER UNIT to UNIT\" or \"NUMBER UNIT as UNIT\". "
        ++ "Examples: \"5 meters to feet\", \"2.5 inches as millimeters\", \"1/2 foot to cm\"")),
    ["Try: \"5 meters to feet\"", "Try: \"2.5 inches as mm\"", "Try: \"1/2 foot to centimeters\"",
      "Try: \"1.5e3 mm to meters\""]⟩

/-- A text is no number. -/
def invalidNumber (text : String) : Problem :=
  ⟨.invalidFormat, "Invalid number format: \"" ++ text ++ "\"",
    some ("Could not parse \"" ++ text ++ "\" as a valid number."),
    ["Decimals: 5.5, 123.45, 0.001", "Scientific notation: 1.5e3, 2E-4", "Fractions: 1/2, 3/4, 5/8",
      "Mixed numbers: 1 1/2, 2 3/4"]⟩

/-- Both units of a request have the same normal form. -/
def sameUnits (unit : String) : Problem :=
  ⟨.invalidFormat, "Source and target units cannot be the same",
    some ("Both units resolved to \"" ++ unit ++
      "\". Please specify different units for conversion."), []⟩

/-- The two places of a unit in a request. -/
inductive Role where
  | source
  | target
  deriving DecidableEq

/-- The name of a place. -/
def Role.name : Role → String
  | source => "source"
  | target => "target"

/-- No unit has this name; suggestions are put in separately. -/
def unknownUnit (role : Role) (unit : String) : Problem :=
  ⟨.unknownUnit, "Unknown " ++ role.name ++ " unit: \"" ++ unit ++ "\"",
    some ("The unit \"" ++ unit ++ "\" was not found in the configuration. "
      ++ "Check spelling or try a different alias."), []⟩

/-- Two units measure different things. -/
def differentCategories (source target sourceCategory targetCategory : String) : Problem :=
  ⟨.invalidFormat,
    "Cannot convert between different unit categories (" ++
      sourceCategory ++ " to " ++ targetCategory ++ ")",
    some ("\"" ++ source ++ "\" is a " ++ sourceCategory ++ " unit, but \"" ++ target ++ "\" is a "
      ++ targetCategory ++ " unit. Conversions are only possible within the same category."),
    ["Try converting " ++ source ++ " to another " ++ sourceCategory ++ " unit",
      "Try converting a " ++ targetCategory ++ " unit to " ++ target,
      "Check that both units are from the same measurement category"]⟩

/-- A number cannot be computed. -/
def calculation (message : String) (context : Option String) : Problem :=
  ⟨.calculation, message,
    some (orElse context "An error occurred during the conversion calculation."),
    ["Check that the input value is within a reasonable range",
      "Verify that both units are valid for conversion", "Try using a different numerical format"]⟩

/-- No units are known yet. -/
def notReady : Problem :=
  calculation "Conversion system not initialized"
    (some "Configuration files not loaded. Please try again.")

/-- There is no category of this name. -/
def unknownCategory (category : String) (known : List String) : Problem :=
  ⟨.invalidFormat, "Unknown unit category '" ++ category ++ "'", none, known⟩

/-- A description of units is wrong. The errors in it take the place of suggestions. -/
def configuration (message : String) (context : Option String) (errors : List String) : Problem :=
  ⟨.configuration, message, context, errors⟩

/-- What to try when no known unit is similar to an unknown one. -/
def unknownUnitGuidance : List String :=
  ["Check the spelling of your unit", "Try using a common abbreviation (e.g., \"m\" for meter)",
    "Verify the unit is supported in this category"]

end Problem

end UnitConversion
