import UnitConversion.Failure
import UnitConversion.Json.Basic
import UnitConversion.Suggestion.EditDistance

/-!
# Settings

What can be configured about conversions, and how settings are read from a document value: anything
that is missing or makes no sense is replaced by its default, and counts are at least one. A bound,
a path or the name of a category is the text of its value, and so there are no settings where that
text cannot be written.
-/

namespace UnitConversion

/-- What can be configured about conversions. -/
structure Settings where
  /-- Where the category documents are; those that come with the library, if nothing is given. -/
  directory : Option String
  /-- The categories to load; all of them, if none is given. -/
  categories : List String
  /-- How many suggestions are made at most. -/
  maxSuggestions : Int
  /-- How similar a suggestion must be. -/
  minSimilarity : Binary64
  /-- The magnitude from which on results have an exponent. -/
  exponentialUpper : Decimal
  /-- The magnitude below which results have an exponent. -/
  exponentialLower : Decimal
  /-- How many lines are converted at once. -/
  maxLines : Int
  /-- How many characters a request can have. -/
  maxInputLength : Int

namespace Settings

/-- The settings that hold when nothing is configured. -/
def standard : Settings where
  directory := none
  categories := []
  maxSuggestions := 3
  minSimilarity := Suggestion.standardSimilarity
  exponentialUpper := .finite false 1 12
  exponentialLower := .finite false 1 (-6)
  maxLines := 200
  maxInputLength := 256

/-- The double that a value can be taken for. -/
def asDouble? : Json → Option Binary64
  | .integer i => some (Binary64.ofInt i)
  | .bool b => some (Binary64.ofInt b.toNat)
  | .real r => some r
  | .decimal d => some (Binary64.ofDecimal d)
  | .text s => Binary64.ofText? s
  | _ => none

/-- A count of at least one. -/
def countOf (value : Option Json) (fallback : Int) : Int :=
  match (value.bind asDouble?).bind Binary64.truncate? with
  | some i => max i 1
  | none => fallback

/-- Whether a value is a whole number beyond all doubles. -/
def isHuge : Json → Bool
  | .integer i => !(Binary64.ofInt i).isFinite
  | _ => false

/-- A share between zero and one. A whole number beyond all doubles cannot be compared with them. -/
def shareOf (value : Option Json) (fallback : Binary64) : Attempt Binary64 :=
  match value with
  | none => .ok fallback
  | some value =>
    if isHuge value then .error (.interruption .tooLarge)
    else match asDouble? value with
      | none => .ok fallback
      | some r =>
        .ok (if Binary64.le (.zero false) r && Binary64.le r (.ofInt 1) then r else fallback)

/-- The positive decimal number that a text is, or else the given one. -/
def positiveOf (fallback : Decimal) (text : String) : Decimal :=
  match Decimal.ofText? text with
  | none => fallback
  | some d => if d.isFinite && !d.isZero && !d.isNegative then d else fallback

/-- A positive decimal number. -/
def boundOf (value : Option Json) (fallback : Decimal) : Attempt Decimal :=
  match value with
  | none => .ok fallback
  | some value => value.shown.map (positiveOf fallback)

/-- The directory in some settings. A path that is not absolute leads on from `root`. -/
def directoryOf (root : String) (value : Option Json) : Attempt (Option String) :=
  match value with
  | some value =>
    if value.isGiven then do
      let text ← value.shown
      (Attempt.ofPath (Path.absolute root text)).map some
    else .ok none
  | none => .ok none

/-- The categories in some settings, as far as they are not blank. -/
def categoriesOf : Option Json → Attempt (List String)
  | some (.list items) => (items.mapM Json.shown).map (·.filter fun name => !Text.isBlankText name)
  | _ => .ok []

/-- The members of a group of settings. -/
def groupOf : Option Json → List (String × Json)
  | some (.object members) => members
  | _ => []

/-- Reads settings from the members of an object. -/
def ofMembers (root : String) (members : List (String × Json)) : Attempt Settings := do
  let suggestions := groupOf (members.lookup "suggestions")
  let formatting := groupOf (members.lookup "formatting")
  let directory ← directoryOf root (members.lookup "config_dir")
  let categories ← categoriesOf (members.lookup "categories")
  let minSimilarity ← shareOf (suggestions.lookup "min_similarity") standard.minSimilarity
  let exponentialUpper ← boundOf (formatting.lookup "exponential_upper") standard.exponentialUpper
  let exponentialLower ← boundOf (formatting.lookup "exponential_lower") standard.exponentialLower
  return {
    directory := directory
    categories := categories
    maxSuggestions := countOf (suggestions.lookup "max_results") standard.maxSuggestions
    minSimilarity := minSimilarity
    exponentialUpper := exponentialUpper
    exponentialLower := exponentialLower
    maxLines := countOf (members.lookup "max_lines") standard.maxLines
    maxInputLength := countOf (members.lookup "max_input_length") standard.maxInputLength }

/-- Reads settings from a value. One that is not given has the standard settings. -/
def ofJson (root : String) (value : Json) : Attempt Settings :=
  if !value.isGiven then ofMembers root []
  else match value with
    | .object members => ofMembers root members
    | _ => .error (.interruption .missingPart)

/-- How numbers are computed and shown, as a document value. -/
def precision (settings : Settings) : Json :=
  .object [
    ("decimal_precision", .integer Context.conversion.precision),
    ("rounding_mode", .text "ROUND_HALF_UP"),
    ("scientific_notation_thresholds", .object [
      ("upper", .real (.ofDecimal settings.exponentialUpper)),
      ("lower", .real (.ofDecimal settings.exponentialLower))])]

end Settings

end UnitConversion
