import UnitConversion.Schema
import UnitConversion.Service.Error

/-!
# Payloads

What the body of a request has to hold: a conversion, a text, or a pair of units. Nothing else may
occur in it. Texts are taken without the spacing around them, and the names of units must not be
empty.
-/

namespace UnitConversion.Service

open Schema

/-- A value and the units to convert between. -/
structure ConversionPayload where
  value : Json
  source : String
  target : String

/-- A pair of units. -/
structure PairPayload where
  source : String
  target : String

/-- The findings on a value that is neither a number nor a text: one for each way to take it. -/
def valueFindings : List Finding :=
  [⟨["float"], .notNumber⟩, ⟨["int"], .notInteger⟩, ⟨["constrained-str"], .notText⟩]

/-- The findings on a text with a lone surrogate: one for each way to take it. -/
def brokenValueFindings : List Finding :=
  ["float", "int", "constrained-str"].map fun way => ⟨[way], .brokenText⟩

/-- A number or a text. A truth value counts as one or zero. -/
def checkValue : Json → Checked Json
  | .integer i => .ok (.integer i)
  | .decimal d => .ok (.decimal d)
  | .real r => .ok (.real r)
  | .bool b => .ok (.integer b.toNat)
  | .text s =>
    if Text.hasSurrogate s.toList then .error brokenValueFindings else (text (.text s)).map .text
  | _ => .error valueFindings

/-- Checks the payload of a conversion. -/
def ConversionPayload.check : Json → Checked ConversionPayload
  | .object members => withKeys members <|
    let value := required members "value" [] checkValue
    let source := required members "from_unit" [] filledText
    let target := required members "to_unit" [] filledText
    let extra := extras members ["value", "from_unit", "to_unit"]
    match value, source, target, extra with
    | .ok value, .ok source, .ok target, [] => .ok ⟨value, source, target⟩
    | _, _, _, _ => .error (value.findings ++ source.findings ++ target.findings ++ extra)
  | _ => .fail (.notInstance "ConvertPayload")

/-- Checks the payload that is a text. -/
def checkTextPayload : Json → Checked String
  | .object members => withKeys members <|
    let value := required members "text" [] text
    let extra := extras members ["text"]
    match value, extra with
    | .ok value, [] => .ok value
    | _, _ => .error (value.findings ++ extra)
  | _ => .fail (.notInstance "TextPayload")

/-- Checks the payload that is a pair of units. -/
def PairPayload.check : Json → Checked PairPayload
  | .object members => withKeys members <|
    let source := required members "from_unit" [] filledText
    let target := required members "to_unit" [] filledText
    let extra := extras members ["from_unit", "to_unit"]
    match source, target, extra with
    | .ok source, .ok target, [] => .ok ⟨source, target⟩
    | _, _, _ => .error (source.findings ++ target.findings ++ extra)
  | _ => .fail (.notInstance "ValidatePayload")

/-- A finding as a document value. -/
def findingToJson (f : Finding) : Json :=
  .object [("loc", .list (f.path.map .text)), ("msg", .text f.issue.message),
    ("type", .text f.issue.code)]

/-- The error for a body that does not hold the wanted payload. -/
def Error.invalidPayload (findings : List Finding) : Error :=
  { Error.ofClass .validation "Invalid request payload" with
    code := "unit.invalid_request"
    details := [("errors", .list (findings.map findingToJson))] }

end UnitConversion.Service
