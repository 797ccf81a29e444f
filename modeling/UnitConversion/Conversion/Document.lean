import UnitConversion.Conversion.Basic
import UnitConversion.Conversion.Record

/-!
# Answers as document values

How problems, conversions, units and counts are given out.
-/

namespace UnitConversion

/-- A text, or null if it is missing. -/
def Json.ofText? : Option String → Json
  | some s => .text s
  | none => .null

/-- A problem as a document value. -/
def Problem.toJson (p : Problem) : Json :=
  .object [("kind", .text p.kind.name), ("message", .text p.message),
    ("context", Json.ofText? p.context), ("suggestions", .list (p.suggestions.map .text)),
    ("formatted", .text p.formatted)]

/-- A double, or null if it is missing. -/
def Json.ofReal? : Option Binary64 → Json
  | some r => .real r
  | none => .null

/-- An outcome as a document value. Numbers are given as doubles. -/
def Outcome.toJson (o : Outcome) : Json :=
  if o.isBlank then .object [("success", .bool false), ("empty", .bool true)]
  else if !o.isSuccess then
    .object [("success", .bool false), ("error", (o.error.map Problem.toJson).getD .null)]
  else
    .object [("success", .bool true), ("value", Json.ofReal? o.value),
      ("formatted", Json.ofText? o.formatted),
      ("input_value", Json.ofReal? (o.input.map .ofDecimal)),
      ("source_unit", Json.ofText? o.source), ("target_unit", Json.ofText? o.target),
      ("source_key", Json.ofText? o.sourceKey), ("target_key", Json.ofText? o.targetKey),
      ("category", Json.ofText? o.category)]

/-- Counts as a document value. -/
def Conversion.Summary.toJson (s : Conversion.Summary) : Json :=
  .object [("total", .integer s.total), ("converted", .integer s.converted),
    ("failed", .integer s.failed), ("empty", .integer s.empty)]

/-- The outcomes of lines with their counts. -/
def Conversion.linesReport (outcomes : List Outcome) : Json :=
  .object [("results", .list (outcomes.map Outcome.toJson)),
    ("summary", (Conversion.summarize outcomes).toJson)]

/-- The verdict on two units as a document value. -/
def Conversion.Verdict.toJson (v : Conversion.Verdict) : Json :=
  .object [("is_valid", .bool v.isValid), ("category", Json.ofText? v.category),
    ("error", (v.error.map Problem.toJson).getD .null)]

/-- What is remembered of a conversion, as a document value. -/
def Conversion.Record.toJson (r : Conversion.Record) : Json :=
  .object [("input", .text r.input), ("output", .text r.output), ("source_unit", .text r.source),
    ("target_unit", .text r.target), ("value", .real r.value), ("result", .real r.result),
    ("timestamp", .text r.time.toText)]

namespace MeasurementUnit

/-- The factor of a unit as a double, or null. -/
def factorToJson (unit : MeasurementUnit) : Json :=
  match unit.factor with
  | some f => .real (.ofDecimal f)
  | none => .null

/-- The members that describe a unit. -/
def members (unit : MeasurementUnit) : List (String × Json) :=
  let formulas := match unit.rule with
    | .formulas toBase fromBase =>
      [("transform", Json.object [("toBase", .text toBase.source),
        ("fromBase", .text fromBase.source)])]
    | .factor _ => []
  let description := match unit.description with
    | some d => if d.isEmpty then [] else [("description", Json.text d)]
    | none => []
  [("key", .text unit.key), ("name", .text unit.name), ("symbol", .text unit.symbol),
    ("aliases", .list (unit.aliases.map .text)), ("factor", unit.factorToJson)] ++
      formulas ++ description

end MeasurementUnit

namespace Registry

/-- The units of a category, each marked if it is the base unit. -/
def unitsOf (category : Category) : List Json :=
  category.units.map fun u => .object (u.members ++ [("base", .bool (u.key == category.baseUnit))])

/-- The failure that the name of a category is that does not exist. -/
def unknownCategory (registry : Registry) (name : Json) : Failure :=
  match name.shown with
  | .ok text => .problem (Problem.unknownCategory text registry.categoryNames)
  | .error failure => failure

/-- The units of the category that a value names. Lists and objects cannot be looked up. -/
def listUnits (registry : Registry) (name : Json) : Attempt (List Json) :=
  match name with
  | .list _ => .error (.interruption .wrongKind)
  | .object _ => .error (.interruption .wrongKind)
  | .text s =>
    match registry.category? s with
    | some category => .ok (unitsOf category)
    | none => .error (registry.unknownCategory name)
  | _ => .error (registry.unknownCategory name)

/-- What a name stands for, with the factor of the unit; null for a name that is not known. -/
def factors (registry : Option Registry) (token : Json) : Json :=
  match registry with
  | none => .null
  | some registry =>
    match registry.resolve? token with
    | none => .null
    | some ref =>
      match registry.category? ref.category, registry.unit? ref with
      | some category, some unit =>
        .object [("category", .text ref.category), ("unit", .text unit.key),
          ("factor", unit.factorToJson), ("base_unit", .text category.baseUnit),
          ("transform", .bool unit.rule.hasFormulas)]
      | _, _ => .null

end Registry

end UnitConversion
