import UnitConversion.Schema.Integer
import UnitConversion.Text.LowerCase

/-!
# Descriptions of units and categories

The shape that a category document must have, before its formulas are looked at. A document names
the category, its base unit and its units; a unit has a name, a symbol, aliases, and a factor or a
pair of formulas. Nothing else may occur in it.
-/

namespace UnitConversion

/-- The two formulas of a unit, as text. -/
structure FormulaTexts where
  toBase : String
  fromBase : String
  deriving DecidableEq

/-- What a document says about the relation of a unit to the base unit. -/
inductive RuleDescription where
  | factor (factor : Decimal)
  /-- Formulas count even if there is a factor too. -/
  | formulas (texts : FormulaTexts) (factor : Option Decimal)
  deriving DecidableEq

/-- The relation that a factor and formulas give, unless both are missing. -/
def RuleDescription.of? (factor : Option Decimal) (formulas : Option FormulaTexts) :
    Option RuleDescription :=
  match formulas, factor with
  | some texts, factor => some (.formulas texts factor)
  | none, some factor => some (.factor factor)
  | none, none => none

/-- A unit as a document describes it. -/
structure UnitDescription where
  name : String
  symbol : String
  aliases : List String
  rule : RuleDescription
  description : Option String
  precision : Option Nat
  deriving DecidableEq

/-- A category as a document describes it, its units under their keys. -/
structure CategoryDescription where
  category : String
  baseUnit : String
  description : Option String
  units : List (String × UnitDescription)
  deriving DecidableEq

open Schema

/-- Checks a pair of formulas. -/
def FormulaTexts.check : Json → Checked FormulaTexts
  | .object members => withKeys members <|
    let toBase := required members "toBase" ["to_base"] filledText
    let fromBase := required members "fromBase" ["from_base"] filledText
    let extra := extras members
      (usedKey members ["toBase", "to_base"] ++ usedKey members ["fromBase", "from_base"])
    match toBase, fromBase, extra with
    | .ok toBase, .ok fromBase, [] => .ok ⟨toBase, fromBase⟩
    | _, _, _ => .error (toBase.findings ++ fromBase.findings ++ extra)
  | _ => .fail (.notInstance "TransformDocument")

namespace UnitDescription

/-- The first rule that some aliases break: each must have characters that are no blanks, and differ
from those before it in more than case. `seen` holds the lower-case forms of those before. -/
def brokenAliasRule? (seen : List String) : List String → Option String
  | [] => none
  | name :: names =>
    let lowered := Text.lowerString (Text.trim name)
    if lowered.isEmpty then some "aliases must be non-empty strings"
    else if seen.contains lowered then some ("duplicate alias '" ++ name ++ "'")
    else brokenAliasRule? (lowered :: seen) names

/-- Checks the aliases of a unit. -/
def checkAliases (value : Json) : Checked (List String) :=
  match filledList text value with
  | .ok names =>
    match brokenAliasRule? [] names with
    | some message => .fail (.rule message)
    | none => .ok names
  | .error findings => .error findings

/-- The keys of a unit. -/
def keys : List String :=
  ["name", "symbol", "aliases", "factor", "transform", "description", "precision"]

/-- Checks the description of a unit. That it has a factor or formulas is looked at last. -/
def check : Json → Checked UnitDescription
  | .object members => withKeys members <|
    let name := required members "name" [] filledText
    let symbol := required members "symbol" [] filledText
    let aliases := required members "aliases" [] checkAliases
    let factor := optional members "factor" positiveDecimal
    let formulas := optional members "transform" FormulaTexts.check
    let description := optional members "description" text
    let precision := optional members "precision" natural
    let extra := extras members keys
    match name, symbol, aliases, factor, formulas, description, precision, extra with
    | .ok name, .ok symbol, .ok aliases, .ok factor, .ok formulas, .ok description,
        .ok precision, [] =>
      match RuleDescription.of? factor formulas with
      | none => .fail (.rule "unit must define a factor or a transform")
      | some rule => .ok ⟨name, symbol, aliases, rule, description, precision⟩
    | _, _, _, _, _, _, _, _ =>
      .error (name.findings ++ symbol.findings ++ aliases.findings ++ factor.findings
        ++ formulas.findings ++ description.findings ++ precision.findings ++ extra)
  | _ => .fail (.notInstance "UnitDocument")

end UnitDescription

namespace CategoryDescription

/-- Checks the key of a unit, which is taken without the spacing around it. -/
def checkKey (key : String) : Checked String :=
  Checked.under "[key]" (text (.text key))

/-- A key inside a path: three replacement characters stand for a lone surrogate. -/
def keyInPath (key : String) : String :=
  String.ofList (key.toList.flatMap fun c =>
    if (Text.surrogate? c).isSome then List.replicate 3 '\uFFFD' else [c])

/-- Checks a unit under its key. -/
def checkUnit (key : String) (value : Json) : Checked (String × UnitDescription) :=
  Checked.under (keyInPath key) (match checkKey key, UnitDescription.check value with
    | .ok key, .ok u => .ok (key, u)
    | key, u => .error (key.findings ++ u.findings))

/-- Checks units under their keys. -/
def checkEach (members : List (String × Json)) : List (Checked (String × UnitDescription)) :=
  members.map fun m => checkUnit m.1 m.2

/-- Checks the units of a category. Keys are taken without the spacing around them. -/
def checkUnits : Json → Checked (List (String × UnitDescription))
  | .object members =>
    match collect (checkEach members) with
    | .ok [] => .fail .shortObject
    | .ok units => .ok (units.foldl (fun all u => Association.put all u.1 u.2) [])
    | .error findings => .error findings
  | _ => .fail .notObject

/-- Checks the members of a category document. -/
def check (members : List (String × Json)) : Checked CategoryDescription := withKeys members <|
  let category := required members "category" [] filledText
  let baseUnit := required members "baseUnit" ["base_unit"] filledText
  let description := optional members "description" text
  let units := required members "units" [] checkUnits
  let extra := extras members
    (["category", "description", "units"] ++ usedKey members ["baseUnit", "base_unit"])
  match category, baseUnit, description, units, extra with
  | .ok category, .ok baseUnit, .ok description, .ok units, [] =>
    .ok ⟨category, baseUnit, description, units⟩
  | _, _, _, _, _ =>
    .error (category.findings ++ baseUnit.findings ++
      description.findings ++ units.findings ++ extra)

end CategoryDescription

end UnitConversion
