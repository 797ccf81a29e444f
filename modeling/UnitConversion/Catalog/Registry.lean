import UnitConversion.Catalog.AliasIndex
import UnitConversion.Json.Basic

/-!
# Registries

A registry holds categories, each under its name, and the index of their units' names.
-/

namespace UnitConversion

/-- Categories with different names, and the index of their units. -/
structure Registry where
  categories : List Category
  aliases : AliasIndex

namespace Registry

/-- The unit that a name stands for. Names count up to their normal form, and only texts are
names. -/
def resolve? (registry : Registry) : Json → Option UnitRef
  | .text name => registry.aliases.find? (UnitText.normalize name)
  | _ => none

/-- The category of the given name. -/
def category? (registry : Registry) (name : String) : Option Category :=
  registry.categories.find? (·.name == name)

/-- The unit that a reference points to. -/
def unit? (registry : Registry) (ref : UnitRef) : Option MeasurementUnit :=
  (registry.category? ref.category).bind (·.unit? ref.unit)

/-- The names of the categories. -/
def categoryNames (registry : Registry) : List String :=
  registry.categories.map (·.name)

/-- Puts a category in the place of the one with its name, or at the end. -/
def putCategory : List Category → Category → List Category
  | [], c => [c]
  | d :: ds, c => if d.name = c.name then c :: ds else d :: putCategory ds c

/-- The names of the units of a category, in order. -/
def namesOf (registry : Registry) (category : String) : List String :=
  ((registry.aliases.filter (·.2.category == category)).map (·.1)).mergeSort fun a b => a ≤ b

/-- The names of units, category by category; the categories stand in the order in which the index
first mentions them. -/
def namesByCategory (registry : Registry) : List (String × List String) :=
  let categories := (registry.aliases.map (·.2.category)).foldl
    (fun seen c => if seen.contains c then seen else seen ++ [c]) []
  categories.map fun c => (c, registry.namesOf c)

end Registry

end UnitConversion
