import UnitConversion.Catalog.Unit
import UnitConversion.UnitText

/-!
# The index of unit names

The index maps the normal forms of all aliases to units, and after them the normal forms of the keys
of units. The first unit with a name keeps it; an alias that comes too late for another unit is
reported.
-/

namespace UnitConversion

/-- A unit of some category, by the category's name and the unit's key. -/
structure UnitRef where
  category : String
  unit : String
  deriving DecidableEq

/-- Names in normal form with the units that they stand for, each name once, in the order in which
they were entered. -/
abbrev AliasIndex := List (String × UnitRef)

/-- An alias of a unit, or a key of one, on its way into the index. -/
structure NameEntry where
  name : String
  owner : UnitRef
  deriving DecidableEq

namespace AliasIndex

/-- The unit that a name in normal form stands for. -/
def find? (index : AliasIndex) (name : String) : Option UnitRef :=
  index.lookup name

/-- Gives a unit a name, unless some unit has it already. -/
def insertNew (index : AliasIndex) (name : String) (owner : UnitRef) : AliasIndex :=
  match index.find? name with
  | some _ => index
  | none => index ++ [(name, owner)]

/-- The aliases of all units, in the order of categories, units and aliases. -/
def aliasEntries (categories : List Category) : List NameEntry :=
  categories.flatMap fun c => c.units.flatMap fun u => u.aliases.map fun a => ⟨a, ⟨c.name, u.key⟩⟩

/-- The keys of all units, in the order of categories and units. -/
def keyEntries (categories : List Category) : List NameEntry :=
  categories.flatMap fun c => c.units.map fun u => ⟨u.key, ⟨c.name, u.key⟩⟩

/-- The report on an alias that another unit has already. -/
def duplicateWarning (c : NameEntry) (owner : UnitRef) : String :=
  "Duplicate alias '" ++ c.name ++ "' in " ++ c.owner.category ++ "/" ++ c.owner.unit
    ++ " already maps to " ++ owner.category ++ "/" ++ owner.unit

/-- Enters an alias. An alias without a normal form is left out. -/
def enterAlias (state : AliasIndex × List String) (c : NameEntry) : AliasIndex × List String :=
  let name := UnitText.normalize c.name
  if name.isEmpty then state
  else match state.1.find? name with
    | none => (state.1 ++ [(name, c.owner)], state.2)
    | some owner =>
      if owner = c.owner then state else (state.1, state.2 ++ [duplicateWarning c owner])

/-- Enters the key of a unit. -/
def enterKey (index : AliasIndex) (c : NameEntry) : AliasIndex :=
  index.insertNew (UnitText.normalize c.name) c.owner

/-- The index of some categories, and the reports on duplicate aliases. -/
def build (categories : List Category) : AliasIndex × List String :=
  let (index, warnings) := (aliasEntries categories).foldl enterAlias ([], [])
  ((keyEntries categories).foldl enterKey index, warnings)

end AliasIndex

end UnitConversion
