import UnitConversion.Catalog.Category
import UnitConversion.Catalog.Directory
import UnitConversion.Catalog.Registry

/-!
# Loading registries

All categories of a directory, or those that are asked for, are loaded one after the other; the
first failure ends the loading, and then there is no registry. Warnings are kept in the order in
which they arise, also when the loading fails. Any value can be asked for: the file is the one that
its text leads to, if it can be written, but only a text can be the name of the category in it.
-/

namespace UnitConversion

/-- The outcome of a loading step, with the warnings that it gave. -/
structure Loaded (α : Type) where
  warnings : List String
  outcome : Attempt α

namespace Loaded

/-- Goes on with the value of a step, keeping its warnings. -/
def andThen {α β : Type} (step : Loaded α) (next : α → Loaded β) : Loaded β :=
  match step.outcome with
  | .error failure => ⟨step.warnings, .error failure⟩
  | .ok a =>
    let result := next a
    ⟨step.warnings ++ result.warnings, result.outcome⟩

end Loaded

namespace Registry

/-- Loads one category and audits its formulas. -/
def loadCategory (directory : Directory) (name : Json) : Loaded Category :=
  let read : Attempt (String × Json) := do
    let shown ← name.shown
    return (shown, ← directory.readDocument shown)
  match read with
  | .error failure => ⟨[], .error failure⟩
  | .ok (shown, document) =>
    match Category.ofDocument document name with
    | .error (.problem p) =>
      ⟨["Failed to load " ++ shown ++ " unit configuration: " ++ p.message], .error (.problem p)⟩
    | .error failure => ⟨[], .error failure⟩
    | .ok category =>
      match category.audit with
      | .error s => ⟨[], .error (.interruption (.signal s))⟩
      | .ok findings => ⟨findings.map ("Transform audit: " ++ ·), .ok category⟩

/-- Loads categories one after the other; `before` holds those already loaded. -/
def loadEach (directory : Directory) (before : List Category) : List Json → Loaded (List Category)
  | [] => ⟨[], .ok before⟩
  | name :: names =>
    (loadCategory directory name).andThen fun category =>
      loadEach directory (putCategory before category) names

/-- The names to load: those that are asked for, or else all that the directory leads to. -/
def selectNames (directory : Directory) (names : List Json) : Attempt (List Json) :=
  if names.isEmpty then directory.discover.map fun found => found.map .text else .ok names

/-- The registry of some categories. -/
def ofCategories (categories : List Category) : Loaded Registry :=
  if categories.isEmpty then
    ⟨[], .error (.problem (Problem.configuration "No valid unit configurations found" none []))⟩
  else
    let (index, warnings) := AliasIndex.build categories
    ⟨warnings, .ok ⟨categories, index⟩⟩

/-- Loads the categories that are asked for, or all of them, from a directory. -/
def load (directory : Directory) (names : List Json) : Loaded Registry :=
  Loaded.andThen ⟨[], selectNames directory names⟩ fun selected =>
    (loadEach directory [] selected).andThen ofCategories

end Registry

end UnitConversion
