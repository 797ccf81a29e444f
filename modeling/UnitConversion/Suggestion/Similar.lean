import UnitConversion.Catalog.Registry
import UnitConversion.Problem
import UnitConversion.Suggestion.EditDistance

/-!
# Similar names

The names in a registry that are similar to a text, the most similar first, and their use as
suggestions for a unit that nobody knows.
-/

namespace UnitConversion.Suggestion

/-- How many similar names are given, and how similar they must be. -/
structure Limits where
  count : Int
  similarity : Binary64

/-- The order of suggestions: more similar names first, and names of one similarity by their
characters. -/
def precedes (a b : Binary64 × String) : Bool :=
  Binary64.lt b.1 a.1 || (Binary64.sameValue a.1 b.1 && a.2 ≤ b.2)

/-- The names of an index that are more similar to `query` than the limit, with their
similarities. -/
def scored (index : AliasIndex) (query : List Char) (limit : Binary64) : List (Binary64 × String) :=
  (index.map fun entry => (similarity query entry.1.toList, entry.1)).filter fun s =>
    Binary64.lt limit s.1

/-- The names of a registry that are similar to a text. Nothing is similar to a text without a
normal form, or to a value that is no text. -/
def similarNames (registry : Option Registry) (query : Json) (limits : Limits) : List String :=
  match registry, query with
  | some registry, .text query =>
    let normal := UnitText.normalChars query.toList
    if normal.isEmpty then []
    else
      let names := (scored registry.aliases normal limits.similarity).mergeSort precedes
      (names.take limits.count.toNat).map (·.2)
  | _, _ => []

/-- Puts similar names, or general guidance, into a problem with an unknown unit. -/
def enhance (problem : Problem) (query : Json) (registry : Option Registry)
    (limits : Limits) : Problem :=
  if problem.kind = .unknownUnit then
    let names := similarNames registry query limits
    { problem with suggestions := if names.isEmpty then Problem.unknownUnitGuidance else names }
  else problem

end UnitConversion.Suggestion
