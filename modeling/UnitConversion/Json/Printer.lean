import UnitConversion.Json.Basic

/-!
# Printing document values

A value as JSON text over several lines: two spaces of indentation for every level, the members of
an object in the order of their keys, and only those characters escaped that must be. Infinite and
undefined numbers are written by name.
-/

namespace UnitConversion

namespace Json

/-- A character inside a JSON string. -/
def escapedChar (c : Char) : List Char :=
  if c = '"' ∨ c = '\\' then ['\\', c]
  else if c = '\n' then ['\\', 'n']
  else if c = '\r' then ['\\', 'r']
  else if c = '\t' then ['\\', 't']
  else if c = '\x08' then ['\\', 'b']
  else if c = '\x0c' then ['\\', 'f']
  else if c.toNat < 32 then '\\' :: 'u' :: Text.paddedHex 4 c.toNat
  else [c]

/-- A text as a JSON string. -/
def stringLiteral (s : String) : String :=
  String.ofList ('"' :: s.toList.flatMap escapedChar ++ ['"'])

/-- A double as a JSON number, or the name of one that is not finite. -/
def realLiteral (r : Binary64) : String :=
  match r with
  | .nan => "NaN"
  | .infinite true => "-Infinity"
  | .infinite false => "Infinity"
  | r => r.toText

/-- A line break and the indentation of the given level. -/
def newline (level : Nat) : String :=
  String.ofList ('\n' :: List.replicate (2 * level) ' ')

/-- Members in the order of their keys. -/
def sortMembers {α : Type} (members : List (String × α)) : List (String × α) :=
  members.mergeSort fun a b => a.1 ≤ b.1

mutual

/-- A value at the given level, each member of an object already printed with its key. -/
def printAt (level : Nat) : Json → String
  | null => "null"
  | bool true => "true"
  | bool false => "false"
  | integer i => toString i
  | decimal d => d.toText
  | real r => realLiteral r
  | text s => stringLiteral s
  | list [] => "[]"
  | list items =>
    "[" ++ ",".intercalate (printItems (level + 1) items) ++ newline level ++ "]"
  | object [] => "\x7b\x7d"
  | object members =>
    "\x7b" ++ ",".intercalate ((sortMembers (printMembers (level + 1) members)).map (·.2))
      ++ newline level ++ "\x7d"

/-- The items of a list, each on a line of its own. -/
def printItems (level : Nat) : List Json → List String
  | [] => []
  | item :: items => (newline level ++ printAt level item) :: printItems level items

/-- The members of an object, each on a line of its own and together with its key. -/
def printMembers (level : Nat) : List (String × Json) → List (String × String)
  | [] => []
  | (key, value) :: members =>
    (key, newline level ++ stringLiteral key ++ ": " ++ printAt level value) ::
      printMembers level members

end

/-- A value as JSON text over several lines. -/
def print (value : Json) : String :=
  printAt 0 value

end Json

end UnitConversion
