import UnitConversion.Association
import UnitConversion.Binary64.Text
import UnitConversion.Text.Quoted

/-!
# Document values

The values that a JSON text can hold. Whole numbers are exact; a number with a point or an exponent
is either an exact decimal or a double, as the reader of the text decides. The members of an object
keep their order and have different keys.

`Json.inline` is the text of a value inside a message. `Json.hasLongInteger` says in which values a
whole number has too many digits to be written.
-/

namespace UnitConversion

/-- A document value. -/
inductive Json where
  | null
  | bool (b : Bool)
  | integer (i : Int)
  | decimal (d : Decimal)
  | real (r : Binary64)
  | text (s : String)
  | list (items : List Json)
  | object (members : List (String × Json))
  deriving Inhabited

namespace Json

/-- The value that an object holds under a key. -/
def get? (key : String) : Json → Option Json
  | object members => members.lookup key
  | _ => none

/-- Whether a value is the text `s`. -/
def isText (s : String) : Json → Bool
  | text t => t == s
  | _ => false

/-- Whether a value counts as given: everything but null, false, zero and what is empty. -/
def isGiven : Json → Bool
  | null => false
  | bool b => b
  | integer i => i != 0
  | decimal d => !d.isZero
  | real (.finite _ m _) => m != 0
  | real _ => true
  | text s => !s.isEmpty
  | list items => !items.isEmpty
  | object members => !members.isEmpty

/-- The most digits of a whole number that is read or written. -/
def longestInteger : Nat := 4300

mutual

/-- Whether a whole number in a value has too many digits to be written. -/
def hasLongInteger : Json → Bool
  | integer i => longestInteger < digitCount i.natAbs
  | list items => itemsHaveLongInteger items
  | object members => membersHaveLongInteger members
  | _ => false

/-- Whether there is such a number in the items of a list. -/
def itemsHaveLongInteger : List Json → Bool
  | [] => false
  | item :: items => hasLongInteger item || itemsHaveLongInteger items

/-- Whether there is such a number in the members of an object. -/
def membersHaveLongInteger : List (String × Json) → Bool
  | [] => false
  | (_, value) :: members => hasLongInteger value || membersHaveLongInteger members

end

/-- Pieces of text with a comma and a space between them. -/
def commaSeparated (pieces : List String) : String :=
  ", ".intercalate pieces

mutual

/-- The text of a value inside another value: texts are quoted and exact decimals are marked as
such. -/
def inner : Json → String
  | null => "None"
  | bool true => "True"
  | bool false => "False"
  | integer i => toString i
  | decimal d => "Decimal('" ++ d.toText ++ "')"
  | real r => r.toText
  | text s => Text.quoted s
  | list items => "[" ++ commaSeparated (innerItems items) ++ "]"
  | object members => "\x7b" ++ commaSeparated (innerMembers members) ++ "\x7d"

/-- The texts of the items of a list. -/
def innerItems : List Json → List String
  | [] => []
  | item :: items => inner item :: innerItems items

/-- The texts of the members of an object, each with its key. -/
def innerMembers : List (String × Json) → List String
  | [] => []
  | (key, value) :: members => (Text.quoted key ++ ": " ++ inner value) :: innerMembers members

end

/-- The text of a value inside a message: a text or a decimal stands as it is. -/
def inline : Json → String
  | text s => s
  | decimal d => d.toText
  | value => inner value

end Json

end UnitConversion
