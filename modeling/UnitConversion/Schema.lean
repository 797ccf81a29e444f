import UnitConversion.Json.Basic
import UnitConversion.Text.Surrogate

/-!
# Checking the shape of values

A check turns a document value into a value of a wanted type, or returns every issue it found, each
with the path that leads to it. Checks of the parts of a value are independent: their issues are
collected in the order of the parts.

Texts are taken without the spacing around them, and may not hold lone surrogates, for which the
characters U+BD800 to U+BDFFF stand (`Text.surrogate?`). Numbers may also be given as texts.
-/

namespace UnitConversion.Schema

/-- What is wrong at some place of a value. -/
inductive Issue where
  | missing
  | extra
  | notText
  /-- A text holds a lone surrogate. -/
  | brokenText
  | shortText
  | notList
  | shortList
  | notObject
  | shortObject
  /-- An object that describes a value of the given type is needed. -/
  | notInstance (type : String)
  | notNumber
  | notDecimal
  | unreadableDecimal
  | notPositive
  | notFinite
  | notInteger
  | unreadableInteger
  | longInteger
  | fractionalInteger
  | negative
  /-- A rule of the type is broken. -/
  | rule (message : String)
  deriving DecidableEq

/-- The wording of an issue. -/
def Issue.message : Issue → String
  | missing => "Field required"
  | extra => "Extra inputs are not permitted"
  | notText => "Input should be a valid string"
  | brokenText => "Input should be a valid string, unable to parse raw data as a unicode string"
  | shortText => "String should have at least 1 character"
  | notList => "Input should be a valid list"
  | shortList => "List should have at least 1 item after validation, not 0"
  | notObject => "Input should be a valid dictionary"
  | shortObject => "Dictionary should have at least 1 item after validation, not 0"
  | notInstance type => "Input should be a valid dictionary or instance of " ++ type
  | notNumber => "Input should be a valid number"
  | notDecimal => "Decimal input should be an integer, float, string or Decimal object"
  | unreadableDecimal => "Input should be a valid decimal"
  | notPositive => "Input should be greater than 0"
  | notFinite => "Input should be a finite number"
  | notInteger => "Input should be a valid integer"
  | unreadableInteger => "Input should be a valid integer, unable to parse string as an integer"
  | longInteger => "Unable to parse input string as an integer, exceeded maximum size"
  | fractionalInteger => "Input should be a valid integer, got a number with a fractional part"
  | negative => "Input should be greater than or equal to 0"
  | rule message => "Value error, " ++ message

/-- The code of an issue. -/
def Issue.code : Issue → String
  | missing => "missing"
  | extra => "extra_forbidden"
  | notText => "string_type"
  | brokenText => "string_unicode"
  | shortText => "string_too_short"
  | notList => "list_type"
  | shortList => "too_short"
  | notObject => "dict_type"
  | shortObject => "too_short"
  | notInstance _ => "model_type"
  | notNumber => "float_type"
  | notDecimal => "decimal_type"
  | unreadableDecimal => "decimal_parsing"
  | notPositive => "greater_than"
  | notFinite => "finite_number"
  | notInteger => "int_type"
  | unreadableInteger => "int_parsing"
  | longInteger => "int_parsing_size"
  | fractionalInteger => "int_from_float"
  | negative => "greater_than_equal"
  | rule _ => "value_error"

/-- An issue with the path to its place. -/
structure Finding where
  path : List String
  issue : Issue
  deriving DecidableEq

/-- The finding as one text. -/
def Finding.describe (f : Finding) : String :=
  let place := "/".intercalate f.path
  (if place.isEmpty then "root" else place) ++ ": " ++ f.issue.message

/-- The result of a check. -/
abbrev Checked (α : Type) := Except (List Finding) α

/-- A check that failed at the value itself. -/
def Checked.fail {α : Type} (issue : Issue) : Checked α :=
  .error [⟨[], issue⟩]

/-- Puts the key of a part in front of the paths of its findings. -/
def Checked.under {α : Type} (key : String) : Checked α → Checked α
  | .ok a => .ok a
  | .error findings => .error (findings.map fun f => ⟨key :: f.path, f.issue⟩)

/-- The findings of a check. -/
def Checked.findings {α : Type} : Checked α → List Finding
  | .ok _ => []
  | .error findings => findings

/-- The first of some keys that an object has, and its value. -/
def lookup? (members : List (String × Json)) (keys : List String) : Option (String × Json) :=
  keys.findSome? fun key => (members.lookup key).map fun value => (key, value)

/-- Checks the part under one of several keys; the first of them names the part when it is
missing. -/
def required {α : Type} (members : List (String × Json)) (key : String) (others : List String)
    (check : Json → Checked α) : Checked α :=
  match lookup? members (key :: others) with
  | none => Checked.under key (.fail .missing)
  | some (found, value) => Checked.under found (check value)

/-- Checks the part under a key, which may be missing or null. -/
def optional {α : Type} (members : List (String × Json)) (key : String) (check : Json → Checked α) :
    Checked (Option α) :=
  match members.lookup key with
  | none => .ok none
  | some .null => .ok none
  | some value => Checked.under key ((check value).map some)

/-- The findings on the members that are no part: those whose key is not one of `used`. -/
def extras (members : List (String × Json)) (used : List String) : List Finding :=
  (members.filter fun m => !used.contains m.1).map fun m => ⟨[m.1], .extra⟩

/-- Checks a value with given members. A key with a lone surrogate hides everything else that is
wrong. -/
def withKeys {α : Type} (members : List (String × Json)) (checked : Checked α) : Checked α :=
  if members.any fun m => Text.hasSurrogate m.1.toList then .fail .brokenText else checked

/-- The key under which a part is given, if it is. -/
def usedKey (members : List (String × Json)) (keys : List String) : List String :=
  match lookup? members keys with
  | some (found, _) => [found]
  | none => []

/-- A text without the spacing around it. -/
def text : Json → Checked String
  | .text s =>
    if Text.hasSurrogate s.toList then .fail .brokenText
    else .ok (String.ofList (Text.trimSpacing s.toList))
  | _ => .fail .notText

/-- A text that is not empty without the spacing around it. -/
def filledText (value : Json) : Checked String :=
  match text value with
  | .ok s => if s.isEmpty then .fail .shortText else .ok s
  | .error findings => .error findings

/-- Checks the items of a list, each under its position. -/
def itemsFrom {α : Type} (check : Json → Checked α) : Nat → List Json → List (Checked α)
  | _, [] => []
  | i, value :: values => Checked.under (toString i) (check value) :: itemsFrom check (i + 1) values

/-- The results of some checks, if none has findings. -/
def collect {α : Type} : List (Checked α) → Checked (List α)
  | [] => .ok []
  | .ok a :: rest => (collect rest).map (a :: ·)
  | .error findings :: rest => .error (findings ++ (collect rest).findings)

/-- A list with at least one item. -/
def filledList {α : Type} (check : Json → Checked α) : Json → Checked (List α)
  | .list values =>
    match collect (itemsFrom check 0 values) with
    | .ok [] => .fail .shortList
    | r => r
  | _ => .fail .notList

/-- A positive finite decimal number. -/
def positiveDecimal (value : Json) : Checked Decimal :=
  let number : Checked Decimal := match value with
    | .integer i => .ok (.ofInt i)
    | .decimal d => .ok d
    | .real r => .ok r.toDecimal
    | .text s =>
      match Decimal.ofText? s with
      | some d => .ok d
      | none => .fail .unreadableDecimal
    | _ => .fail .notDecimal
  match number with
  | .error findings => .error findings
  | .ok d =>
    if !d.isFinite then .fail .notFinite
    else if d.isZero || d.isNegative then .fail .notPositive
    else .ok d

end UnitConversion.Schema
