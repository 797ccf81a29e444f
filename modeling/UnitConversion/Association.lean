/-!
# Association lists

Keys with values, in the order in which the keys were first put in. Values are looked up with
`List.lookup`.
-/

namespace UnitConversion.Association

/-- Puts a value under a key: an old key keeps its place and takes the new value. -/
def put {κ α : Type} [DecidableEq κ] (entries : List (κ × α)) (key : κ) (value : α) :
    List (κ × α) :=
  match entries with
  | [] => [(key, value)]
  | (k, v) :: rest => if k = key then (k, value) :: rest else (k, v) :: put rest key value

end UnitConversion.Association
