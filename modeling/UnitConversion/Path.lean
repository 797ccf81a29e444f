import UnitConversion.Text.Surrogate
import UnitConversion.Text.Trim

/-!
# Paths

A path is read by its parts between slashes. Empty parts and single points lead nowhere, and two
points lead back. A path that starts with a slash is absolute; two slashes at its start, and no
third one, are kept.

`Obstacle` lists what can keep a path from leading to what is wanted. The first obstacle is the
spelling of the path itself: it is handed on as bytes, of which zero is none.
-/

namespace UnitConversion.Path

-- Zero is the numeral, also where other instances are at hand.
attribute [local instance (high)] Zero.ofOfNat0

/-- Why a path does not lead to what is wanted. -/
inductive Obstacle where
  /-- There is nothing of this name. -/
  | missing
  /-- The path goes on behind a file. -/
  | notFolder
  /-- There is a folder where a file is wanted. -/
  | folder
  /-- A name, or the path as a whole, has too many bytes. -/
  | tooLong
  /-- The path holds the character zero. -/
  | zeroCharacter
  /-- The path holds a surrogate that stands for no byte. -/
  | unencodable
  deriving DecidableEq

/-- The part that leads back. -/
def back : List Char := ['.', '.']

/-- The parts of a path, without those that lead nowhere. -/
def parts (cs : List Char) : List (List Char) :=
  (Text.splitWhere (· == '/') cs).filter fun part => !part.isEmpty && part != ['.']

/-- Whether a path starts at the root. -/
def isAbsolute (cs : List Char) : Bool :=
  cs.head? == some '/'

/-- Whether a character has no bytes in a path. -/
def isUnencodable (c : Char) : Bool :=
  match Text.surrogate? c with
  | some n => !Text.isByteSurrogate n
  | none => false

/-- The obstacle that the characters of a path are by themselves. -/
def spellingObstacle? (cs : List Char) : Option Obstacle :=
  if cs.any isUnencodable then some .unencodable
  else if cs.contains '\x00' then some .zeroCharacter
  else none

/-- The number of bytes of a name. A surrogate stands for one byte. -/
def nameSize (cs : List Char) : Nat :=
  (cs.map fun c => if (Text.surrogate? c).isSome then 1 else c.utf8Size).sum

/-- The number of bytes of the absolute path with some parts. -/
def size (parts : List (List Char)) : Nat :=
  (parts.map fun part => nameSize part + 1).sum

/-- The most bytes of a name. -/
def longestName : Nat := 255

/-- The most bytes of a path. -/
def longestPath : Nat := 4095

/-- The path with the given parts behind `start`. -/
def join (start : List Char) (parts : List (List Char)) : String :=
  String.ofList (start ++ List.intercalate ['/'] parts)

/-- The slashes with which an absolute path is written. -/
def rootOf (cs : List Char) : List Char :=
  if (cs.takeWhile (· == '/')).length = 2 then ['/', '/'] else ['/']

/-- Follows the parts of a path from `base`, whose last part stands first. Only the spelling of a
part can be an obstacle, since nothing is looked up. -/
def follow (base : List (List Char)) : List (List Char) → Except Obstacle (List (List Char))
  | [] => .ok base
  | part :: parts =>
    if part = back then follow base.tail parts
    else match spellingObstacle? part with
      | some obstacle => .error obstacle
      | none => follow (part :: base) parts

/-- A path as an absolute one: an absolute path stays, and any other leads on from `root`. -/
def absolute (root path : String) : Except Obstacle String :=
  let cs := path.toList
  if isAbsolute cs then .ok (join (rootOf cs) (parts cs))
  else (follow (parts root.toList).reverse (parts cs)).map fun found => join ['/'] found.reverse

/-- The parts of the path that `path` leads to from the folder `start`. -/
def partsFrom (start path : List Char) : List (List Char) :=
  if isAbsolute path then parts path else parts start ++ parts path

end UnitConversion.Path
