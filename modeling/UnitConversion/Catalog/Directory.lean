import UnitConversion.Catalog.Library
import UnitConversion.Failure
import UnitConversion.Json.Reader
import UnitConversion.Text.Utf8

/-!
# Directories of category documents

A directory is a path in a library. Its files are either bytes, to be read as a JSON text, or
documents that have been read already. A path that leads nowhere is a problem that can be told; any
other obstacle on the way to a document interrupts what is being done.

`Directory.readDocument` is the object in the file that the name of a category leads to, and
`Directory.discover` lists the names that lead back to categories. A folder in the directory may
have such a name too; only when its document is to be read does it turn out to be none.
-/

namespace UnitConversion

/-- A directory: what can be reached, and a path in it. -/
structure Directory where
  library : Library
  path : String

namespace Directory

/-- What every document's file name ends with. -/
def extension : List Char := ".json".toList

/-- The name of a document's file without its extension. A file that has no other name keeps all of
it. -/
def stem? (file : String) : Option String :=
  let cs := file.toList
  if !extension.isSuffixOf cs then none
  else if cs = extension then some file
  else some (String.ofList (cs.take (cs.length - extension.length)))

/-- The categories that names in a directory lead to, in order. -/
def stems (names : List String) : List String :=
  (names.filterMap stem?).mergeSort fun a b => a ≤ b

/-- The problem with a directory that is not there. -/
def notFound (directory : Directory) : Problem :=
  Problem.configuration ("Configuration directory not found: " ++ directory.path) none []

/-- The category names that the names in a directory lead to, in order. Only a path that is too long
is more than a problem. -/
def discover (directory : Directory) : Attempt (List String) :=
  match directory.library.locate (Path.parts directory.path.toList) with
  | .ok (.folder names) => .ok (stems names)
  | .error .tooLong => .error (.interruption (.obstacle .tooLong))
  | _ => .error (.problem directory.notFound)

/-- The path from a directory to the document of a category. -/
def documentPath (category : String) : List Char :=
  category.toList ++ extension

/-- The name at the end of the path to a category's document. -/
def documentName (category : String) : String :=
  String.ofList ((Path.parts (documentPath category)).getLastD [])

/-- The file that the name of a category leads to. -/
def file (directory : Directory) (category : String) : Except Path.Obstacle StoredFile :=
  match directory.library.locate (Path.partsFrom directory.path.toList (documentPath category)) with
  | .ok (.file file) => .ok file
  | .ok (.folder _) => .error .folder
  | .error obstacle => .error obstacle

/-- The problem with a document that is not there. -/
def documentNotFound (name : String) : Problem :=
  Problem.configuration ("Configuration file not found: " ++ name) none []

/-- The failure that an obstacle on the way to a document is. -/
def failureOfObstacle (name : String) : Path.Obstacle → Failure
  | .missing => .problem (documentNotFound name)
  | obstacle => .interruption (.obstacle obstacle)

/-- The problem with a file that is no JSON text. -/
def notJson (name : String) (cs : List Char) (fault : Json.Fault) (left : Nat) : Problem :=
  let place := Json.location cs left
  Problem.configuration ("Configuration file " ++ name ++ " is not valid JSON")
    (some ("line " ++ toString place.1 ++ ", column " ++ toString place.2 ++ ": " ++ fault.message))
    []

/-- The failure that a stop of the reader is. -/
def failureOf (name : String) (cs : List Char) : Json.Stop → Failure
  | .fault fault left => .problem (notJson name cs fault left)
  | .longInteger => .interruption .longInteger
  | .wildDecimal => .interruption (.signal .invalidOperation)
  | .nested _ => .interruption .nested

/-- The value in a file, read where the stack has room for `room` calls. Numbers with a point or an
exponent are exact. -/
def readFile (room : Nat) (name : String) : StoredFile → Attempt Json
  | .document document => .ok document
  | .bytes bytes =>
    match Text.Utf8.decode? bytes with
    | none => .error (.interruption .undecodable)
    | some cs =>
      let cs := Text.Utf8.unifyLineEnds cs
      (Json.read .exact room cs).mapError (failureOf name cs)

/-- The document of a category, which has to be an object. -/
def readDocument (directory : Directory) (category : String) : Attempt Json := do
  let name := documentName category
  let file ← (directory.file category).mapError (failureOfObstacle name)
  match ← readFile directory.library.room name file with
  | .object members => return .object members
  | _ =>
    throw (.problem
      (Problem.configuration ("Configuration file " ++ name ++ " must contain an object") none []))

end Directory

end UnitConversion
