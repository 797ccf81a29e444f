import UnitConversion.Json.Basic
import UnitConversion.Path

/-!
# Libraries

A library is what paths can lead to: folders with files in them, and the folders on the way there. A
path is followed part by part from the root, and the first part that leads nowhere decides why it
does. A library also says how much room there is for reading what its files hold.

* `Library.follow`: where the parts of a path lead from a folder.
* `Library.locate`: where a path leads, which must be spelled properly and not be too long.
-/

namespace UnitConversion

/-- What a file holds. -/
inductive StoredFile where
  | bytes (bytes : List UInt8)
  | document (document : Json)

/-- A folder: the parts of its path, and the files in it. -/
structure Folder where
  parts : List (List Char)
  files : List (String × StoredFile)

/-- The folders that hold files. -/
structure Library where
  folders : List Folder
  /-- How many calls the stack has room for where the text in a file is read. -/
  room : Nat

/-- What a path leads to. -/
inductive Place where
  /-- A folder with the names in it. -/
  | folder (names : List String)
  | file (file : StoredFile)

namespace Folder

/-- The folder at an absolute path. -/
def ofPath (path : String) (files : List (String × StoredFile)) : Folder :=
  ⟨Path.parts path.toList, files⟩

end Folder

namespace Library

/-- A library without folders. -/
def empty : Library := ⟨[], 0⟩

/-- The files in a folder. A folder that only leads to others holds none. -/
def filesIn (library : Library) (parts : List (List Char)) : List (String × StoredFile) :=
  match library.folders.find? (·.parts == parts) with
  | some folder => folder.files
  | none => []

/-- The names of the folders in a folder, each once. -/
def foldersIn (library : Library) (parts : List (List Char)) : List String :=
  (library.folders.filterMap fun folder =>
    if parts.isPrefixOf folder.parts then (folder.parts.drop parts.length).head?.map String.ofList
    else none).eraseDups

/-- The names in a folder: those of its files, and those of the folders in it. A path that leads to
a file leads to no folder. -/
def namesIn (library : Library) (parts : List (List Char)) : List String :=
  let files := (library.filesIn parts).map (·.1)
  files ++ (library.foldersIn parts).filter (!files.contains ·)

/-- Whether there is a folder: the root, one that holds files, or one that leads to such a one. -/
def hasFolder (library : Library) (parts : List (List Char)) : Bool :=
  parts.isEmpty || library.folders.any fun folder => parts.isPrefixOf folder.parts

/-- Where the parts of a path lead from the folder `here`. -/
def follow (library : Library) (here : List (List Char)) :
    List (List Char) → Except Path.Obstacle Place
  | [] => .ok (.folder (library.namesIn here))
  | part :: rest =>
    if part = Path.back then library.follow here.dropLast rest
    else if Path.longestName < Path.nameSize part then .error .tooLong
    else match (library.filesIn here).lookup (String.ofList part) with
      | some file => if rest.isEmpty then .ok (.file file) else .error .notFolder
      | none =>
        if library.hasFolder (here ++ [part]) then library.follow (here ++ [part]) rest
        else .error .missing

/-- Where the path with some parts leads. -/
def locate (library : Library) (parts : List (List Char)) : Except Path.Obstacle Place :=
  match Path.spellingObstacle? parts.flatten with
  | some obstacle => .error obstacle
  | none =>
    if Path.longestPath < Path.size parts then .error .tooLong
    else library.follow [] parts

end Library

end UnitConversion
