import UnitConversion.CommandLine.Commands

/-!
# The command line program

Reads the files of the directory that is asked for, runs the command, prints what it gives, and ends
with its exit code.
-/

namespace UnitConversion.Main

open CommandLine

/-- How many calls the program leaves room for where it reads the text in a file. -/
def room : Nat := 980

/-- What is in a folder: its files, and the folders in it, of which only the names count. -/
def readFolder (here : List (List Char)) : IO (List Folder) := do
  let mut files := []
  let mut folders := []
  for entry in ← (← IO.FS.realPath (Path.join ['/'] here)).readDir do
    if ← entry.path.isDir then
      folders := ⟨here ++ [entry.fileName.toList], []⟩ :: folders
    else
      let bytes ← IO.FS.readBinFile entry.path
      files := (entry.fileName, StoredFile.bytes bytes.toList) :: files
  return ⟨here, files⟩ :: folders

/-- Whether there is a folder at a path. -/
def isFolder (path : String) : IO Bool := do
  try (← IO.FS.realPath path).isDir
  catch _ => return false

/-- The folder at the end of the way that some parts of a path lead from `here`, with what is in it,
and the folders on the way as far as there are any. -/
def readFolders (here : List (List Char)) : List (List Char) → IO (List Folder)
  | [] => readFolder here
  | part :: rest => do
    let next := if part = Path.back then here.dropLast else here ++ [part]
    let found ← if ← isFolder (Path.join ['/'] next) then readFolders next rest else pure []
    return found ++ [⟨here, []⟩]

/-- The library that holds the directory that settings lead to. -/
def readLibrary (settings : Attempt Settings) : IO Library := do
  match settings with
  | .ok { directory := some path, .. } => return ⟨← readFolders [] (Path.parts path.toList), room⟩
  | _ => return .empty

/-- The text of the input, if a command reads it. -/
def readInput (command : Command) : IO String := do
  match command with
  | .query (.convert []) =>
    let bytes ← (← IO.getStdin).readBinToEnd
    return String.ofList (Text.Utf8.decodeWith (fun _ => ['\uFFFD']) bytes.toList)
  | _ => return ""

/-- Runs an invocation. -/
def runInvocation (invocation : Invocation) : IO UInt32 := do
  let root := toString (← IO.currentDir)
  let library ← readLibrary (invocation.settings root)
  let input ← readInput invocation.command
  match (invocation.run library root input Session.fresh).2 with
  | .ok result =>
    IO.print result.output
    return result.exit.toUInt32
  | .error _ =>
    IO.eprintln "the command was interrupted"
    return 1

/-- How the program is called. -/
def usage : String :=
  "usage: unit-conversion [-h] [--config-dir DIR] COMMAND\n"
    ++ "commands: convert [LINE ...], categories, units --category NAME, check"

end UnitConversion.Main

/-- The program. -/
def main (args : List String) : IO UInt32 := do
  match UnitConversion.CommandLine.Invocation.ofWords args with
  | .ok invocation => UnitConversion.Main.runInvocation invocation
  | .error .help =>
    IO.println UnitConversion.Main.usage
    return 0
  | .error .misuse =>
    IO.eprintln UnitConversion.Main.usage
    return 2
