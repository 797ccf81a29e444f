import UnitConversion.CommandLine.Arguments
import UnitConversion.Conversion.Document
import UnitConversion.Json.Printer
import UnitConversion.Session

/-!
# Commands

What a command prints and whether it succeeds. All commands but `check` load a registry and publish
it; `check` looks at every document by itself, so that one that is broken does not hide the others.
-/

namespace UnitConversion.CommandLine

/-- What a command prints, and the exit code. -/
structure Result where
  exit : Nat
  document : Json

namespace Result

/-- The printed text. -/
def output (r : Result) : String :=
  r.document.print ++ "\n"

/-- The result that describes a problem. -/
def ofProblem (p : Problem) : Result :=
  ⟨1, .object [("error", p.toJson)]⟩

/-- The result of an attempt: a problem is described. -/
def ofAttempt : Attempt Result → Attempt Result
  | .error (.problem p) => .ok (ofProblem p)
  | attempt => attempt

end Result

/-- The text without the line feeds at its end. -/
def withoutFinalFeeds (text : String) : String :=
  String.ofList (Text.dropWhileEnd (· == '\n') text.toList)

/-- The text that is converted: the lines of the command line or, without any, the input. -/
def textOf (lines : List String) (input : String) : String :=
  if lines.isEmpty then withoutFinalFeeds input else "\n".intercalate lines

/-- Converts lines. It succeeds if no line fails. -/
def convertLines (registry : Registry) (settings : Settings) (text : String) : Result :=
  let outcomes := Conversion.convertLines (some registry) settings (.text text)
  ⟨if outcomes.all fun o => o.isSuccess || o.isBlank then 0 else 1, Conversion.linesReport outcomes⟩

/-- Lists the categories. -/
def listCategories (registry : Registry) : Result :=
  ⟨0, .object [("categories", .list (registry.categoryNames.map .text))]⟩

/-- Lists the units of a category. Without a name nothing can be looked up. -/
def listUnits (registry : Registry) : Option String → Attempt Result
  | none => .error (.interruption .wrongKind)
  | some category => do
    let units ← registry.listUnits (.text category)
    return ⟨0, .object [("category", .text category), ("units", .list units)]⟩

/-- What is said about one document. -/
structure Report where
  valid : Bool
  errors : List String
  warnings : List String
  deriving DecidableEq

namespace Report

/-- A report as a document value. -/
def toJson (r : Report) : Json :=
  .object [("valid", .bool r.valid), ("errors", .list (r.errors.map .text)),
    ("warnings", .list (r.warnings.map .text))]

/-- Whether the category that a document names is exactly `name`. -/
def names (document : Json) (name : String) : Bool :=
  ((document.get? "category").getD .null).isText name

/-- The report on a document under a name. -/
def ofDocument (document : Json) (name : String) : Attempt Report := do
  match ← Attempt.ofInterrupted (Category.validate document) with
  | .invalid errors => return ⟨false, errors, []⟩
  | .valid warnings =>
    if names document name then return ⟨true, [], warnings⟩
    else
      let found ← ((document.get? "category").getD .null).shown
      return ⟨false, ["category field '" ++ found ++ "' does not match file name"], warnings⟩

/-- The report on the document of a name in a directory. -/
def ofFile (directory : Directory) (name : String) : Attempt Report :=
  match directory.readDocument name with
  | .error (.problem p) => .ok ⟨false, [p.message], []⟩
  | .error failure => .error failure
  | .ok document => ofDocument document name

end Report

/-- The reports on some documents, under their names. -/
def reportEach (directory : Directory) : List String → Attempt (List (String × Report))
  | [] => .ok []
  | name :: names => do
    let report ← Report.ofFile directory name
    let reports ← reportEach directory names
    return (name, report) :: reports

/-- Checks the documents of a directory. It succeeds if all of them are valid. -/
def check (directory : Directory) (wanted : List String) : Attempt Result := do
  let names ← if wanted.isEmpty then directory.discover else .ok wanted
  let reports ← reportEach directory names
  let valid := reports.all (·.2.valid)
  let categories := reports.foldl (fun all r => Association.put all r.1 r.2.toJson) []
  return ⟨if valid then
    0 else 1, .object [("valid", .bool valid), ("categories", .object categories)]⟩

/-- The settings of an invocation. A path that is not absolute leads on from `root`. -/
def Invocation.settings (invocation : Invocation) (root : String) : Attempt Settings :=
  match invocation.directory with
  | some directory => Settings.ofMembers root [("config_dir", .text directory)]
  | none => Settings.ofMembers root []

/-- What a registry answers. -/
def Query.run (registry : Registry) (settings : Settings) (input : String) : Query → Attempt Result
  | .convert lines => .ok (convertLines registry settings (textOf lines input))
  | .categories => .ok (listCategories registry)
  | .units category => listUnits registry category

/-- Loads a registry, publishes it, and asks it. -/
def Query.start (query : Query) (library : Library) (settings : Settings) (input : String)
    (session : Session) : Session × Attempt Result :=
  match session.start library settings with
  | (session, .error failure) => (session, .error failure)
  | (session, .ok registry) => (session, query.run registry settings input)

/-- Runs an invocation with the text of the input. -/
def Invocation.run (invocation : Invocation) (library : Library) (root input : String)
    (session : Session) :
    Session × Attempt Result :=
  match invocation.settings root with
  | .error failure => (session, .error failure)
  | .ok settings =>
    let (session, result) := match invocation.command with
      | .check => (session, check (settings.directoryIn library) settings.categories)
      | .query query => query.start library settings input session
    (session, Result.ofAttempt result)

end UnitConversion.CommandLine
