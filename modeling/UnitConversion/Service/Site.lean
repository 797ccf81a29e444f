import UnitConversion.Session

/-!
# The site

What is configured about the service: its name, how many bytes the body of a request may have, the
summary of its plugin, and the settings of conversions. A configuration is a document value; groups
that are missing or empty leave everything at its default.
-/

namespace UnitConversion.Service

/-- What is configured about the service. -/
structure Site where
  /-- The name of the site; none, if the settings of the site do not have members. -/
  name : Option Json
  summary : Json
  /-- The most bytes of a body. -/
  bodyLimit : Int
  settings : Settings

namespace Site

/-- The directory from which configured paths lead on. -/
def root : String := "/unit-converter"

/-- The limit of bodies, unless it is configured: one mebibyte. -/
def standardLimit : Int := 1048576

/-- The key of the limit of bodies. -/
def limitKey : String := "max_content_length_mb"

/-- The name of the plugin that the service consists of. -/
def plugin : String := "unit_converter"

/-- The summary of the plugin, unless it is configured. -/
def standardSummary : Json :=
  .text ("Configuration-driven conversions from plain text requests such as "
    ++ "'5 meters to feet', with formula units and typo suggestions.")

/-- The number of bytes in some mebibytes. What is no number leaves the limit as it is; what is
beyond all doubles is no limit. -/
def bytesOf (mebibytes : Json) : Attempt Int :=
  if Settings.isHuge mebibytes then .error (.interruption .tooLarge)
  else match (Settings.asDouble? mebibytes).map (Binary64.scaleUp 20) with
    | none => .ok standardLimit
    | some (.infinite _) => .error (.interruption .tooLarge)
    | some r => .ok ((Binary64.truncate? r).getD standardLimit)

/-- Whether a text contains another one. -/
def contains (part : List Char) : List Char → Bool
  | [] => part.isEmpty
  | c :: cs => part.isPrefixOf (c :: cs) || contains part cs

/-- The limit of bodies in the settings of a site. -/
def limitOf : Json → Attempt Int
  | .object members =>
    match members.lookup limitKey with
    | some value => bytesOf value
    | none => .ok standardLimit
  | .list items =>
    if items.any (Json.isText limitKey) then .error (.interruption .wrongKind)
    else .ok standardLimit
  | .text s =>
    if contains limitKey.toList s.toList then .error (.interruption .wrongKind)
    else .ok standardLimit
  | _ => .error (.interruption .wrongKind)

/-- The name in the settings of a site. -/
def nameOf : Json → Option Json
  | .object members => some ((members.lookup "title").getD (.text "Unit Converter"))
  | _ => none

/-- The summary in the settings of a plugin. -/
def summaryOf (members : List (String × Json)) : Json :=
  match members.lookup "summary" with
  | some value => if value.isGiven then value else standardSummary
  | none => standardSummary

/-- A group of a configuration; one that is not given has no members. -/
def groupOf (value : Option Json) : Json :=
  match value with
  | some value => if value.isGiven then value else .object []
  | none => .object []

/-- The members of an object. -/
def membersOf : Json → Attempt (List (String × Json))
  | .object members => .ok members
  | _ => .error (.interruption .missingPart)

/-- Reads a configuration. -/
def ofJson (configuration : Json) : Attempt Site := do
  let members ← membersOf (groupOf (some configuration))
  let site := groupOf (members.lookup "site")
  let limit ← limitOf site
  let plugins ← membersOf (groupOf (members.lookup "plugins"))
  let own := Settings.groupOf (plugins.lookup plugin)
  let settings ← Settings.ofMembers root own
  return ⟨nameOf site, summaryOf own, limit, settings⟩

/-- Reads the text of a configuration, whose values can be nested as deep as there is room for them.
A blank one configures nothing. -/
def readConfiguration (room : Nat) (cs : List Char) : Except Json.Stop Json :=
  if cs.all Json.isGap then .ok .null else Json.read .marked room cs

/-- The configuration that the service comes with. -/
def standardConfiguration : Json :=
  .object [
    ("site", .object [("title", .text "Unit Converter"), (limitKey, .integer 1)]),
    ("plugins", .object [(plugin, .object [
      ("summary", .text "Plain text unit conversions backed by per-category JSON documents."),
      ("config_dir", .text "plugins/unit_converter/config"),
      ("categories", .list []),
      ("max_lines", .integer 200),
      ("max_input_length", .integer 256),
      ("suggestions", .object [
        ("max_results", .integer 3),
        ("min_similarity", .real Suggestion.standardSimilarity)]),
      ("formatting", .object [
        ("exponential_upper", .text "1.0e12"),
        ("exponential_lower", .real (.ofDecimal (.finite false 1 (-6))))])])])]

/-- What is told about the site. -/
def description (site : Site) : Attempt Json :=
  match site.name with
  | none => .error (.interruption .missingPart)
  | some name =>
    .ok (.object [("name", name), ("plugins", .list [.object [
      ("title", .text "Unit Converter"), ("summary", site.summary), ("blueprint", .text plugin),
      ("category", .text "General Utilities"), ("api", .text ("/api/" ++ plugin))]])])

/-- Starts a session with what a site has configured. A problem with the documents leaves nothing
published. -/
def start (site : Site) (library : Library) (session : Session) : Attempt Session :=
  match session.start library site.settings with
  | (session, .ok _) => .ok session
  | (session, .error (.problem _)) => .ok session
  | (_, .error (.interruption cause)) => .error (.interruption cause)

end Site

end UnitConversion.Service
