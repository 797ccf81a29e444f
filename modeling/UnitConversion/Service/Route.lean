import UnitConversion.Text.Trim

/-!
# Routes

Which endpoint a path leads to, and with which methods it can be called. Slashes at the start of a
path count as one. A path in which slashes stand in pairs has moved to where it leads when each pair
is one slash.
-/

namespace UnitConversion.Service

/-- What can be asked about units. -/
inductive Operation where
  | categories
  | units (category : String)
  | convert
  | parse
  | lines
  | validate
  | suggestions
  deriving DecidableEq

/-- Whether an operation takes a payload. -/
def Operation.takesPayload : Operation → Bool
  | convert | parse | lines | validate => true
  | _ => false

/-- What can be called. -/
inductive Endpoint where
  | home
  | precision
  | operation (operation : Operation)
  /-- A file; there are none. -/
  | file
  deriving DecidableEq

namespace Endpoint

/-- Whether an endpoint takes a payload. -/
def takesPayload : Endpoint → Bool
  | operation o => o.takesPayload
  | _ => false

/-- The methods with which an endpoint can be called, in alphabetical order. -/
def methods (e : Endpoint) : List String :=
  if e.takesPayload then ["OPTIONS", "POST"] else ["GET", "HEAD", "OPTIONS"]

/-- The endpoint of the interface to conversions that the parts of a path lead to. -/
def ofInterface? : List String → Option Endpoint
  | ["categories"] => some (operation .categories)
  | ["units", category] => if category.isEmpty then none else some (operation (.units category))
  | ["convert"] => some (operation .convert)
  | ["parse"] => some (operation .parse)
  | ["lines"] => some (operation .lines)
  | ["validate"] => some (operation .validate)
  | ["suggestions"] => some (operation .suggestions)
  | ["precision"] => some precision
  | _ => none

/-- The endpoint that the parts of a path lead to. -/
def ofParts? : List String → Option Endpoint
  | [""] => some home
  | "api" :: "unit_converter" :: parts => ofInterface? parts
  | "static" :: part :: _ => if part.isEmpty then none else some file
  | _ => none

/-- The endpoint that a path leads to. -/
def ofPath? (path : List Char) : Option Endpoint :=
  ofParts? ((Text.splitWhere (· == '/') path).map String.ofList)

end Endpoint

/-- Where a call leads. -/
inductive Route where
  | found (endpoint : Endpoint)
  /-- There is an endpoint, which has to be called with another method. -/
  | otherMethod
  /-- There is an endpoint, but a socket was asked for, which it does not offer. -/
  | noSocket
  /-- The path has to be written in another way. -/
  | moved
  | missing
  deriving DecidableEq

namespace Route

/-- Writes every pair of slashes as one slash. -/
def mergeSlashes : List Char → List Char
  | [] => []
  | '/' :: '/' :: cs => '/' :: mergeSlashes cs
  | c :: cs => c :: mergeSlashes cs

/-- Where an endpoint leads that is called with some method, perhaps for a socket. -/
def ofEndpoint (method : String) (forSocket : Bool) : Option Endpoint → Route
  | none => missing
  | some e =>
    if !e.methods.contains method then otherMethod
    else if forSocket then noSocket
    else found e

/-- Where a path leads when its pairs of slashes are merged. -/
def ofMerged (method : String) (forSocket : Bool) (path : List Char) : Route :=
  match ofEndpoint method forSocket (Endpoint.ofPath? (mergeSlashes path)) with
  | found _ => moved
  | route => route

/-- Where a call leads. An empty path has moved to the home endpoint. -/
def ofPath (method : String) (forSocket : Bool) (path : List Char) : Route :=
  if path.isEmpty then
    match ofEndpoint method forSocket (some .home) with
    | found _ => moved
    | _ => missing
  else
    let path := path.dropWhile (· == '/')
    match ofEndpoint method forSocket (Endpoint.ofPath? path) with
    | missing => ofMerged method forSocket path
    | route => route

end Route

end UnitConversion.Service
