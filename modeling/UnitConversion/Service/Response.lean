import UnitConversion.Service.Call
import UnitConversion.Service.Route
import UnitConversion.Service.Site

/-!
# Responses

What the service answers. Operations on units are unavailable until a registry is published,
whatever the body of the call holds. Data and errors are answered in an envelope that tells them
apart; the status of an error that describes a problem follows from the kind of the problem.

* `answer`: the data of an operation, or an error.
* `respond`: the response to a call.
-/

namespace UnitConversion.Service

/-- The response to a call. -/
structure Response where
  status : Nat
  headers : List (String × String)
  body : Option Json

/-- The payload of a call, if it passes a check. -/
def payloadOf {α : Type} (site : Site) (call : Call) (check : Json → Schema.Checked α) :
    Except Error α := do
  let value ← (call.payload site.bodyLimit).mapError (·.toError call.callNote)
  (check value).mapError Error.invalidPayload

/-- An outcome as data; `record` holds more members. An error is answered instead of data. -/
def dataOf (outcome : Outcome) (record : List (String × Json)) : Except Error Json :=
  match outcome.isSuccess, outcome.error with
  | false, some p => .error (Error.ofProblem p)
  | _, _ =>
    match outcome.toJson with
    | .object members => .ok (.object (members ++ record))
    | value => .ok value

/-- The record of an outcome as a document value, or null. -/
def recordToJson (time : Instant) (outcome : Outcome) (text : String) : Json :=
  match Conversion.recordOf? time outcome text with
  | some record => record.toJson
  | none => .null

/-- All categories with their units. -/
def categoriesReport (registry : Registry) : Json :=
  .object [("categories", .list (registry.categoryNames.map .text)),
    ("units", .object (registry.categories.map fun c => (c.name, .list (Registry.unitsOf c))))]

/-- The error that there is no such category. -/
def unknownCategory (registry : Registry) (message : String) : Error :=
  { Error.ofClass .notFound message with
    code := "unit.unknown_category"
    details := [("categories", .list (registry.categoryNames.map .text))] }

/-- The units of one category. -/
def unitsReport (registry : Registry) (category : String) : Except Error Json :=
  match registry.category? category with
  | some c => .ok (.object [("category", .text category), ("units", .list (Registry.unitsOf c))])
  | none =>
    .error (unknownCategory registry
      (Problem.unknownCategory category registry.categoryNames).message)

/-- The names that are similar to the one in the query. -/
def suggestionsReport (site : Site) (registry : Registry) (target : Target) : Json :=
  let query := (target.query.lookup "q").getD ""
  let limits : Suggestion.Limits := ⟨site.settings.maxSuggestions, site.settings.minSimilarity⟩
  let names := Suggestion.similarNames (some registry) (.text query) limits
  .object [("query", .text query), ("suggestions", .list (names.map .text))]

/-- The data that an operation answers, or an error. -/
def answer (site : Site) (registry : Registry) (call : Call) : Operation → Except Error Json
  | .categories => .ok (categoriesReport registry)
  | .units category => unitsReport registry category
  | .convert => do
    let p ← payloadOf site call ConversionPayload.check
    dataOf (Conversion.convert (some registry) site.settings p.value (.text p.source)
      (.text p.target)) []
  | .parse => do
    let text ← payloadOf site call checkTextPayload
    let outcome := Conversion.convertText (some registry) site.settings (.text text)
    dataOf outcome [("record", recordToJson call.time outcome text)]
  | .lines => do
    let text ← payloadOf site call checkTextPayload
    .ok (Conversion.linesReport
      (Conversion.convertLines (some registry) site.settings (.text text)))
  | .validate => do
    let p ← payloadOf site call PairPayload.check
    let verdict ← (Conversion.validate (some registry) site.settings (.text p.source)
      (.text p.target)).mapError Error.ofFailure
    .ok verdict.toJson
  | .suggestions => .ok (suggestionsReport site registry call.target)

/-- The error of a path that leads nowhere. -/
def nowhere : Error :=
  { Error.ofClass .general ("The requested URL was not found on the server. "
      ++ "If you entered the URL manually please check your spelling and try again.") with
    code := "not_found"
    status := 404 }

/-- The error of a method that does not fit. -/
def otherMethod : Error :=
  { Error.ofClass .general "The method is not allowed for the requested URL." with
    code := "method_not_allowed"
    status := 405 }

/-- The error of a call for a socket. -/
def noSocket : Error :=
  { Error.ofClass .general
      "The browser (or proxy) sent a request that this server could not understand." with
    code := "bad_request" }

/-- The reply with data, or with an error. -/
def replyOf : Except Error Json → Reply
  | .ok data => Reply.success data none
  | .error e => Reply.failure e none

/-- The reply of an operation, which needs a registry. -/
def operate (site : Site) (session : Session) (call : Call) (operation : Operation) : Reply :=
  match session.published with
  | none => Reply.failure Error.notReady none
  | some registry => replyOf (answer site registry call operation)

/-- The reply of an endpoint. -/
def reply (site : Site) (session : Session) (call : Call) : Endpoint → Attempt Reply
  | .home => site.description.map fun data => Reply.success data none
  | .precision => .ok (Reply.success site.settings.precision none)
  | .file => .ok (Reply.failure nowhere none)
  | .operation o => .ok (operate site session call o)

/-- The headers that guard every response. -/
def guards : List (String × String) :=
  [("X-Content-Type-Options", "nosniff"), ("X-Frame-Options", "DENY"),
   ("Content-Security-Policy", "default-src 'none'; frame-ancestors 'none'"),
   ("Referrer-Policy", "no-referrer"), ("Cache-Control", "no-store")]

/-- A response with the headers that every response has. -/
def respondWith (call : Call) (status : Nat) (headers : List (String × String))
    (body : Option Json) :
    Response :=
  let identifier := match call.header? "x-request-id" with
    | some id => [("X-Request-ID", id)]
    | none => []
  ⟨status, headers ++ identifier ++ guards, body⟩

/-- The response that gives a reply. A call for the headers alone, whose method is in capital
letters, gets no body. -/
def respondReply (call : Call) (reply : Reply) : Response :=
  respondWith call reply.status [("Content-Type", "application/json")]
    (if call.method = "HEAD" then none else some reply.body)

/-- The response without an envelope. -/
def respondBare (call : Call) (status : Nat) (headers : List (String × String)) : Response :=
  respondWith call status (("Content-Type", "text/html; charset=utf-8") :: headers) none

/-- The response to a call. -/
def respond (site : Site) (session : Session) (call : Call) : Attempt Response :=
  match Route.ofPath call.routedMethod call.forSocket call.target.path with
  | .missing => .ok (respondReply call (Reply.failure nowhere none))
  | .otherMethod => .ok (respondReply call (Reply.failure otherMethod none))
  | .noSocket => .ok (respondReply call (Reply.failure noSocket none))
  | .moved => .ok (respondBare call 308 [])
  | .found endpoint =>
    if call.routedMethod = "OPTIONS" then
      .ok (respondBare call 200 [("Allow", ", ".intercalate endpoint.methods)])
    else (reply site session call endpoint).map (respondReply call)

end UnitConversion.Service
