import UnitConversion.Conversion.Record
import UnitConversion.Json.Reader
import UnitConversion.Service.Payload
import UnitConversion.Service.Target
import UnitConversion.Text.Encoding

/-!
# Calls

A call of the service: a method, a target, headers, and perhaps a body. The case of a method counts
only for what is sent back. Only a body that is declared as JSON is read, in the encoding that its
bytes show. One that is no JSON text, or holds nothing, counts as an object without members.

A call comes in at some time, and where it is answered the stack has room for some more calls. That
decides how deep the values of its body can be nested.
-/

namespace UnitConversion.Service

/-- The body of a call, with its declared type. -/
structure Body where
  contentType : String
  bytes : List UInt8

/-- A call of the service. -/
structure Call where
  method : String
  target : Target
  headers : List (String × String)
  body : Option Body
  /-- How many more calls the stack has room for where the body is read. -/
  room : Nat
  /-- What the machine adds to the wording of an overrun of the stack where a call is refused. -/
  callNote : String
  /-- The time at which the call is answered. -/
  time : Instant

/-- Why a body is not read. -/
inductive Unread where
  /-- It has too many bytes. -/
  | tooLarge
  /-- Its values are nested deeper than the stack has room for. -/
  | tooDeep (overrun : Json.Overrun)
  deriving DecidableEq

/-- The error for a body that is not read. -/
def Unread.toError (callNote : String) : Unread → Error
  | tooLarge =>
    { Error.ofClass .general "The data value transmitted exceeds the capacity limit." with
      code := "request_entity_too_large"
      status := 413 }
  | tooDeep overrun => Error.unexpected "unit.internal" (overrun.message callNote)

namespace Body

/-- The declared type without its parameters, in lower case. -/
def mediaType (body : Body) : List Char :=
  Text.lower (Text.trimChars (body.contentType.toList.takeWhile (· != ';')))

/-- Whether the body is declared as JSON, or as a format that is written in JSON. -/
def isJson (body : Body) : Bool :=
  let type := body.mediaType
  type == "application/json".toList
    || ("application/".toList.isPrefixOf type && "+json".toList.isSuffixOf type)

/-- The text of a body, if its bytes encode one. -/
def text? (body : Body) : Option (List Char) :=
  (Text.Encoding.detect body.bytes).decode? body.bytes

/-- The value that a body holds. An empty body holds nothing, whatever the limit is. -/
def value (body : Body) (room : Nat) (limit : Int) : Except Unread Json :=
  if !body.isJson || body.bytes.isEmpty then .ok .null
  else if limit < body.bytes.length then .error .tooLarge
  else match body.text?.map (Json.read .binary room) with
    | some (.ok value) => .ok value
    | some (.error (.nested overrun)) => .error (.tooDeep overrun)
    | _ => .ok .null

end Body

namespace Call

/-- The capital letters of a character, as far as they occur in the names of methods. -/
def capitals (c : Char) : List Char :=
  if c = 'ſ' then ['S']
  else if c = 'ı' then ['I']
  else if c = 'ﬅ' ∨ c = 'ﬆ' then ['S', 'T']
  else [c.toUpper]

/-- The method of a call in capital letters, by which it is routed. -/
def routedMethod (call : Call) : String :=
  String.ofList (call.method.toList.flatMap capitals)

/-- The name of a header without the differences that do not count: case, and hyphens for
underscores. -/
def headerName (name : String) : List Char :=
  name.toList.map fun c => if c = '_' then '-' else c.toLower

/-- Whether a text can be the value of a header, which is a single line. -/
def isHeaderValue (value : String) : Bool :=
  value.toList.all fun c => c != '\n' && c != '\r'

/-- What the headers of a name hold: their values, with commas between them. -/
def header? (call : Call) (name : String) : Option String :=
  match call.headers.filter fun h => headerName h.1 = name.toList with
  | [] => none
  | found => some (", ".intercalate (found.map (·.2)))

/-- Whether the headers of a call ask for a socket. -/
def wantsUpgrade (call : Call) : Bool :=
  let wishes := Text.splitWhere (· == ',') (Text.lower ((call.header? "connection").getD "").toList)
  wishes.any (fun wish => Text.trimChars wish == "upgrade".toList)
    && Text.lower ((call.header? "upgrade").getD "").toList == "websocket".toList

/-- Whether a call asks for a socket in the place of a single answer. -/
def forSocket (call : Call) : Bool :=
  call.target.forSocket || call.wantsUpgrade

/-- The value in the body of a call. -/
def payload (call : Call) (limit : Int) : Except Unread Json :=
  match call.body with
  | none => .ok (.object [])
  | some body =>
    match body.value call.room limit with
    | .error unread => .error unread
    | .ok value => .ok (if value.isGiven then value else .object [])

end Call

end UnitConversion.Service
