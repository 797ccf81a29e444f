import UnitConversion.Service.Address
import UnitConversion.Text.Percent

/-!
# Targets

What a request is about: a path, and the fields of a query. The target is read from the address of
the request. Its scheme and its authority say where the service is; the rest, the request proper,
may be written like an address again, whose scheme and authority do not count.

The fields of the query may also be given apart from the address, which then must not have a query.
-/

namespace UnitConversion.Service

/-- What a request is about. -/
structure Target where
  path : List Char
  query : List (String × String)
  /-- Whether the address asks for a socket in the place of a single answer. -/
  forSocket : Bool

namespace Target

/-- The field that a piece of a query gives: a name, and a value behind the first equals sign. -/
def field (piece : List Char) : String × String :=
  let name := piece.takeWhile (· != '=')
  let value := (piece.dropWhile (· != '=')).drop 1
  (String.ofList (Text.Percent.decodeQuery name), String.ofList (Text.Percent.decodeQuery value))

/-- The fields of a query. -/
def fields (cs : List Char) : List (String × String) :=
  ((Text.splitWhere (· == '&') cs).filter (!·.isEmpty)).map field

/-- The schemes of sockets. -/
def socketSchemes : List (List Char) :=
  ["ws".toList, "wss".toList]

/-- Whether a name or a value of a field holds a lone surrogate. -/
def isUnencodable (field : String × String) : Bool :=
  Text.hasSurrogate field.1.toList || Text.hasSurrogate field.2.toList

/-- Reads a target from an address and from the fields that are given apart from it. -/
def read (address : List Char) (given : Option (List (String × String))) :
    Except AddressFault Target := do
  let outer ← Address.read address
  if given.isSome && outer.request.contains '?' then throw .malformed
  let inner ← Address.read outer.request
  let path ← Address.spelledPath inner.path
  (Authority.read outer.authority).check
  if Text.hasSurrogate outer.request || (given.getD []).any isUnencodable then throw .unencodable
  return ⟨Text.Percent.decodePath path, given.getD (fields inner.query),
    socketSchemes.contains outer.scheme⟩

end Target

end UnitConversion.Service
