import UnitConversion.Service.Authority

/-!
# Addresses

An address consists of a scheme in front of a colon, an authority behind two slashes, a path, and a
query behind a question mark; all parts but the path can be missing. A number sign ends an address.
Control characters and spaces at its start do not count, and neither do tabs and line ends anywhere.

* `Address.read`: the parts of an address.
* `Address.spelledPath`: a path in which an authority at its start is spelled in the usual way.
-/

namespace UnitConversion.Service

/-- The parts of an address. -/
structure Address where
  scheme : List Char
  authority : List Char
  path : List Char
  query : List Char

namespace Address

/-- Characters that do not count anywhere. -/
def isIgnored (c : Char) : Bool :=
  c == '\t' || c == '\n' || c == '\r'

/-- An address without the characters that do not count. -/
def clean (cs : List Char) : List Char :=
  (cs.dropWhile fun c => c.toNat ≤ 32).filter fun c => !isIgnored c

/-- Whether a character can stand in a scheme. -/
def isSchemeChar (c : Char) : Bool :=
  c.isAlphanum || c == '+' || c == '-' || c == '.'

/-- Whether characters are a scheme: it starts with a letter. -/
def isScheme : List Char → Bool
  | [] => false
  | c :: cs => c.isAlpha && cs.all isSchemeChar

/-- The scheme in front of the first colon, in small letters, and what follows it. -/
def splitScheme (cs : List Char) : List Char × List Char :=
  let scheme := cs.takeWhile (· != ':')
  if scheme.length < cs.length && isScheme scheme then
    (scheme.map Char.toLower, cs.drop (scheme.length + 1))
  else ([], cs)

/-- Whether a character ends an authority. -/
def endsAuthority (c : Char) : Bool :=
  c == '/' || c == '?' || c == '#'

/-- The authority behind two slashes, and what follows it. -/
def splitAuthority : List Char → List Char × List Char
  | '/' :: '/' :: cs => (cs.takeWhile (!endsAuthority ·), cs.dropWhile (!endsAuthority ·))
  | cs => ([], cs)

/-- Characters that look like a mark between the parts of an address, and would be taken for one
when their variants are made equal. -/
def disguisedMarks : List Nat :=
  [0x2047, 0x2048, 0x2049, 0x2100, 0x2101, 0x2105, 0x2106, 0x2A74, 0xFE13, 0xFE16, 0xFE55,
    0xFE56, 0xFE5F, 0xFE6B, 0xFF03, 0xFF0F, 0xFF1A, 0xFF1F, 0xFF20]

/-- Whether an authority has a proper form. -/
def isAuthority (cs : List Char) : Bool :=
  Authority.isBracketed cs && !cs.any fun c => disguisedMarks.contains c.toNat

/-- Reads an address. -/
def read (cs : List Char) : Except AddressFault Address :=
  let (scheme, cs) := splitScheme (clean cs)
  let (authority, cs) := splitAuthority cs
  let cs := cs.takeWhile (· != '#')
  if isAuthority authority then
    .ok ⟨scheme, authority, cs.takeWhile (· != '?'), (cs.dropWhile (· != '?')).drop 1⟩
  else .error .malformed

/-- The path of an address with the query behind it, if there is one. -/
def request (address : Address) : List Char :=
  if address.query.isEmpty then address.path else address.path ++ '?' :: address.query

/-- The scheme in front of a path, if there is one. -/
def schemeText (address : Address) : List Char :=
  if address.scheme.isEmpty then [] else address.scheme ++ [':']

/-- The authority in front of a path, if there is one. -/
def authorityText (address : Address) : List Char :=
  let text := (Authority.read address.authority).write
  if text.isEmpty then [] else '/' :: '/' :: text

/-- A path, read as an address itself and written down again in its usual spelling. -/
def spelledPath (path : List Char) : Except AddressFault (List Char) := do
  let address ← read path
  if Text.hasSurrogate address.path then throw .unencodable
  (Authority.read address.authority).check
  return address.schemeText ++ address.authorityText ++ address.path

end Address

end UnitConversion.Service
