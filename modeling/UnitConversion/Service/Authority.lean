import UnitConversion.Text.LowerCase
import UnitConversion.Text.Surrogate
import UnitConversion.Text.Trim

/-!
# Authorities

The authority of an address names a host, perhaps behind a user and an at sign, and perhaps in front
of a colon and the number it listens at. A host in brackets is a numbered address.

* `Authority.read`: the three parts of an authority.
* `Authority.check`: whether a host of this name can be called.
* `Authority.isBracketed`: whether brackets in an authority stand around a numbered address.
-/

namespace UnitConversion.Service

/-- Why something is no address. -/
inductive AddressFault where
  /-- Its form is wrong. -/
  | malformed
  /-- The name of its host has an empty or a long label. -/
  | hostName
  /-- It holds a lone surrogate. -/
  | unencodable
  deriving DecidableEq

/-- The parts of an authority. -/
structure Authority where
  user : List Char
  host : List Char
  portNumber : List Char

namespace Authority

/-- The text in front of the first mark and the text behind it. -/
def cut (mark : Char) (cs : List Char) : List Char × List Char :=
  (cs.takeWhile (· != mark), (cs.dropWhile (· != mark)).drop 1)

/-- The text in front of the last mark and the text behind it; without a mark, all of it stands
behind. -/
def cutLast (mark : Char) (cs : List Char) : List Char × List Char :=
  let parts := cut mark cs.reverse
  (parts.2.reverse, parts.1.reverse)

/-- The parts of an authority. -/
def read (cs : List Char) : Authority :=
  let place := cutLast '@' cs
  if place.2.contains '[' then
    let host := cut ']' (cut '[' place.2).2
    ⟨place.1, host.1, (cut ':' host.2).2⟩
  else
    let host := cut ':' place.2
    ⟨place.1, host.1, host.2⟩

/-- The most characters of a label. -/
def longestLabel : Nat := 63

/-- Whether a label is neither empty nor too long. -/
def isLabel (label : List Char) : Bool :=
  !label.isEmpty && label.length ≤ longestLabel

/-- Whether a host is a name: labels with points between them, of which the last one can be
empty. -/
def isHostName (host : List Char) : Bool :=
  let labels := Text.splitWhere (· == '.') host
  labels.dropLast.all isLabel && (labels.getLastD []).length ≤ longestLabel

/-- Whether there are characters that are not in ASCII. -/
def isForeign (cs : List Char) : Bool :=
  cs.any fun c => 128 ≤ c.toNat

/-- Whether a character is a point between the labels of a foreign name. -/
def isPoint (c : Char) : Bool :=
  c == '.' || c == '\u3002' || c == '\uFF0E' || c == '\uFF61'

/-- Whether a host is a foreign name: no label is empty but the last one. -/
def isForeignName (host : List Char) : Bool :=
  isForeign host && !Text.hasSurrogate host &&
    (Text.splitWhere isPoint host).dropLast.all (!·.isEmpty)

/-- Whether characters are digits from `0` to `9`. -/
def areDigits (cs : List Char) : Bool :=
  cs.all fun c => '0' ≤ c && c ≤ '9'

/-- Whether the number a host listens at is missing or below 65536. -/
def isPortNumber (digits : List Char) : Bool :=
  areDigits digits && Text.digitsValue digits ≤ 65535

/-- The user of an authority, if there is more than a password. -/
def namedUser (a : Authority) : List Char :=
  if a.user.head? = some ':' then [] else a.user

/-- Checks the parts of an authority: the host first, then the number it listens at, then the
user. -/
def check (a : Authority) : Except AddressFault Unit :=
  if !(isForeignName a.host || (!isForeign a.host && isHostName a.host)) then .error .hostName
  else if !isPortNumber a.portNumber then .error .malformed
  else if Text.hasSurrogate a.namedUser then .error .unencodable
  else .ok ()

/-- An authority in its usual spelling: the host in small letters, and the number it listens at only
if it is not zero. -/
def write (a : Authority) : List Char :=
  let user := if a.namedUser.isEmpty then [] else a.namedUser ++ ['@']
  let host := Text.lower a.host
  let host := if host.contains ':' then '[' :: host ++ [']'] else host
  let number := Text.digitsValue a.portNumber
  let portNumber := if number = 0 then [] else ':' :: (toString number).toList
  user ++ host ++ portNumber

/-- Whether text is a number below 256 without leading zeros. -/
def isOctet (cs : List Char) : Bool :=
  !cs.isEmpty && areDigits cs && cs.length ≤ 3 && Text.digitsValue cs ≤ 255
    && (cs.length = 1 || cs.head? != some '0')

/-- Whether text is a numbered address of four octets. -/
def isFourOctets (cs : List Char) : Bool :=
  let octets := Text.splitWhere (· == '.') cs
  octets.length = 4 && octets.all isOctet

/-- Whether text is a group of one to four hexadecimal digits. -/
def isGroup (cs : List Char) : Bool :=
  !cs.isEmpty && cs.length ≤ 4 && cs.all fun c => (Text.hexValue? c).isSome

/-- The groups between colons; four octets at the end stand for two groups. -/
def groups (cs : List Char) : List (List Char) :=
  let pieces := Text.splitWhere (· == ':') cs
  if isFourOctets (pieces.getLastD []) then pieces.dropLast ++ [['0'], ['0']] else pieces

/-- Whether pieces are groups of an address. A side of a gap that touches the end of the address is
one empty piece. -/
def areGroups (pieces : List (List Char)) : Bool :=
  pieces = [[]] || (!pieces.isEmpty && pieces.all isGroup)

/-- Whether pieces around a gap of colons are the groups of an address: at least one group is left
out. -/
def haveGap (before after : List (List Char)) : Bool :=
  areGroups before && areGroups after && (before ++ after).countP (!·.isEmpty) ≤ 7

/-- Whether pieces between colons make up an address of eight groups, where one gap can stand for
groups of zeros. -/
def isGrouped (pieces : List (List Char)) : Bool :=
  (pieces.length = 8 && pieces.all isGroup) ||
    (List.range pieces.length).any fun i =>
      0 < i && (pieces.drop i).head? = some [] && haveGap (pieces.take i) (pieces.drop (i + 1))

/-- Whether text is a numbered address of eight groups, perhaps with a zone behind a percent
sign. -/
def isEightGroups (cs : List Char) : Bool :=
  let zone := (cut '%' cs).2
  (!cs.contains '%' || (!zone.isEmpty && !zone.contains '%')) && isGrouped (groups (cut '%' cs).1)

/-- Whether text is a numbered address of a version to come: the letter, hexadecimal digits, a
point, and something more. -/
def isLaterVersion : List Char → Bool
  | 'v' :: cs =>
    let parts := cut '.' cs
    !parts.1.isEmpty && (parts.1.all fun c => (Text.hexValue? c).isSome) && !parts.2.isEmpty
  | _ => false

/-- Whether brackets in an authority, if there are any, stand around a numbered address. -/
def isBracketed (cs : List Char) : Bool :=
  let host := (cut ']' (cut '[' cs).2).1
  cs.contains '[' == cs.contains ']' &&
    (!cs.contains '[' || isLaterVersion host || isEightGroups host)

end Authority

end UnitConversion.Service
