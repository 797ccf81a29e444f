import UnitConversion.Text.Surrogate
import UnitConversion.Text.Utf8

/-!
# Encodings of texts

A text can be handed over as bytes in UTF-8, or in units of two or four bytes in either order. A
text that starts with characters below 128 shows its encoding by the zeros among its first bytes.

* `Encoding.detect`: the encoding that the first bytes show.
* `Encoding.decode?`: the text that bytes encode. In units of two bytes a pair of surrogates is one
  character; lone surrogates are kept.
-/

namespace UnitConversion.Text

/-- The order of the bytes of a unit. -/
inductive ByteOrder where
  | greatestFirst
  | leastFirst
  deriving DecidableEq

/-- How a text is written as bytes. -/
inductive Encoding where
  | utf8
  /-- Units of two bytes. -/
  | utf16 (order : ByteOrder)
  /-- Units of four bytes. -/
  | utf32 (order : ByteOrder)
  deriving DecidableEq

namespace Encoding

/-- The encoding that the zeros among the first bytes show. -/
def detect : List UInt8 → Encoding
  | a :: b :: c :: d :: _ =>
    if a = 0 then if b = 0 then utf32 .greatestFirst else utf16 .greatestFirst
    else if b = 0 then if c = 0 && d = 0 then utf32 .leastFirst else utf16 .leastFirst
    else utf8
  | [a, b] =>
    if a = 0 then utf16 .greatestFirst else if b = 0 then utf16 .leastFirst else utf8
  | _ => utf8

/-- The number that the bytes of a unit denote. -/
def unit (order : ByteOrder) (bytes : List UInt8) : Nat :=
  let bytes := match order with
    | .greatestFirst => bytes
    | .leastFirst => bytes.reverse
  bytes.foldl (fun n byte => n * 256 + byte.toNat) 0

/-- The units of two bytes each. -/
def units16? (order : ByteOrder) : List UInt8 → Option (List Nat)
  | [] => some []
  | a :: b :: rest => (units16? order rest).map (unit order [a, b] :: ·)
  | _ => none

/-- The units of four bytes each. -/
def units32? (order : ByteOrder) : List UInt8 → Option (List Nat)
  | [] => some []
  | a :: b :: c :: d :: rest => (units32? order rest).map (unit order [a, b, c, d] :: ·)
  | _ => none

/-- The characters of units of two bytes. -/
def charsOfUnits : List Nat → List Char
  | [] => []
  | [n] => [charOfCode n]
  | n :: m :: rest =>
    if isHighHalf n && isLowHalf m then charOfPair n m :: charsOfUnits rest
    else charOfCode n :: charsOfUnits (m :: rest)

/-- The character of a unit of four bytes. -/
def charOfUnit? (n : Nat) : Option Char :=
  if n ≤ 0x10FFFF then some (charOfCode n) else none

/-- UTF-8 without the mark of the order of bytes that can stand in front of it. -/
def withoutMark : List UInt8 → List UInt8
  | 0xEF :: 0xBB :: 0xBF :: bytes => bytes
  | bytes => bytes

/-- The text that bytes encode, if they encode one. -/
def decode? (bytes : List UInt8) : Encoding → Option (List Char)
  | utf8 => Utf8.decode? (withoutMark bytes)
  | utf16 order => (units16? order bytes).map charsOfUnits
  | utf32 order => (units32? order bytes).bind (·.mapM charOfUnit?)

end Encoding

end UnitConversion.Text
