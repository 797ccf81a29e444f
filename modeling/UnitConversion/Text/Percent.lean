import UnitConversion.Text.Utf8

/-!
# Percent encoding

In the targets of requests a percent sign and two hexadecimal digits stand for a byte. Any other
percent sign stands for itself. The bytes together encode a text.
-/

namespace UnitConversion.Text.Percent

/-- The byte that two hexadecimal digits denote. -/
def byte? (a b : Char) : Option UInt8 := do
  let high ← hexValue? a
  let low ← hexValue? b
  some (high * 16 + low).toUInt8

/-- The bytes that a text stands for. -/
def bytes : List Char → List UInt8
  | [] => []
  | '%' :: a :: b :: cs =>
    match byte? a b with
    | some byte => byte :: bytes cs
    | none => 37 :: bytes (a :: b :: cs)
  | c :: cs => String.utf8EncodeChar c ++ bytes cs

/-- The hexadecimal digit of a number below sixteen. -/
def digit (n : Nat) : Char :=
  if n < 10 then Char.ofNat (48 + n) else Char.ofNat (55 + n)

/-- A byte in its encoded form. -/
def encodeByte (b : UInt8) : List Char :=
  ['%', digit (b.toNat / 16), digit (b.toNat % 16)]

/-- The text of a path: bytes that encode nothing become replacement characters. -/
def decodePath (cs : List Char) : List Char :=
  Utf8.decodeWith (fun _ => ['\uFFFD']) (bytes cs)

/-- The text of a part of a query: a plus sign stands for a space, and bytes that encode nothing
stay encoded. -/
def decodeQuery (cs : List Char) : List Char :=
  Utf8.decodeWith (·.flatMap encodeByte) (bytes (cs.map fun c => if c = '+' then ' ' else c))

end UnitConversion.Text.Percent
