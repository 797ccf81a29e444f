import UnitConversion.Text.Character

/-!
# UTF-8

The text that some bytes encode. Every character has exactly one encoding, the shortest one.

Bytes are read one after the other. A run of bytes that starts like a character but does not go on
like one is broken, and reading starts afresh behind it. `pieces` keeps the broken runs beside the
characters; `decode?` is the text of bytes that have none.
-/

namespace UnitConversion.Text.Utf8

/-- What is read at one place: a character, or a broken run of bytes. -/
inductive Piece where
  | char (char : Char)
  | broken (bytes : List UInt8)
  deriving DecidableEq

/-- A character that has been read in part. -/
structure Pending where
  /-- The bytes read so far, the last one first. -/
  read : List UInt8
  /-- The number of bytes that are still to come, less one. -/
  left : Nat
  /-- The bits read so far. -/
  code : Nat
  /-- The least and the greatest next byte. -/
  low : Nat
  high : Nat

/-- What a first byte of several begins: codes that have shorter encodings, halves of pairs and
codes beyond the last character are left out by the range of the second byte. -/
def Pending.start? (b : UInt8) : Option Pending :=
  let n := b.toNat
  if 0xC2 ≤ n ∧ n ≤ 0xDF then some ⟨[b], 0, n - 0xC0, 0x80, 0xBF⟩
  else if n = 0xE0 then some ⟨[b], 1, 0, 0xA0, 0xBF⟩
  else if n = 0xED then some ⟨[b], 1, 0xD, 0x80, 0x9F⟩
  else if 0xE1 ≤ n ∧ n ≤ 0xEF then some ⟨[b], 1, n - 0xE0, 0x80, 0xBF⟩
  else if n = 0xF0 then some ⟨[b], 2, 0, 0x90, 0xBF⟩
  else if n = 0xF4 then some ⟨[b], 2, 4, 0x80, 0x8F⟩
  else if 0xF1 ≤ n ∧ n ≤ 0xF3 then some ⟨[b], 2, n - 0xF0, 0x80, 0xBF⟩
  else none

/-- The character with one more byte. -/
def Pending.extend (p : Pending) (b : UInt8) : Pending :=
  ⟨b :: p.read, p.left - 1, p.code * 64 + (b.toNat - 0x80), 0x80, 0xBF⟩

/-- Whether a byte goes on with the character. -/
def Pending.accepts (p : Pending) (b : UInt8) : Bool :=
  p.low ≤ b.toNat && b.toNat ≤ p.high

/-- The broken run that is left of a character that does not go on. -/
def brokenOf : Option Pending → List Piece
  | none => []
  | some p => [.broken p.read.reverse]

/-- What a byte gives that begins something new, and the character that it begins. -/
def begin (b : UInt8) : List Piece × Option Pending :=
  if b.toNat < 0x80 then ([.char (Char.ofNat b.toNat)], none)
  else match Pending.start? b with
    | some p => ([], some p)
    | none => ([.broken [b]], none)

/-- What a byte gives, and the character that is pending then. -/
def step (pending : Option Pending) (b : UInt8) : List Piece × Option Pending :=
  match pending with
  | none => begin b
  | some p =>
    if p.accepts b then
      match p.left with
      | 0 => ([.char (Char.ofNat (p.extend b).code)], none)
      | _ + 1 => ([], some (p.extend b))
    else
      let next := begin b
      (brokenOf (some p) ++ next.1, next.2)

/-- What bytes encode when a character is pending. -/
def piecesFrom (pending : Option Pending) : List UInt8 → List Piece
  | [] => brokenOf pending
  | b :: bs =>
    let next := step pending b
    next.1 ++ piecesFrom next.2 bs

/-- The characters that bytes encode, with the broken runs between them. -/
def pieces (bs : List UInt8) : List Piece :=
  piecesFrom none bs

/-- The character of a piece that is not broken. -/
def Piece.char? : Piece → Option Char
  | char c => some c
  | broken _ => none

/-- The text that some bytes encode, if none of them are broken. -/
def decode? (bs : List UInt8) : Option (List Char) :=
  (pieces bs).mapM Piece.char?

/-- The text that some bytes encode, with `replace` in the place of each broken run. -/
def decodeWith (replace : List UInt8 → List Char) (bs : List UInt8) : List Char :=
  (pieces bs).flatMap fun
    | .char c => [c]
    | .broken run => replace run

/-- The bytes that encode a text. -/
def encode (cs : List Char) : List UInt8 :=
  cs.flatMap String.utf8EncodeChar

/-- Writes every line end as a line feed. -/
def unifyLineEnds : List Char → List Char
  | [] => []
  | '\r' :: '\n' :: cs => '\n' :: unifyLineEnds cs
  | '\r' :: cs => '\n' :: unifyLineEnds cs
  | c :: cs => c :: unifyLineEnds cs

end UnitConversion.Text.Utf8
