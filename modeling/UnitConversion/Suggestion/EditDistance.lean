import UnitConversion.Binary64.Basic

/-!
# Edit distance and similarity

The edit distance of two texts counts the characters that have to be inserted, deleted or replaced
to turn one into the other. It is computed row by row: the row of a character holds, for every start
of the second text, the distance from the first text up to that character. Two rows are enough: one
is read while the other is written over, and then they change places.

The similarity of two texts is one minus their distance divided by the length of the longer one,
both steps rounded to doubles.
-/

namespace UnitConversion.Suggestion

/-- Two rows of numbers: one that is read, and one that is written over. -/
structure Rows where
  previous : List Nat
  current : List Nat

namespace Rows

/-- The rows to start with: that of the empty text, and one with nothing in it yet. -/
def start (b : List Char) : Rows :=
  ⟨List.range (b.length + 1), List.replicate (b.length + 1) 0⟩

/-- Writes the entry for two characters at the place `j`. -/
def write (rows : Rows) (j : Nat) (c d : Char) : Rows :=
  let cost := if c = d then 0 else 1
  let entry := min (min (rows.previous.getD j 0 + 1) (rows.current.getD (j - 1) 0 + 1))
    (rows.previous.getD (j - 1) 0 + cost)
  { rows with current := rows.current.set j entry }

/-- Writes the entries for a character and those of a text, from the place `j` on. -/
def fill (c : Char) : Nat → List Char → Rows → Rows
  | _, [], rows => rows
  | j, d :: ds, rows => fill c (j + 1) ds (rows.write j c d)

/-- Writes the row of the `i`-th character, which is read from then on. -/
def next (b : List Char) (i : Nat) (c : Char) (rows : Rows) : Rows :=
  let filled := fill c 1 b { rows with current := rows.current.set 0 i }
  ⟨filled.current, filled.previous⟩

/-- Writes the rows of some characters, of which the first is the `i`-th. -/
def run (b : List Char) : Nat → List Char → Rows → Rows
  | _, [], rows => rows
  | i, c :: cs, rows => run b (i + 1) cs (rows.next b i c)

end Rows

/-- The edit distance of two texts. -/
def distance (a b : List Char) : Nat :=
  if a = b then 0
  else if a.isEmpty then b.length
  else if b.isEmpty then a.length
  else ((Rows.start b).run b 1 a).previous.getD b.length 0

/-- The similarity of two texts, between zero and one. -/
def similarity (a b : List Char) : Binary64 :=
  let longer := max a.length b.length
  if longer = 0 then Binary64.ofInt 1
  else (Binary64.nearest false (distance a b) longer).complement

/-- The similarity that suggestions need, unless settings say otherwise. -/
def standardSimilarity : Binary64 :=
  Binary64.nearest false 3 10

end UnitConversion.Suggestion
