import UnitConversion.Suggestion.EditDistance
import Mathlib.Data.List.Basic
import Mathlib.Order.Bounds.Basic

/-!
# Edit distances are least numbers of edits

An edit inserts, deletes or replaces one character of a text. The rows that `distance` computes
hold, for all starts of the second text, the least number of edits that turn the first text into
them: the last characters of two texts are matched, or one of them is given up. What is known about
numbers of edits then holds of distances: they are symmetric, they satisfy the triangle inequality,
and they are bounded by the lengths of the texts. In a text, the characters U+BD800 to U+BDFFF stand
for lone surrogates, as `Text.surrogate?` says.

* `Suggestion.Edits`: a number of edits, one after the other.
* `Suggestion.Rows.Reads.run`: what the two rows hold after each character of the first text.
* `Suggestion.distance_eq`: the distance is the least number of edits, by the last characters of the
  texts.
* `Suggestion.near_of_edit`: one edit changes the number that is needed by one at most.
* `Suggestion.isEditDistance_distance`: the distance of two texts is the least number of edits
  between them.
-/

namespace UnitConversion

namespace Suggestion

/-- One character of a text is inserted, deleted or replaced. -/
inductive Edit : List Char → List Char → Prop where
  | insert (before after : List Char) (c : Char) : Edit (before ++ after) (before ++ c :: after)
  | delete (before after : List Char) (c : Char) : Edit (before ++ c :: after) (before ++ after)
  | replace (before after : List Char) (c d : Char) :
      Edit (before ++ c :: after) (before ++ d :: after)

/-- A text becomes another one by so many edits, one after the other. -/
inductive Edits : Nat → List Char → List Char → Prop where
  | refl (a : List Char) : Edits 0 a a
  | step {n : Nat} {a b c : List Char} : Edit a b → Edits n b c → Edits (n + 1) a c

/-- What the distances of texts are, and what follows for them. -/
structure IsEditDistance (d : List Char → List Char → Nat) : Prop where
  least : ∀ a b, IsLeast {n | Edits n a b} (d a b)
  symm : ∀ a b, d a b = d b a
  eq_zero_iff : ∀ a b, d a b = 0 ↔ a = b
  triangle : ∀ a b c, d a c ≤ d a b + d b c
  lower : ∀ a b, max a.length b.length - min a.length b.length ≤ d a b
  upper : ∀ a b, d a b ≤ max a.length b.length

/-! ### Edits -/

variable {a b c : List Char} {n m : Nat}

namespace Edit

theorem symm (h : Edit a b) : Edit b a := by
  cases h with
  | insert before after c => exact .delete before after c
  | delete before after c => exact .insert before after c
  | replace before after c d => exact .replace before after d c

theorem cons (x : Char) (h : Edit a b) : Edit (x :: a) (x :: b) := by
  cases h with
  | insert before after c => exact .insert (x :: before) after c
  | delete before after c => exact .delete (x :: before) after c
  | replace before after c d => exact .replace (x :: before) after c d

theorem reverse (h : Edit a b) : Edit a.reverse b.reverse := by
  cases h with
  | insert before after c => simpa using Edit.insert after.reverse before.reverse c
  | delete before after c => simpa using Edit.delete after.reverse before.reverse c
  | replace before after c d => simpa using Edit.replace after.reverse before.reverse c d

/-- An edit changes the length by one at most. -/
theorem length_le (h : Edit a b) : a.length ≤ b.length + 1 := by
  cases h <;> simp only [List.length_append, List.length_cons] <;> omega

end Edit

namespace Edits

theorem trans (hab : Edits n a b) (hbc : Edits m b c) : Edits (n + m) a c := by
  induction hab with
  | refl => simpa using hbc
  | step hedit _ ih =>
      rw [Nat.add_right_comm]
      exact .step hedit (ih hbc)

theorem single (h : Edit a b) : Edits 1 a b :=
  .step h (.refl b)

theorem symm (h : Edits n a b) : Edits n b a := by
  induction h with
  | refl a => exact .refl a
  | step hedit _ ih => exact ih.trans (single hedit.symm)

theorem cons (x : Char) (h : Edits n a b) : Edits n (x :: a) (x :: b) := by
  induction h with
  | refl a => exact .refl _
  | step hedit _ ih => exact .step (hedit.cons x) ih

theorem reverse (h : Edits n a b) : Edits n a.reverse b.reverse := by
  induction h with
  | refl a => exact .refl _
  | step hedit _ ih => exact .step hedit.reverse ih

theorem length_le (h : Edits n a b) : a.length ≤ b.length + n := by
  induction h with
  | refl a => exact le_rfl
  | step hedit _ ih =>
      have := hedit.length_le
      omega

/-- A text is written character by character, the last one first. -/
theorem insertAll (b : List Char) : Edits b.length [] b := by
  induction b with
  | nil => exact .refl []
  | cons d b ih => exact ih.trans (single (.insert [] b d))

theorem eq_of_zero (h : Edits 0 a b) : a = b := by
  cases h
  rfl

end Edits

/-! ### The least number of edits -/

/-- The least number of edits between two texts. Their first characters are matched, or one of them
is given up. -/
def leastEdits : List Char → List Char → Nat
  | [], b => b.length
  | a, [] => a.length
  | c :: a, d :: b =>
    min (min (leastEdits a (d :: b) + 1) (leastEdits (c :: a) b + 1))
      (leastEdits a b + if c = d then 0 else 1)
termination_by a b => a.length + b.length

@[simp]
theorem leastEdits_nil_left (b : List Char) : leastEdits [] b = b.length := by
  rw [leastEdits]

@[simp]
theorem leastEdits_nil_right (a : List Char) : leastEdits a [] = a.length := by
  cases a <;> simp [leastEdits]

theorem leastEdits_cons (c : Char) (a : List Char) (d : Char) (b : List Char) :
    leastEdits (c :: a) (d :: b) =
      min (min (leastEdits a (d :: b) + 1) (leastEdits (c :: a) b + 1))
        (leastEdits a b + if c = d then 0 else 1) := by
  rw [leastEdits]

/-- So many edits are enough. -/
theorem edits_leastEdits (a b : List Char) : Edits (leastEdits a b) a b := by
  induction a, b using leastEdits.induct with
  | case1 b =>
      rw [leastEdits_nil_left]
      exact .insertAll b
  | case2 a _ =>
      rw [leastEdits_nil_right]
      exact (Edits.insertAll a).symm
  | case3 c a d b delete insert replace =>
      have hchoice : leastEdits (c :: a) (d :: b) = leastEdits a (d :: b) + 1 ∨
          leastEdits (c :: a) (d :: b) = leastEdits (c :: a) b + 1 ∨
            leastEdits (c :: a) (d :: b) = leastEdits a b + if c = d then 0 else 1 := by
        rw [leastEdits_cons]
        omega
      rcases hchoice with h | h | h
      · rw [h]
        exact .step (.delete [] a c) delete
      · rw [h]
        exact .step (.insert [] (c :: a) d) (insert.cons d)
      · rw [h]
        split
        · next hsame =>
            rw [hsame]
            exact replace.cons d
        · exact .step (.replace [] a c d) (replace.cons d)

theorem leastEdits_self (a : List Char) : leastEdits a a = 0 := by
  induction a with
  | nil => rw [leastEdits_nil_left, List.length_nil]
  | cons c a ih => simp [leastEdits_cons, ih]

/-! ### No fewer edits are enough -/

/-- Whether no text is more than one edit farther from `a` than from `b`. -/
def Near (a b : List Char) : Prop :=
  ∀ e, leastEdits a e ≤ leastEdits b e + 1

theorem leastEdits_cons_right_le (a : List Char) (d : Char) (e : List Char) :
    leastEdits a (d :: e) ≤ leastEdits a e + 1 := by
  cases a with
  | nil => simp
  | cons c a =>
      rw [leastEdits_cons]
      omega

theorem near_delete (c : Char) (a : List Char) : Near (c :: a) a := by
  intro e
  cases e with
  | nil => simp
  | cons d e =>
      rw [leastEdits_cons]
      omega

theorem near_insert (c : Char) (a : List Char) : Near a (c :: a) := by
  intro e
  induction e with
  | nil =>
      simp only [leastEdits_nil_right, List.length_cons]
      omega
  | cons d e ih =>
      have hright := leastEdits_cons_right_le a d e
      rw [leastEdits_cons]
      omega

theorem near_replace (c d : Char) (a : List Char) : Near (c :: a) (d :: a) := by
  intro e
  induction e with
  | nil => simp
  | cons x e ih =>
      rw [leastEdits_cons, leastEdits_cons]
      split <;> split <;> omega

/-- A character in front of two texts keeps them near each other. -/
theorem Near.cons (x : Char) (h : Near a b) : Near (x :: a) (x :: b) := by
  intro e
  induction e with
  | nil =>
      have := h []
      simp only [leastEdits_nil_right, List.length_cons] at this ⊢
      omega
  | cons d e ih =>
      have hfront := h (d :: e)
      have hboth := h e
      rw [leastEdits_cons, leastEdits_cons]
      omega

theorem near_of_edit (h : Edit a b) : Near a b := by
  have hbefore (before : List Char) {a b : List Char} (hab : Near a b) :
      Near (before ++ a) (before ++ b) := by
    induction before with
    | nil => exact hab
    | cons x before ih => exact ih.cons x
  cases h with
  | insert before after c => exact hbefore before (near_insert c after)
  | delete before after c => exact hbefore before (near_delete c after)
  | replace before after c d => exact hbefore before (near_replace c d after)

/-- No number of edits between two texts is below the least one. -/
theorem leastEdits_le_of_edits (h : Edits n a b) : leastEdits a b ≤ n := by
  induction h with
  | refl a => rw [leastEdits_self]
  | @step n a b c hedit _ ih =>
      have := near_of_edit hedit c
      omega

theorem leastEdits_le_max (a b : List Char) : leastEdits a b ≤ max a.length b.length := by
  induction a, b using leastEdits.induct with
  | case1 b => simp
  | case2 a _ => simp
  | case3 c a d b delete insert replace =>
      rw [leastEdits_cons, List.length_cons, List.length_cons]
      split <;> omega

/-! ### Rows -/

/-- The row of a text whose last character comes first: the least numbers of edits between it and
the starts of another text. -/
structure IsRow (a b : List Char) (row : List Nat) : Prop where
  length : row.length = b.length + 1
  entry : ∀ k ≤ b.length, row.getD k 0 = leastEdits a (b.take k).reverse

namespace Rows

variable {rows : Rows} {x : Char} {above done ds : List Char}

/-- The row that is read is that of a text, and the one that is written over has its length. -/
structure Reads (a b : List Char) (rows : Rows) : Prop where
  previous : IsRow a b rows.previous
  length : rows.current.length = b.length + 1

theorem reads_start (b : List Char) : (start b).Reads [] b where
  previous := by
    refine ⟨List.length_range, fun k hk => ?_⟩
    have hlt : k < b.length + 1 := by omega
    simp [start, hk, hlt]
  length := List.length_replicate

/-- The row of the text with one more character is written up to some characters of `b`. -/
structure Written (x : Char) (a b done : List Char) (rows : Rows) :
    Prop extends rows.Reads a b where
  entry : ∀ k ≤ done.length, rows.current.getD k 0 = leastEdits (x :: a) (b.take k).reverse

/-- The entries left of, above and diagonally above an entry are what the least number of edits is
computed from. -/
theorem Written.write {d : Char} (h : rows.Written x a b done) (hb : b = done ++ d :: ds) :
    (rows.write (done.length + 1) x d).Written x a b (done ++ [d]) := by
  have hlength : done.length + 1 ≤ b.length := by simp [hb]
  have hdone : b.take done.length = done := by simp [hb]
  have hnext : b.take (done.length + 1) = done ++ [d] := by
    rw [hb, List.take_length_add_append, List.take_one, List.head?_cons, Option.toList_some]
  have habove := h.previous.entry (done.length + 1) hlength
  have hdiagonal := h.previous.entry done.length (by omega)
  have hleft := h.entry done.length le_rfl
  rw [hnext, List.reverse_append, List.reverse_singleton, List.singleton_append] at habove
  rw [hdone] at hdiagonal hleft
  have hwritten : rows.write (done.length + 1) x d =
      ⟨rows.previous, rows.current.set (done.length + 1)
        (leastEdits (x :: a) (d :: done.reverse))⟩ := by
    rw [Rows.write, Nat.add_sub_cancel, habove, hdiagonal, hleft, ← leastEdits_cons]
  rw [hwritten]
  refine ⟨⟨h.previous, by rw [List.length_set, h.length]⟩, fun k hk => ?_⟩
  rw [List.length_append, List.length_singleton] at hk
  obtain rfl | hk : k = done.length + 1 ∨ k ≤ done.length := by omega
  · have hplace : done.length + 1 < rows.current.length := by
      rw [h.length]
      omega
    simp [hnext, hplace]
  · rw [List.getD_eq_getElem?_getD, List.getElem?_set_ne (by omega),
      ← List.getD_eq_getElem?_getD, h.entry k hk]

theorem Written.fill (h : rows.Written x a b done) (hb : b = done ++ ds) :
    (rows.fill x (done.length + 1) ds).Written x a b b := by
  induction ds generalizing done rows with
  | nil =>
      rw [List.append_nil] at hb
      exact hb ▸ h
  | cons d ds ih =>
      have hnext := ih (h.write hb) (by simp [hb])
      rw [List.length_append] at hnext
      exact hnext

/-- Where the row of the text with one more character is written, it is read next. -/
theorem Reads.next (h : rows.Reads a b) (x : Char) :
    (rows.next b (a.length + 1) x).Reads (x :: a) b := by
  have hfirst : (Rows.mk rows.previous (rows.current.set 0 (a.length + 1))).Written x a b [] := by
    refine ⟨⟨h.previous, by rw [List.length_set, h.length]⟩, fun k hk => ?_⟩
    obtain rfl : k = 0 := Nat.le_zero.1 hk
    have hplace : 0 < rows.current.length := by
      rw [h.length]
      omega
    simp [hplace]
  have hfilled := hfirst.fill rfl
  exact ⟨⟨hfilled.length, hfilled.entry⟩, hfilled.previous.length⟩

theorem Reads.run (h : rows.Reads above b) (a : List Char) :
    (rows.run b (above.length + 1) a).Reads (a.reverse ++ above) b := by
  induction a generalizing above rows with
  | nil => exact h
  | cons x a ih =>
      rw [List.reverse_cons, List.append_assoc, List.singleton_append]
      exact ih (h.next x)

end Rows

/-- The last entry of the last row, by the last characters of the texts. -/
theorem distance_eq (a b : List Char) : distance a b = leastEdits a.reverse b.reverse := by
  unfold distance
  split
  · next hsame => rw [hsame, leastEdits_self]
  · split
    · next hempty => simp [List.isEmpty_iff.1 hempty]
    · split
      · next hempty => simp [List.isEmpty_iff.1 hempty]
      · have hrows := ((Rows.reads_start b).run a).previous.entry b.length le_rfl
        rwa [List.append_nil, List.take_length] at hrows

/-! ### Distances -/

theorem isLeast_distance (a b : List Char) : IsLeast {n | Edits n a b} (distance a b) := by
  rw [distance_eq]
  constructor
  · have hedits := (edits_leastEdits a.reverse b.reverse).reverse
    rwa [List.reverse_reverse, List.reverse_reverse] at hedits
  · intro n hn
    exact leastEdits_le_of_edits (Edits.reverse hn)

theorem distance_le_max (a b : List Char) : distance a b ≤ max a.length b.length := by
  have := leastEdits_le_max a.reverse b.reverse
  rwa [List.length_reverse, List.length_reverse, ← distance_eq] at this

/-- The distance of two texts is the least number of edits between them, with all that follows for
it. -/
theorem isEditDistance_distance : IsEditDistance distance where
  least := isLeast_distance
  symm a b := by
    -- The edits are undone one by one.
    have hle (a b : List Char) : distance a b ≤ distance b a :=
      (isLeast_distance a b).2 (isLeast_distance b a).1.symm
    exact le_antisymm (hle a b) (hle b a)
  eq_zero_iff a b := by
    constructor
    · intro h
      have hedits := (isLeast_distance a b).1
      rw [h] at hedits
      exact Edits.eq_of_zero hedits
    · rintro rfl
      exact Nat.le_zero.1 ((isLeast_distance a a).2 (.refl a))
  triangle a b c :=
    (isLeast_distance a c).2 ((isLeast_distance a b).1.trans (isLeast_distance b c).1)
  lower a b := by
    have hedits : Edits (distance a b) a b := (isLeast_distance a b).1
    have hfirst := hedits.length_le
    have hsecond := hedits.symm.length_le
    omega
  upper := distance_le_max

end Suggestion

end UnitConversion
