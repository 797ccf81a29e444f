import UnitConversion.Request.Numeral

/-!
# The forms of numerals

What a numeral looks like, said without reference to how it is read: a decimal perhaps with an
exponent, a fraction of two whole numbers, or a whole number and a fraction with blanks between
them.

* `Numeral.isDecimal_iff`, `Numeral.isSome_fraction?_iff`: the tests of the reader accept exactly
  the first two forms.
* `Numeral.SignOf`, `Numeral.PlacesOf`, `Numeral.ExponentOf`: the parts of a decimal with what they
  mean.
* `Numeral.IsNumeral`: the three forms together.
-/

namespace UnitConversion

/-- A run of characters of one class ends where the first other character stands. -/
theorem span_append {p : Char → Bool} {xs ys : List Char} (hxs : ∀ c ∈ xs, p c = true)
    (hys : ∀ c ∈ ys.head?, p c = false) :
    (xs ++ ys).takeWhile p = xs ∧ (xs ++ ys).dropWhile p = ys := by
  rw [List.takeWhile_append_of_pos hxs, List.dropWhile_append_of_pos hxs]
  cases ys with
  | nil => simp
  | cons c ys =>
      have hc : p c = false := hys c rfl
      simp [hc]

/-- What is left of a list behind a run starts with a character of another class. -/
theorem head?_dropWhile_eq_false {p : Char → Bool} (cs : List Char) :
    ∀ c ∈ (cs.dropWhile p).head?, p c = false := by
  intro c hc
  have hnot := List.head?_dropWhile_not p cs
  rw [Option.mem_def.1 hc] at hnot
  simpa using hnot

theorem mem_takeWhile {p : Char → Bool} {cs : List Char} {c : Char} (hc : c ∈ cs.takeWhile p) :
    p c = true := by
  have := List.all_takeWhile (l := cs) (p := p)
  exact List.all_eq_true.1 this c hc

namespace Numeral

open Decimal (isDigitChar splitSign splitDigits)

/-- Digits, at least one. -/
def IsDigits (cs : List Char) : Prop :=
  cs ≠ [] ∧ ∀ c ∈ cs, isDigitChar c = true

/-- A sign, or nothing. -/
def IsSign (cs : List Char) : Prop :=
  cs = [] ∨ cs = ['+'] ∨ cs = ['-']

/-- A point and digits, or nothing. -/
def IsPlaces (cs : List Char) : Prop :=
  cs = [] ∨ ∃ digits, cs = '.' :: digits ∧ IsDigits digits

/-- The letter of an exponent, perhaps a sign, and digits. -/
def IsExponent (cs : List Char) : Prop :=
  ∃ letter sign digits, cs = letter :: (sign ++ digits) ∧
    (letter = 'e' ∨ letter = 'E') ∧ IsSign sign ∧ IsDigits digits

/-- A decimal, signed or not, with places or without, perhaps with an exponent. -/
def IsDecimal (cs : List Char) : Prop :=
  ∃ sign whole places exponent, cs = sign ++ (whole ++ (places ++ exponent)) ∧ IsSign sign ∧
    IsDigits whole ∧ IsPlaces places ∧ (exponent = [] ∨ IsExponent exponent)

/-- Two whole numbers with a slash between them. -/
def IsFraction (cs : List Char) : Prop :=
  ∃ numerator denominator, cs = numerator ++ '/' :: denominator ∧ IsDigits numerator ∧
    IsDigits denominator

/-- Blanks, at least one. -/
def IsGap (cs : List Char) : Prop :=
  cs ≠ [] ∧ ∀ c ∈ cs, Text.isBlank c = true

/-- A whole number and a fraction with blanks between them. -/
def IsMixed (cs : List Char) : Prop :=
  ∃ whole gap fraction, cs = whole ++ (gap ++ fraction) ∧ IsDigits whole ∧ IsGap gap ∧
    IsFraction fraction

/-- A sign, or nothing, and whether it is a minus. -/
inductive SignOf : List Char → Bool → Prop where
  | none : SignOf [] false
  | plus : SignOf ['+'] false
  | minus : SignOf ['-'] true

/-- A point with digits behind it, or nothing, and these digits. -/
inductive PlacesOf : List Char → List Char → Prop where
  | none : PlacesOf [] []
  | point {digits : List Char} (hdigits : IsDigits digits) : PlacesOf ('.' :: digits) digits

/-- An exponent, or nothing, and the number that it is. -/
inductive ExponentOf : List Char → Int → Prop where
  | none : ExponentOf [] 0
  | letter {letter : Char} {sign digits : List Char} {negative : Bool}
      (hletter : letter = 'e' ∨ letter = 'E') (hsign : SignOf sign negative)
      (hdigits : IsDigits digits) :
      ExponentOf (letter :: (sign ++ digits))
        (Decimal.signed negative (Nat.ofDigitChars 10 digits 0))

/-- A numeral of any of the three forms. -/
def IsNumeral (cs : List Char) : Prop :=
  IsDecimal cs ∨ IsFraction cs ∨ IsMixed cs

theorem isDigitChar_iff (c : Char) : isDigitChar c = true ↔ 48 ≤ c.toNat ∧ c.toNat ≤ 57 := by
  simp only [isDigitChar, Bool.and_eq_true, decide_eq_true_eq, Char.le_def, UInt32.le_iff_toNat_le]
  exact Iff.rfl

theorem isWhole_iff (cs : List Char) : isWhole cs = true ↔ IsDigits cs := by
  simp [isWhole, IsDigits]

theorem SignOf.isSign {sign : List Char} {negative : Bool} (h : SignOf sign negative) :
    IsSign sign := by
  cases h with
  | none => exact .inl rfl
  | plus => exact .inr (.inl rfl)
  | minus => exact .inr (.inr rfl)

theorem IsSign.exists_signOf {sign : List Char} (h : IsSign sign) :
    ∃ negative, SignOf sign negative := by
  rcases h with rfl | rfl | rfl
  · exact ⟨_, .none⟩
  · exact ⟨_, .plus⟩
  · exact ⟨_, .minus⟩

theorem PlacesOf.isPlaces {places digits : List Char} (h : PlacesOf places digits) :
    IsPlaces places := by
  cases h with
  | none => exact .inl rfl
  | point hdigits => exact .inr ⟨digits, rfl, hdigits⟩

theorem IsPlaces.exists_placesOf {places : List Char} (h : IsPlaces places) :
    ∃ digits, PlacesOf places digits := by
  rcases h with rfl | ⟨digits, rfl, hdigits⟩
  · exact ⟨_, .none⟩
  · exact ⟨_, .point hdigits⟩

theorem ExponentOf.isExponent {exponent : List Char} {k : Int} (h : ExponentOf exponent k) :
    exponent = [] ∨ IsExponent exponent := by
  cases h with
  | none => exact .inl rfl
  | letter hletter hsign hdigits => exact .inr ⟨_, _, _, rfl, hletter, hsign.isSign, hdigits⟩

theorem exists_exponentOf {exponent : List Char} (h : exponent = [] ∨ IsExponent exponent) :
    ∃ k, ExponentOf exponent k := by
  rcases h with rfl | ⟨letter, sign, digits, rfl, hletter, hsign, hdigits⟩
  · exact ⟨_, .none⟩
  · obtain ⟨negative, hsign⟩ := hsign.exists_signOf
    exact ⟨_, .letter hletter hsign hdigits⟩

theorem IsDecimal.ne_nil {cs : List Char} (h : IsDecimal cs) : cs ≠ [] := by
  obtain ⟨sign, whole, places, exponent, rfl, -, hwhole, -⟩ := h
  simp [hwhole.1]

/-- The characters of decimals other than digits. -/
def decimalMarks : List Char :=
  ['+', '-', '.', 'e', 'E']

/-- A decimal consists of digits and a few other characters. -/
theorem mem_of_isDecimal {cs : List Char} (h : IsDecimal cs) :
    ∀ c ∈ cs, isDigitChar c = true ∨ c ∈ decimalMarks := by
  have hsigns {sign : List Char} (hsign : IsSign sign) : ∀ c ∈ sign, isDigitChar c = true ∨
      c ∈ decimalMarks := by
    rcases hsign with rfl | rfl | rfl <;> simp [decimalMarks]
  obtain ⟨sign, whole, places, exponent, rfl, hsign, hwhole, hplaces, hexponent⟩ := h
  simp only [List.forall_mem_append]
  refine ⟨hsigns hsign, fun c hc => .inl (hwhole.2 c hc), ?_, ?_⟩
  · rcases hplaces with rfl | ⟨digits, rfl, hdigits⟩
    · simp
    · exact List.forall_mem_cons.2 ⟨.inr (by decide), fun c hc => .inl (hdigits.2 c hc)⟩
  · rcases hexponent with rfl | ⟨letter, sign', digits, rfl, hletter, hsign', hdigits⟩
    · simp
    · refine List.forall_mem_cons.2 ⟨.inr ?_, List.forall_mem_append.2 ⟨hsigns hsign', ?_⟩⟩
      · rcases hletter with rfl | rfl <;> decide
      · exact fun c hc => .inl (hdigits.2 c hc)

theorem ne_sign_of_isDigitChar {c : Char} (hc : isDigitChar c = true) : c ≠ '-' ∧ c ≠ '+' := by
  constructor <;> rintro rfl <;> exact absurd hc (by decide)

/-- A sign is split off what does not start with one. -/
theorem splitSign_append {sign cs : List Char} {negative : Bool} (hsign : SignOf sign negative)
    (hcs : ∀ c ∈ cs.head?, c ≠ '-' ∧ c ≠ '+') : splitSign (sign ++ cs) = (negative, cs) := by
  cases hsign with
  | none =>
      rw [List.nil_append]
      unfold splitSign
      split
      · exact absurd rfl (hcs '-' rfl).1
      · exact absurd rfl (hcs '+' rfl).2
      · rfl
  | plus => rfl
  | minus => rfl

theorem exists_sign (cs : List Char) : ∃ sign, IsSign sign ∧ cs = sign ++ (splitSign cs).2 := by
  unfold splitSign
  split
  · exact ⟨['-'], .inr (.inr rfl), rfl⟩
  · exact ⟨['+'], .inr (.inl rfl), rfl⟩
  · exact ⟨[], .inl rfl, rfl⟩

theorem head?_of_isDigits {cs : List Char} (hcs : IsDigits cs) (rest : List Char) :
    ∀ c ∈ (cs ++ rest).head?, isDigitChar c = true := by
  obtain ⟨hne, hall⟩ := hcs
  cases cs with
  | nil => exact absurd rfl hne
  | cons c cs =>
      intro d hd
      obtain rfl := Option.some.inj hd
      exact hall c (by simp)

theorem IsDigits.append_head?_ne_sign {cs : List Char} (hcs : IsDigits cs) (rest : List Char) :
    ∀ c ∈ (cs ++ rest).head?, c ≠ '-' ∧ c ≠ '+' := fun c hc =>
  ne_sign_of_isDigitChar (head?_of_isDigits hcs rest c hc)

theorem IsDigits.head?_ne_sign {cs : List Char} (hcs : IsDigits cs) :
    ∀ c ∈ cs.head?, c ≠ '-' ∧ c ≠ '+' := by
  simpa using hcs.append_head?_ne_sign []

theorem isExponent_iff (cs : List Char) : isExponent cs = true ↔ IsExponent cs := by
  constructor
  · intro h
    cases cs with
    | nil => cases h
    | cons letter rest =>
        simp only [isExponent, Bool.and_eq_true, Bool.or_eq_true, beq_iff_eq, isWhole_iff] at h
        obtain ⟨sign, hsign, hsplit⟩ := exists_sign rest
        exact ⟨letter, sign, (splitSign rest).2, by rw [← hsplit], h.1, hsign, h.2⟩
  · rintro ⟨letter, sign, digits, rfl, hletter, hsign, hdigits⟩
    obtain ⟨negative, hsign⟩ := hsign.exists_signOf
    simp only [isExponent, Bool.and_eq_true, Bool.or_eq_true, beq_iff_eq]
    rw [splitSign_append hsign hdigits.head?_ne_sign, isWhole_iff]
    exact ⟨hletter, hdigits⟩

/-- What follows the digits of a decimal: places, and perhaps an exponent. -/
private theorem head?_places {places exponent : List Char} (hplaces : IsPlaces places)
    (hexponent : exponent = [] ∨ IsExponent exponent) :
    ∀ c ∈ (places ++ exponent).head?, isDigitChar c = false := by
  intro c hc
  rcases hplaces with rfl | ⟨digits, rfl, -⟩
  · rcases hexponent with rfl | ⟨letter, sign, digits, rfl, hletter, -⟩
    · cases hc
    · obtain rfl := Option.some.inj hc
      rcases hletter with rfl | rfl <;> decide
  · obtain rfl := Option.some.inj hc
    decide

/-- What is left behind the places of a decimal. A point without digits behind it is no place. -/
def behindPlaces : List Char → List Char
  | '.' :: cs => if (splitDigits cs).1.isEmpty then '.' :: cs else (splitDigits cs).2
  | cs => cs

/-- What ends a decimal behind its whole part. -/
theorem behindPlaces_iff (cs : List Char) : (behindPlaces cs = [] ∨ IsExponent (behindPlaces cs)) ↔
    ∃ places exponent, cs = places ++ exponent ∧ IsPlaces places ∧
      (exponent = [] ∨ IsExponent exponent) := by
  constructor
  · intro h
    unfold behindPlaces at h
    split at h
    · next cs =>
        split at h
        · -- The point would be the letter of an exponent.
          rcases h with h | ⟨letter, sign, digits, h, hletter, -⟩
          · cases h
          · obtain ⟨rfl, -⟩ := List.cons.inj h
            rcases hletter with hletter | hletter <;> cases hletter
        · next hdigits =>
            rw [List.isEmpty_iff] at hdigits
            refine ⟨'.' :: (splitDigits cs).1, (splitDigits cs).2, ?_,
              .inr ⟨_, rfl, hdigits, fun c hc => mem_takeWhile hc⟩, h⟩
            rw [List.cons_append, splitDigits, List.takeWhile_append_dropWhile]
    · exact ⟨[], _, rfl, .inl rfl, h⟩
  · rintro ⟨places, exponent, rfl, rfl | ⟨digits, rfl, hdigits⟩, hexponent⟩
    · rcases hexponent with rfl | hexponent
      · exact .inl rfl
      · right
        obtain ⟨letter, sign, digits, rfl, hletter, -⟩ := id hexponent
        rcases hletter with rfl | rfl <;> exact hexponent
    · obtain ⟨htake, hdrop⟩ := span_append hdigits.2 (head?_places (.inl rfl) hexponent)
      rw [List.nil_append] at htake hdrop
      simpa [behindPlaces, splitDigits, htake, hdrop, hdigits.1] using hexponent

/-- The reader cuts off a sign, the whole part and the places, and tests what is left. -/
theorem isDecimal_eq_true_iff (cs : List Char) : isDecimal cs = true ↔
    IsDigits (splitDigits (splitSign cs).2).1 ∧
      (behindPlaces (splitDigits (splitSign cs).2).2 = [] ∨
        IsExponent (behindPlaces (splitDigits (splitSign cs).2).2)) := by
  have hread : isDecimal cs = (!(splitDigits (splitSign cs).2).1.isEmpty &&
      ((behindPlaces (splitDigits (splitSign cs).2).2).isEmpty ||
        isExponent (behindPlaces (splitDigits (splitSign cs).2).2))) := rfl
  have hdigits : IsDigits (splitDigits (splitSign cs).2).1 ↔
      (splitDigits (splitSign cs).2).1 ≠ [] :=
    and_iff_left fun c hc => mem_takeWhile hc
  rw [hread, hdigits, Bool.and_eq_true, Bool.not_eq_true', List.isEmpty_eq_false_iff,
    Bool.or_eq_true, List.isEmpty_iff, isExponent_iff]

theorem isDecimal_iff (cs : List Char) : isDecimal cs = true ↔ IsDecimal cs := by
  rw [isDecimal_eq_true_iff, behindPlaces_iff]
  constructor
  · rintro ⟨hwhole, places, exponent, hrest, hplaces, hexponent⟩
    obtain ⟨sign, hsign, hcs⟩ := exists_sign cs
    refine ⟨sign, _, places, exponent, ?_, hsign, hwhole, hplaces, hexponent⟩
    rw [← hrest, splitDigits, List.takeWhile_append_dropWhile, ← hcs]
  · rintro ⟨sign, whole, places, exponent, rfl, hsign, hwhole, hplaces, hexponent⟩
    obtain ⟨htake, hdrop⟩ := span_append hwhole.2 (head?_places hplaces hexponent)
    obtain ⟨negative, hsign⟩ := hsign.exists_signOf
    rw [splitSign_append hsign (hwhole.append_head?_ne_sign _), splitDigits, htake, hdrop]
    exact ⟨hwhole, places, exponent, rfl, hplaces, hexponent⟩

theorem fraction?_eq_some_iff {cs : List Char} {n d : Nat} :
    fraction? cs = some (n, d) ↔ ∃ numerator denominator, cs = numerator ++ '/' :: denominator ∧
      IsDigits numerator ∧ IsDigits denominator ∧ Text.digitsValue numerator = n ∧
        Text.digitsValue denominator = d := by
  unfold fraction?
  constructor
  · intro h
    have hsplit := List.takeWhile_append_dropWhile (p := (· != '/')) (l := cs)
    dsimp only at h
    split at h
    · next denominator hfound =>
        split at h
        · next hwhole =>
            rw [Bool.and_eq_true, isWhole_iff, isWhole_iff] at hwhole
            obtain ⟨rfl, rfl⟩ := Prod.mk.inj (Option.some.inj h)
            exact ⟨_, denominator, by rw [← hfound, hsplit], hwhole.1, hwhole.2, rfl, rfl⟩
        · cases h
    · cases h
  · rintro ⟨numerator, denominator, rfl, hnumerator, hdenominator, rfl, rfl⟩
    have hclean : ∀ c ∈ numerator, (c != '/') = true := by
      intro c hc
      have hdigit := hnumerator.2 c hc
      rw [bne_iff_ne]
      rintro rfl
      exact absurd hdigit (by decide)
    have hslash : ∀ c ∈ ('/' :: denominator).head?, (c != '/') = false := by
      intro c hc
      obtain rfl := Option.some.inj hc
      decide
    obtain ⟨htake, hdrop⟩ := span_append hclean hslash
    simp only [htake, hdrop, (isWhole_iff _).2 hnumerator, (isWhole_iff _).2 hdenominator,
      Bool.and_self, if_true]

theorem isSome_fraction?_iff (cs : List Char) : (fraction? cs).isSome = true ↔ IsFraction cs := by
  rw [Option.isSome_iff_exists]
  constructor
  · rintro ⟨⟨n, d⟩, h⟩
    obtain ⟨numerator, denominator, hcs, hnumerator, hdenominator, -⟩ := fraction?_eq_some_iff.1 h
    exact ⟨numerator, denominator, hcs, hnumerator, hdenominator⟩
  · rintro ⟨numerator, denominator, hcs, hnumerator, hdenominator⟩
    exact ⟨_, fraction?_eq_some_iff.2 ⟨numerator, denominator, hcs, hnumerator,
      hdenominator, rfl, rfl⟩⟩

end Numeral

end UnitConversion
