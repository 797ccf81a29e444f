import UnitConversion.Proofs.Decimal.Reading

/-!
# Printed numbers are read back

A finite number is printed with all digits of its coefficient and so that its exponent can be read
off. So what is read from the printed text is the number itself, with the same coefficient and
exponent, unless its exponents cannot be written down at all.

* `Decimal.isDecimal_toChars`: finite numbers are printed as decimals.
* `Decimal.ofChars?_toChars`: the number that is read from the printed text.
* `Decimal.isWritable_of_add`, `Decimal.isWritable_of_div`: sums and quotients can be written down.
-/

namespace UnitConversion.Decimal

open Numeral

/-- Whether the exponents of a number can be written down. -/
def IsWritable : Decimal → Prop
  | .finite _ c e => smallestExponent ≤ e ∧ adjusted c e ≤ largestExponent
  | _ => True

theorem ofParts?_eq_some_iff {negative : Bool} {c : Nat} {e : Int} {d : Decimal} :
    ofParts? negative c e = some d ↔ IsWritable (.finite negative c e) ∧
    .finite negative c e = d := by
  rw [ofParts?, Option.ite_none_right_eq_some, Option.some_inj]
  exact Iff.rfl

theorem isWritable_of_ofParts? {negative : Bool} {c : Nat} {e : Int} {d : Decimal}
    (h : ofParts? negative c e = some d) : d.isFinite = true ∧ d.IsWritable := by
  obtain ⟨hwritable, rfl⟩ := ofParts?_eq_some_iff.1 h
  exact ⟨rfl, hwritable⟩

/-! ### Texts of numbers -/

/-- Whether a text is a decimal that is read as `± n * 10 ^ e`. -/
def Prints (text : List Char) (s : Bool) (n : Nat) (e : Int) : Prop :=
  IsDecimal text ∧ ofChars? text = ofParts? s n e

variable {sign exponent : List Char} {s : Bool} {k : Int}

theorem prints_digits (hsign : SignOf sign s) (n : Nat) (hexponent : ExponentOf exponent k) :
    Prints (sign ++ (digitsOf n ++ exponent)) s n k := by
  have hread := ofChars?_numeral hsign (isDigits_digitsOf n) .none hexponent
  rw [List.append_nil, digitsValue_digitsOf, List.nil_append, List.length_nil, Nat.cast_zero,
    sub_zero] at hread
  exact ⟨⟨sign, digitsOf n, [], exponent, rfl, hsign.isSign, isDigits_digitsOf n, .inl rfl,
    hexponent.isExponent⟩, hread⟩

theorem prints_pointed (hsign : SignOf sign s) {text : List Char} {n places : Nat}
    (htext : IsPointed text n places) (hplaces : 0 < places) (hexponent : ExponentOf exponent k) :
    Prints (sign ++ (text ++ exponent)) s n (k - places) := by
  obtain @⟨whole, fraction, hwhole, hfraction⟩ := htext
  have hplacesOf : PlacesOf ('.' :: fraction) fraction :=
    .point ⟨List.length_pos_iff.1 hplaces, hfraction⟩
  rw [List.append_assoc]
  exact ⟨⟨sign, whole, '.' :: fraction, exponent, rfl, hsign.isSign, hwhole, hplacesOf.isPlaces,
    hexponent.isExponent⟩, ofChars?_numeral hsign hwhole hplacesOf hexponent⟩

theorem withLeadingPoint_of_digitCount_eq_one {c : Nat} (h : digitCount c = 1) :
    withLeadingPoint (digitsOf c) = digitsOf c := by
  rw [← length_digitsOf, List.length_eq_one_iff] at h
  obtain ⟨d, hd⟩ := h
  rw [hd]
  rfl

theorem prints_toChars (s : Bool) (c : Nat) (e : Int) : Prints (toChars (.finite s c e)) s c e := by
  have hsign := signOf_signText s
  unfold toChars
  dsimp only
  split
  · next hplain =>
      by_cases he : e = 0
      · subst he
        simpa [withPoint] using prints_digits hsign c .none
      · have hplaces : 0 < e.natAbs := Int.natAbs_pos.2 he
        have hprints := prints_pointed hsign (isPointed_withPoint c hplaces) hplaces .none
        rwa [List.append_nil, show (0 : Int) - e.natAbs = e by omega] at hprints
  · have hexponent := exponentOf_signedExponent (.inr rfl) (adjusted c e)
    have hpos := digitCount_pos c
    rw [List.append_assoc]
    by_cases hone : digitCount c = 1
    · rw [withLeadingPoint_of_digitCount_eq_one hone]
      have hprints := prints_digits hsign c hexponent
      rwa [show adjusted c e = e by rw [adjusted, hone]; omega] at hprints ⊢
    · have hprints :=
        prints_pointed hsign (isPointed_withLeadingPoint (n := c) (by omega)) (by omega) hexponent
      rwa [show adjusted c e - (digitCount c - 1 : Nat) = e by rw [adjusted]; omega] at hprints

/-- Finite numbers are printed as decimals. -/
theorem isDecimal_toChars {d : Decimal} (h : d.isFinite = true) : IsDecimal d.toChars := by
  obtain ⟨s, c, e, rfl⟩ := exists_of_isFinite h
  exact (prints_toChars s c e).1

/-- What is read from a printed number is the number itself. -/
theorem ofChars?_toChars {d : Decimal} (h : d.isFinite = true ∧ d.IsWritable) :
    ofChars? d.toChars = some d := by
  obtain ⟨s, c, e, rfl⟩ := exists_of_isFinite h.1
  rw [(prints_toChars s c e).2, ofParts?_eq_some_iff.2 ⟨h.2, rfl⟩]

/-! ### Results of operations -/

variable {ctx : Context}

/-- No result of a context has an exponent below the least one, not even a zero. -/
theorem leastExponent_le_of_finish {s s' : Bool} {c c' : Nat} {e e' : Int}
    (hprecision : 0 < ctx.precision) (h : ctx.finish s c e = .ok (.finite s' c' e')) :
    ctx.leastExponent ≤ e' := by
  by_cases hc' : c' = 0
  · unfold Context.finish at h
    dsimp only at h
    split_ifs at h with hc hover htiny hlow hexact hover'
    · cases h
      exact le_max_left _ _
    · cases h
      exact le_rfl
    · cases h
      omega
    · cases h
      obtain ⟨hdigits, hleading, -⟩ := roundToDigits_spec ctx.tie hprecision hc
      unfold adjusted at htiny
      unfold Context.leastExponent
      omega
  · exact (Context.finish_fits hprecision h).2.2 hc'

theorem isWritable_of_finish {s : Bool} {c : Nat} {e : Int} {d : Decimal}
    (h : Context.conversion.finish s c e = .ok d) : d.isFinite = true ∧ d.IsWritable := by
  have hfits := Context.finish_fits (by decide) h
  obtain ⟨s', c', e', rfl⟩ := exists_of_isFinite (Context.isFinite_of_fits hfits)
  have hleast := leastExponent_le_of_finish (by decide) h
  have hlow : smallestExponent ≤ Context.conversion.leastExponent := by decide
  have hhigh : maxExponent ≤ largestExponent := by decide
  exact ⟨rfl, hlow.trans hleast, hfits.2.1.trans hhigh⟩

theorem isWritable_of_div {a b d : Decimal} (ha : a.isFinite = true) (hb : b.isFinite = true)
    (h : div .conversion a b = .ok d) : d.isFinite = true ∧ d.IsWritable := by
  obtain ⟨s₁, c₁, e₁, rfl⟩ := exists_of_isFinite ha
  obtain ⟨s₂, c₂, e₂, rfl⟩ := exists_of_isFinite hb
  simp only [div, undefined?] at h
  split at h
  · cases h
  · split at h
    · exact isWritable_of_finish h
    · exact isWritable_of_finish h

theorem isWritable_of_add {a b d : Decimal} (ha : a.isFinite = true) (hb : b.isFinite = true)
    (h : add .conversion a b = .ok d) : d.isFinite = true ∧ d.IsWritable := by
  obtain ⟨s₁, c₁, e₁, rfl⟩ := exists_of_isFinite ha
  obtain ⟨s₂, c₂, e₂, rfl⟩ := exists_of_isFinite hb
  simp only [add, undefined?] at h
  split at h
  · exact isWritable_of_finish h
  · exact isWritable_of_finish h

end UnitConversion.Decimal
