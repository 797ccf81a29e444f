import UnitConversion.Proofs.Decimal.Printing
import UnitConversion.Proofs.Decimal.Relative
import UnitConversion.Proofs.Request.Division

/-!
# What numerals denote

The exact rational number that a numeral of each form denotes, and what the reader makes of it: a
decimal is read as it stands, a fraction is one rounded division, and a mixed number is such a
division and one rounded sum after it. In a text, the characters U+BD800 to U+BDFFF stand for lone
surrogates, as `Text.surrogate?` says.

* `Numeral.ofChars?_eq_some_iff`: the form of a text is the numeral that is found, and no text has
  two forms.
* `Numeral.DecimalOf`, `Numeral.FractionOf`, `Numeral.MixedOf`: the forms with the numbers that they
  denote.
* `Near.add_left`, `Near.roundable`: how an error goes through a sum, and which sizes leave it in
  range.
* `Numeral.readsNumerals`: which texts are read as a number, and how far it is from what they
  denote.
-/

namespace UnitConversion

/-! ### Errors of sums -/

namespace Near

variable {n : Nat} {a b w : Rat}

/-- Adding a number of the same sign to both sides makes a relative error no larger. -/
theorem add_left (h : Near n a b) (hw : 0 ≤ w) (hb : 0 ≤ b) : Near n (w + a) (w + b) := by
  obtain ⟨θ, rfl, hlow, hhigh⟩ := h
  have hpow : 0 < (1 - unitRoundoff) ^ n := pow_pos one_sub_unitRoundoff_pos n
  have hone : (1 - unitRoundoff) ^ n ≤ 1 :=
    pow_le_one₀ one_sub_unitRoundoff_pos.le one_sub_unitRoundoff_le
  rcases (add_nonneg hw hb).eq_or_lt with hzero | hpos
  · obtain ⟨rfl, rfl⟩ := (add_eq_zero_iff_of_nonneg hw hb).1 hzero.symm
    exact ⟨θ, by ring, hlow, hhigh⟩
  · -- The factor of the sums is a mean of one and of the factor given.
    refine ⟨(w + θ * b) / (w + b), by field_simp, ?_, ?_⟩
    · rw [le_div_iff₀ hpos]
      nlinarith
    · rw [div_mul_eq_mul_div, div_le_one₀ hpos]
      nlinarith

/-- What is near a number that is neither very small nor very large can be rounded. -/
theorem roundable (h : Near n a b) (hn : n ≤ 32) {k : Nat} (hk : k ≤ 1000)
    (hlow : b = 0 ∨ 1 ≤ |b| * 10 ^ k) (hhigh : |b| ≤ 10 ^ k) : Roundable a := by
  have htwice := h.le_two_mul hn
  have hhalf := h.half_le hn
  have hpos : (0 : Rat) < 10 ^ k := by positivity
  have hmin : minExponent ≤ -1001 := by decide
  have hmax : 1001 ≤ maxExponent := by decide
  refine ⟨hlow.imp ?_ fun hlow => ?_, ?_⟩
  · rintro rfl
    obtain ⟨θ, rfl, -⟩ := h
    exact mul_zero θ
  · have hone : 1 ≤ |a| * 10 ^ (k + 1) := by
      rw [pow_succ]
      nlinarith
    calc (10 : Rat) ^ minExponent ≤ 10 ^ (-((k + 1 : Nat) : Int)) :=
          zpow_le_zpow_right₀ (by norm_num) (by omega)
      _ = (10 ^ (k + 1))⁻¹ := by rw [zpow_neg, zpow_natCast]
      _ ≤ |a| := (inv_le_iff_one_le_mul₀ (by positivity)).2 hone
  · calc |a| ≤ 2 * 10 ^ k := by linarith
      _ < 10 ^ (k + 1) := by
        rw [pow_succ]
        linarith
      _ = 10 ^ ((k + 1 : Nat) : Int) := (zpow_natCast _ _).symm
      _ ≤ 10 ^ maxExponent := zpow_le_zpow_right₀ (by norm_num) (by omega)

end Near

namespace Numeral

open Decimal (splitDigits)
open Request (isGap_takeWhile not_isBlank_of_digit not_isBlank_of_isDigits not_isBlank_of_isDecimal
  not_isBlank_of_isFraction isDecimal_of_isDigits)

/-! ### The form of a numeral -/

theorem mixed?_eq_some_iff {cs : List Char} {n : Numeral} : mixed? cs = some n ↔
    ∃ whole gap fraction a b, cs = whole ++ (gap ++ fraction) ∧ IsDigits whole ∧ IsGap gap ∧
      fraction? fraction = some (a, b) ∧ n = .mixed (Text.digitsValue whole) a b := by
  constructor
  · intro h
    have hsplit : (splitDigits cs).1 ++ (splitDigits cs).2 = cs := List.takeWhile_append_dropWhile
    simp only [mixed?] at h
    split at h
    · next c rest hrest =>
        rw [Option.ite_none_right_eq_some, Bool.and_eq_true, Bool.not_eq_true',
          List.isEmpty_eq_false_iff, Option.map_eq_some_iff] at h
        obtain ⟨⟨hblank, hwhole⟩, ⟨a, b⟩, hfraction, rfl⟩ := h
        rw [hrest] at hfraction
        have hgap := List.takeWhile_append_dropWhile (p := Text.isBlank) (l := c :: rest)
        exact ⟨_, _, _, a, b, by rw [hgap, ← hrest, hsplit], ⟨hwhole, fun d hd => mem_takeWhile hd⟩,
          isGap_takeWhile hblank, hfraction, rfl⟩
    · cases h
  · rintro ⟨whole, gap, fraction, a, b, rfl, hwhole, ⟨hne, hblanks⟩, hfraction, rfl⟩
    obtain ⟨c, gap, rfl⟩ := List.exists_cons_of_ne_nil hne
    have hblank : Text.isBlank c = true := hblanks c List.mem_cons_self
    have hend : ∀ d ∈ ((c :: gap) ++ fraction).head?, Decimal.isDigitChar d = false := by
      intro d hd
      obtain rfl := Option.some.inj hd
      by_contra hdigit
      rw [Bool.not_eq_false] at hdigit
      simp [not_isBlank_of_digit hdigit] at hblank
    have hstart : ∀ d ∈ fraction.head?, Text.isBlank d = false := by
      obtain ⟨numerator, denominator, rfl, hnumerator, -⟩ := fraction?_eq_some_iff.1 hfraction
      exact fun d hd => not_isBlank_of_digit (head?_of_isDigits hnumerator _ d hd)
    have hsplit := Decimal.splitDigits_append hwhole.2 hend
    have hdrop := (span_append hblanks hstart).2
    rw [List.cons_append] at hsplit hdrop
    simp [mixed?, hsplit, hdrop, hblank, hwhole.1, hfraction]

/-- The numeral that characters are written as. -/
inductive Spells : Numeral → List Char → Prop where
  | decimal {cs : List Char} (h : IsDecimal cs) : Spells (.decimal cs) cs
  | fraction {numerator denominator : List Char} (hnumerator : IsDigits numerator)
      (hdenominator : IsDigits denominator) :
      Spells (.fraction (Text.digitsValue numerator) (Text.digitsValue denominator))
        (numerator ++ '/' :: denominator)
  | mixed {whole gap numerator denominator : List Char} (hwhole : IsDigits whole) (hgap : IsGap gap)
      (hnumerator : IsDigits numerator) (hdenominator : IsDigits denominator) :
      Spells (.mixed (Text.digitsValue whole) (Text.digitsValue numerator)
        (Text.digitsValue denominator)) (whole ++ (gap ++ (numerator ++ '/' :: denominator)))

/-- Decimals contain no slash. -/
theorem not_isDecimal_of_slash_mem {cs : List Char} (h : '/' ∈ cs) :
    ¬IsDecimal cs := fun hdecimal =>
  absurd (mem_of_isDecimal hdecimal '/' h) (by decide)

/-- The forms exclude each other, so the order in which they are tried does not matter. -/
theorem ofChars?_eq_some_iff {cs : List Char} {n : Numeral} :
    ofChars? cs = some n ↔ Spells n cs := by
  constructor
  · intro h
    unfold ofChars? at h
    split at h
    · next hdecimal =>
        obtain rfl := Option.some.inj h
        exact .decimal ((isDecimal_iff cs).1 hdecimal)
    · split at h
      · next f hfraction =>
          obtain rfl := Option.some.inj h
          obtain ⟨numerator, denominator, rfl, hnumerator, hdenominator, hn, hd⟩ :=
            fraction?_eq_some_iff.1 hfraction
          rw [← hn, ← hd]
          exact .fraction hnumerator hdenominator
      · obtain ⟨whole, gap, fraction, a, b, rfl, hwhole, hgap, hfraction, rfl⟩ :=
          mixed?_eq_some_iff.1 h
        obtain ⟨numerator, denominator, rfl, hnumerator, hdenominator, rfl, rfl⟩ :=
          fraction?_eq_some_iff.1 hfraction
        exact .mixed hwhole hgap hnumerator hdenominator
  · intro h
    unfold ofChars?
    cases h with
    | decimal hdecimal => rw [if_pos ((isDecimal_iff cs).2 hdecimal)]
    | @fraction numerator denominator hnumerator hdenominator =>
        have hfraction := fraction?_eq_some_iff.2 ⟨_, _, rfl, hnumerator, hdenominator, rfl, rfl⟩
        have hdecimal : ¬IsDecimal (numerator ++ '/' :: denominator) :=
          not_isDecimal_of_slash_mem (by simp)
        rw [if_neg (mt (isDecimal_iff _).1 hdecimal), hfraction]
    | @mixed whole gap numerator denominator hwhole hgap hnumerator hdenominator =>
        have hmixed := mixed?_eq_some_iff.2 ⟨_, _, _, _, _, rfl, hwhole, hgap,
          fraction?_eq_some_iff.2 ⟨_, _, rfl, hnumerator, hdenominator, rfl, rfl⟩, rfl⟩
        have hdecimal : ¬IsDecimal (whole ++ (gap ++ (numerator ++ '/' :: denominator))) :=
          not_isDecimal_of_slash_mem (by simp)
        -- A fraction alone has no blanks.
        have hfraction : fraction? (whole ++ (gap ++ (numerator ++ '/' :: denominator))) =
            none := by
          rw [← Option.not_isSome_iff_eq_none, isSome_fraction?_iff]
          intro hfraction
          obtain ⟨c, hc⟩ := List.exists_mem_of_ne_nil gap hgap.1
          have hclean := not_isBlank_of_isFraction hfraction c (by simp [hc])
          simp [hgap.2 c hc] at hclean
        rw [if_neg (mt (isDecimal_iff _).1 hdecimal), hfraction]
        exact hmixed

/-! ### Exact numbers -/

/-- Whether characters are a decimal with the exponent `k` that denotes `q`. -/
inductive DecimalOf : List Char → Int → Rat → Prop where
  | intro {sign whole places fraction exponent : List Char} {negative : Bool} {k : Int}
      (hsign : SignOf sign negative) (hwhole : IsDigits whole) (hplaces : PlacesOf places fraction)
      (hexponent : ExponentOf exponent k) :
      DecimalOf (sign ++ (whole ++ (places ++ exponent))) k
        ((if negative then -1 else 1) *
          (Nat.ofDigitChars 10 whole 0 + Nat.ofDigitChars 10 fraction 0 / 10 ^ fraction.length) *
            10 ^ k)

/-- Whether characters are a fraction that denotes `q`. -/
inductive FractionOf : List Char → Rat → Prop where
  | intro {numerator denominator : List Char} (hnumerator : IsDigits numerator)
      (hdenominator : IsDigits denominator) (hzero : Nat.ofDigitChars 10 denominator 0 ≠ 0) :
      FractionOf (numerator ++ '/' :: denominator)
        (Nat.ofDigitChars 10 numerator 0 / Nat.ofDigitChars 10 denominator 0)

/-- Whether characters are a mixed number that denotes `q`. -/
inductive MixedOf : List Char → Rat → Prop where
  | intro {whole gap fraction : List Char} {q : Rat} (hwhole : IsDigits whole) (hgap : IsGap gap)
      (hfraction : FractionOf fraction q) :
      MixedOf (whole ++ (gap ++ fraction)) (Nat.ofDigitChars 10 whole 0 + q)

theorem exists_decimalOf {cs : List Char} (h : IsDecimal cs) : ∃ k q, DecimalOf cs k q := by
  obtain ⟨sign, whole, places, exponent, rfl, hsign, hwhole, hplaces, hexponent⟩ := h
  obtain ⟨negative, hsign⟩ := hsign.exists_signOf
  obtain ⟨fraction, hplaces⟩ := hplaces.exists_placesOf
  obtain ⟨k, hexponent⟩ := exists_exponentOf hexponent
  exact ⟨k, _, .intro hsign hwhole hplaces hexponent⟩

theorem DecimalOf.isDecimal {cs : List Char} {k : Int} {q : Rat} (h : DecimalOf cs k q) :
    IsDecimal cs := by
  obtain ⟨hsign, hwhole, hplaces, hexponent⟩ := h
  exact ⟨_, _, _, _, rfl, hsign.isSign, hwhole, hplaces.isPlaces, hexponent.isExponent⟩

theorem FractionOf.nonneg {cs : List Char} {q : Rat} (h : FractionOf cs q) : 0 ≤ q := by
  obtain ⟨-, -, -⟩ := h
  positivity

theorem MixedOf.nonneg {cs : List Char} {q : Rat} (h : MixedOf cs q) : 0 ≤ q := by
  obtain ⟨-, -, hfraction⟩ := h
  have := hfraction.nonneg
  positivity

/-- Digits, a point among them, as one whole number over a power of ten. -/
theorem decimal_value (negative : Bool) (whole fraction : List Char) (k : Int) :
    (Decimal.finite negative (Text.digitsValue (whole ++ fraction)) (k - fraction.length)).value =
      (if negative then -1 else 1) *
        (Nat.ofDigitChars 10 whole 0 + Nat.ofDigitChars 10 fraction 0 / 10 ^ fraction.length) *
          10 ^ k := by
  have hten : (10 : Rat) ≠ 0 := by norm_num
  rw [Decimal.value_eq_signed, Decimal.signed_cast, Text.digitsValue_append, Text.digitsValue_eq,
    Text.digitsValue_eq, zpow_sub₀ hten, zpow_natCast]
  push_cast
  split <;> field_simp

/-- A decimal is read as the number that it denotes. -/
theorem DecimalOf.value {cs : List Char} {k : Int} {q : Rat} (h : DecimalOf cs k q) {d : Decimal}
    (hd : Decimal.ofChars? cs = some d) : d.isFinite = true ∧ d.value = q := by
  obtain @⟨sign, whole, places, fraction, exponent, negative, k, hsign, hwhole, hplaces,
      hexponent⟩ := h
  rw [Decimal.ofChars?_numeral hsign hwhole hplaces hexponent, Decimal.ofParts?_eq_some_iff] at hd
  obtain ⟨-, rfl⟩ := hd
  exact ⟨rfl, decimal_value negative whole fraction k⟩

theorem PlacesOf.length_le {places fraction : List Char} (h : PlacesOf places fraction) :
    fraction.length ≤ places.length := by
  cases h <;> simp

/-- Decimals that are neither long nor far from one in size are read. -/
theorem DecimalOf.exists_ofChars? {cs : List Char} {k : Int} {q : Rat} (h : DecimalOf cs k q)
    (hlength : cs.length ≤ 256) (hk : |k| ≤ 900000) : ∃ d, Decimal.ofChars? cs = some d := by
  obtain @⟨sign, whole, places, fraction, exponent, negative, k, hsign, hwhole, hplaces,
      hexponent⟩ := h
  simp only [List.length_append] at hlength
  have hplaces' := hplaces.length_le
  have hdigits : ∀ c ∈ whole ++ fraction, Decimal.isDigitChar c = true := by
    refine List.forall_mem_append.2 ⟨hwhole.2, ?_⟩
    cases hplaces with
    | none => simp
    | point hdigits => exact hdigits.2
  have hpos : 0 < (whole ++ fraction).length := by
    have := List.length_pos_iff.2 hwhole.1
    rw [List.length_append]
    omega
  have hcount := (digitCount_le_iff hpos).2 (Text.digitsValue_lt hdigits)
  rw [List.length_append] at hcount
  rw [abs_le] at hk
  rw [Decimal.ofChars?_numeral hsign hwhole hplaces hexponent]
  refine ⟨_, Decimal.ofParts?_eq_some_iff.2 ⟨⟨?_, ?_⟩, rfl⟩⟩
  · unfold Decimal.smallestExponent
    omega
  · unfold Decimal.adjusted Decimal.largestExponent
    omega

/-! ### Rounded numbers -/

theorem value_ofNat (n : Nat) : (Decimal.ofNat n).value = n := by
  rw [Decimal.ofNat, Decimal.value_eq_signed, Decimal.signed_cast]
  simp

theorem toOption_eq_some_iff {α β : Type} {result : Except α β} {b : β} :
    result.toOption = some b ↔ result = .ok b := by
  cases result <;> simp [Except.toOption]

theorem quotient_rounds {n d : Nat} (hd : d ≠ 0) :
    Context.conversion.Rounds (Decimal.div .conversion (.ofNat n) (.ofNat d)) (n / d) := by
  have hzero : (Decimal.ofNat d).value ≠ 0 := by
    rw [value_ofNat]
    exact_mod_cast hd
  have h : Context.conversion.Rounds (Decimal.div .conversion (.ofNat n) (.ofNat d))
      ((Decimal.ofNat n).value / (Decimal.ofNat d).value) :=
    Decimal.div_rounds (by decide) rfl rfl hzero
  rwa [value_ofNat, value_ofNat] at h

/-- A fraction is one rounding away from its value. -/
theorem quotient?_near {n d : Nat} {q : Decimal} (h : quotient? n d = some q) :
    d ≠ 0 ∧ q.isFinite = true ∧ Near 1 q.value (n / d) := by
  rw [quotient?, Option.ite_none_left_eq_some, toOption_eq_some_iff] at h
  have hrounds := quotient_rounds (n := n) h.1
  exact ⟨h.1, Context.isFinite_of_fits (hrounds.fits q h.2), hrounds.near h.2⟩

theorem isWritable_of_quotient? {n d : Nat} {q : Decimal} (h : quotient? n d = some q) :
    q.isFinite = true ∧ q.IsWritable := by
  rw [quotient?, Option.ite_none_left_eq_some, toOption_eq_some_iff] at h
  exact Decimal.isWritable_of_div rfl rfl h.2

theorem sum_rounds (w : Nat) {q : Decimal} (hq : q.isFinite = true) :
    Context.conversion.Rounds (Decimal.add .conversion (.ofNat w) q) (w + q.value) := by
  have h : Context.conversion.Rounds (Decimal.add .conversion (.ofNat w) q)
      ((Decimal.ofNat w).value + q.value) :=
    Decimal.add_rounds (by decide) rfl hq
  rwa [value_ofNat] at h

/-- A mixed number is two roundings away from its value. -/
theorem mixed_near {w n d : Nat} {v : Decimal} (h : value? (.mixed w n d) = some v) :
    d ≠ 0 ∧ v.isFinite = true ∧ Near 2 v.value (w + n / d) := by
  obtain ⟨q, hq, hv⟩ := Option.bind_eq_some_iff.1 h
  obtain ⟨hd, hfinite, hnear⟩ := quotient?_near hq
  rw [toOption_eq_some_iff] at hv
  have hrounds := sum_rounds w hfinite
  exact ⟨hd, Context.isFinite_of_fits (hrounds.fits v hv),
    (hrounds.near hv).trans (hnear.add_left (by positivity) (by positivity))⟩

/-- A quotient of whole numbers that is not zero is no smaller than one part of the denominator. -/
theorem one_le_quotient {n d k : Nat} (hn : n ≠ 0) (hd : d ≠ 0) (hlt : d < 10 ^ k) :
    (1 : Rat) ≤ n / d * 10 ^ k := by
  have hone : (1 : Rat) ≤ n := by exact_mod_cast Nat.one_le_iff_ne_zero.2 hn
  have hpos : (0 : Rat) < d := by exact_mod_cast Nat.pos_of_ne_zero hd
  have hpow : (d : Rat) ≤ 10 ^ k := by exact_mod_cast hlt.le
  calc (1 : Rat) ≤ n := hone
    _ = n / d * d := by field_simp
    _ ≤ n / d * 10 ^ k := by gcongr

theorem quotient_le {n d k : Nat} (hd : d ≠ 0) (hlt : n < 10 ^ k) : (n : Rat) / d ≤ 10 ^ k := by
  have hone : (1 : Rat) ≤ d := by exact_mod_cast Nat.one_le_iff_ne_zero.2 hd
  have hpow : (n : Rat) ≤ 10 ^ k := by exact_mod_cast hlt.le
  exact (div_le_self (by positivity) hone).trans hpow

theorem exists_quotient? {n d k : Nat} (hk : k ≤ 1000) (hn : n < 10 ^ k) (hd : d < 10 ^ k)
    (hzero : d ≠ 0) :
    ∃ q, quotient? n d = some q := by
  have hnonneg : (0 : Rat) ≤ n / d := by positivity
  have hroundable : Roundable ((n : Rat) / d) := by
    refine (Near.refl _).roundable (by norm_num) hk ?_ ?_
    · rw [abs_of_nonneg hnonneg]
      by_cases hn : n = 0
      · exact .inl (by simp [hn])
      · exact .inr (one_le_quotient hn hzero hd)
    · rw [abs_of_nonneg hnonneg]
      exact quotient_le hzero hn
  obtain ⟨q, hq, -⟩ := Decimal.exists_near (quotient_rounds hzero) hroundable
  exact ⟨q, by rw [quotient?, if_neg hzero, hq]; rfl⟩

theorem exists_mixed {w n d k : Nat} (hk : k < 1000) (hw : w < 10 ^ k) (hn : n < 10 ^ k)
    (hd : d < 10 ^ k) (hzero : d ≠ 0) : ∃ v, value? (.mixed w n d) = some v := by
  obtain ⟨q, hq⟩ := exists_quotient? hk.le hn hd hzero
  obtain ⟨-, hfinite, hnear⟩ := quotient?_near hq
  have hnonneg : (0 : Rat) ≤ w + n / d := by positivity
  have hsum : Near 1 ((w : Rat) + q.value) (w + n / d) :=
    hnear.add_left (by positivity) (by positivity)
  have hroundable : Roundable ((w : Rat) + q.value) := by
    refine hsum.roundable (by norm_num) (k := k + 1) (by omega) ?_ ?_
    · rw [abs_of_nonneg hnonneg]
      by_cases hw : w = 0
      · subst hw
        by_cases hn : n = 0
        · exact .inl (by simp [hn])
        · have := one_le_quotient hn hzero
            (hd.trans (Nat.pow_lt_pow_right (by norm_num) (Nat.lt_succ_self k)))
          simpa using Or.inr this
      · have hone : (1 : Rat) ≤ w := by exact_mod_cast Nat.one_le_iff_ne_zero.2 hw
        have hpow : (1 : Rat) ≤ 10 ^ (k + 1) := one_le_pow₀ (by norm_num)
        have hquotient : (0 : Rat) ≤ n / d := by positivity
        exact .inr (by nlinarith)
    · have hw' : (w : Rat) ≤ 10 ^ k := by exact_mod_cast hw.le
      have hquotient := quotient_le hzero hn
      rw [abs_of_nonneg hnonneg, pow_succ]
      linarith [pow_pos (show (0 : Rat) < 10 by norm_num) k]
  obtain ⟨v, hv, -⟩ := Decimal.exists_near (sum_rounds w hfinite) hroundable
  exact ⟨v, by rw [value?, hq, Option.bind_some, hv]; rfl⟩

/-- The number of a numeral can be written down. -/
theorem Spells.isWritable {n : Numeral} {cs : List Char} (h : Spells n cs) {d : Decimal}
    (hd : n.value? = some d) :
    d.isFinite = true ∧ d.IsWritable := by
  cases h with
  | decimal hdecimal =>
      obtain ⟨k, q, hq⟩ := exists_decimalOf hdecimal
      obtain ⟨hsign, hwhole, hplaces, hexponent⟩ := hq
      rw [value?, Decimal.ofChars?_numeral hsign hwhole hplaces hexponent] at hd
      exact Decimal.isWritable_of_ofParts? hd
  | fraction hnumerator hdenominator => exact isWritable_of_quotient? hd
  | mixed hwhole hgap hnumerator hdenominator =>
      obtain ⟨q, hq, hd⟩ := Option.bind_eq_some_iff.1 hd
      exact Decimal.isWritable_of_add rfl (quotient?_near hq).2.1 (toOption_eq_some_iff.1 hd)

theorem isWritable_of_numericValue? {cs : List Char} {d : Decimal} (h : numericValue? cs = some d) :
    d.isFinite = true ∧ d.IsWritable := by
  obtain ⟨n, hn, hd⟩ := Option.bind_eq_some_iff.1 h
  exact (ofChars?_eq_some_iff.1 hn).isWritable hd

/-! ### Texts -/

/-- Whether characters are a fraction or a mixed number that denotes `q`. -/
def RatioOf (cs : List Char) (q : Rat) : Prop :=
  FractionOf cs q ∨ MixedOf cs q

theorem digitsValue_lt_of_length_le {ds : List Char} (hds : IsDigits ds) {k : Nat}
    (hk : ds.length ≤ k) :
    Text.digitsValue ds < 10 ^ k :=
  (Text.digitsValue_lt hds.2).trans_le (Nat.pow_le_pow_right (by norm_num) hk)

/-- The numeral that a fraction is read as. -/
theorem FractionOf.exists_ofChars? {cs : List Char} {q : Rat} (h : FractionOf cs q) :
    ∃ n d : Nat, ofChars? cs = some (.fraction n d) ∧
      q = n / d ∧ d ≠ 0 ∧ n < 10 ^ cs.length ∧ d < 10 ^ cs.length := by
  obtain ⟨hnumerator, hdenominator, hzero⟩ := h
  refine ⟨_, _, ofChars?_eq_some_iff.2 (.fraction hnumerator hdenominator), ?_, ?_,
    digitsValue_lt_of_length_le hnumerator ?_, digitsValue_lt_of_length_le hdenominator ?_⟩
  · rw [Text.digitsValue_eq, Text.digitsValue_eq]
  · rwa [Text.digitsValue_eq]
  · simp
  · simp only [List.length_append, List.length_cons]
    omega

/-- The numeral that a mixed number is read as. -/
theorem MixedOf.exists_ofChars? {cs : List Char} {q : Rat} (h : MixedOf cs q) :
    ∃ w n d : Nat, ofChars? cs = some (.mixed w n d) ∧ q = w + n / d ∧ d ≠ 0 ∧ w < 10 ^ cs.length ∧
      n < 10 ^ cs.length ∧ d < 10 ^ cs.length := by
  obtain ⟨hwhole, hgap, ⟨hnumerator, hdenominator, hzero⟩⟩ := h
  refine ⟨_, _, _, ofChars?_eq_some_iff.2 (.mixed hwhole hgap hnumerator hdenominator), ?_, ?_,
    digitsValue_lt_of_length_le hwhole ?_, digitsValue_lt_of_length_le hnumerator ?_,
    digitsValue_lt_of_length_le hdenominator ?_⟩
  · rw [Text.digitsValue_eq, Text.digitsValue_eq, Text.digitsValue_eq]
  · rwa [Text.digitsValue_eq]
  all_goals
    simp only [List.length_append, List.length_cons]
    omega

/-- A numeral that has a value is of one of the forms, and divides by no zero. -/
theorem Spells.denotes {n : Numeral} {cs : List Char} (h : Spells n cs) {d : Decimal}
    (hd : n.value? = some d) :
    (∃ k q, DecimalOf cs k q) ∨ ∃ q, RatioOf cs q := by
  cases h with
  | decimal hdecimal => exact .inl (exists_decimalOf hdecimal)
  | fraction hnumerator hdenominator =>
      obtain ⟨hzero, -⟩ := quotient?_near hd
      rw [Text.digitsValue_eq] at hzero
      exact .inr ⟨_, .inl (.intro hnumerator hdenominator hzero)⟩
  | mixed hwhole hgap hnumerator hdenominator =>
      obtain ⟨hzero, -⟩ := mixed_near hd
      rw [Text.digitsValue_eq] at hzero
      exact .inr ⟨_, .inr (.intro hwhole hgap (.intro hnumerator hdenominator hzero))⟩

/-- Two roundings of a number that is not negative. -/
theorem abs_sub_le_of_near {v q : Rat} (h : Near 2 v q) (hq : 0 ≤ q) :
    |v - q| ≤ 2 / 10 ^ 39 * q := by
  have herror := h.abs_sub_le_of_two
  rw [abs_of_nonneg hq] at herror
  refine herror.trans ?_
  gcongr
  norm_num

/-- How a text is read as a number, the blanks around it cut off. -/
structure ReadsNumerals (text : List Char) : Prop where
  /-- What is read is a decimal, or a fraction or a mixed number that divides by no zero. -/
  form : ∀ d, numericValue? text = some d →
    (∃ k q, DecimalOf (Text.trimChars text) k q) ∨ ∃ q, RatioOf (Text.trimChars text) q
  /-- Decimals are read exactly. -/
  exact : ∀ d k q, numericValue? text = some d → DecimalOf (Text.trimChars text) k q →
    d.isFinite = true ∧ d.value = q
  /-- Fractions and mixed numbers are read up to two units of the fortieth digit. -/
  accurate : ∀ d q, numericValue? text = some d → RatioOf (Text.trimChars text) q →
    d.isFinite = true ∧ |d.value - q| ≤ 2 / 10 ^ 39 * q
  /-- Numerals of moderate length and size are read. -/
  complete : (Text.trimChars text).length ≤ 256 →
    (∃ k q, DecimalOf (Text.trimChars text) k q ∧ |k| ≤ 900000) ∨
      (∃ q, RatioOf (Text.trimChars text) q) →
      ∃ d, numericValue? text = some d

/-- A text has a number exactly where it is a numeral in range, and the number is the one that the
numeral denotes, up to the roundings of its one division and its one sum. -/
theorem readsNumerals (text : List Char) : ReadsNumerals text := by
  have hread {d : Decimal} {n : Numeral} (hn : ofChars? (Text.trimChars text) = some n) :
      numericValue? text = some d ↔ n.value? = some d := by
    rw [numericValue?, hn, Option.bind_some]
  constructor
  case form =>
    intro d hd
    obtain ⟨n, hn, hvalue⟩ := Option.bind_eq_some_iff.1 hd
    exact (ofChars?_eq_some_iff.1 hn).denotes hvalue
  case exact =>
    intro d k q hd hq
    exact hq.value ((hread (ofChars?_eq_some_iff.2 (.decimal hq.isDecimal))).1 hd)
  case accurate =>
    rintro d q hd (hq | hq)
    · have hnonneg := hq.nonneg
      obtain ⟨a, b, hn, rfl, -⟩ := hq.exists_ofChars?
      obtain ⟨-, hfinite, hnear⟩ := quotient?_near ((hread hn).1 hd)
      exact ⟨hfinite, abs_sub_le_of_near (hnear.mono (by norm_num)) hnonneg⟩
    · have hnonneg := hq.nonneg
      obtain ⟨w, a, b, hn, rfl, -⟩ := hq.exists_ofChars?
      obtain ⟨-, hfinite, hnear⟩ := mixed_near ((hread hn).1 hd)
      exact ⟨hfinite, abs_sub_le_of_near hnear hnonneg⟩
  case complete =>
    rintro hlength (⟨k, q, hq, hk⟩ | ⟨q, hq | hq⟩)
    · obtain ⟨d, hd⟩ := hq.exists_ofChars? hlength hk
      exact ⟨d, (hread (ofChars?_eq_some_iff.2 (.decimal hq.isDecimal))).2 hd⟩
    · obtain ⟨a, b, hn, -, hzero, ha, hb⟩ := hq.exists_ofChars?
      obtain ⟨d, hd⟩ := exists_quotient? (by omega) ha hb hzero
      exact ⟨d, (hread hn).2 hd⟩
    · obtain ⟨w, a, b, hn, -, hzero, hw, ha, hb⟩ := hq.exists_ofChars?
      obtain ⟨d, hd⟩ := exists_mixed (by omega) hw ha hb hzero
      exact ⟨d, (hread hn).2 hd⟩

/-- A third is cut off behind forty digits, and its blanks do not count. -/
example : numericValue? " 1/3 ".toList = some (.finite false (10 ^ 40 / 3) (-40)) := by
  decide +kernel

/-- Nothing is read where a fraction divides by zero. -/
example : numericValue? "5 1/0".toList = none := by
  decide +kernel

end Numeral

end UnitConversion
