import UnitConversion.Decimal.Layout
import UnitConversion.Proofs.Decimal.Arithmetic
import UnitConversion.Proofs.Request.Numeral

/-!
# Reading numerals

What the reader of decimal numbers makes of a numeral that is given by its parts: a sign, digits, a
point with more digits behind it, and an exponent.

* `Text.digitsValue_append`, `Decimal.digitsValue_digitsOf`: the number that a run of digits
  denotes.
* `Decimal.ofChars?_numeral`: a numeral denotes its digits, shifted by its exponent and by the
  digits behind the point.
* `Decimal.ofChars?_stripped`: zeros that are cut off at the end of a numeral go into the exponent
  of what is read.
-/

namespace UnitConversion

open Numeral

namespace Text

/-! ### Ends of texts -/

theorem trimChars_cons {c : Char} (hc : isBlank c = false) (cs : List Char) :
    trimChars (c :: cs) = c :: dropWhileEnd isBlank cs := by
  rw [trimChars, List.dropWhile_cons_of_neg (by simp [hc]), dropWhileEnd, dropWhileEnd,
    List.reverse_cons, List.dropWhile_append]
  split
  · next hall => simp [List.isEmpty_iff.1 hall, hc]
  · simp

/-- The characters that are cut off at the end all have the property. -/
theorem exists_cut (p : Char → Bool) (cs : List Char) :
    ∃ tail, cs = dropWhileEnd p cs ++ tail ∧ ∀ c ∈ tail, p c = true := by
  refine ⟨(cs.reverse.takeWhile p).reverse, ?_, fun c hc => mem_takeWhile (List.mem_reverse.1 hc)⟩
  rw [dropWhileEnd, ← List.reverse_append, List.takeWhile_append_dropWhile, List.reverse_reverse]

theorem dropWhileEnd_eq_self {p : Char → Bool} {cs : List Char} (h : ∀ c ∈ cs, p c = false) :
    dropWhileEnd p cs = cs := by
  obtain ⟨tail, hsplit, htail⟩ := exists_cut p cs
  cases tail with
  | nil => simpa using hsplit.symm
  | cons c tail =>
      have hmem : c ∈ cs := hsplit ▸ List.mem_append_right _ List.mem_cons_self
      exact absurd (htail c List.mem_cons_self) (by simp [h c hmem])

theorem dropWhileEnd_append (p : Char → Bool) (xs ys : List Char) :
    dropWhileEnd p (xs ++ ys) = if dropWhileEnd p ys = [] then dropWhileEnd p xs
    else xs ++ dropWhileEnd p ys := by
  rw [dropWhileEnd, List.reverse_append, List.dropWhile_append]
  simp only [dropWhileEnd, List.isEmpty_iff, List.reverse_eq_nil_iff]
  split <;> simp

theorem getLast?_dropWhileEnd (p : Char → Bool) (cs : List Char) :
    ∀ c ∈ (dropWhileEnd p cs).getLast?, p c = false := by
  rw [dropWhileEnd, List.getLast?_reverse]
  exact head?_dropWhile_eq_false cs.reverse

theorem trimChars_eq_self {cs : List Char} (h : ∀ c ∈ cs, isBlank c = false) :
    trimChars cs = cs := by
  cases cs with
  | nil => rfl
  | cons c cs =>
      rw [trimChars_cons (h c List.mem_cons_self),
        dropWhileEnd_eq_self fun d hd => h d (List.mem_cons_of_mem _ hd)]

/-! ### Values of digits -/

theorem ofDigitChars_eq (ds : List Char) (n : Nat) :
    Nat.ofDigitChars 10 ds n = n * 10 ^ ds.length + Nat.ofDigitChars 10 ds 0 := by
  induction ds generalizing n with
  | nil => simp
  | cons d ds ih =>
      rw [Nat.ofDigitChars_cons, Nat.ofDigitChars_cons, ih, ih (10 * 0 + _),
        List.length_cons, pow_succ]
      ring

/-- Halving a run of digits before it is read changes nothing. -/
theorem digitsValueBy_eq (halvings : Nat) (ds : List Char) :
    digitsValueBy halvings ds = Nat.ofDigitChars 10 ds 0 := by
  induction halvings generalizing ds with
  | zero => rfl
  | succ halvings ih =>
      have hlength : (ds.drop (ds.length - ds.length / 2)).length = ds.length / 2 := by
        rw [List.length_drop]
        omega
      have hsplit := List.take_append_drop (ds.length - ds.length / 2) ds
      conv_rhs => rw [← hsplit, Nat.ofDigitChars_append, ofDigitChars_eq, hlength]
      rw [digitsValueBy, ih, ih]

theorem digitsValue_eq (ds : List Char) : digitsValue ds = Nat.ofDigitChars 10 ds 0 :=
  digitsValueBy_eq _ ds

theorem digitsValue_append (ds es : List Char) :
    digitsValue (ds ++ es) = digitsValue ds * 10 ^ es.length + digitsValue es := by
  rw [digitsValue_eq, digitsValue_eq, digitsValue_eq, Nat.ofDigitChars_append, ofDigitChars_eq]

/-- A run of digits denotes a number of no more digits. -/
theorem digitsValue_lt {ds : List Char} (hds : ∀ c ∈ ds, Decimal.isDigitChar c = true) :
    digitsValue ds < 10 ^ ds.length := by
  rw [digitsValue_eq]
  induction ds with
  | nil => simp
  | cons d ds ih =>
      obtain ⟨hd, hds⟩ := List.forall_mem_cons.1 hds
      obtain ⟨-, hhigh⟩ := (isDigitChar_iff d).1 hd
      have hdigit : 10 * 0 + (d.toNat - '0'.toNat) ≤ 9 := by
        have : '0'.toNat = 48 := rfl
        omega
      have hrest := ih hds
      rw [Nat.ofDigitChars_cons, ofDigitChars_eq, List.length_cons, pow_succ]
      nlinarith

theorem digitsValue_zeros (k : Nat) : digitsValue (List.replicate k '0') = 0 := by
  rw [digitsValue_eq, Nat.ofDigitChars_replicate_zero, mul_zero]

end Text

namespace Decimal

/-! ### Digits of a number -/

theorem isDigits_digitsOf (n : Nat) : IsDigits (digitsOf n) :=
  ⟨Nat.toDigits_ne_nil, fun _ hc => Nat.isDigit_of_mem_toDigits (by norm_num) (by norm_num) hc⟩

theorem digitsValue_digitsOf (n : Nat) : Text.digitsValue (digitsOf n) = n := by
  rw [Text.digitsValue_eq, digitsOf, Nat.ofDigitChars_toDigits (by norm_num) le_rfl]

theorem length_digitsOf (n : Nat) : (digitsOf n).length = digitCount n := by
  have hle {k : Nat} (hk : 0 < k) : (digitsOf n).length ≤ k ↔ digitCount n ≤ k := by
    rw [digitCount_le_iff hk, digitsOf, Nat.length_toDigits_le_iff (by norm_num) hk]
  exact le_antisymm ((hle (digitCount_pos n)).2 le_rfl) ((hle Nat.length_toDigits_pos).1 le_rfl)

/-- Whether a text consists of the digits of a number, with a point in front of the last `places` of
them. -/
inductive IsPointed : List Char → Nat → Nat → Prop where
  | intro {whole fraction : List Char} (hwhole : IsDigits whole)
      (hfraction : ∀ c ∈ fraction, isDigitChar c = true) :
      IsPointed (whole ++ '.' :: fraction) (Text.digitsValue (whole ++ fraction)) fraction.length

theorem isPointed_withPoint (n : Nat) {places : Nat} (hplaces : 0 < places) :
    IsPointed (withPoint (digitsOf n) places) n places := by
  set padded := List.replicate (places + 1 - (digitsOf n).length) '0' ++ digitsOf n with hpadded
  have hlength : places < padded.length := by
    rw [hpadded, List.length_append, List.length_replicate]
    omega
  have hdigits : ∀ c ∈ padded, isDigitChar c = true := by
    refine List.forall_mem_append.2 ⟨fun c hc => ?_, (isDigits_digitsOf n).2⟩
    obtain rfl := List.eq_of_mem_replicate hc
    rfl
  have hvalue : Text.digitsValue padded = n := by
    rw [hpadded, Text.digitsValue_append, Text.digitsValue_zeros, digitsValue_digitsOf,
      zero_mul, zero_add]
  have hwhole : IsDigits (padded.take (padded.length - places)) := by
    refine ⟨List.ne_nil_of_length_pos ?_, fun c hc => hdigits c (List.mem_of_mem_take hc)⟩
    rw [List.length_take]
    omega
  have hfraction : ∀ c ∈ padded.drop (padded.length - places), isDigitChar c = true := fun c hc =>
    hdigits c (List.mem_of_mem_drop hc)
  have hpointed := IsPointed.intro hwhole hfraction
  rw [List.take_append_drop, hvalue, List.length_drop, Nat.sub_sub_self hlength.le] at hpointed
  rwa [withPoint, if_neg hplaces.ne']

theorem isPointed_withLeadingPoint {n : Nat} (hn : 1 < digitCount n) :
    IsPointed (withLeadingPoint (digitsOf n)) n (digitCount n - 1) := by
  have hdigits := (isDigits_digitsOf n).2
  have hvalue := digitsValue_digitsOf n
  rw [← length_digitsOf] at hn ⊢
  match hds : digitsOf n, hn with
  | d :: e :: ds, _ =>
      rw [hds] at hdigits hvalue
      obtain ⟨hd, hes⟩ := List.forall_mem_cons.1 hdigits
      have hwhole : IsDigits [d] := ⟨by simp, by simpa using hd⟩
      have hpointed := IsPointed.intro hwhole hes
      rwa [List.singleton_append, List.singleton_append, hvalue] at hpointed

/-! ### Numerals -/

/-- Whether what stands at the end of a numeral means the exponent `k`. -/
inductive IsSuffix : List Char → Int → Prop where
  | none : IsSuffix [] 0
  | exponent (k : Int) : IsSuffix ('e' :: signedExponent k) k

/-- A point and the digits behind it, if there are any. -/
def pointText (fraction : List Char) : List Char :=
  if fraction = [] then [] else '.' :: fraction

theorem signOf_signText (s : Bool) : SignOf (signText s) s := by
  cases s with
  | false => exact .none
  | true => exact .minus

theorem placesOf_pointText {fraction : List Char}
    (hfraction : ∀ c ∈ fraction, isDigitChar c = true) :
    PlacesOf (pointText fraction) fraction := by
  by_cases hempty : fraction = []
  · subst hempty
    exact .none
  · rw [pointText, if_neg hempty]
    exact .point ⟨hempty, hfraction⟩

theorem exponentOf_signedExponent {letter : Char}
    (hletter : letter = 'e' ∨ letter = 'E') (k : Int) :
    ExponentOf (letter :: signedExponent k) k := by
  have hsign : SignOf [if k < 0 then '-' else '+'] (decide (k < 0)) := by
    by_cases hk : k < 0
    · simpa [hk] using SignOf.minus
    · simpa [hk] using SignOf.plus
  have hexponent := ExponentOf.letter hletter hsign (isDigits_digitsOf k.natAbs)
  rwa [← Text.digitsValue_eq, digitsValue_digitsOf, signed_natAbs k _ fun _ => rfl] at hexponent

theorem IsSuffix.exponentOf {suffix : List Char} {k : Int} (h : IsSuffix suffix k) :
    ExponentOf suffix k := by
  cases h with
  | none => exact .none
  | exponent => exact exponentOf_signedExponent (.inl rfl) k

theorem splitDigits_append {ds rest : List Char} (hds : ∀ c ∈ ds, isDigitChar c = true)
    (hrest : ∀ c ∈ rest.head?, isDigitChar c = false) : splitDigits (ds ++ rest) = (ds, rest) := by
  obtain ⟨htake, hdrop⟩ := span_append hds hrest
  rw [splitDigits, htake, hdrop]

theorem exponentOf?_eq {exponent : List Char} {k : Int} (h : ExponentOf exponent k) :
    exponentOf? exponent = some k := by
  cases h with
  | none => rfl
  | @letter letter sign digits negative hletter hsign hdigits =>
      have hsplit : splitDigits digits = (digits, []) := by
        have hend : ∀ c ∈ ([] : List Char).head?, isDigitChar c = false := by simp
        simpa using splitDigits_append hdigits.2 hend
      rw [exponentOf?, if_pos hletter, splitSign_append hsign hdigits.head?_ne_sign]
      simp only [hsplit, List.isEmpty_eq_false_iff.2 hdigits.1, Text.digitsValue_eq,
        List.isEmpty_nil, Bool.not_true, Bool.or_false, Bool.false_eq_true, if_false]

/-- An exponent starts with a letter. -/
theorem head?_exponent {exponent : List Char} {k : Int} (h : ExponentOf exponent k) :
    ∀ c ∈ exponent.head?, c = 'e' ∨ c = 'E' := by
  cases h with
  | none => simp
  | letter hletter => simpa using hletter

theorem numberOf?_numeral (s : Bool) {whole places fraction exponent : List Char} {k : Int}
    (hwhole : IsDigits whole) (hplaces : PlacesOf places fraction)
    (hexponent : ExponentOf exponent k) :
    numberOf? s (whole ++ (places ++ exponent)) =
      ofParts? s (Text.digitsValue (whole ++ fraction)) (k - fraction.length) := by
  have hletter := head?_exponent hexponent
  have hstop : ∀ c ∈ exponent.head?, isDigitChar c = false := by
    intro c hc
    rcases hletter c hc with rfl | rfl <;> decide
  have hne : whole.isEmpty = false := List.isEmpty_eq_false_iff.2 hwhole.1
  have hread := exponentOf?_eq hexponent
  unfold numberOf?
  cases hplaces with
  | none =>
      rw [List.nil_append, splitDigits_append hwhole.2 hstop]
      cases exponent with
      | nil => simp [hne, hread]
      | cons c cs =>
          -- The letter of the exponent is not taken for a point.
          rcases hletter c rfl with rfl | rfl <;> simp [hne, hread]
  | point hdigits =>
      have hpoint : ∀ c ∈ (('.' :: fraction) ++ exponent).head?, isDigitChar c = false := by
        simp [isDigitChar]
      rw [splitDigits_append hwhole.2 hpoint]
      simp [splitDigits_append hdigits.2 hstop, hne, hread]

/-! ### Signed numerals -/

/-- The characters that a number without a sign starts with. -/
def isNumberStart (c : Char) : Bool :=
  c.isDigit || c == '.'

theorem toNat_of_isNumberStart {c : Char} (h : isNumberStart c = true) :
    46 ≤ c.toNat ∧ c.toNat ≤ 57 := by
  rcases Bool.or_eq_true_iff.1 h with hdigit | hpoint
  · have := (isDigitChar_iff c).1 hdigit
    omega
  · obtain rfl := eq_of_beq hpoint
    decide

theorem isBlank_of_isNumberStart {c : Char} (h : isNumberStart c = true) :
    Text.isBlank c = false := by
  obtain ⟨hlow, hhigh⟩ := toNat_of_isNumberStart h
  simp only [Text.isBlank, Text.memIntervals, Text.blankIntervals, List.any_cons, List.any_nil,
    Bool.or_false, Bool.or_eq_false_iff, Bool.and_eq_false_iff, decide_eq_false_iff_not]
  omega

theorem specialOf?_cons {negative : Bool} {c : Char} {cs : List Char} (hi : c ≠ 'i') (hn : c ≠ 'n')
    (hs : c ≠ 's') : specialOf? negative (c :: cs) = none := by
  have hinf : ¬(c :: cs = "inf".toList ∨ c :: cs = "infinity".toList) := by simp [hi]
  unfold specialOf?
  rw [if_neg hinf]
  split
  · next h => exact absurd (List.cons.inj h).1 hn
  · next h => exact absurd (List.cons.inj h).1 hs
  · rfl

theorem toLower_of_toNat_lt {c : Char} (h : c.toNat < 65) : c.toLower = c := by
  unfold Char.toLower
  rw [dif_neg]
  rintro ⟨hc, -⟩
  exact absurd h (not_lt.2 (UInt32.le_iff_toNat_le.1 hc))

/-- What starts as numbers do is read as a number. -/
theorem ofAscii?_of_isNumberStart {sign : List Char} {s : Bool} (hsign : SignOf sign s) {c : Char}
    (hc : isNumberStart c = true) (cs : List Char) :
    ofAscii? (sign ++ c :: cs) = numberOf? s (c :: cs) := by
  obtain ⟨hlow, hhigh⟩ := toNat_of_isNumberStart hc
  have hne {a : Char} (ha : ¬(46 ≤ a.toNat ∧ a.toNat ≤ 57)) : c ≠ a := by
    rintro rfl
    exact ha ⟨hlow, hhigh⟩
  have hhead : ∀ d ∈ (c :: cs).head?, d ≠ '-' ∧ d ≠ '+' := by
    intro d hd
    obtain rfl := Option.some.inj hd
    exact ⟨hne (by decide), hne (by decide)⟩
  have hspecial : specialOf? s ((c :: cs).map Char.toLower) = none := by
    rw [List.map_cons, toLower_of_toNat_lt (by omega)]
    exact specialOf?_cons (hne (by decide)) (hne (by decide)) (hne (by decide))
  rw [ofAscii?, splitSign_append hsign hhead]
  simp only [hspecial]

/-- Decimals are read as they stand. -/
theorem ofChars?_of_isDecimal {cs : List Char} (h : IsDecimal cs) : ofChars? cs = ofAscii? cs := by
  have hplain : ∀ c ∈ cs, c.toNat < 128 ∧ Text.isBlank c = false ∧ c ≠ '_' := by
    intro c hc
    rcases mem_of_isDecimal h c hc with hdigit | hmark
    · obtain ⟨hlow, hhigh⟩ := (isDigitChar_iff c).1 hdigit
      refine ⟨by omega, isBlank_of_isNumberStart (Bool.or_eq_true_iff.2 (.inl hdigit)), ?_⟩
      rintro rfl
      simp at hhigh
    · fin_cases hmark <;> decide +kernel
  have htrim : Text.trimChars cs = cs := Text.trimChars_eq_self fun c hc => (hplain c hc).2.1
  have hfilter : cs.filter (· != '_') = cs :=
    List.filter_eq_self.2 fun c hc => by simpa using (hplain c hc).2.2
  have hascii : cs.mapM toAsciiDigit? = some cs := by
    clear htrim hfilter h
    induction cs with
    | nil => rfl
    | cons c cs ih =>
        obtain ⟨hc, hcs⟩ := List.forall_mem_cons.1 hplain
        rw [List.mapM_cons, toAsciiDigit?, if_pos hc.1, ih hcs]
        rfl
  rw [ofChars?, htrim, hfilter, hascii, Option.bind_some]

/-- A numeral denotes its digits, shifted by its exponent and by the digits behind the point. -/
theorem ofChars?_numeral {sign whole places fraction exponent : List Char} {s : Bool} {k : Int}
    (hsign : SignOf sign s) (hwhole : IsDigits whole) (hplaces : PlacesOf places fraction)
    (hexponent : ExponentOf exponent k) :
    ofChars? (sign ++ (whole ++ (places ++ exponent))) =
      ofParts? s (Text.digitsValue (whole ++ fraction)) (k - fraction.length) := by
  rw [ofChars?_of_isDecimal ⟨_, _, _, _, rfl, hsign.isSign, hwhole, hplaces.isPlaces,
    hexponent.isExponent⟩, ← numberOf?_numeral s hwhole hplaces hexponent]
  obtain ⟨hne, hdigits⟩ := hwhole
  obtain ⟨c, cs, rfl⟩ := List.exists_cons_of_ne_nil hne
  exact ofAscii?_of_isNumberStart hsign
    (Bool.or_eq_true_iff.2 (.inl (hdigits c List.mem_cons_self))) _

/-! ### Zeros at the end -/

theorem stripTrailingZeros_append {whole fraction : List Char} (hwhole : '.' ∉ whole)
    (hfraction : '.' ∉ fraction) :
    stripTrailingZeros (whole ++ '.' :: fraction) =
      whole ++ pointText (Text.dropWhileEnd (· == '0') fraction) := by
  have hpoint : (whole ++ '.' :: fraction).contains '.' = true := by simp
  have hsplit : whole ++ '.' :: fraction = (whole ++ ['.']) ++ fraction := by simp
  have hplain {cs : List Char} (hcs : '.' ∉ cs) : Text.dropWhileEnd (· == '.') cs = cs :=
    Text.dropWhileEnd_eq_self fun c hc => by
      simp only [beq_eq_false_iff_ne]
      rintro rfl
      exact hcs hc
  have hkept : '.' ∉ Text.dropWhileEnd (· == '0') fraction := by
    obtain ⟨tail, htail, -⟩ := Text.exists_cut (· == '0') fraction
    exact fun hmem => hfraction (htail ▸ List.mem_append_left _ hmem)
  rw [stripTrailingZeros, if_pos hpoint, hsplit, Text.dropWhileEnd_append, pointText]
  split
  · rw [Text.dropWhileEnd_append, if_neg (by decide), Text.dropWhileEnd_append, List.append_nil]
    exact (if_pos rfl).trans (hplain hwhole)
  · next hne =>
      rw [Text.dropWhileEnd_append, hplain hkept, if_neg hne, List.append_assoc,
        List.singleton_append]

theorem point_not_mem {ds : List Char} (h : ∀ c ∈ ds, isDigitChar c = true) :
    '.' ∉ ds := fun hmem =>
  absurd (h '.' hmem) (by decide)

/-- Digits that do not end in a zero denote no multiple of ten. -/
theorem not_dvd_digitsValue (ds : List Char) {d : Char} (hdigit : isDigitChar d = true)
    (hd : (d == '0') = false) :
    ¬10 ∣ Text.digitsValue (ds ++ [d]) := by
  obtain ⟨hlow, hhigh⟩ := (isDigitChar_iff d).1 hdigit
  have hzero : d.toNat ≠ 48 := fun h => beq_eq_false_iff_ne.1 hd (Char.toNat_inj.1 h)
  have hlast : Text.digitsValue [d] = d.toNat - 48 := by
    rw [Text.digitsValue_eq, Nat.ofDigitChars_cons, Nat.ofDigitChars_nil, mul_zero, zero_add]
    rfl
  rw [Text.digitsValue_append, hlast, List.length_singleton]
  omega

/-- Zeros that are cut off at the end of a numeral go into the exponent of what is read, as many as
there are behind the point. -/
theorem ofChars?_stripped (s : Bool) {text suffix : List Char} {n places : Nat} {k : Int}
    (htext : IsPointed text n places) (hsuffix : IsSuffix suffix k) :
    ∃ c j, c * 10 ^ j = n ∧ j ≤ places ∧ (∀ i ≤ places, 10 ^ i ∣ n → i ≤ j) ∧
      ofChars? (stripTrailingZeros (signText s ++ text) ++ suffix) =
        ofParts? s c (k + j - places) := by
  obtain @⟨whole, fraction, hwhole, hfraction⟩ := htext
  have hpoint : '.' ∉ signText s ++ whole := by
    rw [List.mem_append]
    rintro (hmem | hmem)
    · cases s <;> simp [signText] at hmem
    · exact point_not_mem hwhole.2 hmem
  rw [← List.append_assoc, stripTrailingZeros_append hpoint (point_not_mem hfraction),
    List.append_assoc, List.append_assoc]
  have hlast := Text.getLast?_dropWhileEnd (· == '0') fraction
  obtain ⟨zeros, hsplit, hzeros⟩ := Text.exists_cut (· == '0') fraction
  generalize Text.dropWhileEnd (· == '0') fraction = kept at hsplit hlast ⊢
  subst hsplit
  obtain ⟨j, rfl⟩ : ∃ j, zeros = List.replicate j '0' :=
    ⟨_, List.eq_replicate_iff.2 ⟨rfl, fun c hc => eq_of_beq (hzeros c hc)⟩⟩
  obtain ⟨hkept, -⟩ := List.forall_mem_append.1 hfraction
  have hvalue : Text.digitsValue (whole ++ kept) * 10 ^ j =
      Text.digitsValue (whole ++ (kept ++ List.replicate j '0')) := by
    rw [← List.append_assoc, Text.digitsValue_append (whole ++ kept), Text.digitsValue_zeros,
      List.length_replicate, add_zero]
  refine ⟨_, j, hvalue, by simp, fun i hi hdvd => ?_, ?_⟩
  · -- One more zero would have been cut off as well.
    by_contra hlt
    rcases List.eq_nil_or_concat kept with rfl | ⟨init, d, rfl⟩
    · simp at hi
      omega
    · rw [List.concat_eq_append] at hvalue hkept hlast hdvd
      have hten : 10 ∣ Text.digitsValue (whole ++ (init ++ [d])) := by
        have hmore : 10 ^ (j + 1) ∣ Text.digitsValue (whole ++ (init ++ [d])) * 10 ^ j :=
          hvalue ▸ (Nat.pow_dvd_pow 10 (by omega)).trans hdvd
        rw [pow_succ'] at hmore
        exact Nat.dvd_of_mul_dvd_mul_right (by positivity) hmore
      rw [← List.append_assoc] at hten
      exact not_dvd_digitsValue _ (hkept d (by simp)) (hlast d (by simp)) hten
  · rw [ofChars?_numeral (signOf_signText s) hwhole (placesOf_pointText hkept) hsuffix.exponentOf]
    congr 1
    simp only [List.length_append, List.length_replicate]
    push_cast
    ring

end Decimal

end UnitConversion
