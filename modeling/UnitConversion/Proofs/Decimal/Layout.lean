import UnitConversion.Proofs.Decimal.Reading
import UnitConversion.Proofs.Decimal.Writing

/-!
# What the layouts show

Both layouts of decimal numbers show the nearest number that has the digits they show, a tie going
away from zero, and the reader of decimal numbers finds this number again.

* `Decimal.toPlaces_eq`: a number is brought to fixed places exactly when the context has room for
  the rounded digits.
* `Decimal.exponentialParts_spec`: exponential notation shows seven significant digits.
* `Decimal.denotes_plainText`, `Decimal.denotes_exponentialText`: what the texts are read as.
-/

namespace UnitConversion.Decimal

/-! ### Fixed places -/

/-- How many units of the last of `places` digits behind the point are nearest to `q`. -/
def wholeUnits (places : Nat) (q : Rat) : Nat :=
  (Tie.nearest .up (q * 10 ^ places)).toNat

theorem wholeUnits_cast (places : Nat) {q : Rat} (hq : 0 ≤ q) :
    (wholeUnits places q : Int) = Tie.nearest .up (q * 10 ^ places) :=
  Int.toNat_of_nonneg (Tie.nearest_nonneg _ (by positivity))

theorem wholeUnits_mono (places : Nat) {q r : Rat} (h : q ≤ r) :
    wholeUnits places q ≤ wholeUnits places r := by
  have hscaled : q * 10 ^ places ≤ r * 10 ^ places := by gcongr
  exact Int.toNat_le_toNat (Tie.nearest_mono _ hscaled)

/-- Fixed places round at the last one of them. -/
theorem magnitude_wholeUnits (places : Nat) {q : Rat} (hq : 0 ≤ q) :
    magnitude (wholeUnits places q) (-(places : Int)) = Tie.roundAt .up (-(places : Int)) q := by
  rw [magnitude, Tie.roundAt, zpow_neg, zpow_natCast, div_inv_eq_mul, ← wholeUnits_cast places hq,
    Int.cast_natCast]

theorem wholeUnits_magnitude (places c : Nat) (e : Int) :
    wholeUnits places (magnitude c e) =
      if 0 ≤ e + places then c * 10 ^ (e + places).toNat
      else dropDigits .up c (-(e + places)).toNat := by
  have hscaled : magnitude c e * 10 ^ places = magnitude c (e + places) := by
    rw [← magnitude_mul_pow]
    unfold magnitude
    push_cast
    ring
  have hcast : (wholeUnits places (magnitude c e) : Int) =
      Tie.nearest .up (magnitude c (e + places)) := by
    rw [wholeUnits_cast _ (magnitude_nonneg c e), hscaled]
  split
  · next hup =>
      have hwhole : magnitude c (e + places) = ((c * 10 ^ (e + places).toNat : Nat) : Int) := by
        rw [← magnitude_shift c hup, sub_zero, magnitude, zpow_zero, mul_one]
        rfl
      rw [hwhole, Tie.nearest_intCast] at hcast
      exact_mod_cast hcast
  · next hdown =>
      have hquotient : magnitude c (e + places) = (c : Rat) / 10 ^ (-(e + places)).toNat := by
        rw [magnitude, ← zpow_natCast, Int.toNat_of_nonneg (by omega), zpow_neg, div_inv_eq_mul]
      rw [hquotient, ← dropDigits_eq_nearest] at hcast
      exact_mod_cast hcast

/-- A number is brought to fixed places exactly when the context has room for the rounded digits. -/
theorem toPlaces_eq {ctx : Context} (hprecision : 0 < ctx.precision) (places : Nat) (s : Bool)
    (c : Nat) (e : Int) :
    toPlaces ctx places s c e =
      if 10 ^ ctx.precision ≤ wholeUnits places (magnitude c e) then .error .invalidOperation
      else .ok (.finite s (wholeUnits places (magnitude c e)) (-(places : Int))) := by
  have hunits := wholeUnits_magnitude places c e
  unfold toPlaces
  dsimp only
  by_cases hc : c = 0
  · have hzero : wholeUnits places (magnitude c e) = 0 := by
      simp [hc, wholeUnits, Tie.nearest_zero]
    rw [if_pos hc, hzero, if_neg (by simp)]
  rw [if_neg hc, ← hunits]
  have hroom : ctx.precision < digitCount (wholeUnits places (magnitude c e)) ↔
      10 ^ ctx.precision ≤ wholeUnits places (magnitude c e) := by
    rw [← not_le, digitCount_le_iff hprecision, not_lt]
  split
  · next hlong =>
      -- The digits in front of the last place are too many already, whatever the rounding does.
      have hlow : ((10 ^ ctx.precision : Nat) : Rat) ≤ magnitude c e * 10 ^ places := by
        have hlog : (10 : Rat) ^ ((ctx.precision : Int) - places) ≤ magnitude c e := by
          refine (zpow_le_zpow_right₀ (by norm_num) ?_).trans (pow_adjusted_le hc e)
          unfold adjusted
          omega
        calc ((10 ^ ctx.precision : Nat) : Rat) =
            10 ^ ((ctx.precision : Int) - places) * 10 ^ places := by
              rw [← zpow_natCast, ← zpow_add₀ (by norm_num), sub_add_cancel]
              push_cast
              rfl
          _ ≤ magnitude c e * 10 ^ places := by gcongr
      have hround := Tie.nearest_mono .up hlow
      rw [← wholeUnits_cast _ (magnitude_nonneg c e), show ((10 ^ ctx.precision : Nat) : Rat) =
        (((10 ^ ctx.precision : Nat) : Int) : Rat) from rfl, Tie.nearest_intCast] at hround
      rw [if_pos (by exact_mod_cast hround)]
  · simp only [hroom]

/-! ### Significant digits -/

/-- `q` with the given number of significant digits, a tie going away from zero. -/
def significant (digits : Nat) (q : Rat) : Rat :=
  Tie.nearest .up (q / 10 ^ (Int.log 10 q + 1 - digits)) * 10 ^ (Int.log 10 q + 1 - digits)

theorem significant_bounds {digits : Nat} (hdigits : 0 < digits) {q : Rat} (hq : 0 < q) :
    10 ^ Int.log 10 q ≤ significant digits q ∧ significant digits q ≤ 10 ^ (Int.log 10 q + 1) :=
  Tie.roundAt_bounds hq (by omega)

/-- Exponential notation shows the significant digits, a carry included. -/
theorem exponentialParts_spec {c : Nat} (hc : c ≠ 0) (e : Int) :
    digitCount (exponentialParts c e).1 = exponentialDigits ∧
      magnitude (exponentialParts c e).1 ((exponentialParts c e).2 + 1 - exponentialDigits) =
        significant exponentialDigits (magnitude c e) := by
  have hpositive : 0 < exponentialDigits := by decide
  have hrounded := magnitude_roundToDigits .up hpositive hc e
  rw [adjusted_eq_log hc] at hrounded
  unfold exponentialParts
  split
  · next hshort =>
      have hkeep : roundToDigits .up exponentialDigits c = (c, 0) := by
        unfold roundToDigits
        rw [if_pos hshort]
      have hcount := digitCount_mul_pow hc (exponentialDigits - digitCount c)
      rw [hkeep] at hrounded
      dsimp only
      refine ⟨by omega, ?_⟩
      rw [significant, ← hrounded, magnitude_mul_pow]
      congr 1
      unfold adjusted
      omega
  · next hlong =>
      have hcount := digitCount_roundToDigits .up hpositive (not_le.1 hlong).le
      refine ⟨hcount, ?_⟩
      rw [significant, ← hrounded]
      dsimp only
      congr 1
      unfold adjusted
      omega

theorem exponentialParts_ne_zero {c : Nat} (hc : c ≠ 0) (e : Int) :
    (exponentialParts c e).1 ≠ 0 := by
  intro hzero
  have hcount := (exponentialParts_spec hc e).1
  rw [hzero] at hcount
  revert hcount
  decide

/-- The exponent that is shown belongs to the leading digit of the number or, after a carry, to the
place above. -/
theorem exponentialParts_bounds {c : Nat} (hc : c ≠ 0) (e : Int) :
    adjusted c e ≤ (exponentialParts c e).2 ∧ (exponentialParts c e).2 ≤ adjusted c e + 1 := by
  obtain ⟨hcount, hvalue⟩ := exponentialParts_spec hc e
  have hn : (exponentialParts c e).1 ≠ 0 := exponentialParts_ne_zero hc e
  obtain ⟨hlow, hhigh⟩ :=
    significant_bounds (show 0 < exponentialDigits by decide) (magnitude_pos hc e)
  rw [← adjusted_eq_log hc, ← hvalue] at hlow hhigh
  have hplace : adjusted (exponentialParts c e).1
      ((exponentialParts c e).2 + 1 - exponentialDigits) = (exponentialParts c e).2 := by
    unfold adjusted
    omega
  have hleast := (le_adjusted_iff hn _ _).2 hlow
  have hmost := (pow_adjusted_le hn _).trans hhigh
  rw [hplace] at hleast hmost
  exact ⟨hleast, (zpow_le_zpow_iff_right₀ (by norm_num)).1 hmost⟩

/-! ### Reading the texts -/

/-- Whether a text is read as the number `± n * 10 ^ e`, be it written in another way. -/
def Denotes (text : List Char) (s : Bool) (n : Nat) (e : Int) : Prop :=
  ∃ d, ofChars? text = some d ∧ d.isNegative = s ∧ d.value = (finite s n e).value

/-- The zeros that are cut off can be needed to keep the exponent in range. -/
theorem denotes_stripped (s : Bool) {text suffix : List Char} {n places i : Nat}
    {k : Int} (hn : n ≠ 0) (htext : IsPointed text n places) (hsuffix : IsSuffix suffix k)
    (hi : i ≤ places) (hdvd : 10 ^ i ∣ n) (hlow : smallestExponent ≤ k + i - places)
    (hhigh : adjusted n (k - places) ≤ largestExponent) :
    Denotes (stripTrailingZeros (signText s ++ text) ++ suffix) s n (k - places) := by
  obtain ⟨c, j, rfl, -, hmost, hread⟩ := ofChars?_stripped s htext hsuffix
  have hij := hmost i hi hdvd
  have hc : c ≠ 0 := by
    rintro rfl
    simp at hn
  have hplace : adjusted c (k + j - places) = adjusted (c * 10 ^ j) (k - places) := by
    unfold adjusted
    rw [digitCount_mul_pow hc]
    push_cast
    ring
  have hrange : smallestExponent ≤ k + j - places ∧
      adjusted c (k + j - places) ≤ largestExponent := by
    rw [hplace]
    exact ⟨by omega, hhigh⟩
  refine ⟨.finite s c (k + j - places), by rw [hread, ofParts?, if_pos hrange], rfl, ?_⟩
  rw [value_finite, value_finite, magnitude_mul_pow,
    show k - (places : Int) + j = k + j - places by ring]

/-- Fixed notation of `± n * 10 ^ -places` without zeros at the end. A zero has no sign. -/
def plainText (negative : Bool) (n places : Nat) : List Char :=
  let text := stripTrailingZeros (fixedText negative n places)
  if text = ['-', '0'] then ['0'] else text

theorem mem_of_mem_stripTrailingZeros {c : Char} {cs : List Char}
    (h : c ∈ stripTrailingZeros cs) : c ∈ cs := by
  have hcut {p : Char → Bool} {ds : List Char} (hmem : c ∈ Text.dropWhileEnd p ds) : c ∈ ds := by
    obtain ⟨tail, hsplit, -⟩ := Text.exists_cut p ds
    exact hsplit ▸ List.mem_append_left _ hmem
  unfold stripTrailingZeros at h
  split at h
  · exact hcut (hcut h)
  · exact h

theorem IsPointed.digit_or_point {text : List Char} {n places : Nat} (h : IsPointed text n places) :
    ∀ c ∈ text, isDigitChar c = true ∨ c = '.' := by
  obtain @⟨whole, fraction, hwhole, hfraction⟩ := h
  refine List.forall_mem_append.2 ⟨fun c hc => .inl (hwhole.2 c hc), ?_⟩
  exact List.forall_mem_cons.2 ⟨.inr rfl, fun c hc => .inl (hfraction c hc)⟩

/-- Fixed notation has no exponent. -/
theorem e_not_mem_plainText (s : Bool) (n : Nat) {places : Nat} (hplaces : 0 < places) :
    'e' ∉ plainText s n places := by
  have hfixed : 'e' ∉ fixedText s n places := by
    rw [fixedText, List.mem_append]
    rintro (hsign | hdigits)
    · cases s <;> simp [signText] at hsign
    · have := (isPointed_withPoint n hplaces).digit_or_point 'e' hdigits
      revert this
      decide
  unfold plainText
  dsimp only
  split
  · decide
  · exact fun hmem => hfixed (mem_of_mem_stripTrailingZeros hmem)

theorem denotes_plainText (s : Bool) {n places : Nat} (hn : n ≠ 0) (hplaces : 0 < places)
    (hlow : smallestExponent ≤ -(places : Int))
    (hhigh : adjusted n (-(places : Int)) ≤ largestExponent) :
    Denotes (plainText s n places) s n (-(places : Int)) := by
  have hdenotes : Denotes (stripTrailingZeros (fixedText s n places)) s n (-(places : Int)) := by
    have := denotes_stripped s hn (isPointed_withPoint n hplaces) .none (Nat.zero_le _) (one_dvd _)
      (by simpa using hlow) (by simpa using hhigh)
    rwa [List.append_nil, zero_sub] at this
  have hne : stripTrailingZeros (fixedText s n places) ≠ ['-', '0'] := by
    intro heq
    obtain ⟨d, hread, -, hvalue⟩ := hdenotes
    rw [heq] at hread
    obtain rfl : Decimal.finite true 0 0 = d := Option.some.inj hread
    have hzero := (value_finite_eq_zero_iff s n (-(places : Int))).1
      (hvalue ▸ (value_finite_eq_zero_iff ..).2 rfl)
    exact hn hzero
  rwa [plainText, if_neg hne]

/-- Exponential notation is read as the digits that it shows. A number that ends in zeros leaves
more room below. -/
theorem denotes_exponentialText_of_dvd (s : Bool) {c : Nat} {e : Int} (hc : c ≠ 0) {i : Nat}
    (hi : i ≤ exponentialDigits - 1) (hdvd : 10 ^ i ∣ (exponentialParts c e).1)
    (hlow : smallestExponent ≤ (exponentialParts c e).2 + i + 1 - exponentialDigits)
    (hhigh : adjusted c e < largestExponent) :
    Denotes (exponentialText s c e) s (exponentialParts c e).1
      ((exponentialParts c e).2 + 1 - exponentialDigits) := by
  obtain ⟨hcount, -⟩ := exponentialParts_spec hc e
  obtain ⟨-, hmost⟩ := exponentialParts_bounds hc e
  have hdigits : exponentialDigits = 7 := rfl
  have htext := isPointed_withLeadingPoint (n := (exponentialParts c e).1) (by omega)
  rw [hcount] at htext
  have hdenotes := denotes_stripped s (exponentialParts_ne_zero hc e) htext
    (.exponent (exponentialParts c e).2) hi hdvd (by omega) (by unfold adjusted; omega)
  rwa [show (exponentialParts c e).2 - ((exponentialDigits - 1 : Nat) : Int) =
    (exponentialParts c e).2 + 1 - exponentialDigits by omega] at hdenotes

theorem denotes_exponentialText (s : Bool) {c : Nat} {e : Int} (hc : c ≠ 0)
    (hlow : smallestExponent ≤ e) (hhigh : adjusted c e < largestExponent) :
    Denotes (exponentialText s c e) s (exponentialParts c e).1
      ((exponentialParts c e).2 + 1 - exponentialDigits) := by
  obtain ⟨hleast, -⟩ := exponentialParts_bounds hc e
  have hpos := digitCount_pos c
  unfold adjusted at hleast
  by_cases hshort : digitCount c ≤ exponentialDigits
  · -- A short coefficient is padded with zeros, and these are cut off again.
    have hdvd : 10 ^ (exponentialDigits - digitCount c) ∣ (exponentialParts c e).1 := by
      rw [exponentialParts, if_pos hshort]
      exact Dvd.intro_left c rfl
    exact denotes_exponentialText_of_dvd s hc (by omega) hdvd (by omega) hhigh
  · exact denotes_exponentialText_of_dvd s hc (Nat.zero_le _) (one_dvd _) (by omega) hhigh

/-- However many digits a number has, its leading ones can be read. -/
theorem denotes_exponentialText_of_adjusted (s : Bool) {c : Nat} {e : Int} (hc : c ≠ 0)
    (hlow : smallestExponent + exponentialDigits ≤ adjusted c e)
    (hhigh : adjusted c e < largestExponent) :
    Denotes (exponentialText s c e) s (exponentialParts c e).1
      ((exponentialParts c e).2 + 1 - exponentialDigits) := by
  obtain ⟨hleast, -⟩ := exponentialParts_bounds hc e
  exact denotes_exponentialText_of_dvd s hc (Nat.zero_le _) (one_dvd _) (by omega) hhigh

end UnitConversion.Decimal
