import UnitConversion.Decimal.Power
import UnitConversion.Proofs.Decimal.Alike

/-!
# What does not depend on how a number is written

A number other than zero can be written with more zeros at the end of its coefficient and a lower
exponent. A function of coefficient and exponent depends on the number alone if one such zero makes
no difference to it. Roots, logarithms and exponentials are computed by functions of this kind.

* `Decimal.eq_of_shift`: one zero more or less is enough.
* `Decimal.magnitude_rootParts_congr`: the parts of a root.
* `lnRounded_congr`, `magnitude_roundSignificant_congr`, `expRounded_congr`: what leads to a power
  with an exponent that is not whole.
-/

namespace UnitConversion

namespace Decimal

/-- What a zero at the end of the coefficient does not change depends on the number alone. -/
theorem eq_of_shift {α : Type} {F : Nat → Int → α}
    (hshift : ∀ c e, c ≠ 0 → F (c * 10) e = F c (e + 1)) {c₁ c₂ : Nat} {e₁ e₂ : Int} (hc : c₁ ≠ 0)
    (h : magnitude c₁ e₁ = magnitude c₂ e₂) : F c₁ e₁ = F c₂ e₂ := by
  have hshifts (c : Nat) (hc : c ≠ 0) (k : Nat) (e : Int) : F (c * 10 ^ k) e = F c (e + k) := by
    induction k generalizing e with
    | zero => simp
    | succ k ih =>
        rw [pow_succ, ← mul_assoc, hshift _ e (by positivity), ih]
        congr 1
        push_cast
        ring
  -- The number with the lower exponent has the longer coefficient.
  have hordered {c₁ c₂ : Nat} {e₁ e₂ : Int} (hc : c₂ ≠ 0) (h : magnitude c₁ e₁ = magnitude c₂ e₂)
      (he : e₁ ≤ e₂) : F c₁ e₁ = F c₂ e₂ := by
    have hcoefficient : c₁ = c₂ * 10 ^ (e₂ - e₁).toNat := by
      rw [← magnitude_shift c₂ he] at h
      have hunit : (10 : Rat) ^ e₁ ≠ 0 := by positivity
      exact_mod_cast mul_right_cancel₀ hunit h
    rw [hcoefficient, hshifts c₂ hc]
    congr 1
    omega
  have hc₂ : c₂ ≠ 0 := fun h₂ => hc ((coefficient_eq_zero_iff h).2 h₂)
  rcases le_total e₁ e₂ with he | he
  · exact hordered hc₂ h he
  · exact (hordered hc h.symm he).symm

theorem digitCount_mul_ten {c : Nat} (hc : c ≠ 0) : digitCount (c * 10) = digitCount c + 1 := by
  simpa using digitCount_mul_pow hc 1

/-- Digits behind the point that are cut off, and one zero more of them. -/
theorem mul_ten_div_pow (c : Nat) {e : Int} (he : e < 0) :
    c * 10 / 10 ^ (-e).toNat = c / 10 ^ (-(e + 1)).toNat := by
  rw [show (-e).toNat = (-(e + 1)).toNat + 1 by omega, pow_succ,
    Nat.mul_div_mul_right _ _ (by norm_num)]

/-! ### Whole numbers -/

section

variable {c₁ c₂ : Nat} {e₁ e₂ : Int}

theorem isWhole_congr (h : magnitude c₁ e₁ = magnitude c₂ e₂) : isWhole c₁ e₁ = isWhole c₂ e₂ := by
  by_cases hc : c₁ = 0
  · simp [isWhole, hc, (coefficient_eq_zero_iff h).1 hc]
  refine eq_of_shift (F := isWhole) (fun c e hc => ?_) hc h
  simp only [isWhole, digitCount_mul_ten hc]
  by_cases he : 0 ≤ e
  · simp [he, show 0 ≤ e + 1 by omega]
  · rcases eq_or_lt_of_le (show e + 1 ≤ 0 by omega) with hlast | hbelow
    · have hpos := digitCount_pos c
      simp [show e = -1 by omega]
      omega
    · have hrest : c * 10 % 10 ^ (-e).toNat = 0 ↔ c % 10 ^ (-(e + 1)).toNat = 0 := by
        rw [show (-e).toNat = (-(e + 1)).toNat + 1 by omega, pow_succ, Nat.mul_mod_mul_right]
        omega
      have hlong : (-e < ((digitCount c + 1 : Nat) : Int)) ↔ -(e + 1) < (digitCount c : Int) := by
        push_cast
        omega
      simp only [hrest, hlong, hc, he, show ¬ 0 ≤ e + 1 by omega, mul_eq_zero,
        OfNat.ofNat_ne_zero, or_self]

theorem wholeNat_congr (h : magnitude c₁ e₁ = magnitude c₂ e₂) :
    wholeNat c₁ e₁ = wholeNat c₂ e₂ := by
  by_cases hc : c₁ = 0
  · simp [wholeNat, hc, (coefficient_eq_zero_iff h).1 hc]
  refine eq_of_shift (F := wholeNat) (fun c e hc => ?_) hc h
  unfold wholeNat
  by_cases he : 0 ≤ e
  · rw [if_pos he, if_pos (by omega), mul_assoc, ← pow_succ']
    congr 2
    omega
  · rw [if_neg he, mul_ten_div_pow c (by omega)]
    split
    · next hlast => simp [show e = -1 by omega]
    · rfl

theorem isOddWhole_congr (h : magnitude c₁ e₁ = magnitude c₂ e₂) :
    isOddWhole c₁ e₁ = isOddWhole c₂ e₂ := by
  by_cases hc : c₁ = 0
  · simp [isOddWhole, hc, (coefficient_eq_zero_iff h).1 hc]
  refine eq_of_shift (F := isOddWhole) (fun c e hc => ?_) hc h
  have hc' : c * 10 ≠ 0 := by positivity
  simp only [isOddWhole, hc, hc', decide_false, Bool.false_or, decide_eq_true_eq]
  rcases lt_trichotomy e 0 with he | rfl | he
  · rw [mul_ten_div_pow c he, if_neg (by omega), if_neg (by omega)]
  · simp only [lt_irrefl, if_false, zero_add, zero_lt_one, if_true, neg_zero,
      Int.toNat_zero, pow_zero, Nat.div_one]
    simp only [decide_eq_false_iff_not]
    omega
  · rw [if_pos he, if_pos (by omega)]

end

/-! ### Roots -/

/-- The number whose root is taken, scaled by an even power of ten so that its root has one digit
more than the context keeps: the whole part of it, whether this is all of it, and the place of the
root's last digit. -/
def rootScale (precision c : Nat) (e : Int) : Nat × Bool × Int :=
  let half := e.fdiv 2
  let c₁ := if e % 2 = 0 then c else c * 10
  let pairs := if e % 2 = 0 then (digitCount c + 1) / 2 else digitCount c / 2 + 1
  let shift : Int := (precision : Int) + 1 - pairs
  let up := 100 ^ shift.toNat
  let down := 100 ^ (-shift).toNat
  (c₁ * up / down, decide (c₁ * up % down = 0), half - shift)

theorem rootScale_congr (precision : Nat) {c₁ c₂ : Nat} {e₁ e₂ : Int} (hc : c₁ ≠ 0)
    (h : magnitude c₁ e₁ = magnitude c₂ e₂) :
    rootScale precision c₁ e₁ = rootScale precision c₂ e₂ := by
  refine eq_of_shift (F := rootScale precision) (fun c e hc => ?_) hc h
  unfold rootScale
  dsimp only
  rw [digitCount_mul_ten hc]
  rcases Int.emod_two_eq_zero_or_one e with heven | hodd
  · -- The zero completes a pair of digits in both ways of writing.
    have hhalf : e.fdiv 2 = (e + 1).fdiv 2 := by
      simp only [Int.fdiv_eq_ediv_of_nonneg _ (show (0 : Int) ≤ 2 by norm_num)]
      omega
    rw [if_pos heven, if_pos heven, if_neg (by omega), if_neg (by omega), hhalf,
      show (digitCount c + 1 + 1) / 2 = digitCount c / 2 + 1 by omega]
  · -- The zero starts a pair of digits, which makes the number a hundred times as large.
    have hhalf : (e + 1).fdiv 2 = e.fdiv 2 + 1 := by
      simp only [Int.fdiv_eq_ediv_of_nonneg _ (show (0 : Int) ≤ 2 by norm_num)]
      omega
    rw [if_neg (by omega), if_neg (by omega), if_pos (by omega), if_pos (by omega), hhalf]
    generalize hshift : (precision : Int) + 1 - ((digitCount c + 1) / 2 : Nat) = shift
    rw [show (precision : Int) + 1 - (((digitCount c + 1) / 2 + 1 : Nat) : Int) = shift - 1 by
      push_cast at hshift ⊢
      omega]
    have hplace : e.fdiv 2 - (shift - 1) = e.fdiv 2 + 1 - shift := by omega
    rw [hplace]
    rcases lt_or_ge 0 shift with hup | hdown
    · have hscaled : c * 10 * 10 * 100 ^ (shift - 1).toNat = c * 100 ^ shift.toNat := by
        rw [show shift.toNat = (shift - 1).toNat + 1 by omega, pow_succ]
        ring
      rw [hscaled, show (-(shift - 1)).toNat = 0 by omega, show (-shift).toNat = 0 by omega]
    · have hscaled : c * 10 * 10 * 100 ^ (shift - 1).toNat = c * 100 ^ shift.toNat * 100 := by
        rw [show shift.toNat = 0 by omega, show (shift - 1).toNat = 0 by omega]
        ring
      rw [hscaled, show (-(shift - 1)).toNat = (-shift).toNat + 1 by omega, pow_succ,
        Nat.mul_div_mul_right _ _ (by norm_num), Nat.mul_mod_mul_right]
      simp

/-- The parts of a root are an exact root, or a cut one with a marked last digit. -/
theorem magnitude_rootParts (precision c : Nat) (e : Int) :
    magnitude (rootParts precision c e).1 (rootParts precision c e).2 =
      let scale := rootScale precision c e
      let root := integerRoot scale.1
      magnitude (if scale.2.1 = true ∧ root * root = scale.1 then root else sticky root 1)
        scale.2.2 := by
  unfold rootParts rootScale
  dsimp only
  generalize (if e % 2 = 0 then c else c * 10) = c₁
  generalize (precision : Int) + 1 -
    ((if e % 2 = 0 then (digitCount c + 1) / 2 else digitCount c / 2 + 1 : Nat) :
    Int) = shift
  generalize hroot : integerRoot (c₁ * 100 ^ shift.toNat / 100 ^ (-shift).toNat) = root
  simp only [decide_eq_true_eq]
  split
  · next hexact =>
      obtain ⟨-, hsquare⟩ := hexact
      split
      · next hup =>
          -- An exact root of a number that ends in pairs of zeros ends in as many zeros.
          rw [show (-shift).toNat = 0 by omega, pow_zero, Nat.div_one] at hsquare
          have hdvd : 10 ^ shift.toNat ∣ root := by
            rw [← Nat.pow_dvd_pow_iff (n := 2) (by norm_num), ← pow_mul, mul_comm, pow_mul,
              show 10 ^ 2 = 100 by norm_num]
            exact ⟨c₁, by rw [pow_two root, hsquare, mul_comm]⟩
          obtain ⟨a, rfl⟩ := hdvd
          rw [Nat.mul_div_cancel_left a (by positivity), mul_comm, magnitude_mul_pow]
          congr 1
          omega
      · next hdown =>
          rw [magnitude_mul_pow]
          congr 1
          omega
  · rfl

theorem magnitude_rootParts_congr (precision : Nat) {c₁ c₂ : Nat} {e₁ e₂ : Int} (hc : c₁ ≠ 0)
    (h : magnitude c₁ e₁ = magnitude c₂ e₂) :
    magnitude (rootParts precision c₁ e₁).1 (rootParts precision c₁ e₁).2 =
      magnitude (rootParts precision c₂ e₂).1 (rootParts precision c₂ e₂).2 := by
  rw [magnitude_rootParts, magnitude_rootParts, rootScale_congr precision hc h]

end Decimal

/-! ### Logarithms -/

section

open Decimal

/-- Only the quotient counts. -/
theorem twiceArctanh_mul (places : Nat) (n d : Int) {k : Int} (hk : 0 < k) :
    twiceArctanh places (n * k) (d * k) = twiceArctanh places n d := by
  have hterm : (n * k * 10 ^ places).tdiv (d * k) = (n * 10 ^ places).tdiv d := by
    rw [mul_right_comm, Int.mul_tdiv_mul_of_pos_left _ _ hk]
  have hratio : (n * k * (n * k) * 10 ^ places).tdiv (d * k * (d * k)) =
      (n * n * 10 ^ places).tdiv (d * d) := by
    rw [show n * k * (n * k) * 10 ^ places = n * n * 10 ^ places * (k * k) by ring,
      show d * k * (d * k) = d * d * (k * k) by ring,
          Int.mul_tdiv_mul_of_pos_left _ _ (by positivity)]
  unfold twiceArctanh
  dsimp only
  rw [hterm, hratio]

variable {c₁ c₂ : Nat} {e₁ e₂ : Int}

theorem adjusted_mul_ten {c : Nat} (hc : c ≠ 0) (e : Int) :
    adjusted (c * 10) e = adjusted c (e + 1) := by
  unfold adjusted
  rw [digitCount_mul_ten hc]
  push_cast
  ring

theorem centre_mul_ten {c : Nat} (hc : c ≠ 0) (e : Int) : centre (c * 10) e = centre c (e + 1) := by
  have hpos := digitCount_pos c
  have hlead : 316 * 10 ^ (digitCount (c * 10) - 1) ≤ 100 * (c * 10) ↔
      316 * 10 ^ (digitCount c - 1) ≤ 100 * c := by
    rw [digitCount_mul_ten hc, show digitCount c + 1 - 1 = digitCount c - 1 + 1 by omega, pow_succ]
    omega
  simp only [centre, hlead, adjusted_mul_ten hc]

theorem centre_congr (hc : c₁ ≠ 0) (h : magnitude c₁ e₁ = magnitude c₂ e₂) :
    centre c₁ e₁ = centre c₂ e₂ :=
  eq_of_shift (F := centre) (fun _ e hc => centre_mul_ten hc e) hc h

theorem lnFixed_congr (places : Nat) (hc : c₁ ≠ 0) (h : magnitude c₁ e₁ = magnitude c₂ e₂) :
    lnFixed places c₁ e₁ = lnFixed places c₂ e₂ := by
  refine eq_of_shift (F := lnFixed places) (fun c e hc => ?_) hc h
  -- The number is compared to a power of ten that is no less than its last place.
  have hplace : e + 1 ≤ centre c (e + 1) := by
    have := digitCount_pos c
    unfold centre adjusted
    split <;> omega
  unfold lnFixed
  dsimp only
  rw [centre_mul_ten hc, show (centre c (e + 1) - e).toNat =
    (centre c (e + 1) - (e + 1)).toNat + 1 by omega, pow_succ]
  generalize (10 : Int) ^ (centre c (e + 1) - (e + 1)).toNat = unit
  have hdifference : ((c * 10 : Nat) : Int) - unit * 10 = (c - unit) * 10 := by push_cast; ring
  have hsum : ((c * 10 : Nat) : Int) + unit * 10 = (c + unit) * 10 := by push_cast; ring
  rw [hdifference, hsum, twiceArctanh_mul places _ _ (by norm_num)]

theorem lnRounded_congr (digits : Nat) (hc : c₁ ≠ 0) (h : magnitude c₁ e₁ = magnitude c₂ e₂) :
    lnRounded digits c₁ e₁ = lnRounded digits c₂ e₂ := by
  unfold lnRounded
  simp only [centre_congr hc h, fun places => lnFixed_congr places hc h, compareMagnitude_eq, h]

/-! ### Rounding to significant digits -/

/-- Rounding to some digits goes to the nearest multiple of the last of them. -/
theorem magnitude_roundToDigits (tie : Tie) {digits : Nat} (hdigits : 0 < digits) {n : Nat}
    (hn : n ≠ 0) (e : Int) :
    magnitude (roundToDigits tie digits n).1 (e + (roundToDigits tie digits n).2) =
      tie.nearest (magnitude n e / 10 ^ (adjusted n e + 1 - digits)) *
        10 ^ (adjusted n e + 1 - digits) := by
  have hvalue := (roundToDigits_spec tie hdigits hn).2.2
  have hunit (j : Int) : (10 : Rat) ^ j ≠ 0 := by positivity
  have hrounded : magnitude (roundToDigits tie digits n).1 (e + (roundToDigits tie digits n).2) =
      ((dropDigits tie n (digitCount n - digits) : Int) : Rat) *
        10 ^ (e + (digitCount n - digits : Nat)) := by
    rw [← magnitude_mul_pow, hvalue, magnitude_mul_pow]
    rfl
  rw [hrounded, dropDigits_eq_nearest]
  rcases le_total (digitCount n) digits with hshort | hlong
  · -- A number with no more digits is a multiple of the last place, and stays as it is.
    have hmultiple : magnitude n e / 10 ^ (adjusted n e + 1 - digits) =
        ((n * 10 ^ (digits - digitCount n) : Nat) : Int) := by
      rw [div_eq_iff (hunit _)]
      push_cast
      unfold magnitude adjusted
      rw [mul_assoc, ← zpow_natCast, ← zpow_add₀ (by norm_num)]
      congr 2
      omega
    have hkeep : (n : Rat) / 10 ^ (digitCount n - digits) = ((n : Int) : Rat) := by
      rw [Nat.sub_eq_zero_of_le hshort, pow_zero, div_one]
      rfl
    rw [hmultiple, Tie.nearest_intCast, ← hmultiple, div_mul_cancel₀ _ (hunit _), hkeep,
      Tie.nearest_intCast, Nat.sub_eq_zero_of_le hshort]
    unfold magnitude
    norm_num
  · have hplace : adjusted n e + 1 - digits = e + (digitCount n - digits : Nat) := by
      unfold adjusted
      omega
    have hquotient : magnitude n e / 10 ^ (e + (digitCount n - digits : Nat)) =
        (n : Rat) / 10 ^ (digitCount n - digits) := by
      unfold magnitude
      rw [zpow_add₀ (by norm_num), zpow_natCast]
      field_simp
    rw [hplace, hquotient]

theorem magnitude_roundSignificant_congr {digits : Nat} (hdigits : 0 < digits)
    (h : magnitude c₁ e₁ = magnitude c₂ e₂) :
    magnitude (roundSignificant digits c₁ e₁).1 (roundSignificant digits c₁ e₁).2 =
      magnitude (roundSignificant digits c₂ e₂).1 (roundSignificant digits c₂ e₂).2 := by
  by_cases hc : c₁ = 0
  · have hzero (e : Int) : (roundSignificant digits 0 e).1 = 0 := by
      have hcount : digitCount 0 ≤ digits := hdigits
      simp [roundSignificant, roundToDigits, hcount]
    obtain rfl := hc
    obtain rfl := (coefficient_eq_zero_iff h).1 rfl
    rw [hzero, hzero, magnitude_zero, magnitude_zero]
  · have hc₂ : c₂ ≠ 0 := fun h₂ => hc ((coefficient_eq_zero_iff h).2 h₂)
    rw [roundSignificant, roundSignificant]
    dsimp only
    rw [magnitude_roundToDigits .even hdigits hc, magnitude_roundToDigits .even hdigits hc₂,
      adjusted_congr hc h, h]

/-! ### Exponentials -/

theorem wholeDigits_congr (h : magnitude c₁ e₁ = magnitude c₂ e₂) :
    wholeDigits c₁ e₁ = wholeDigits c₂ e₂ := by
  by_cases hc : c₁ = 0
  · simp [wholeDigits, hc, (coefficient_eq_zero_iff h).1 hc]
  · simp only [wholeDigits, coefficient_eq_zero_iff h, adjusted_congr hc h]

theorem toFixed_congr (places : Nat) (s : Bool) (h : magnitude c₁ e₁ = magnitude c₂ e₂) :
    toFixed places s c₁ e₁ = toFixed places s c₂ e₂ := by
  by_cases hc : c₁ = 0
  · simp [toFixed, hc, (coefficient_eq_zero_iff h).1 hc]
  refine eq_of_shift (F := toFixed places s) (fun c e hc => ?_) hc h
  unfold toFixed
  dsimp only
  rw [show e + 1 + (places : Int) = e + places + 1 by ring, digitCount_mul_ten hc]
  generalize e + (places : Int) = shift
  have hcut : (if 0 ≤ shift then ((c * 10 : Nat) : Int) * 10 ^ shift.toNat
        else if ((digitCount c + 1 : Nat) : Int) < -shift then 0
          else ((c * 10 : Nat) : Int) / 10 ^ (-shift).toNat) =
      if 0 ≤ shift + 1 then (c : Int) * 10 ^ (shift + 1).toNat
        else if (digitCount c : Int) < -(shift + 1) then 0
        else (c : Int) / 10 ^ (-(shift + 1)).toNat := by
    -- At the last digit the shorter coefficient is taken whole, the longer one without its zero.
    have hpos := digitCount_pos c
    rcases le_or_gt 0 shift with hup | hdown
    · rw [if_pos hup, if_pos (by omega),
        show (shift + 1).toNat = shift.toNat + 1 by omega, pow_succ]
      push_cast
      ring
    · have hdiv : ((c * 10 : Nat) : Int) / 10 ^ (-shift).toNat =
        (c : Int) / 10 ^ (-(shift + 1)).toNat := by
        exact_mod_cast congrArg (Nat.cast (R := Int)) (mul_ten_div_pow c hdown)
      rw [if_neg (by omega), hdiv]
      push_cast
      rcases eq_or_lt_of_le (show shift + 1 ≤ 0 by omega) with hlast | hbelow
      · rw [if_neg (by omega), if_pos hlast.ge, hlast]
        simp
      · rw [if_neg (show ¬ 0 ≤ shift + 1 by omega)]
        congr 1
        simp only [eq_iff_iff]
        omega
  rw [hcut]

theorem expRounded_congr (digits : Nat) (s : Bool) (h : magnitude c₁ e₁ = magnitude c₂ e₂) :
    expRounded digits s c₁ e₁ = expRounded digits s c₂ e₂ := by
  unfold expRounded
  simp only [wholeDigits_congr h, fun places => toFixed_congr places s h]

end

end UnitConversion
