import Mathlib.Algebra.Order.Floor.Semifield
import UnitConversion.Proofs.Decimal.Arithmetic
import UnitConversion.Proofs.Decimal.Order

/-!
# Numbers that differ in how they are written

`1.5` and `1.50` are two data with one value. An operation that is given one in the place of the
other returns the same value, with the same sign also if it is zero, or stops at the same signal.
What may come out in another way is only how the result is written. So a chain of operations never
sees the difference.

The length of a coefficient matters as far as it exceeds the digits of the context: the power to an
exponent that is not whole is computed with more digits for a longer base. Results of operations are
never so long.

* `Agree`: two results are values that stand in a relation, or the same error.
* `Decimal.Alike`: two data that differ only in how they are written.
* `Decimal.agree_of_rounds`: roundings of one exact value agree if their signs do.
* `Decimal.add_agree`, `Decimal.mul_agree`, `Decimal.div_agree`, `Decimal.rem_agree` and others:
  alike operands give results that agree.
-/

namespace UnitConversion

/-- How two results go together: both are values that stand in a relation, or both are the same
error. -/
inductive Agree {ε α β : Type} (R : α → β → Prop) : Except ε α → Except ε β → Prop
  | ok {a : α} {b : β} (h : R a b) : Agree R (.ok a) (.ok b)
  | error (e : ε) : Agree R (.error e) (.error e)

namespace Agree

variable {ε α β γ δ : Type} {R : α → β → Prop} {S : γ → δ → Prop}

theorem bind {r₁ : Except ε α} {r₂ : Except ε β} {next₁ : α → Except ε γ} {next₂ : β → Except ε δ}
    (h : Agree R r₁ r₂) (hnext : ∀ a b, R a b → Agree S (next₁ a) (next₂ b)) :
    Agree S (r₁ >>= next₁) (r₂ >>= next₂) := by
  cases h with
  | ok hab => exact hnext _ _ hab
  | error e => exact .error e

theorem mapError {ε' : Type} {r₁ : Except ε α} {r₂ : Except ε β} (f : ε → ε') (h : Agree R r₁ r₂) :
    Agree R (r₁.mapError f) (r₂.mapError f) := by
  cases h with
  | ok hab => exact .ok hab
  | error e => exact .error (f e)

end Agree

namespace Decimal

/-- How many digits the coefficient of a number has. -/
def length : Decimal → Nat
  | finite _ c _ => digitCount c
  | _ => 0

/-- Two data that differ at most in how a number is written. Their coefficients have the same length
as far as they have more than `digits` digits. -/
inductive Alike (digits : Nat) : Decimal → Decimal → Prop
  | finite (s : Bool) {c₁ c₂ : Nat} {e₁ e₂ : Int} (hmagnitude : magnitude c₁ e₁ = magnitude c₂ e₂)
      (hlength : max (digitCount c₁) digits = max (digitCount c₂) digits) :
      Alike digits (.finite s c₁ e₁) (.finite s c₂ e₂)
  | infinite (s : Bool) : Alike digits (.infinite s) (.infinite s)
  | nan (s signaling : Bool) (payload : Nat) :
      Alike digits (.nan s signaling payload) (.nan s signaling payload)

namespace Alike

variable {digits : Nat} {a b : Decimal}

theorem refl (a : Decimal) : Alike digits a a := by
  cases a with
  | finite s c e => exact .finite s rfl rfl
  | infinite s => exact .infinite s
  | nan s signaling payload => exact .nan s signaling payload

theorem mono {more : Nat} (h : Alike digits a b) (hdigits : digits ≤ more) : Alike more a b := by
  cases h with
  | finite s hmagnitude hlength => exact .finite s hmagnitude (by omega)
  | infinite s => exact .infinite s
  | nan s signaling payload => exact .nan s signaling payload

theorem value_eq (h : Alike digits a b) : a.value = b.value := by
  cases h with
  | finite s hmagnitude => rw [value_finite, value_finite, hmagnitude]
  | infinite => rfl
  | nan => rfl

theorem isFinite_eq (h : Alike digits a b) : a.isFinite = b.isFinite := by
  cases h <;> rfl

theorem flip (h : Alike digits a b) : Alike digits a.flip b.flip := by
  cases h with
  | finite s hmagnitude hlength => exact .finite (!s) hmagnitude hlength
  | infinite s => exact .infinite (!s)
  | nan s signaling payload => exact .nan s signaling payload

/-- Numbers with the same sign and the same value are alike if they are equally long as far as it
matters. -/
theorem of_value (ha : a.isFinite = true) (hb : b.isFinite = true)
    (hsign : a.isNegative = b.isNegative) (hvalue : a.value = b.value)
    (hlength : max a.length digits = max b.length digits) : Alike digits a b := by
  obtain ⟨s₁, c₁, e₁, rfl⟩ := exists_of_isFinite ha
  obtain ⟨s₂, c₂, e₂, rfl⟩ := exists_of_isFinite hb
  obtain rfl : s₁ = s₂ := hsign
  have hmagnitude : magnitude c₁ e₁ = magnitude c₂ e₂ := by
    rw [← abs_value_finite s₁, ← abs_value_finite s₁, hvalue]
  exact .finite s₁ hmagnitude hlength

/-- Numbers that have no more digits than matter are alike if they have the same sign and the same
value. -/
theorem of_length_le (ha : a.isFinite = true) (hb : b.isFinite = true)
    (hsign : a.isNegative = b.isNegative) (hvalue : a.value = b.value)
    (hlengtha : a.length ≤ digits) (hlengthb : b.length ≤ digits) :
    Alike digits a b :=
  .of_value ha hb hsign hvalue (by omega)

/-- Numbers of a context are alike if they have the same sign and the same value. -/
theorem of_fits {ctx : Context} (hdigits : ctx.precision ≤ digits) (ha : ctx.Fits a)
    (hb : ctx.Fits b) (hsign : a.isNegative = b.isNegative) (hvalue : a.value = b.value) :
    Alike digits a b := by
  have hlength {d : Decimal} (hd : ctx.Fits d) : d.length ≤ digits := by
    obtain ⟨s, c, e, rfl⟩ := exists_of_isFinite (Context.isFinite_of_fits hd)
    exact hd.1.trans hdigits
  exact .of_length_le (Context.isFinite_of_fits ha) (Context.isFinite_of_fits hb) hsign
    hvalue (hlength ha) (hlength hb)

/-- Two ways to write one number are alike if only enough digits matter. -/
theorem exists_digits (ha : a.isFinite = true) (hb : b.isFinite = true)
    (hsign : a.isNegative = b.isNegative) (hvalue : a.value = b.value) (least : Nat) :
    ∃ digits, least ≤ digits ∧ Alike digits a b :=
  ⟨max least (max a.length b.length), le_max_left _ _,
    .of_length_le ha hb hsign hvalue (by omega) (by omega)⟩

end Alike

/-- Of two ways to write a number, both have the coefficient zero or none has. -/
theorem coefficient_eq_zero_iff {c₁ c₂ : Nat} {e₁ e₂ : Int}
    (h : magnitude c₁ e₁ = magnitude c₂ e₂) :
    c₁ = 0 ↔ c₂ = 0 := by
  rw [← magnitude_eq_zero_iff c₁ e₁, h, magnitude_eq_zero_iff]

theorem Alike.isZero_eq {digits : Nat} {a b : Decimal} (h : Alike digits a b) :
    a.isZero = b.isZero := by
  cases h with
  | finite s hmagnitude => simp only [isZero, coefficient_eq_zero_iff hmagnitude]
  | infinite => rfl
  | nan => rfl

theorem magnitude_mul (c₁ : Nat) (e₁ : Int) (c₂ : Nat) (e₂ : Int) :
    magnitude (c₁ * c₂) (e₁ + e₂) = magnitude c₁ e₁ * magnitude c₂ e₂ := by
  unfold magnitude
  rw [zpow_add₀ (by norm_num)]
  push_cast
  ring

theorem isNegative_of_div {ctx : Context} {s₁ s₂ : Bool} {c₁ c₂ : Nat} {e₁ e₂ : Int} {d : Decimal}
    (h : div ctx (.finite s₁ c₁ e₁) (.finite s₂ c₂ e₂) = .ok d) : d.isNegative = (s₁ ^^ s₂) := by
  simp only [div, undefined?] at h
  split_ifs at h
  · exact Context.isNegative_of_finish h
  · exact Context.isNegative_of_finish h

/-- The quotient of two coefficients that are brought to one exponent is the whole part of the exact
quotient. -/
theorem whole_quotient {c₁ : Nat} {e₁ : Int} {c₂ : Nat} {e₂ : Int} :
    c₁ * 10 ^ (e₁ - min e₁ e₂).toNat / (c₂ * 10 ^ (e₂ - min e₁ e₂).toNat) =
      ⌊magnitude c₁ e₁ / magnitude c₂ e₂⌋₊ := by
  have hunit : (10 : Rat) ^ min e₁ e₂ ≠ 0 := by positivity
  rw [← magnitude_shift c₁ (min_le_left e₁ e₂),
    ← magnitude_shift c₂ (min_le_right e₁ e₂), magnitude, magnitude, mul_div_mul_right _ _ hunit,
    Nat.floor_div_eq_div]

/-- What the division of these coefficients leaves. -/
theorem magnitude_rest {c₁ : Nat} {e₁ : Int} {c₂ : Nat} {e₂ : Int} :
    magnitude (c₁ * 10 ^ (e₁ - min e₁ e₂).toNat % (c₂ * 10 ^ (e₂ - min e₁ e₂).toNat)) (min e₁ e₂) =
      magnitude c₁ e₁ - magnitude c₂ e₂ * ⌊magnitude c₁ e₁ / magnitude c₂ e₂⌋₊ := by
  rw [← whole_quotient, ← magnitude_shift c₁ (min_le_left e₁ e₂),
    ← magnitude_shift c₂ (min_le_right e₁ e₂)]
  generalize c₁ * 10 ^ (e₁ - min e₁ e₂).toNat = n
  generalize c₂ * 10 ^ (e₂ - min e₁ e₂).toNat = d
  have hsplit : ((d * (n / d) : Nat) : Rat) + (n % d : Nat) = n := by
    exact_mod_cast Nat.div_add_mod n d
  push_cast at hsplit
  unfold magnitude
  rw [← hsplit]
  ring

section

variable {ctx : Context} {digits : Nat} (hprecision : 0 < ctx.precision)
    (hdigits : ctx.precision ≤ digits)

/-! ### Rounding -/

/-- The same result agrees with itself. -/
theorem agree_refl (r : Except Signal Decimal) : Agree (Alike digits) r r := by
  cases r with
  | ok a => exact .ok (.refl a)
  | error signal => exact .error signal

include hdigits

/-- Two roundings of one exact value agree if they have the same sign. This only has to be said for
the sake of zero. -/
theorem agree_of_rounds {r₁ r₂ : Except Signal Decimal} {q : Rat} (h₁ : ctx.Rounds r₁ q)
    (h₂ : ctx.Rounds r₂ q)
    (hsign : ∀ d₁ d₂, r₁ = .ok d₁ → r₂ = .ok d₂ → d₁.isNegative = d₂.isNegative) :
    Agree (Alike digits) r₁ r₂ := by
  -- One exact value has one rounding, which is a number or a signal.
  have hvalue := h₁.value.trans h₂.value.symm
  cases hr₁ : r₁ with
  | error signal₁ =>
      cases hr₂ : r₂ with
      | error signal₂ =>
          rw [hr₁, hr₂] at hvalue
          obtain rfl : signal₁ = signal₂ := Except.error.inj hvalue
          exact .error signal₁
      | ok d₂ =>
          rw [hr₁, hr₂] at hvalue
          cases hvalue
  | ok d₁ =>
      cases hr₂ : r₂ with
      | error signal₂ =>
          rw [hr₁, hr₂] at hvalue
          cases hvalue
      | ok d₂ =>
          have hsame := hsign d₁ d₂ hr₁ hr₂
          rw [hr₁, hr₂] at hvalue
          exact .ok (.of_fits hdigits (h₁.fits d₁ hr₁) (h₂.fits d₂ hr₂) hsame
            (Except.ok.inj hvalue))

include hprecision

/-- How an exact result is written does not show when it is brought into a context. -/
theorem finish_agree (s : Bool) {c₁ c₂ : Nat} {e₁ e₂ : Int}
    (h : magnitude c₁ e₁ = magnitude c₂ e₂) :
    Agree (Alike digits) (ctx.finish s c₁ e₁) (ctx.finish s c₂ e₂) := by
  have hvalue : (Decimal.finite s c₁ e₁).value = (Decimal.finite s c₂ e₂).value := by
    rw [value_finite, value_finite, h]
  have h₁ := Context.finish_rounds hprecision s c₁ e₁
  rw [hvalue] at h₁
  refine agree_of_rounds hdigits h₁ (Context.finish_rounds hprecision s c₂ e₂) ?_
  intro d₁ d₂ hd₁ hd₂
  rw [Context.isNegative_of_finish hd₁, Context.isNegative_of_finish hd₂]

theorem finishDatum_agree {n : Nat} {a b : Decimal} (h : Alike n a b) :
    Agree (Alike digits) (ctx.finishDatum a) (ctx.finishDatum b) := by
  cases h with
  | finite s hmagnitude => exact finish_agree hprecision hdigits s hmagnitude
  | infinite s => exact agree_refl _
  | nan s signaling payload => exact agree_refl _

/-! ### Operations on one number -/

theorem plus_agree {n : Nat} {a b : Decimal} (h : Alike n a b) :
    Agree (Alike digits) (plus ctx a) (plus ctx b) := by
  cases h with
  | finite s hmagnitude =>
      simp only [plus, coefficient_eq_zero_iff hmagnitude]
      exact finish_agree hprecision hdigits _ hmagnitude
  | infinite s => exact agree_refl _
  | nan s signaling payload => exact agree_refl _

theorem neg_agree {n : Nat} {a b : Decimal} (h : Alike n a b) :
    Agree (Alike digits) (neg ctx a) (neg ctx b) := by
  cases h with
  | finite s hmagnitude =>
      simp only [neg, coefficient_eq_zero_iff hmagnitude]
      exact finish_agree hprecision hdigits _ hmagnitude
  | infinite s => exact agree_refl _
  | nan s signaling payload => exact agree_refl _

theorem abs_agree {n : Nat} {a b : Decimal} (h : Alike n a b) :
    Agree (Alike digits) (abs ctx a) (abs ctx b) := by
  cases h with
  | finite s hmagnitude => exact finish_agree hprecision hdigits false hmagnitude
  | infinite s => exact agree_refl _
  | nan s signaling payload => exact agree_refl _

/-! ### Quotients and remainders of numbers -/

theorem divFinite_agree (s₁ s₂ : Bool) {c₁ c₁' c₂ c₂' : Nat} {e₁ e₁' e₂ e₂' : Int}
    (h₁ : magnitude c₁ e₁ = magnitude c₁' e₁') (h₂ : magnitude c₂ e₂ = magnitude c₂' e₂') :
    Agree (Alike digits) (div ctx (.finite s₁ c₁ e₁) (.finite s₂ c₂ e₂))
      (div ctx (.finite s₁ c₁' e₁') (.finite s₂ c₂' e₂')) := by
  by_cases hc₂ : c₂ = 0
  · have hc₂' := (coefficient_eq_zero_iff h₂).1 hc₂
    simp only [div, undefined?, hc₂, hc₂', if_true, coefficient_eq_zero_iff h₁]
    exact agree_refl _
  · have hv₁ : (Decimal.finite s₁ c₁ e₁).value = (Decimal.finite s₁ c₁' e₁').value := by
      rw [value_finite, value_finite, h₁]
    have hv₂ : (Decimal.finite s₂ c₂ e₂).value = (Decimal.finite s₂ c₂' e₂').value := by
      rw [value_finite, value_finite, h₂]
    have hzero : (Decimal.finite s₂ c₂ e₂).value ≠ 0 :=
      fun h => hc₂ ((value_finite_eq_zero_iff ..).1 h)
    have hrounds :=
      div_rounds hprecision (a := .finite s₁ c₁ e₁) (b := .finite s₂ c₂ e₂) rfl rfl hzero
    rw [hv₁, hv₂] at hrounds
    refine agree_of_rounds hdigits hrounds (div_rounds hprecision rfl rfl (hv₂ ▸ hzero)) ?_
    intro d₁ d₂ hd₁ hd₂
    rw [isNegative_of_div hd₁, isNegative_of_div hd₂]

/-- A remainder is what the whole part of the exact quotient leaves, and this part shows how many
digits it has. -/
theorem remFinite_agree (s : Bool) {c₁ c₁' c₂ c₂' : Nat} {e₁ e₁' e₂ e₂' : Int}
    (h₁ : magnitude c₁ e₁ = magnitude c₁' e₁') (h₂ : magnitude c₂ e₂ = magnitude c₂' e₂')
    (hc₂' : c₂' ≠ 0) :
    Agree (Alike digits) (remFinite ctx s c₁ e₁ c₂ e₂) (remFinite ctx s c₁' e₁' c₂' e₂') := by
  have hc₂ : c₂ ≠ 0 := fun h => hc₂' ((coefficient_eq_zero_iff h₂).1 h)
  simp only [remFinite, coefficient_eq_zero_iff h₁]
  split
  · next hc₁ =>
      have hzero : magnitude 0 (min e₁ e₂) = magnitude 0 (min e₁' e₂') := by simp
      exact finish_agree hprecision hdigits s hzero
  · next hc₁' =>
      have hc₁ : c₁ ≠ 0 := fun h => hc₁' ((coefficient_eq_zero_iff h₁).1 h)
      -- Each test of the division asks for the places of the leading digits or for the whole
      -- quotient.
      rw [adjusted_congr hc₁ h₁, adjusted_congr hc₂ h₂, whole_quotient, whole_quotient, h₁, h₂]
      split
      · refine finish_agree hprecision hdigits s ?_
        rw [magnitude_shift c₁ (min_le_left _ _), magnitude_shift c₁' (min_le_left _ _), h₁]
      · split
        · exact agree_refl _
        · split
          · exact agree_refl _
          · refine finish_agree hprecision hdigits s ?_
            rw [magnitude_rest, magnitude_rest, h₁, h₂]

/-! ### Sums, products and quotients -/

variable {m n : Nat} {a a' b b' : Decimal} (ha : Alike m a a') (hb : Alike n b b')

include ha hb

theorem add_agree : Agree (Alike digits) (add ctx a b) (add ctx a' b') := by
  cases ha with
  | finite s₁ h₁ _ =>
      cases hb with
      | finite s₂ h₂ _ =>
          rename_i c₁ c₁' e₁ e₁' _ c₂ c₂' e₂ e₂' _
          have hv₁ : (finite s₁ c₁ e₁).value = (finite s₁ c₁' e₁').value := by
            rw [value_finite, value_finite, h₁]
          have hv₂ : (finite s₂ c₂ e₂).value = (finite s₂ c₂' e₂').value := by
            rw [value_finite, value_finite, h₂]
          have hrounds :=
            add_rounds hprecision (a := finite s₁ c₁ e₁) (b := finite s₂ c₂ e₂) rfl rfl
          rw [hv₁, hv₂] at hrounds
          refine agree_of_rounds hdigits hrounds (add_rounds hprecision rfl rfl) ?_
          intro d₁ d₂ hd₁ hd₂
          rw [isNegative_of_add hd₁, isNegative_of_add hd₂, hv₁, hv₂]
      | infinite s₂ => exact agree_refl _
      | nan s₂ signaling payload => cases signaling <;> exact agree_refl _
  | infinite s₁ =>
      cases hb with
      | finite s₂ h₂ _ => exact agree_refl _
      | infinite s₂ => exact agree_refl _
      | nan s₂ signaling payload => cases signaling <;> exact agree_refl _
  | nan s₁ signaling payload => cases hb <;> cases signaling <;> exact agree_refl _

theorem sub_agree : Agree (Alike digits) (sub ctx a b) (sub ctx a' b') :=
  add_agree hprecision hdigits ha hb.flip

theorem mul_agree : Agree (Alike digits) (mul ctx a b) (mul ctx a' b') := by
  cases ha with
  | finite s₁ h₁ _ =>
      cases hb with
      | finite s₂ h₂ _ =>
          refine finish_agree hprecision hdigits _ ?_
          rw [magnitude_mul, magnitude_mul, h₁, h₂]
      | infinite s₂ =>
          simp only [mul, undefined?, isZero, coefficient_eq_zero_iff h₁]
          exact agree_refl _
      | nan s₂ signaling payload => cases signaling <;> exact agree_refl _
  | infinite s₁ =>
      cases hb with
      | finite s₂ h₂ _ =>
          simp only [mul, undefined?, isZero, coefficient_eq_zero_iff h₂]
          exact agree_refl _
      | infinite s₂ => exact agree_refl _
      | nan s₂ signaling payload => cases signaling <;> exact agree_refl _
  | nan s₁ signaling payload => cases hb <;> cases signaling <;> exact agree_refl _

theorem div_agree : Agree (Alike digits) (div ctx a b) (div ctx a' b') := by
  cases ha with
  | finite s₁ h₁ _ =>
      cases hb with
      | finite s₂ h₂ _ => exact divFinite_agree hprecision hdigits s₁ s₂ h₁ h₂
      | infinite s₂ => exact agree_refl _
      | nan s₂ signaling payload => cases signaling <;> exact agree_refl _
  | infinite s₁ =>
      cases hb with
      | finite s₂ h₂ _ => exact agree_refl _
      | infinite s₂ => exact agree_refl _
      | nan s₂ signaling payload => cases signaling <;> exact agree_refl _
  | nan s₁ signaling payload => cases hb <;> cases signaling <;> exact agree_refl _

theorem rem_agree : Agree (Alike digits) (rem ctx a b) (rem ctx a' b') := by
  cases ha with
  | finite s₁ h₁ _ =>
      cases hb with
      | finite s₂ h₂ _ =>
          simp only [rem, undefined?, coefficient_eq_zero_iff h₂]
          split
          · exact agree_refl _
          · next hc => exact remFinite_agree hprecision hdigits s₁ h₁ h₂ hc
      | infinite s₂ => exact finish_agree hprecision hdigits s₁ h₁
      | nan s₂ signaling payload => cases signaling <;> exact agree_refl _
  | infinite s₁ =>
      cases hb with
      | finite s₂ h₂ _ => exact agree_refl _
      | infinite s₂ => exact agree_refl _
      | nan s₂ signaling payload => cases signaling <;> exact agree_refl _
  | nan s₁ signaling payload => cases hb <;> cases signaling <;> exact agree_refl _

end

/-! ### Choices -/

section

variable {digits : Nat} {a a' b b' : Decimal}

theorem compare?_congr (ha : Alike digits a a') (hb : Alike digits b b') :
    compare? a b = compare? a' b' := by
  cases ha with
  | finite s₁ h₁ hlength₁ =>
      cases hb with
      | finite s₂ h₂ hlength₂ =>
          rw [compare?_eq rfl rfl, compare?_eq rfl rfl]
          simp only [value_finite, h₁, h₂]
      | infinite s₂ => rfl
      | nan s₂ signaling payload => rfl
  | infinite s₁ => cases hb <;> rfl
  | nan s₁ signaling payload => cases hb <;> rfl

theorem better_agree (wanted : Ordering) (ha : Alike digits a a') (hb : Alike digits b b') :
    Agree (Alike digits) (better wanted a b) (better wanted a' b') := by
  simp only [better, compare?_congr hb ha]
  split
  · exact .error _
  · split
    · exact .ok hb
    · exact .ok ha

/-- Of two alike lists the same positions are chosen. -/
theorem foldlM_better_agree (wanted : Ordering) {as bs : List Decimal} (ha : Alike digits a a')
    (h : List.Forall₂ (Alike digits) as bs) :
    Agree (Alike digits) (as.foldlM (better wanted) a) (bs.foldlM (better wanted) a') := by
  induction h generalizing a a' with
  | nil => exact .ok ha
  | cons hd _ ih =>
      rw [List.foldlM_cons, List.foldlM_cons]
      exact (better_agree wanted ha hd).bind fun _ _ => ih

end

end Decimal

end UnitConversion
