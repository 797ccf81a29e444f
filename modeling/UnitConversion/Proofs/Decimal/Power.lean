import UnitConversion.Proofs.Decimal.Writing

/-!
# Roots and powers of alike numbers

Roots and powers agree for operands that differ only in how they are written. A power with a whole
exponent is a chain of products, each of which agrees. The logarithm and the exponential in any
other power are even the same, if the bases are equally long as far as they have more digits than
the context: the length of the base decides how many digits they are computed with.

* `Decimal.levelBases`: whether a power takes no notice of the lengths of two bases.
* `Decimal.sqrt_agree`, `Decimal.pow_agree`: alike operands give results that agree.
-/

namespace UnitConversion.Decimal

section

variable {ctx : Context} {digits : Nat} (hprecision : 0 < ctx.precision)
    (hdigits : ctx.precision ≤ digits)

include hprecision hdigits

theorem sqrt_agree {n : Nat} {a b : Decimal} (h : Alike n a b) :
    Agree (Alike digits) (sqrt ctx a) (sqrt ctx b) := by
  cases h with
  | finite s hmagnitude =>
      rename_i c₁ c₂ e₁ e₂ _
      have hzero := coefficient_eq_zero_iff hmagnitude
      simp only [sqrt, hzero]
      split
      · next hc₂ =>
          have hsame : magnitude 0 (e₁.fdiv 2) = magnitude 0 (e₂.fdiv 2) := by simp
          exact finish_agree hprecision hdigits s hsame
      · next hc₂ =>
          split
          · exact agree_refl _
          · refine finish_agree ?_ ?_ false ?_
            · exact hprecision
            · exact hdigits
            · exact magnitude_rootParts_congr ctx.precision
                (fun hc₁ => hc₂ (hzero.1 hc₁)) hmagnitude
  | infinite s => exact agree_refl _
  | nan s signaling payload => exact agree_refl _

/-! ### Whole exponents -/

theorem powerBits_agree {m n : Nat} {base base' : Decimal} (hbase : Alike m base base')
    (bits : List Bool) {r r' : Decimal} (hr : Alike n r r') (hn : n ≤ digits) :
    Agree (Alike digits) (powerBits ctx base bits r) (powerBits ctx base' bits r') := by
  induction bits generalizing n r r' with
  | nil => exact .ok (hr.mono hn)
  | cons bit bits ih =>
      -- After the first square the result has the digits of the context, whatever it started with.
      unfold powerBits
      refine (mul_agree hprecision hdigits hr hr).bind fun _ _ hsquare => ?_
      dsimp only
      split
      · exact (mul_agree hprecision hdigits hsquare hbase).bind fun _ _ hnext => ih hnext le_rfl
      · exact ih hsquare le_rfl

theorem powerFromLow_agree (fuel exponent : Nat) {m n : Nat} {base base' r r' : Decimal}
    (hbase : Alike m base base') (hr : Alike n r r') (hn : n ≤ digits) :
    Agree (Alike digits) (powerFromLow ctx fuel base exponent r)
      (powerFromLow ctx fuel base' exponent r') := by
  induction fuel generalizing exponent m n base base' r r' with
  | zero => exact .ok (hr.mono hn)
  | succ fuel ih =>
      unfold powerFromLow
      -- What follows when the lowest bit of the exponent is worked off.
      have hrest {next next' : Decimal} (hnext : Alike digits next next') :
          Agree (Alike digits)
            (if exponent / 2 = 0 then pure next
              else do powerFromLow ctx fuel (← mul ctx base base) (exponent / 2) next)
            (if exponent / 2 = 0 then pure next'
              else do powerFromLow ctx fuel (← mul ctx base' base') (exponent / 2) next') := by
        split
        · exact .ok hnext
        · exact (mul_agree hprecision hdigits hbase hbase).bind fun _ _ hsquare =>
            ih (exponent / 2) hsquare hnext le_rfl
      dsimp only
      split
      · exact (mul_agree hprecision hdigits hr hbase).bind fun _ _ hnext => hrest hnext
      · exact hrest (hr.mono hn)

theorem powerNat_agree (exponent : Nat) {base base' : Decimal} (hbase : Alike digits base base') :
    Agree (Alike digits) (powerNat ctx base exponent) (powerNat ctx base' exponent) := by
  unfold powerNat
  split
  · exact powerBits_agree hprecision hdigits hbase _ hbase le_rfl
  · have hone : Alike digits (.ofNat 1) (.ofNat 1) := .refl _
    exact powerFromLow_agree hprecision hdigits _ exponent hbase hone le_rfl

end

theorem Alike.withSign {digits : Nat} {a b : Decimal} (s : Bool) (h : Alike digits a b) :
    Alike digits (a.withSign s) (b.withSign s) := by
  cases h with
  | finite _ hmagnitude hlength => exact .finite s hmagnitude hlength
  | infinite _ => exact .infinite s
  | nan s signaling payload => exact .nan s signaling payload

section

variable {ctx : Context} {digits : Nat} (hprecision : 0 < ctx.precision)
    (hdigits : ctx.precision ≤ digits)
  {c₁ c₁' c₂ c₂' : Nat} {e₁ e₁' e₂ e₂' : Int}
  (h₁ : magnitude c₁ e₁ = magnitude c₁' e₁') (h₂ : magnitude c₂ e₂ = magnitude c₂' e₂')

include hprecision hdigits h₁ h₂

theorem powWhole_agree (hlength : max (digitCount c₁) digits = max (digitCount c₁') digits)
    (sign s₂ : Bool) (hc₂ : c₂ ≠ 0) :
    Agree (Alike digits) (powWhole ctx sign c₁ e₁ s₂ c₂ e₂)
      (powWhole ctx sign c₁' e₁' s₂ c₂' e₂') := by
  have hplace : (digitCount c₂ : Int) + e₂ + 2 = digitCount c₂' + e₂' + 2 := by
    have := adjusted_congr hc₂ h₂
    unfold adjusted at this
    omega
  unfold powWhole
  dsimp only
  rw [hplace, wholeNat_congr h₂]
  generalize hextra : ((digitCount c₂' : Int) + e₂' + 2).toNat +
    (if s₂ = true then 1 else 0) = extra
  -- In between, the results have the digits of the working context, which are more.
  have hpositive : 0 <
      ({ ctx with precision := ctx.precision + extra, tie := .even } : Context).precision :=
    Nat.add_pos_left hprecision extra
  generalize ({ ctx with precision := ctx.precision + extra, tie := .even } : Context) =
    work at hpositive
  have hnumber : Alike (max digits work.precision) (.finite false c₁ e₁) (.finite false c₁' e₁') :=
    .finite false h₁ (by omega)
  have hpower {base base' : Decimal} (hbase : Alike (max digits work.precision) base base') :
      Agree (Alike digits)
        (powerNat work base (wholeNat c₂' e₂') >>= fun r => ctx.finishDatum (withSign sign r))
        (powerNat work base' (wholeNat c₂' e₂') >>= fun r => ctx.finishDatum (withSign sign r)) :=
    (powerNat_agree hpositive (le_max_right _ _) _ hbase).bind fun _ _ hr =>
      finishDatum_agree hprecision hdigits (hr.withSign sign)
  split
  · have hone : Alike digits (.ofNat 1) (.ofNat 1) := .refl _
    exact (div_agree hpositive (le_max_right _ _) hone hnumber).bind fun _ _ hbase => hpower hbase
  · exact hpower hnumber

end

/-! ### Other exponents -/

section

variable {c₁ c₁' c₂ c₂' : Nat} {e₁ e₁' e₂ e₂' : Int}
  (h₁ : magnitude c₁ e₁ = magnitude c₁' e₁') (h₂ : magnitude c₂ e₂ = magnitude c₂' e₂')

include h₁

theorem logPlace_congr (hc₁ : c₁ ≠ 0) (hone : magnitude c₁ e₁ ≠ 1) :
    logPlace c₁ e₁ = logPlace c₁' e₁' := by
  -- Close to one it is the distance from one that counts.
  have hdistance (c : Nat) (e : Int) :
      magnitude (((c * 10 ^ (e - min e 0).toNat : Nat) : Int) -
        ((10 ^ (-min e 0).toNat : Nat) : Int)).natAbs (min e 0) = |magnitude c e - 1| := by
    have hunit : (0 : Rat) < 10 ^ min e 0 := by positivity
    have hnumber : ((c * 10 ^ (e - min e 0).toNat : Nat) : Rat) * 10 ^ min e 0 = magnitude c e :=
      magnitude_shift c (min_le_left e 0)
    have hpower : ((10 ^ (-min e 0).toNat : Nat) : Rat) * 10 ^ min e 0 = 1 := by
      push_cast
      rw [← zpow_natCast, ← zpow_add₀ (by norm_num),
        show ((-min e 0).toNat : Int) + min e 0 = 0 by omega, zpow_zero]
    rw [magnitude, ← hnumber, ← hpower, ← sub_mul, abs_mul, abs_of_pos hunit]
    congr 1
    rw [Nat.cast_natAbs]
    push_cast
    rfl
  have hplace : adjusted (((c₁ * 10 ^ (e₁ - min e₁ 0).toNat : Nat) : Int) -
        ((10 ^ (-min e₁ 0).toNat : Nat) : Int)).natAbs (min e₁ 0) =
      adjusted (((c₁' * 10 ^ (e₁' - min e₁' 0).toNat : Nat) : Int) -
        ((10 ^ (-min e₁' 0).toNat : Nat) : Int)).natAbs (min e₁' 0) := by
    refine adjusted_congr ?_ (by rw [hdistance, hdistance, h₁])
    intro hzero
    have hdist := hdistance c₁ e₁
    rw [hzero, magnitude_zero, eq_comm, abs_eq_zero, sub_eq_zero] at hdist
    exact hone hdist
  simp only [logPlace, adjusted_congr hc₁ h₁, hplace]

include h₂

/-- With as long a base, the logarithm and the exponential are computed with as many digits. -/
theorem powReal_eq {ctx : Context}
    (hlength : max (digitCount c₁) ctx.precision = max (digitCount c₁') ctx.precision)
    (hc₁ : c₁ ≠ 0) (s₂ : Bool) : powReal ctx c₁ e₁ s₂ c₂ e₂ = powReal ctx c₁' e₁' s₂ c₂' e₂' := by
  unfold powReal
  dsimp only
  rw [hlength, lnRounded_congr _ hc₁ h₁]
  generalize hcount : max (digitCount c₁') ctx.precision + 23 = count
  generalize lnRounded count c₁' e₁' = ln
  -- The exponent may still be written in two ways, and so may its product with the logarithm.
  have hproduct : magnitude (ln.2.1 * c₂) (ln.2.2 + e₂) =
      magnitude (ln.2.1 * c₂') (ln.2.2 + e₂') := by
    rw [magnitude_mul, magnitude_mul, h₂]
  have hrounded := magnitude_roundSignificant_congr (show 0 < count by omega) hproduct
  rw [expRounded_congr count _ hrounded]

/-- Whether a power leaves the exponent range is seen from the places of the leading digits. -/
theorem outOfRange?_congr (ctx : Context) (sign s₂ : Bool) (hc₁ : c₁ ≠ 0) (hc₂ : c₂ ≠ 0)
    (hone : magnitude c₁ e₁ ≠ 1) :
    outOfRange? ctx sign c₁ e₁ s₂ c₂ e₂ = outOfRange? ctx sign c₁' e₁' s₂ c₂' e₂' := by
  simp only [outOfRange?, logPlace_congr h₁ hc₁ hone, adjusted_congr hc₁ h₁, adjusted_congr hc₂ h₂]

end

/-! ### Powers -/

theorem onePlaces_lt {ctx : Context} (hprecision : 0 < ctx.precision) (e₁ : Int)
    (c₂ : Nat) (e₂ : Int) :
    onePlaces ctx e₁ c₂ e₂ < ctx.precision := by
  unfold onePlaces
  split
  · exact hprecision
  · split <;> omega

/-- How many zeros a one is written with does not matter. -/
theorem alike_paddedOne {digits : Nat} (s : Bool) {p q : Nat} (hp : p < digits) (hq : q < digits) :
    Alike digits (paddedOne s p) (paddedOne s q) := by
  have hone (p : Nat) : magnitude (10 ^ p) (-(p : Int)) = 1 := by
    have := magnitude_mul_pow 1 p (-(p : Int))
    rw [one_mul] at this
    rw [this]
    simp [magnitude]
  have hcount (p : Nat) : digitCount (10 ^ p) = p + 1 :=
    digitCount_eq_of_pow le_rfl (Nat.pow_lt_pow_right (by norm_num) (by omega))
  exact .finite s (by rw [hone, hone]) (by rw [hcount, hcount]; omega)

/-- Whether a power takes no notice of which of two ways its base is written in: the exponent is
whole or infinite, or the bases are equally long as far as they have more than `digits` digits. -/
def levelBases (digits : Nat) (base base' exponent : Decimal) : Bool :=
  match exponent with
  | finite _ c e => isWhole c e || max base.length digits == max base'.length digits
  | _ => true

/-- Bases without digits that the context has no room for are level. -/
theorem Alike.levelBases {digits : Nat} {a b : Decimal} (h : Alike digits a b)
    (exponent : Decimal) :
    levelBases digits a b exponent = true := by
  have hlength : max a.length digits = max b.length digits := by
    cases h with
    | finite s hmagnitude hlength => exact hlength
    | infinite s => rfl
    | nan s signaling payload => rfl
  cases exponent <;> simp [Decimal.levelBases, hlength]

section

variable {ctx : Context} {digits : Nat} (hprecision : 0 < ctx.precision)
    (hdigits : ctx.precision ≤ digits)
  {a a' b b' : Decimal}

include hprecision hdigits

theorem powFinite_agree (s₁ s₂ : Bool) {c₁ c₁' c₂ c₂' : Nat} {e₁ e₁' e₂ e₂' : Int} (hc₁ : c₁ ≠ 0)
    (h₁ : magnitude c₁ e₁ = magnitude c₁' e₁') (h₂ : magnitude c₂ e₂ = magnitude c₂' e₂')
    (hlength : max (digitCount c₁) digits = max (digitCount c₁') digits)
    (hlevel : isWhole c₂ e₂ = false → max (digitCount c₁) ctx.precision =
      max (digitCount c₁') ctx.precision) :
    Agree (Alike digits) (powFinite ctx s₁ c₁ e₁ s₂ c₂ e₂)
      (powFinite ctx s₁ c₁' e₁' s₂ c₂' e₂') := by
  rw [isWhole_congr h₂] at hlevel
  simp only [powFinite, isWhole_congr h₂, isOddWhole_congr h₂, coefficient_eq_zero_iff h₂,
    compareMagnitude_eq, h₁]
  generalize (s₁ && isWhole c₂' e₂' && isOddWhole c₂' e₂') = sign
  split
  · exact agree_refl _
  · split
    · exact agree_refl _
    · next hc₂' =>
        have hc₂ : c₂ ≠ 0 := fun h => hc₂' ((coefficient_eq_zero_iff h₂).1 h)
        split
        · -- The base is one.
          split
          · exact agree_refl _
          · split
            · exact agree_refl _
            · have hp := onePlaces_lt hprecision e₁ c₂ e₂
              have hq := onePlaces_lt hprecision e₁' c₂' e₂'
              exact .ok (alike_paddedOne sign (hp.trans_le hdigits) (hq.trans_le hdigits))
        · next hone =>
            have hone : magnitude c₁ e₁ ≠ 1 := by
              intro h
              rw [← h₁, h] at hone
              simp [magnitude] at hone
            -- What is left is a power out of the range, one with a whole exponent, or any other.
            rw [outOfRange?_congr h₁ h₂ ctx sign s₂ hc₁ hc₂ hone]
            split
            · exact agree_refl _
            · split
              · exact powWhole_agree hprecision hdigits h₁ h₂ hlength sign s₂ hc₂
              · next hwhole =>
                  rw [powReal_eq h₁ h₂ (hlevel (by simpa using hwhole)) hc₁]
                  exact agree_refl _

theorem pow_agree (ha : Alike digits a a') (hb : Alike digits b b')
    (hlevel : levelBases ctx.precision a a' b = true) :
    Agree (Alike digits) (pow ctx a b) (pow ctx a' b') := by
  cases ha with
  | finite s₁ h₁ hlength =>
      rename_i c₁ c₁' e₁ e₁'
      cases hb with
      | finite s₂ h₂ _ =>
          rename_i c₂ c₂' e₂ e₂' _
          simp only [pow, undefined?, powZero, coefficient_eq_zero_iff h₁,
            coefficient_eq_zero_iff h₂, isWhole_congr h₂, isOddWhole_congr h₂]
          split
          · exact agree_refl _
          · next hc₁' =>
              have hc₁ : c₁ ≠ 0 := fun h => hc₁' ((coefficient_eq_zero_iff h₁).1 h)
              refine powFinite_agree hprecision hdigits s₁ s₂ hc₁ h₁ h₂ hlength fun hwhole => ?_
              simpa [levelBases, length, hwhole] using hlevel
      | infinite s₂ =>
          simp only [pow, undefined?, powInfiniteExponent, coefficient_eq_zero_iff h₁,
            compareMagnitude_eq, h₁]
          exact agree_refl _
      | nan s₂ signaling payload => cases signaling <;> exact agree_refl _
  | infinite s₁ =>
      cases hb with
      | finite s₂ h₂ _ =>
          simp only [pow, undefined?, powInfiniteBase, coefficient_eq_zero_iff h₂, isWhole_congr h₂,
            isOddWhole_congr h₂]
          exact agree_refl _
      | infinite s₂ => exact agree_refl _
      | nan s₂ signaling payload => cases signaling <;> exact agree_refl _
  | nan s₁ signaling payload => cases hb <;> cases signaling <;> exact agree_refl _

end

end UnitConversion.Decimal
