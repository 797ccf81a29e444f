import UnitConversion.Decimal.Power
import UnitConversion.Proofs.Decimal.Order

/-!
# Results that are numbers

An operation on finite numbers either stops with a signal or has a finite result, with one
exception: zero raised to a negative power is an infinity, and no signal tells.

* `YieldsNumber`: whether a computation stops or has a finite result.
* `Decimal.exists_pow_eq_infinite`, `Decimal.pow_yieldsNumber`: the exception, and that there is no
  other.
-/

namespace UnitConversion

/-- Whether a computation stops with a signal or has a finite number as its result. -/
def YieldsNumber (result : Except Signal Decimal) : Prop :=
  ∀ d, result = .ok d → d.isFinite = true

namespace YieldsNumber

@[simp] theorem error (signal : Signal) : YieldsNumber (.error signal) := by
  intro d h
  cases h

theorem ok {d : Decimal} (h : d.isFinite = true) :
    YieldsNumber (.ok d) := fun _ hd => Except.ok.inj hd ▸ h

@[simp] theorem ok_iff {d : Decimal} : YieldsNumber (.ok d) ↔ d.isFinite = true :=
  ⟨fun h => h d rfl, ok⟩

theorem bind {first : Except Signal Decimal} {next : Decimal → Except Signal Decimal}
    (hfirst : YieldsNumber first) (hnext : ∀ d, d.isFinite = true → YieldsNumber (next d)) :
    YieldsNumber (first >>= next) := by
  cases first with
  | error signal => exact error signal
  | ok d => exact hnext d (hfirst d rfl)

@[simp] theorem finish {ctx : Context} {s : Bool} {c : Nat} {e : Int} :
    YieldsNumber (ctx.finish s c e) := by
  unfold Context.finish
  dsimp only
  split_ifs <;> simp [Decimal.isFinite]

end YieldsNumber

namespace Decimal

section

variable {ctx : Context} {a b : Decimal}

theorem plus_yieldsNumber (ha : a.isFinite = true) : YieldsNumber (plus ctx a) := by
  obtain ⟨s, c, e, rfl⟩ := exists_of_isFinite ha
  exact YieldsNumber.finish

theorem neg_yieldsNumber (ha : a.isFinite = true) : YieldsNumber (neg ctx a) := by
  obtain ⟨s, c, e, rfl⟩ := exists_of_isFinite ha
  exact YieldsNumber.finish

theorem abs_yieldsNumber (ha : a.isFinite = true) : YieldsNumber (abs ctx a) := by
  obtain ⟨s, c, e, rfl⟩ := exists_of_isFinite ha
  exact YieldsNumber.finish

theorem sqrt_yieldsNumber (ha : a.isFinite = true) : YieldsNumber (sqrt ctx a) := by
  obtain ⟨s, c, e, rfl⟩ := exists_of_isFinite ha
  simp only [sqrt]
  split_ifs <;> simp

theorem add_yieldsNumber (ha : a.isFinite = true) (hb : b.isFinite = true) :
    YieldsNumber (add ctx a b) := by
  obtain ⟨s₁, c₁, e₁, rfl⟩ := exists_of_isFinite ha
  obtain ⟨s₂, c₂, e₂, rfl⟩ := exists_of_isFinite hb
  simp only [add, undefined?, addAligned]
  split_ifs <;> simp

theorem sub_yieldsNumber (ha : a.isFinite = true) (hb : b.isFinite = true) :
    YieldsNumber (sub ctx a b) := by
  obtain ⟨s, c, e, rfl⟩ := exists_of_isFinite hb
  exact add_yieldsNumber ha rfl

theorem mul_yieldsNumber (ha : a.isFinite = true) (hb : b.isFinite = true) :
    YieldsNumber (mul ctx a b) := by
  obtain ⟨s₁, c₁, e₁, rfl⟩ := exists_of_isFinite ha
  obtain ⟨s₂, c₂, e₂, rfl⟩ := exists_of_isFinite hb
  exact YieldsNumber.finish

theorem div_yieldsNumber (ha : a.isFinite = true) (hb : b.isFinite = true) :
    YieldsNumber (div ctx a b) := by
  obtain ⟨s₁, c₁, e₁, rfl⟩ := exists_of_isFinite ha
  obtain ⟨s₂, c₂, e₂, rfl⟩ := exists_of_isFinite hb
  simp only [div, undefined?]
  split_ifs <;> simp

theorem rem_yieldsNumber (ha : a.isFinite = true) (hb : b.isFinite = true) :
    YieldsNumber (rem ctx a b) := by
  obtain ⟨s₁, c₁, e₁, rfl⟩ := exists_of_isFinite ha
  obtain ⟨s₂, c₂, e₂, rfl⟩ := exists_of_isFinite hb
  simp only [rem, undefined?, remFinite]
  split_ifs <;> simp

/-! ### Choices -/

theorem better_yieldsNumber {wanted : Ordering} (ha : a.isFinite = true) (hb : b.isFinite = true) :
    YieldsNumber (better wanted a b) := by
  rw [better, compare?_eq hb ha]
  dsimp only
  split_ifs <;> simpa

theorem foldlM_better_yieldsNumber {wanted : Ordering} {ds : List Decimal} (ha : a.isFinite = true)
    (hds : ∀ d ∈ ds, d.isFinite = true) : YieldsNumber (ds.foldlM (better wanted) a) := by
  induction ds generalizing a with
  | nil => exact .ok ha
  | cons d ds ih =>
      obtain ⟨hd, hds⟩ := List.forall_mem_cons.1 hds
      exact (better_yieldsNumber ha hd).bind fun _ hbest => ih hbest hds

end

/-! ### Powers -/

section

variable {ctx : Context} {base r : Decimal} (hbase : base.isFinite = true)

include hbase

theorem powerBits_yieldsNumber (hr : r.isFinite = true) (bits : List Bool) :
    YieldsNumber (powerBits ctx base bits r) := by
  induction bits generalizing r with
  | nil => exact .ok hr
  | cons bit bits ih =>
      unfold powerBits
      refine (mul_yieldsNumber hr hr).bind fun _ hsquare => ?_
      dsimp only
      split
      · exact (mul_yieldsNumber hsquare hbase).bind fun _ hnext => ih hnext
      · exact ih hsquare

theorem powerFromLow_yieldsNumber (hr : r.isFinite = true) (fuel exponent : Nat) :
    YieldsNumber (powerFromLow ctx fuel base exponent r) := by
  induction fuel generalizing base r exponent with
  | zero => exact .ok hr
  | succ fuel ih =>
      unfold powerFromLow
      -- What follows when the lowest bit of the exponent is worked off.
      have hrest {next : Decimal} (hnext : next.isFinite = true) : YieldsNumber
          (if exponent / 2 = 0 then pure next
            else do powerFromLow ctx fuel (← mul ctx base base) (exponent / 2) next) := by
        split
        · exact .ok hnext
        · exact (mul_yieldsNumber hbase hbase).bind fun _ hsquare => ih hsquare hnext _
      dsimp only
      split
      · exact (mul_yieldsNumber hr hbase).bind fun _ hnext => hrest hnext
      · exact hrest hr

theorem powerNat_yieldsNumber (exponent : Nat) : YieldsNumber (powerNat ctx base exponent) := by
  unfold powerNat
  split
  · exact powerBits_yieldsNumber hbase hbase _
  · exact powerFromLow_yieldsNumber hbase rfl _ _

end

theorem powWhole_yieldsNumber (ctx : Context) (sign : Bool) (c₁ : Nat) (e₁ : Int)
    (s₂ : Bool) (c₂ : Nat) (e₂ : Int) : YieldsNumber (powWhole ctx sign c₁ e₁ s₂ c₂ e₂) := by
  unfold powWhole
  have hpower {work : Context} {base : Decimal} (hbase : base.isFinite = true) :
      YieldsNumber (powerNat work base (wholeNat c₂ e₂) >>= fun r =>
        ctx.finishDatum (withSign sign r)) := by
    refine (powerNat_yieldsNumber hbase _).bind fun r hr => ?_
    obtain ⟨s, c, e, rfl⟩ := exists_of_isFinite hr
    exact YieldsNumber.finish
  dsimp only
  split
  · exact (div_yieldsNumber rfl rfl).bind fun _ hbase => hpower hbase
  · exact hpower rfl

theorem outOfRange?_yieldsNumber {ctx : Context} {sign : Bool} {c₁ : Nat} {e₁ : Int}
    {s₂ : Bool} {c₂ : Nat} {e₂ : Int} {r : Except Signal Decimal}
    (h : outOfRange? ctx sign c₁ e₁ s₂ c₂ e₂ = some r) : YieldsNumber r := by
  unfold outOfRange? at h
  dsimp only at h
  split_ifs at h <;> obtain rfl := Option.some.inj h <;> simp [isFinite]

theorem powFinite_yieldsNumber (ctx : Context) (s₁ : Bool) (c₁ : Nat) (e₁ : Int)
    (s₂ : Bool) (c₂ : Nat) (e₂ : Int) : YieldsNumber (powFinite ctx s₁ c₁ e₁ s₂ c₂ e₂) := by
  unfold powFinite
  dsimp only
  split
  · exact .error _
  split
  · exact .ok rfl
  split
  · split_ifs <;> exact .ok rfl
  split
  · next r hr => exact outOfRange?_yieldsNumber hr
  split
  · exact powWhole_yieldsNumber ctx _ c₁ e₁ s₂ c₂ e₂
  · unfold powReal
    dsimp only
    split
    · exact .ok rfl
    · exact YieldsNumber.finish

theorem below_zero_iff (s : Bool) (c : Nat) (e : Int) :
    (finite s c e).below (.ofNat 0) = true ↔ s = true ∧ c ≠ 0 := by
  cases s <;> by_cases hc : c = 0 <;> simp [below, compare?, compareFinite, ofNat, hc]

/-- Zero raised to a negative power is an infinity. -/
theorem exists_pow_eq_infinite {ctx : Context} {a b : Decimal} (ha : a.isZero = true)
    (hb : b.below (.ofNat 0) = true) :
    ∃ s, pow ctx a b = .ok (.infinite s) := by
  obtain ⟨s₁, e₁, rfl⟩ : ∃ s₁ e₁, a = finite s₁ 0 e₁ := by
    cases a with
    | finite s₁ c₁ e₁ =>
        obtain rfl : c₁ = 0 := by simpa [isZero] using ha
        exact ⟨s₁, e₁, rfl⟩
    | infinite _ => cases ha
    | nan _ _ _ => cases ha
  cases b with
  | finite s₂ c₂ e₂ =>
      obtain ⟨rfl, hc₂⟩ := (below_zero_iff ..).1 hb
      simp [pow, undefined?, powZero, hc₂]
  | infinite s₂ =>
      obtain rfl : s₂ = true := by
        cases s₂ with
        | true => rfl
        | false => cases hb
      exact ⟨false, rfl⟩
  | nan _ _ _ => cases hb

/-- Any other power of finite numbers is finite, if it has a result at all. -/
theorem pow_yieldsNumber {ctx : Context} {a b : Decimal} (ha : a.isFinite = true)
    (hb : b.isFinite = true) (hne : ¬(a.isZero = true ∧ b.below (.ofNat 0) = true)) :
    YieldsNumber (pow ctx a b) := by
  obtain ⟨s₁, c₁, e₁, rfl⟩ := exists_of_isFinite ha
  obtain ⟨s₂, c₂, e₂, rfl⟩ := exists_of_isFinite hb
  rw [below_zero_iff] at hne
  simp only [pow, undefined?]
  split
  · next hc₁ =>
      simp only [powZero]
      split_ifs with hc₂ hs₂
      · exact .error _
      · exact absurd ⟨by simpa [isZero] using hc₁, hs₂, hc₂⟩ hne
      · exact .ok rfl
  · exact powFinite_yieldsNumber ctx s₁ c₁ e₁ s₂ c₂ e₂

end Decimal

end UnitConversion
