import Mathlib.Data.Rat.Floor
import Mathlib.Tactic
import UnitConversion.Rounding

/-!
# Rounding rationals to whole numbers

`Tie.nearest` is the whole number nearest to a rational, with the ties of the library. It is what
`roundQuotient` computes, and it is easier to reason about, since it does not depend on how a
rational is written as a quotient.

* `roundQuotient_eq_nearest`: the two agree.
* `Tie.abs_nearest_sub_le`, `Tie.nearest_mono`, `Tie.nearest_intCast`: the laws of a rounding.
* `Tie.nearest_of_gap`: two rationals between the same neighbouring halves have the same rounding.
-/

namespace UnitConversion

/-- The whole number nearest to a rational that is not negative, a tie going as `tie` says. -/
def Tie.nearest (tie : Tie) (q : Rat) : Int :=
  if tie = .even ∧ Int.fract q = 1 / 2 ∧ ⌊q⌋ % 2 = 0 then ⌊q⌋ else ⌊q + 1 / 2⌋

namespace Tie

variable (tie : Tie)

theorem nearest_intCast (i : Int) : tie.nearest i = i := by
  have hhalf : ⌊(i : Rat) + 1 / 2⌋ = i := by
    rw [Int.floor_eq_iff]
    constructor <;> linarith
  rw [nearest, hhalf, Int.floor_intCast, ite_self]

theorem nearest_zero : tie.nearest 0 = 0 := by
  exact_mod_cast nearest_intCast tie 0

/-- The nearest whole number is one of the two neighbours. -/
theorem nearest_eq_floor_or (q : Rat) : tie.nearest q = ⌊q⌋ ∨ tie.nearest q = ⌊q + 1 / 2⌋ := by
  unfold nearest
  split
  · exact .inl rfl
  · exact .inr rfl

theorem abs_nearest_sub_le (q : Rat) : |(tie.nearest q : Rat) - q| ≤ 1 / 2 := by
  unfold nearest
  split
  · next h =>
      have hfract := Int.self_sub_floor q
      rw [h.2.1] at hfract
      rw [abs_le]
      constructor <;> linarith
  · have hlow := Int.floor_le (q + 1 / 2)
    have hhigh := Int.lt_floor_add_one (q + 1 / 2)
    rw [abs_le]
    constructor <;> linarith

theorem nearest_nonneg {q : Rat} (hq : 0 ≤ q) : 0 ≤ tie.nearest q := by
  rcases nearest_eq_floor_or tie q with h | h <;> rw [h]
  · exact Int.floor_nonneg.2 hq
  · exact Int.floor_nonneg.2 (by linarith)

/-- A larger rational has no smaller rounding. Only a tie needs a look at the neighbour below it. -/
theorem nearest_mono {q r : Rat} (hqr : q ≤ r) : tie.nearest q ≤ tie.nearest r := by
  have hfloor : ⌊q + 1 / 2⌋ ≤ ⌊r + 1 / 2⌋ := Int.floor_le_floor (by linarith)
  unfold nearest
  split
  · next hq =>
      split
      · exact Int.floor_le_floor hqr
      · have hstep : ⌊q⌋ ≤ ⌊q + 1 / 2⌋ := Int.floor_le_floor (by linarith)
        exact hstep.trans hfloor
  · next hq =>
      split
      · next hr =>
          -- `r` is a tie above an even number, so `q` rounds higher only if it is the same tie.
          have hr' : r = ⌊r⌋ + 1 / 2 := by
            have := Int.floor_add_fract r
            rw [hr.2.1] at this
            exact this.symm
          rcases hqr.lt_or_eq with hlt | rfl
          · have : ⌊q + 1 / 2⌋ < ⌊r⌋ + 1 := by
              rw [Int.floor_lt]
              push_cast
              linarith
            omega
          · exact absurd hr hq
      · exact hfloor

/-- An even number is reached from half a unit below it. -/
theorem le_nearest_even_iff {t : Int} (ht : t % 2 = 0) {q : Rat} :
    t ≤ Tie.even.nearest q ↔ (t : Rat) - 1 / 2 ≤ q := by
  constructor
  · intro hle
    have hle : (t : Rat) ≤ Tie.even.nearest q := by exact_mod_cast hle
    obtain ⟨-, hround⟩ := abs_le.1 (abs_nearest_sub_le .even q)
    linarith
  · intro hle
    have hfloor : ⌊(t : Rat) - 1 / 2⌋ = t - 1 := by
      rw [Int.floor_eq_iff]
      push_cast
      constructor <;> linarith
    have htie : Tie.even.nearest ((t : Rat) - 1 / 2) = t := by
      rw [nearest, hfloor, if_neg (by omega), sub_add_cancel, Int.floor_intCast]
    exact htie ▸ nearest_mono .even hle

/-- Strictly between two neighbouring halves every rational has the same rounding. -/
theorem nearest_of_gap {t : Int} {q : Rat} (hlow : (t : Rat) < 2 * q) (hhigh : 2 * q < t + 1) :
    tie.nearest q = (t + 1) / 2 := by
  have hfract : Int.fract q ≠ 1 / 2 := by
    intro h
    have hfloor := Int.floor_add_fract q
    rw [h] at hfloor
    have hwhole : (2 * q : Rat) = ((2 * ⌊q⌋ + 1 : Int) : Rat) := by
      push_cast
      linarith
    rw [hwhole] at hlow hhigh
    have h1 : t < 2 * ⌊q⌋ + 1 := by exact_mod_cast hlow
    have h2 : 2 * ⌊q⌋ + 1 < t + 1 := by exact_mod_cast hhigh
    omega
  have hdiv : 2 * ((t + 1) / 2) ≤ t + 1 ∧ t + 1 ≤ 2 * ((t + 1) / 2) + 1 := by omega
  have hdivlow : (2 * ((t + 1) / 2 : Int) : Rat) ≤ t + 1 := by exact_mod_cast hdiv.1
  have hdivhigh : (t + 1 : Rat) ≤ 2 * ((t + 1) / 2 : Int) + 1 := by exact_mod_cast hdiv.2
  simp only [nearest, hfract, false_and, and_false, if_false]
  rw [Int.floor_eq_iff]
  constructor <;> linarith

end Tie

/-- A rational between `q` and the next whole number rounds as its distance from `q` says. -/
private theorem nearest_of_parts (tie : Tie) {q r d : Nat} (hr : r < d) :
    tie.nearest (q + r / d) =
      ((if 2 * r < d then q
        else if d < 2 * r then q + 1
        else match tie with
          | .up => q + 1
          | .even => q + q % 2 : Nat) : Int) := by
  have hd : (0 : Rat) < d := by exact_mod_cast Nat.zero_lt_of_lt hr
  have hone : (r : Rat) / d < 1 := by
    rw [div_lt_one hd]
    exact_mod_cast hr
  have hnonneg : (0 : Rat) ≤ (r : Rat) / d := by positivity
  have hfloor : ⌊(q : Rat) + r / d⌋ = q := by
    rw [Int.floor_eq_iff]
    constructor <;> push_cast <;> linarith
  have hfract : Int.fract ((q : Rat) + r / d) = r / d := by
    have := Int.self_sub_floor ((q : Rat) + r / d)
    rw [hfloor] at this
    push_cast at this
    linarith
  rw [Tie.nearest, hfract, hfloor]
  rcases lt_trichotomy (2 * r) d with hbelow | htie | habove
  · have hhalf : (r : Rat) / d < 1 / 2 := by
      rw [div_lt_iff₀ hd]
      have : (2 * r : Rat) < d := by exact_mod_cast hbelow
      linarith
    rw [if_pos hbelow, if_neg (fun h => hhalf.ne h.2.1), Int.floor_eq_iff]
    constructor <;> push_cast <;> linarith
  · have hhalf : (r : Rat) / d = 1 / 2 := by
      rw [div_eq_iff hd.ne']
      have : (2 * r : Rat) = d := by exact_mod_cast htie
      linarith
    have hup : ⌊(q : Rat) + 1 / 2 + 1 / 2⌋ = q + 1 := by
      rw [Int.floor_eq_iff]
      constructor <;> push_cast <;> linarith
    rw [hhalf, hup, if_neg (by omega : ¬ 2 * r < d), if_neg (by omega : ¬ d < 2 * r)]
    cases tie with
    | up => simp
    | even =>
        rcases Nat.mod_two_eq_zero_or_one q with heven | hodd
        · rw [if_pos ⟨rfl, rfl, by omega⟩]
          simp [heven]
        · rw [if_neg (by omega)]
          simp [hodd]
  · have hhalf : (1 : Rat) / 2 < r / d := by
      rw [lt_div_iff₀ hd]
      have : (d : Rat) < 2 * r := by exact_mod_cast habove
      linarith
    rw [if_neg (by omega : ¬ 2 * r < d), if_pos habove, if_neg (fun h => hhalf.ne' h.2.1),
      Int.floor_eq_iff]
    constructor <;> push_cast <;> linarith

theorem roundQuotient_eq_nearest (tie : Tie) (n : Nat) {d : Nat} (hd : d ≠ 0) :
    ((roundQuotient tie n d : Nat) : Int) = tie.nearest ((n : Rat) / d) := by
  have hd' : (d : Rat) ≠ 0 := by exact_mod_cast hd
  have hsplit : (n : Rat) = d * (n / d : Nat) + (n % d : Nat) := by
    exact_mod_cast (Nat.div_add_mod n d).symm
  have hquotient : (n : Rat) / d = (n / d : Nat) + (n % d : Nat) / d := by
    rw [div_eq_iff hd', add_mul, div_mul_cancel₀ _ hd', mul_comm _ (d : Rat)]
    exact hsplit
  rw [hquotient, nearest_of_parts tie (Nat.mod_lt n (Nat.pos_of_ne_zero hd))]
  rfl

end UnitConversion
