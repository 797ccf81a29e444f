import UnitConversion.Proofs.Conversion.Range
import UnitConversion.Proofs.Formula.Monomial

/-!
# Units that are proportional to the base unit

A unit with a factor, and one whose formulas only multiply and divide, relates to the base unit by a
monomial in each direction. When the two undo each other the unit is proportional, or reciprocally
proportional, to the base unit, and a conversion between two such units is the exact one up to ten
roundings.

* `Rule.Proportional`: the two monomials of a rule undo each other.
* `Conversion.apply_near`: a conversion between two such units.
* `Conversion.apply_there_and_back`: the way there and back returns the number up to twenty
  roundings.
-/

namespace UnitConversion

namespace Rule

/-- The monomial that leads to the base unit. -/
def toBaseMonomial? : Rule → Option Monomial
  | factor f => Monomial.unknown.next? f.value false
  | formulas f _ => f.expr.monomial?

/-- The monomial that leads from the base unit. -/
def fromBaseMonomial? : Rule → Option Monomial
  | factor f => Monomial.unknown.next? f.value⁻¹ false
  | formulas _ f => f.expr.monomial?

end Rule

namespace Monomial

/-- Whether a monomial undoes another one. -/
def undoes (m m' : Monomial) : Bool :=
  m.inverse == m'.inverse &&
    if m.inverse then m.coefficient = m'.coefficient else m.coefficient * m'.coefficient = 1

theorem value_value {m m' : Monomial} (h : m.undoes m' = true) {x : Rat} (hx : x ≠ 0)
    (hm : m.coefficient ≠ 0) : m.value (m'.value x) = x := by
  unfold undoes at h
  cases hinverse : m.inverse with
  | false =>
      simp only [hinverse, Bool.false_eq_true, if_false, Bool.and_eq_true, decide_eq_true_eq] at h
      obtain ⟨hsame, hone⟩ := h
      simp only [value, hinverse, ← eq_of_beq hsame, Bool.false_eq_true, if_false]
      rw [← mul_assoc, hone, one_mul]
  | true =>
      simp only [hinverse, if_true, Bool.and_eq_true, decide_eq_true_eq] at h
      obtain ⟨hsame, hequal⟩ := h
      simp only [value, hinverse, ← eq_of_beq hsame, if_true, ← hequal]
      field_simp

end Monomial

namespace Rule

/-- Whether a rule leads to the base unit and back by monomials that undo each other. -/
def isProportional (rule : Rule) : Bool :=
  match rule.toBaseMonomial?, rule.fromBaseMonomial? with
  | some m, some m' => m.undoes m' && m'.undoes m
  | _, _ => false

/-- The two monomials of a rule undo each other. -/
structure Proportional (rule : Rule) (there back : Monomial) : Prop where
  toBase : rule.toBaseMonomial? = some there
  fromBase : rule.fromBaseMonomial? = some back
  back_there : back.undoes there = true
  there_back : there.undoes back = true

theorem exists_proportional {rule : Rule} (h : rule.isProportional = true) :
    ∃ there back, rule.Proportional there back := by
  unfold isProportional at h
  split at h
  · next m m' hm hm' =>
      obtain ⟨hthere, hback⟩ := Bool.and_eq_true_iff.1 h
      exact ⟨m, m', hm, hm', hback, hthere⟩
  · cases h

variable {rule : Rule} {m : Monomial} {x : Decimal}

theorem toBaseMonomial?_tame (h : rule.toBaseMonomial? = some m) : m.Tame := by
  cases rule with
  | factor f => exact (Monomial.next?_eq_some h).2
  | formulas f g => exact Formula.Expr.monomial?_tame h

theorem fromBaseMonomial?_tame (h : rule.fromBaseMonomial? = some m) : m.Tame := by
  cases rule with
  | factor f => exact (Monomial.next?_eq_some h).2
  | formulas f g => exact Formula.Expr.monomial?_tame h

/-- A formula with a monomial has the value of the monomial up to five roundings. -/
theorem formula_near {f : Formula} (h : f.expr.monomial? = some m) (hfinite : x.isFinite = true)
    (hx : Within 600 x.value) :
    ∃ y, f.evaluate x = .ok y ∧ Context.conversion.Fits y ∧ Near 5 y.value (m.value x.value) := by
  have htame := Formula.Expr.monomial?_tame h
  obtain ⟨y, hy, hyfinite, hnear⟩ := Formula.Expr.evaluate_near h hfinite hx
  have hfew := htame.operations
  have hroundable :=
    ((htame.within_value hx).of_near_of_le hnear (by omega)).roundable (by norm_num)
  obtain ⟨z, hz, hfits, hround⟩ := Decimal.plus_near hyfinite hroundable
  refine ⟨z, ?_, hfits, (hround.trans hnear).mono (by omega)⟩
  have hvalue : Formula.value f.expr x = .ok z := by
    rw [Formula.value, hy]
    exact hz
  rw [Formula.evaluate, hvalue]
  exact if_pos (Context.isFinite_of_fits hfits)

theorem toBase_near (h : rule.toBaseMonomial? = some m) (hfinite : x.isFinite = true)
    (hx : Within 600 x.value) :
    ∃ y, rule.toBase x = .ok y ∧ Context.conversion.Fits y ∧ Near 5 y.value (m.value x.value) := by
  cases rule with
  | factor f =>
      obtain ⟨rfl, htame⟩ := Monomial.next?_eq_some h
      have hf : Within 20 f.value := htame.coefficient
      have hffinite := Decimal.isFinite_of_value_ne_zero hf.ne_zero
      obtain ⟨y, hy, hfits, hnear⟩ :=
        Decimal.mul_near hfinite hffinite ((hx.mul hf).roundable (by norm_num))
      refine ⟨y, by rw [toBase, hy]; rfl, hfits, ?_⟩
      simpa [Monomial.value, mul_comm] using hnear.mono (show 1 ≤ 5 by norm_num)
  | formulas f g =>
      obtain ⟨y, hy, hresult⟩ := formula_near h hfinite hx
      exact ⟨y, by rw [toBase, hy]; rfl, hresult⟩

theorem fromBase_near (h : rule.fromBaseMonomial? = some m) (hfinite : x.isFinite = true)
    (hx : Within 600 x.value) :
    ∃ y, rule.fromBase x = .ok y ∧ Context.conversion.Fits y ∧
      Near 5 y.value (m.value x.value) := by
  cases rule with
  | factor f =>
      obtain ⟨rfl, htame⟩ := Monomial.next?_eq_some h
      have hf : Within 20 f.value⁻¹ := htame.coefficient
      have hzero : f.value ≠ 0 := inv_eq_zero.not.1 hf.ne_zero
      have hffinite := Decimal.isFinite_of_value_ne_zero hzero
      obtain ⟨y, hy, hfits, hnear⟩ :=
        Decimal.div_near hfinite hffinite hzero ((hx.mul hf).roundable (by norm_num))
      refine ⟨y, by rw [fromBase, hy]; rfl, hfits, ?_⟩
      simpa [Monomial.value, inv_mul_eq_div] using hnear.mono (show 1 ≤ 5 by norm_num)
  | formulas g f =>
      obtain ⟨y, hy, hresult⟩ := formula_near h hfinite hx
      exact ⟨y, by rw [fromBase, hy]; rfl, hresult⟩

end Rule

namespace Conversion

variable {source target : MeasurementUnit} {there back there' back' : Monomial} {x : Decimal}

/-- A conversion between proportional units is the exact one up to ten roundings. -/
theorem apply_near (hsource : source.rule.Proportional there back)
    (htarget : target.rule.Proportional there' back') (hfinite : x.isFinite = true)
    (hx : Within 500 x.value) (hbound : |back'.value (there.value x.value)| ≤ 10 ^ 300) :
    ∃ r, apply source target x = .ok r ∧ Context.conversion.Fits r ∧
      Near 10 r.value (back'.value (there.value x.value)) := by
  obtain ⟨y, hy, hyfits, hynear⟩ := Rule.toBase_near hsource.toBase hfinite (hx.mono (by norm_num))
  have hbase : Within (20 + 500 + 1) y.value :=
    ((Rule.toBaseMonomial?_tame hsource.toBase).within_value hx).of_near_of_le hynear (by norm_num)
  obtain ⟨r, hr, hrfits, hrnear⟩ :=
    Rule.fromBase_near htarget.fromBase (Context.isFinite_of_fits hyfits) (hbase.mono (by norm_num))
  have hnear : Near 10 r.value (back'.value (there.value x.value)) :=
    hrnear.trans (back'.near_value hynear)
  refine ⟨r, apply_eq_ok hy hr (Context.isFinite_of_fits hrfits) ?_, hrfits, hnear⟩
  calc |r.value| ≤ 2 * |back'.value (there.value x.value)| := hnear.le_two_mul (by norm_num)
    _ ≤ 2 * 10 ^ 300 := mul_le_mul_of_nonneg_left hbound zero_le_two
    _ < 2 ^ (1023 : Int) := two_mul_pow_lt

/-- The way to another proportional unit and back returns every number of moderate size, up to
twenty roundings. -/
theorem apply_there_and_back (hsource : source.rule.Proportional there back)
    (htarget : target.rule.Proportional there' back') (hfinite : x.isFinite = true)
    (hx : Within 250 x.value) :
    ∃ r, apply source target x = .ok r ∧ Context.conversion.Fits r ∧ Within 291 r.value ∧
      ∃ b, apply target source r = .ok b ∧ Context.conversion.Fits b ∧ Near 20 b.value x.value := by
  have hthere := Rule.toBaseMonomial?_tame hsource.toBase
  have hback := Rule.fromBaseMonomial?_tame hsource.fromBase
  have hback' := Rule.fromBaseMonomial?_tame htarget.fromBase
  have hbase : Within (20 + 250) (there.value x.value) := hthere.within_value hx
  have hexact : Within (20 + (20 + 250)) (back'.value (there.value x.value)) :=
    hback'.within_value hbase
  obtain ⟨r, hr, hrfits, hrnear⟩ := apply_near hsource htarget hfinite (hx.mono (by norm_num))
    (hexact.2.trans (pow_le_pow_right₀ (by norm_num) (by norm_num)))
  have hrange : Within (20 + (20 + 250) + 1) r.value := hexact.of_near_of_le hrnear (by norm_num)
  -- Going back from the rounded result leads to the number that the exact one came from.
  have hreturn : Near 10 (back.value (there'.value r.value)) x.value := by
    have h := back.near_value (there'.near_value hrnear)
    rwa [Monomial.value_value htarget.there_back hbase.ne_zero
      (Rule.toBaseMonomial?_tame htarget.toBase).coefficient.ne_zero,
      Monomial.value_value hsource.back_there hx.ne_zero hback.coefficient.ne_zero] at h
  have hbound : |back.value (there'.value r.value)| ≤ 10 ^ 300 :=
    (hx.of_near_of_le hreturn (by norm_num)).2.trans (pow_le_pow_right₀ (by norm_num) (by norm_num))
  obtain ⟨b, hb, hbfits, hbnear⟩ := apply_near htarget hsource (Context.isFinite_of_fits hrfits)
    (hrange.mono (by norm_num)) hbound
  exact ⟨r, hr, hrfits, hrange, b, hb, hbfits, hbnear.trans hreturn⟩

end Conversion

end UnitConversion
