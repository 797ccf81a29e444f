import UnitConversion.Proofs.Catalog.Category
import UnitConversion.Proofs.Catalog.Proportional
import UnitConversion.Proofs.Catalog.Temperature
import UnitConversion.Proofs.Decimal.Order

/-!
# What stops the audit

The audit of a category compares where its formulas lead with where they started. It computes in a
context of its own, which does not stop at underflows, so only a result next to the end of the
exponent range can interrupt it. Proportional units and temperatures return from the samples with
numbers of moderate size.

* `Category.strays_eq`: the comparison of a number with a sample.
* `Category.audit_eq_error_iff`: the audit is stopped exactly by units whose formulas overshoot a
  sample.
* `Category.audit_exists_ok`: the audit of units with returning rules comes to an end.
* `Rule.Proportional.returning`, `Rule.IsScale.returning`: two kinds of such rules.
-/

namespace UnitConversion

/-- A list of computations is stopped by one of them. -/
theorem exists_of_mapM_eq_error {ε α β : Type} {f : α → Except ε β} {as : List α} {e : ε}
    (h : as.mapM f = .error e) : ∃ a ∈ as, f a = .error e := by
  induction as with
  | nil => cases h
  | cons a as ih =>
      rw [List.mapM_cons] at h
      cases ha : f a with
      | error e' =>
          rw [ha] at h
          cases h
          exact ⟨a, List.mem_cons_self, ha⟩
      | ok b =>
          rw [ha] at h
          cases has : as.mapM f with
          | error e' =>
              rw [has] at h
              cases h
              obtain ⟨c, hc, hstop⟩ := ih has
              exact ⟨c, List.mem_cons_of_mem _ hc, hstop⟩
          | ok bs =>
              rw [has] at h
              cases h

namespace Rule

variable {rule : Rule}

/-- Where a rule leads from a number of the unit, to the base unit and back. -/
def thereAndBack (rule : Rule) (x : Decimal) : Except NoValue Decimal :=
  (rule.toBase x).bind rule.fromBase

/-- A rule that returns from every sample of the audit with a number of moderate size. -/
def Returning (rule : Rule) : Prop :=
  ∀ sample ∈ Category.auditSamples, ∃ there, (rule.toBase sample).bind rule.fromBase = .ok there ∧
    there.isFinite = true ∧ |there.value| < 10 ^ (300 : Int)

/-- Whether a rule leads from a sample back to it, as nearly as the audit asks for. -/
def ReturnsTo (rule : Rule) (sample : Decimal) : Prop :=
  ∃ there, rule.thereAndBack sample = .ok there ∧
    |Context.ambient.nearest (there.value - sample.value)| ≤ sample.value / 10 ^ 12

/-- Whether a rule leads from a sample to a number so far away that the distance is beyond the range
of results. -/
def Overshoots (rule : Rule) (sample : Decimal) : Prop :=
  ∃ there, rule.thereAndBack sample = .ok there ∧
    10 ^ (maxExponent + 1) ≤ |Context.ambient.nearest (there.value - sample.value)|

/-- Whether a rule overshoots some sample after it has returned to all samples before. -/
def OvershootsAmong (rule : Rule) (samples : List Decimal) : Prop :=
  ∃ before sample after, samples = before ++ sample :: after ∧ (∀ s ∈ before, rule.ReturnsTo s) ∧
    rule.Overshoots sample

theorem not_overshootsAmong_nil : ¬rule.OvershootsAmong [] := by
  rintro ⟨before, sample, after, hsplit, -⟩
  simp at hsplit

theorem overshootsAmong_cons {sample : Decimal} {samples : List Decimal} :
    rule.OvershootsAmong (sample :: samples) ↔
      rule.Overshoots sample ∨ rule.ReturnsTo sample ∧ rule.OvershootsAmong samples := by
  constructor
  · rintro ⟨before, s, after, hsplit, hbefore, hs⟩
    cases before with
    | nil =>
        obtain ⟨rfl, rfl⟩ := List.cons.inj hsplit
        exact .inl hs
    | cons first before =>
        obtain ⟨rfl, rfl⟩ := List.cons.inj hsplit
        obtain ⟨hfirst, hbefore⟩ := List.forall_mem_cons.1 hbefore
        exact .inr ⟨hfirst, before, s, after, rfl, hbefore, hs⟩
  · rintro (hs | ⟨hfirst, before, s, after, rfl, hbefore, hs⟩)
    · exact ⟨[], sample, samples, rfl, by simp, hs⟩
    · exact ⟨sample :: before, s, after, rfl, List.forall_mem_cons.2 ⟨hfirst, hbefore⟩, hs⟩

theorem isFinite_of_thereAndBack (hformulas : rule.hasFormulas = true) {x there : Decimal}
    (h : rule.thereAndBack x = .ok there) : there.isFinite = true := by
  cases rule with
  | factor f => cases hformulas
  | formulas f g =>
      obtain ⟨y, -, hy⟩ := Formula.bind_eq_ok h
      exact Context.isFinite_of_fits (Formula.evaluate_fits (mapError_eq_ok hy))

end Rule

namespace Category

theorem auditSamples_spec {sample : Decimal} (h : sample ∈ auditSamples) :
    sample.isFinite = true ∧ 1 ≤ sample.value ∧ sample.value ≤ 10 := by
  simp only [auditSamples, List.mem_cons, List.not_mem_nil, or_false] at h
  rcases h with rfl | rfl | rfl <;> norm_num [Decimal.isFinite, Decimal.value, Decimal.signed]

/-- The distance that is allowed from a sample is a trillionth of it. -/
theorem exists_allowed {sample : Decimal} (h : sample ∈ auditSamples) :
    ∃ magnitude size allowed, Decimal.abs .ambient sample = .ok magnitude ∧
      Decimal.greatest magnitude [.ofNat 1] = .ok size ∧
      Decimal.mul .ambient auditTolerance size = .ok allowed ∧
      allowed.isFinite = true ∧ allowed.value = sample.value / 10 ^ 12 := by
  simp only [auditSamples, List.mem_cons, List.not_mem_nil, or_false] at h
  rcases h with rfl | rfl | rfl
  · exact ⟨_, _, .finite false 1 (-12), rfl, rfl, rfl, rfl,
      by norm_num [Decimal.value, Decimal.signed]⟩
  · exact ⟨_, _, .finite false 25 (-13), rfl, rfl, rfl, rfl,
      by norm_num [Decimal.value, Decimal.signed]⟩
  · exact ⟨_, _, .finite false 10 (-12), rfl, rfl, rfl, rfl,
      by norm_num [Decimal.value, Decimal.signed]⟩

/-- The comparison of a sample with a finite number stops only if their rounded difference is beyond
the range of results. -/
theorem strays_eq {sample there : Decimal} (hsample : sample ∈ auditSamples)
    (hfinite : there.isFinite = true) :
    strays sample there =
      if 10 ^ (maxExponent + 1) ≤ |Context.ambient.nearest (there.value - sample.value)| then
        .error .overflow
      else .ok (decide (sample.value / 10 ^ 12 <
        |Context.ambient.nearest (there.value - sample.value)|)) := by
  obtain ⟨magnitude, size, allowed, hmagnitude, hsize, hallowed, hallowedFinite, hallowedValue⟩ :=
    exists_allowed hsample
  have hprecision : 0 < Context.ambient.precision := by decide
  have hround : Context.ambient.round (there.value - sample.value) = _ :=
    Context.round_of_quiet rfl _
  have hdifference := Decimal.sub_rounds hprecision hfinite (auditSamples_spec hsample).1
  unfold strays
  split
  · next hlarge =>
      rw [hdifference.eq_error_of_round (hround.trans (if_pos hlarge))]
      rfl
  · next hsmall =>
      obtain ⟨d, hd, hdvalue, hdfits⟩ :=
        hdifference.exists_ok_of_round (hround.trans (if_neg hsmall))
      -- The size of the difference is kept as it is.
      have hkept : Context.ambient.round |d.value| = .ok |d.value| := by
        rw [Context.round_of_quiet rfl, ← Context.abs_nearest, Context.nearest_of_fits hdfits,
          abs_abs, hdvalue, if_neg hsmall]
      obtain ⟨distance, hdistance, hvalue, hfits⟩ :=
        (Decimal.abs_rounds hprecision (Context.isFinite_of_fits hdfits)).exists_ok_of_round hkept
      have hbelow : Decimal.below allowed distance =
          decide (sample.value / 10 ^ 12 < |Context.ambient.nearest
            (there.value - sample.value)|) := by
        rw [Bool.eq_iff_iff, Decimal.below_iff hallowedFinite (Context.isFinite_of_fits hfits),
          hallowedValue, hvalue, hdvalue, decide_eq_true_iff]
      simp only [hd, hdistance, hmagnitude, hsize, hallowed, hbelow, bind, Except.bind,
        pure, Except.pure]

/-- Numbers of moderate size are within the range of results. -/
theorem abs_nearest_sub_lt {sample there : Decimal} (hsample : sample ∈ auditSamples)
    (hthere : |there.value| < 10 ^ (300 : Int)) :
    |Context.ambient.nearest (there.value - sample.value)| < 10 ^ (maxExponent + 1) := by
  obtain ⟨-, hlow, hhigh⟩ := auditSamples_spec hsample
  have hten : (10 : Rat) ^ (1 : Int) ≤ 10 ^ (300 : Int) :=
    zpow_le_zpow_right₀ (by norm_num) (by decide)
  have hdifference : |there.value - sample.value| < 10 ^ (301 : Int) := by
    rw [show (301 : Int) = 300 + 1 from rfl, zpow_add₀ (by norm_num)]
    generalize (10 : Rat) ^ (300 : Int) = bound at hthere hten ⊢
    rw [zpow_one] at hten ⊢
    rw [abs_lt] at hthere ⊢
    constructor <;> linarith
  rw [Context.abs_nearest]
  rcases (abs_nonneg (there.value - sample.value)).eq_or_lt with hzero | hpos
  · rw [← hzero, Context.nearest_zero]
    positivity
  · exact (Context.nearest_le_pow hpos hdifference (by decide)).trans_lt
      (zpow_lt_zpow_right₀ (by norm_num) (by decide))

section

variable (category : Category) {unit : MeasurementUnit} (hformulas : unit.rule.hasFormulas = true)

include hformulas

theorem auditAt_of_ok {sample there : Decimal} (hsample : sample ∈ auditSamples)
    (hthere : unit.rule.thereAndBack sample = .ok there) :
    ∃ report, auditAt category unit sample =
      if 10 ^ (maxExponent + 1) ≤ |Context.ambient.nearest (there.value - sample.value)| then
        .error .overflow
      else .ok (if sample.value / 10 ^ 12 < |Context.ambient.nearest (there.value - sample.value)|
        then some report else none) := by
  have hstrays := strays_eq hsample (Rule.isFinite_of_thereAndBack hformulas hthere)
  rw [Rule.thereAndBack] at hthere
  simp only [auditAt, hthere, hstrays]
  split
  · exact ⟨"", rfl⟩
  · by_cases hfar : sample.value / 10 ^ 12 < |Context.ambient.nearest (there.value - sample.value)|
    · rw [decide_eq_true hfar]
      simp only [if_pos hfar]
      exact ⟨_, rfl⟩
    · rw [decide_eq_false hfar]
      simp only [if_neg hfar]
      exact ⟨"", rfl⟩

omit hformulas in
theorem auditAt_of_error {sample : Decimal} {reason : Rule.NoValue}
    (hthere : unit.rule.thereAndBack sample = .error reason) :
    ∃ report, auditAt category unit sample = .ok (some report) := by
  rw [Rule.thereAndBack] at hthere
  rw [auditAt, hthere]
  exact ⟨_, rfl⟩

theorem auditAt_eq_error_iff {sample : Decimal} (hsample : sample ∈ auditSamples)
    {signal : Signal} :
    auditAt category unit sample = .error signal ↔
      signal = .overflow ∧ unit.rule.Overshoots sample := by
  unfold Rule.Overshoots
  cases hthere : unit.rule.thereAndBack sample with
  | error reason =>
      obtain ⟨report, h⟩ := auditAt_of_error category hthere
      simp [h]
  | ok there =>
      obtain ⟨report, h⟩ := auditAt_of_ok category hformulas hsample hthere
      simp only [h, Except.ok.injEq, exists_eq_left']
      split
      · next hlarge => simp [hlarge, eq_comm]
      · next hsmall => simp [hsmall]

theorem auditAt_eq_none_iff {sample : Decimal} (hsample : sample ∈ auditSamples) :
    auditAt category unit sample = .ok none ↔ unit.rule.ReturnsTo sample := by
  unfold Rule.ReturnsTo
  cases hthere : unit.rule.thereAndBack sample with
  | error reason =>
      obtain ⟨report, h⟩ := auditAt_of_error category hthere
      simp [h]
  | ok there =>
      obtain ⟨report, h⟩ := auditAt_of_ok category hformulas hsample hthere
      have hsize : sample.value / 10 ^ 12 < 10 ^ (maxExponent + 1) := by
        have hlarge : (1 : Rat) ≤ 10 ^ (maxExponent + 1) := one_le_zpow₀ (by norm_num) (by decide)
        have hsample := (auditSamples_spec hsample).2.2
        linarith
      simp only [h, Except.ok.injEq, exists_eq_left']
      split
      · next hlarge => simpa using hsize.trans_le hlarge
      · simp

theorem firstFinding_eq_error_iff {samples : List Decimal}
    (hsamples : ∀ s ∈ samples, s ∈ auditSamples) {signal : Signal} :
    firstFinding category unit samples = .error signal ↔
      signal = .overflow ∧ unit.rule.OvershootsAmong samples := by
  induction samples with
  | nil => simp [firstFinding, Rule.not_overshootsAmong_nil]
  | cons sample samples ih =>
      obtain ⟨hsample, hrest⟩ := List.forall_mem_cons.1 hsamples
      have hover : unit.rule.Overshoots sample ↔
          auditAt category unit sample = .error .overflow := by
        simp [auditAt_eq_error_iff category hformulas hsample]
      have hreturns := (auditAt_eq_none_iff category hformulas hsample).symm
      rw [firstFinding, Rule.overshootsAmong_cons, hover, hreturns]
      cases h : auditAt category unit sample with
      | error s =>
          obtain ⟨rfl, -⟩ := (auditAt_eq_error_iff category hformulas hsample).1 h
          simp [eq_comm]
      | ok finding =>
          cases finding with
          | none => simpa using ih hrest
          | some finding => simp

end

/-- The audit stops only at an overflow, and then some unit with formulas overshoots a sample that
it comes to. -/
theorem audit_eq_error_iff {category : Category} {signal : Signal} :
    category.audit = .error signal ↔ signal = .overflow ∧
      ∃ unit ∈ category.units, unit.rule.hasFormulas = true ∧
        unit.rule.OvershootsAmong auditSamples := by
  have hstop {unit : MeasurementUnit} {s : Signal} (hformulas : unit.rule.hasFormulas = true) :
      firstFinding category unit auditSamples = .error s ↔
        s = .overflow ∧ unit.rule.OvershootsAmong auditSamples :=
    firstFinding_eq_error_iff category hformulas fun _ h => h
  have hstopped {s : Signal} (h : category.audit = .error s) : s = .overflow ∧
      ∃ unit ∈ category.units, unit.rule.hasFormulas = true ∧
        unit.rule.OvershootsAmong auditSamples := by
    cases hfindings : (category.units.filter (·.rule.hasFormulas)).mapM
        fun unit => firstFinding category unit auditSamples with
    | ok findings =>
        rw [audit, hfindings] at h
        cases h
    | error s' =>
        rw [audit, hfindings] at h
        cases h
        obtain ⟨unit, hunit, hfinding⟩ := exists_of_mapM_eq_error hfindings
        obtain ⟨hunit, hformulas⟩ := List.mem_filter.1 hunit
        obtain ⟨hs, hover⟩ := (hstop hformulas).1 hfinding
        exact ⟨hs, unit, hunit, hformulas, hover⟩
  refine ⟨hstopped, ?_⟩
  rintro ⟨rfl, unit, hunit, hformulas, hover⟩
  cases haudit : category.audit with
  | error s => rw [(hstopped haudit).1]
  | ok findings =>
      obtain ⟨each, heach, -⟩ := Formula.bind_eq_ok haudit
      obtain ⟨found, -, hfound⟩ := exists_of_forall₂
        (List.Forall₂.flip (forall₂_of_mapM_eq_ok heach)) (List.mem_filter.2 ⟨hunit, hformulas⟩)
      cases hfound.symm.trans ((hstop hformulas).2 ⟨rfl, hover⟩)

/-- The audit of units with formulas that return from its samples comes to an end. -/
theorem audit_exists_ok {category : Category}
    (hunits : ∀ unit ∈ category.units, unit.rule.Returning) :
    ∃ findings, category.audit = .ok findings := by
  cases haudit : category.audit with
  | ok findings => exact ⟨findings, rfl⟩
  | error signal =>
      obtain ⟨-, unit, hunit, -, before, sample, after, hsplit, -, there, hthere, hover⟩ :=
        audit_eq_error_iff.1 haudit
      have hsample : sample ∈ auditSamples := by simp [hsplit]
      obtain ⟨there', hthere', -, hsize⟩ := hunits unit hunit sample hsample
      obtain rfl : there = there' := Except.ok.inj (hthere.symm.trans hthere')
      exact absurd hover (abs_nearest_sub_lt hsample hsize).not_ge

end Category

namespace Rule

theorem Proportional.returning {rule : Rule} {there back : Monomial}
    (h : rule.Proportional there back) :
    rule.Returning := by
  intro sample hsample
  obtain ⟨hfinite, hlow, hhigh⟩ := Category.auditSamples_spec hsample
  have hrange : Within 1 sample.value := by
    rw [Within, abs_of_pos (by linarith)]
    constructor <;> linarith
  have hthere := toBaseMonomial?_tame h.toBase
  have hback := fromBaseMonomial?_tame h.fromBase
  obtain ⟨y, hy, hyfits, hynear⟩ := toBase_near h.toBase hfinite (hrange.mono (by norm_num))
  have hyrange := (hthere.within_value hrange).of_near_of_le hynear (by norm_num)
  obtain ⟨r, hr, hrfits, hrnear⟩ :=
    fromBase_near h.fromBase (Context.isFinite_of_fits hyfits) (hyrange.mono (by norm_num))
  have hrrange := (hback.within_value hyrange).of_near_of_le hrnear (by norm_num)
  refine ⟨r, by rw [hy]; exact hr, Context.isFinite_of_fits hrfits, ?_⟩
  calc |r.value| ≤ 10 ^ (20 + (20 + 1 + 1) + 1) := hrrange.2
    _ < 10 ^ 300 := pow_lt_pow_right₀ (by norm_num) (by norm_num)

theorem IsScale.returning {rule : Rule} {scale : Scale} (h : rule.IsScale scale) :
    rule.Returning := by
  intro sample hsample
  obtain ⟨hfinite, hlow, hhigh⟩ := Category.auditSamples_spec hsample
  have hsize : |sample.value| ≤ 10 := abs_le.2 ⟨by linarith, hhigh⟩
  have htiny : (0 : Rat) < 10 ^ minExponent := by positivity
  have hnormal : 10 * (10 : Rat) ^ minExponent ≤ 10 ^ (-38 : Int) := by
    rw [show 10 * (10 : Rat) ^ minExponent = 10 ^ (minExponent + 1) by
      rw [zpow_add₀ (by norm_num), zpow_one, mul_comm]]
    exact zpow_le_zpow_right₀ (by norm_num) (by norm_num [minExponent])
  have hfour : 2 * (10 : Rat) ^ minExponent * 2 ≤ 10 * 10 ^ minExponent := by linarith
  have hgap : (10 : Rat) ^ (-38 : Int) ≤ 1 := by norm_num
  have hmargin : Margin (10 ^ 4) (10 ^ (-38 : Int)) :=
    ⟨by norm_num, pow_le_pow_right₀ (by norm_num) (by norm_num), by linarith, le_rfl⟩
  have hhalf : Margin (10 ^ 4) (10 ^ (-38 : Int) / 2) :=
    ⟨hmargin.one_le, hmargin.le_pow, (le_div_iff₀ two_pos).2 (hfour.trans hnormal),
      half_le_self (by positivity)⟩
  -- The samples are far from the offsets.
  have hclear : Clear (10 ^ (-38 : Int)) (scale.start sample.value) := by
    right
    refine hgap.trans ?_
    rw [le_abs]
    cases scale <;> simp only [Scale.start]
    · left; linarith
    · left; linarith
    · right; linarith
    · left; linarith
  obtain ⟨y, hy, hyfits, hyerror, hyclear⟩ :=
    (measures h).toBase hmargin hfinite (hsize.trans (by norm_num)) hclear
  have hysize : |y.value| ≤ 10 ^ 4 := by
    have hkelvin := scale.abs_toKelvin_le (show (1 : Rat) ≤ 10 by norm_num) hsize
    have htriangle := abs_sub_abs_le_abs_sub y.value (scale.toKelvin sample.value)
    norm_num at hyerror ⊢
    linarith
  obtain ⟨r, hr, hrfits, hrerror, -⟩ := (measures h).fromBase hhalf hyfits hysize hyclear
  refine ⟨r, by rw [hy]; exact hr, Context.isFinite_of_fits hrfits, ?_⟩
  have hresult := scale.abs_fromKelvin_le y.value
  have htriangle := abs_sub_abs_le_abs_sub r.value (scale.fromKelvin y.value)
  calc |r.value| ≤ 10 ^ (5 : Int) := by
        norm_num at hrerror hysize ⊢
        linarith
    _ < 10 ^ (300 : Int) := zpow_lt_zpow_right₀ (by norm_num) (by norm_num)

end Rule

end UnitConversion
