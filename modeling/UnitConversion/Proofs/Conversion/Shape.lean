import UnitConversion.Conversion.Record
import UnitConversion.Proofs.Catalog.Category
import UnitConversion.Proofs.Conversion.Course

/-!
# The shapes of outcomes

Of all the outcomes that could be put together, those of a request are a conversion that was made, a
problem, or a blank line, and their parts show which of these they are: a conversion has a result
and no error, a problem has an error and no result, and a blank line has neither. What a conversion
holds can be relied on, whatever registry, settings and values it was made with. In a text, the
characters U+BD800 to U+BDFFF stand for lone surrogates, as `Text.surrogate?` says.

* `Conversion.Sound`: what can be relied on.
* `Conversion.sound_of_convertIn`: every conversion that is made in a registry is sound.
* `Outcome.shape_of_made`: an outcome has exactly one of the three shapes, and exactly the
  conversions have a record.
-/

namespace UnitConversion

namespace Conversion

variable {registry : Registry} {settings : Settings} {value source target : Json}

/-- A number that is taken is finite, and so is its nearest double. -/
theorem finite_of_inputOf {x : Decimal} (h : inputOf value = .ok x) :
    x.isFinite = true ∧ (Binary64.ofDecimal x).isFinite = true := by
  obtain ⟨number, -, h⟩ := Formula.bind_eq_ok h
  split at h
  · cases h
  · split at h
    · cases h
    · next hfinite =>
        split at h
        · cases h
        · next hrepresentable =>
            cases h
            exact ⟨by simpa using hfinite, by simpa [isRepresentable] using hrepresentable⟩

/-- A result of two rules is a finite number that is within the range of doubles. -/
theorem apply_eq_ok_iff {u v : MeasurementUnit} {x r : Decimal} :
    apply u v x = .ok r ↔ (u.rule.toBase x).bind v.rule.fromBase = .ok r ∧ r.isFinite = true ∧
      isRepresentable r = true := by
  unfold apply
  constructor
  · intro h
    split at h
    · cases h
    · next r' hr =>
        split at h
        · cases h
        · next hfinite =>
            split at h
            · cases h
            · next hrepresentable =>
                cases h
                exact ⟨hr, by simpa using hfinite, by simpa using hrepresentable⟩
  · rintro ⟨hr, hfinite, hrepresentable⟩
    simp only [hr, hfinite, hrepresentable]
    rfl

/-- The result for two references is the number itself, if they are the same, or a result of two
rules. -/
theorem applyRefs_eq_ok {s t : UnitRef} {x r : Decimal} (h : applyRefs registry s t x = .ok r) :
    (s = t ∧ r = x) ∨
      s ≠ t ∧ ∃ u v, registry.unit? s = some u ∧ registry.unit? t = some v ∧
      apply u v x = .ok r := by
  unfold applyRefs at h
  split at h
  · next hsame => exact .inl ⟨hsame, (Except.ok.inj h).symm⟩
  · next hne =>
      obtain ⟨u, hu, h⟩ := Formula.bind_eq_ok h
      obtain ⟨v, hv, h⟩ := Formula.bind_eq_ok h
      exact .inr ⟨hne, u, v, unitAt_eq_ok_iff.1 hu, unitAt_eq_ok_iff.1 hv, mapError_eq_ok h⟩

/-- Only a text stands for a unit, and the text of a message is the text itself. -/
theorem resolve?_inline {token : Json} {ref : UnitRef} (h : registry.resolve? token = some ref) :
    registry.resolve? (.text token.inline) = some ref := by
  cases token with
  | text name => exact h
  | _ => cases h

/-- What a conversion made in a registry can be relied on for. -/
structure Sound (registry : Registry) (settings : Settings) (c : Conversion) : Prop where
  input : c.input.isFinite = true ∧ (Binary64.ofDecimal c.input).isFinite = true
  exact : c.exact.isFinite = true ∧ (Binary64.ofDecimal c.exact).isFinite = true
  formatted : format settings c.exact = .ok c.formatted
  source : registry.resolve? (.text c.source) = some c.sourceRef
  target : registry.resolve? (.text c.target) = some c.targetRef
  /-- Between two names of one unit the number stays as it is, digit for digit. -/
  unchanged : c.sourceRef = c.targetRef → c.exact = c.input

/-- A pair of units is that of the conversion that is made between them. -/
theorem refs_of_made {s t : UnitRef} (hcategory : s.category = t.category) (x exact : Decimal)
    (formatted : String) :
    (made source target s t x exact formatted).sourceRef = s ∧
      (made source target s t x exact formatted).targetRef = t := by
  refine ⟨rfl, ?_⟩
  rw [targetRef, made, hcategory]

theorem sound_of_convertIn {c : Conversion}
    (h : convertIn registry settings value source target = .ok c) :
    c.Sound registry settings := by
  have hcourse := convertIn_course registry settings value source target
  rw [h] at hcourse
  cases hcourse with
  | @success x exact s t formatted hinput hpair happly hformat =>
      -- Every step that succeeded leaves one of the facts.
      obtain ⟨hs, ht, hcategory⟩ := resolvePair_eq_ok hpair
      obtain ⟨hsource, htarget⟩ := @refs_of_made source target s t hcategory x exact formatted
      have hx := finite_of_inputOf hinput
      refine ⟨hx, ?_, hformat, ?_, ?_, ?_⟩
      · obtain ⟨-, rfl⟩ | ⟨-, u, v, -, -, hresult⟩ := applyRefs_eq_ok happly
        · exact hx
        · exact (apply_eq_ok_iff.1 hresult).2
      · rw [hsource]
        exact resolve?_inline hs
      · rw [htarget]
        exact resolve?_inline ht
      · intro hsame
        rw [hsource, htarget] at hsame
        obtain ⟨-, hr⟩ | ⟨hne, -⟩ := applyRefs_eq_ok happly
        · exact hr
        · exact absurd hsame hne

end Conversion

namespace Outcome

/-- The outcomes of conversions, of single values, of lines, and of the lines of a text. -/
inductive Made (registry : Option Registry) (settings : Settings) : Outcome → Prop
  | value (value source target : Json) :
      Made registry settings (Conversion.convert registry settings value source target)
  | line (line : Json) : Made registry settings (Conversion.convertText registry settings line)
  | text {text : Json} {outcome : Outcome}
      (h : outcome ∈ Conversion.convertLines registry settings text) :
      Made registry settings outcome

/-- The outcome holds a result, with a value for each of its parts: sound ones, and the nearest
double to the exact result. There is neither an error nor the mark of a blank line. -/
def IsConversion (registry : Option Registry) (settings : Settings) (o : Outcome) : Prop :=
  o.isSuccess = true ∧ o.error = none ∧ o.isBlank = false ∧
    ∃ (known : Registry) (c : Conversion), registry = some known ∧ c.Sound known settings ∧
      o.value = some (.ofDecimal c.exact) ∧ o.exact = some c.exact ∧
      o.formatted = some c.formatted ∧
      o.input = some c.input ∧ o.source = some c.source ∧ o.target = some c.target ∧
      o.sourceKey = some c.sourceKey ∧ o.targetKey = some c.targetKey ∧ o.category = some c.category

/-- No part of a result has a value. -/
def HasNoResult (o : Outcome) : Prop :=
  o.isSuccess = false ∧ o.value = none ∧ o.exact = none ∧ o.formatted = none ∧ o.input = none ∧
    o.source = none ∧ o.target = none ∧ o.sourceKey = none ∧ o.targetKey = none ∧ o.category = none

/-- The outcome holds an error and nothing else. -/
def IsProblem (o : Outcome) : Prop :=
  (∃ p, o.error = some p) ∧ o.isBlank = false ∧ o.HasNoResult

/-- The outcome holds the mark of a blank line and nothing else. -/
def IsBlankLine (o : Outcome) : Prop :=
  o.error = none ∧ o.isBlank = true ∧ o.HasNoResult

variable {registry : Option Registry} {settings : Settings} {outcome : Outcome}

theorem isConversion_success {known : Registry} {c : Conversion} (hregistry : registry = some known)
    (h : c.Sound known settings) : IsConversion registry settings (.success c) :=
  ⟨rfl, rfl, rfl, known, c, hregistry, h, rfl, rfl, rfl, rfl, rfl, rfl, rfl, rfl, rfl⟩

theorem hasNoResult_withoutResult (error : Option Problem) (isBlank : Bool) :
    (withoutResult error isBlank).HasNoResult :=
  ⟨rfl, rfl, rfl, rfl, rfl, rfl, rfl, rfl, rfl, rfl⟩

theorem isProblem_failure (p : Problem) : IsProblem (.failure p) :=
  ⟨⟨p, rfl⟩, rfl, hasNoResult_withoutResult (some p) false⟩

theorem isBlankLine_blank : IsBlankLine .blank :=
  ⟨rfl, rfl, hasNoResult_withoutResult none true⟩

/-- A single conversion is made, or there is a problem. -/
theorem of_convert (registry : Option Registry) (settings : Settings) (value source target : Json) :
    (∃ c, Conversion.convert registry settings value source target = .success c) ∨
      ∃ p, Conversion.convert registry settings value source target = .failure p := by
  unfold Conversion.convert Conversion.outcomeOf
  split
  · exact .inl ⟨_, rfl⟩
  · exact .inr ⟨_, rfl⟩

/-- A conversion of a value is sound. -/
theorem sound_of_convert {value source target : Json} {c : Conversion}
    (h : Conversion.convert registry settings value source target = .success c) :
    ∃ known, registry = some known ∧ c.Sound known settings := by
  cases registry with
  | none => exact absurd h (failure_ne_success _ c)
  | some known =>
      exact ⟨known, rfl, Conversion.sound_of_convertIn (Conversion.outcomeOf_eq_success_iff.1 h)⟩

/-- The outcomes for a text are those of its lines, unless there are too many of them. -/
theorem of_mem_convertLines {text : Json}
    (h : outcome ∈ Conversion.convertLines registry settings text) :
    outcome = .failure (Problem.manyLines settings.maxLines) ∨ outcome = .blank ∨
      ∃ line, outcome = Conversion.convertText registry settings line := by
  cases text with
  | text text =>
      simp only [Conversion.convertLines] at h
      split at h
      · exact .inl (List.mem_singleton.1 h)
      · obtain ⟨line, -, rfl⟩ := List.mem_map.1 h
        split
        · exact .inr (.inl rfl)
        · exact .inr (.inr ⟨_, rfl⟩)
  | _ => cases h

/-- An outcome that is a sound conversion, a problem or a blank line. -/
inductive Shaped (registry : Option Registry) (settings : Settings) : Outcome → Prop
  | conversion {known : Registry} {c : Conversion} (hregistry : registry = some known)
      (hsound : c.Sound known settings) : Shaped registry settings (.success c)
  | problem (p : Problem) : Shaped registry settings (.failure p)
  | blank : Shaped registry settings .blank

theorem shaped_convert (registry : Option Registry) (settings : Settings)
    (value source target : Json) :
    Shaped registry settings (Conversion.convert registry settings value source target) := by
  obtain ⟨c, hc⟩ | ⟨p, hp⟩ := of_convert registry settings value source target
  · obtain ⟨known, hknown, hsound⟩ := sound_of_convert hc
    rw [hc]
    exact .conversion hknown hsound
  · rw [hp]
    exact .problem p

theorem shaped_convertText (registry : Option Registry) (settings : Settings) (line : Json) :
    Shaped registry settings (Conversion.convertText registry settings line) := by
  unfold Conversion.convertText
  split
  · exact .problem _
  · exact shaped_convert ..

/-- An outcome has one of these shapes, in whatever way it is made. -/
theorem Made.shaped (h : Made registry settings outcome) : Shaped registry settings outcome := by
  cases h with
  | value value source target => exact shaped_convert ..
  | line line => exact shaped_convertText ..
  | text hmem =>
      obtain rfl | rfl | ⟨line, rfl⟩ := of_mem_convertLines hmem
      · exact .problem _
      · exact .blank
      · exact shaped_convertText ..

/-- The outcome of every conversion of a value, of a line and of the lines of a text has exactly one
of three shapes, and it has a record exactly if it is a conversion. -/
theorem shape_of_made (h : Made registry settings outcome) :
    (IsConversion registry settings outcome ∨ IsProblem outcome ∨ IsBlankLine outcome) ∧
    ¬ (IsConversion registry settings outcome ∧ IsProblem outcome) ∧
    ¬ (IsConversion registry settings outcome ∧ IsBlankLine outcome) ∧
    ¬ (IsProblem outcome ∧ IsBlankLine outcome) ∧
    ∀ time text, (Conversion.recordOf? time outcome text).isSome = true ↔
      IsConversion registry settings outcome := by
  refine ⟨?_, ?_, ?_, ?_, fun time text => ⟨fun hrecord => ?_, ?_⟩⟩
  · cases h.shaped with
    | conversion hregistry hsound => exact .inl (isConversion_success hregistry hsound)
    | problem p => exact .inr (.inl (isProblem_failure p))
    | blank => exact .inr (.inr isBlankLine_blank)
  · rintro ⟨⟨-, hnone, -⟩, ⟨p, hp⟩, -⟩
    rw [hnone] at hp
    cases hp
  · rintro ⟨⟨-, -, hfilled, -⟩, -, hblank, -⟩
    rw [hfilled] at hblank
    cases hblank
  · rintro ⟨⟨⟨p, hp⟩, -⟩, hnone, -⟩
    rw [hnone] at hp
    cases hp
  · -- A problem and a blank line are no success, and so they have no record.
    cases h.shaped with
    | conversion hregistry hsound => exact isConversion_success hregistry hsound
    | problem p => cases hrecord
    | blank => cases hrecord
  · rintro ⟨hsuccess, -, -, known, c, -, -, hvalue, -, -, hinput, -⟩
    rw [Conversion.recordOf?, hsuccess, hvalue, hinput]
    rfl

/-- Metres and centimetres. -/
def metric : Registry :=
  ⟨[⟨"length", "metre",
      [⟨"metre", "Metre", "m", ["m"], .factor (.ofNat 1), some (.ofNat 1), none, none⟩,
        ⟨"centimetre", "Centimetre", "cm", ["cm"], .factor (.finite false 1 (-2)),
          some (.finite false 1 (-2)), none, none⟩],
      none⟩],
    [("m", ⟨"length", "metre"⟩), ("cm", ⟨"length", "centimetre"⟩)]⟩

/-- Three lines of which one is converted, one is blank and one cannot be read. -/
theorem shapes_of_three_lines :
    ∃ c p, Conversion.convertLines (some metric) .standard (.text "250 cm to m\n \nabc") =
        [.success c, .blank, .failure p] ∧
      c.exact = .finite false 250 (-2) ∧
      (Conversion.recordOf? ⟨2024, 1, 2, 3, 4, 5, 0⟩ (.success c) "250 cm to m").isSome = true ∧
      IsConversion (some metric) .standard (.success c) := by
  have hlines : Conversion.convertLines (some metric) .standard (.text "250 cm to m\n \nabc") =
      [.success ⟨.ofNat 250, .finite false 250 (-2), "2.5", "cm", "m", "centimetre",
        "metre", "length"⟩, .blank, .failure (Problem.invalidFormat none)] := by
    decide +kernel
  obtain ⟨-, -, -, -, hrecord⟩ := shape_of_made (.text (hlines ▸ List.mem_cons_self))
  exact ⟨_, _, hlines, rfl, rfl, (hrecord ⟨2024, 1, 2, 3, 4, 5, 0⟩ "250 cm to m").1 rfl⟩

end Outcome

end UnitConversion
