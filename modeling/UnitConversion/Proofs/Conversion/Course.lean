import UnitConversion.Conversion.Basic
import UnitConversion.Proofs.Formula.Soundness

/-!
# The course of a conversion

A conversion in a registry reads its value, resolves its units, computes and writes the result, in
this order, and the first of these that fails decides. What is said about conversions that succeed
or fail is read off the five ways that one can take.

* `Conversion.convertIn_course`: every conversion takes one of the ways.
* `Conversion.convertIn_of_pair`: from a number between two known units there is a result, or a
  problem of the calculation.
-/

namespace UnitConversion.Conversion

/-- The failure that a name is that stands for no unit. -/
def unknown (registry : Registry) (limits : Suggestion.Limits) (role : Problem.Role)
    (unit : Json) : Failure :=
  match Request.unknownUnit role unit with
  | .ok problem => .problem (Suggestion.enhance problem unit (some registry) limits)
  | .error failure => failure

/-- The units of one category that two names stand for, with suggestions within some limits if there
are none. A conversion, a verdict and a check each look for them in their own course. -/
def resolvePair (registry : Registry) (limits : Suggestion.Limits) (source target : Json) :
    Attempt (UnitRef × UnitRef) :=
  match registry.resolve? source with
  | none => .error (unknown registry limits .source source)
  | some s =>
    match registry.resolve? target with
    | none => .error (unknown registry limits .target target)
    | some t =>
      if s.category = t.category then .ok (s, t)
      else .error (.problem (Request.differentCategories source target s t))

/-- What is said of a pair that was looked for, or of the problem with it. -/
def settled {β : Type} (ofPair : UnitRef × UnitRef → β) (ofProblem : Problem → β) :
    Attempt (UnitRef × UnitRef) → Attempt β
  | .ok pair => .ok (ofPair pair)
  | .error (.problem p) => .ok (ofProblem p)
  | .error (.interruption cause) => .error (.interruption cause)

theorem settled_eq_ok_iff {β : Type} {ofPair : UnitRef × UnitRef → β} {ofProblem : Problem → β}
    {attempt : Attempt (UnitRef × UnitRef)} {b : β} :
    settled ofPair ofProblem attempt = .ok b ↔
      (∃ pair, attempt = .ok pair ∧ ofPair pair = b) ∨
        ∃ p, attempt = .error (.problem p) ∧ ofProblem p = b := by
  rcases attempt with ⟨p | cause⟩ | pair <;> simp [settled]

theorem settled_eq_error_iff {β : Type} {ofPair : UnitRef × UnitRef → β} {ofProblem : Problem → β}
    {attempt : Attempt (UnitRef × UnitRef)} {failure : Failure} :
    settled ofPair ofProblem attempt = .error failure ↔
      ∃ cause, failure = .interruption cause ∧ attempt = .error (.interruption cause) := by
  rcases attempt with ⟨p | cause⟩ | pair <;> simp [settled, eq_comm]

/-- What is said of a number between two units. -/
def made (source target : Json) (s t : UnitRef) (input exact : Decimal)
    (formatted : String) : Conversion :=
  ⟨input, exact, formatted, source.inline, target.inline, s.unit, t.unit, s.category⟩

/-- The ways that the conversion of a value takes, each with its end. -/
inductive Course (registry : Registry) (settings : Settings) (value source target : Json) :
    Attempt Conversion → Prop
  | input {failure : Failure} (hinput : inputOf value = .error failure) :
      Course registry settings value source target (.error failure)
  | units {x : Decimal} {failure : Failure} (hinput : inputOf value = .ok x)
      (hpair : resolvePair registry ⟨settings.maxSuggestions, settings.minSimilarity⟩
        source target = .error failure) :
      Course registry settings value source target (.error failure)
  | calculation {x : Decimal} {s t : UnitRef} {failure : Failure} (hinput : inputOf value = .ok x)
      (hpair : resolvePair registry ⟨settings.maxSuggestions, settings.minSimilarity⟩
        source target = .ok (s, t))
      (happly : applyRefs registry s t x = .error failure) :
      Course registry settings value source target (.error failure)
  | writing {x exact : Decimal} {s t : UnitRef} {signal : Signal} (hinput : inputOf value = .ok x)
      (hpair : resolvePair registry ⟨settings.maxSuggestions, settings.minSimilarity⟩
        source target = .ok (s, t))
      (happly : applyRefs registry s t x = .ok exact)
      (hformat : format settings exact = .error signal) :
      Course registry settings value source target (.error (.interruption (.signal signal)))
  | success {x exact : Decimal} {s t : UnitRef} {formatted : String}
      (hinput : inputOf value = .ok x)
      (hpair : resolvePair registry ⟨settings.maxSuggestions, settings.minSimilarity⟩
        source target = .ok (s, t))
      (happly : applyRefs registry s t x = .ok exact)
      (hformat : format settings exact = .ok formatted) :
      Course registry settings value source target (.ok (made source target s t x exact formatted))

variable {registry : Registry} {settings : Settings} {value source target : Json}

/-- The problem with an unknown unit is thrown after its name was written. -/
theorem throw_unknown {β : Type} (registry : Registry) (limits : Suggestion.Limits)
    (role : Problem.Role) (unit : Json) :
    (do let problem ← Request.unknownUnit role unit
        throw (.problem (Suggestion.enhance problem unit (some registry) limits)) : Attempt β) =
      .error (unknown registry limits role unit) := by
  unfold unknown
  cases Request.unknownUnit role unit <;> rfl

/-- A conversion resolves its units as a pair. -/
theorem convertIn_eq (registry : Registry) (settings : Settings) (value source target : Json) :
    convertIn registry settings value source target = (do
      let input ← inputOf value
      let (s, t) ← resolvePair registry ⟨settings.maxSuggestions,
        settings.minSimilarity⟩ source target
      let exact ← applyRefs registry s t input
      let formatted ← (format settings exact).mapError (.interruption ∘ .signal)
      return made source target s t input exact formatted) := by
  unfold convertIn resolvePair
  congr 1
  funext input
  cases registry.resolve? source with
  | none => exact throw_unknown ..
  | some s =>
      cases registry.resolve? target with
      | none => exact throw_unknown ..
      | some t =>
          dsimp only
          by_cases hcategory : s.category = t.category
          · rw [if_neg (not_not.2 hcategory), if_pos hcategory]
            rfl
          · rw [if_pos hcategory, if_neg hcategory]
            rfl

theorem convertIn_course (registry : Registry) (settings : Settings) (value source target : Json) :
    Course registry settings value source target
      (convertIn registry settings value source target) := by
  rw [convertIn_eq]
  cases hinput : inputOf value with
  | error failure => exact .input hinput
  | ok x =>
      cases hpair : resolvePair registry ⟨settings.maxSuggestions, settings.minSimilarity⟩
        source target with
      | error failure => exact .units hinput hpair
      | ok pair =>
          obtain ⟨s, t⟩ := pair
          cases happly : applyRefs registry s t x with
          | error failure =>
              simp only [bind, Except.bind, happly]
              exact .calculation hinput hpair happly
          | ok exact =>
              simp only [bind, Except.bind, happly]
              cases hformat : format settings exact with
              | error signal => exact .writing hinput hpair happly hformat
              | ok formatted => exact .success hinput hpair happly hformat

theorem convert_some (registry : Registry) (settings : Settings) (value source target : Json) :
    convert (some registry) settings value source target =
      outcomeOf (convertIn registry settings value source target) := rfl

@[simp] theorem outcomeOf_eq_success_iff {attempt : Attempt Conversion} {c : Conversion} :
    outcomeOf attempt = .success c ↔ attempt = .ok c := by
  cases attempt <;> simp [outcomeOf]

@[simp] theorem outcomeOf_eq_failure_iff {attempt : Attempt Conversion} {p : Problem} :
    outcomeOf attempt = .failure p ↔ ∃ failure, attempt = .error failure ∧
    described failure = p := by
  cases attempt <;> simp [outcomeOf]

@[simp] theorem outcomeOf_ne_blank (attempt : Attempt Conversion) : outcomeOf attempt ≠ .blank := by
  cases attempt <;> simp [outcomeOf]

theorem convert_eq_failure_iff {p : Problem} :
    convert (some registry) settings value source target = .failure p ↔
      ∃ failure, convertIn registry settings value source target = .error failure ∧
        described failure = p := by
  rw [convert_some, outcomeOf_eq_failure_iff]

/-- A value that is not taken is no number, is beyond all doubles, or cannot be written. -/
theorem inputOf_eq_error {failure : Failure} (h : inputOf value = .error failure) :
    failure = invalidInput value ∨ (∃ message, failure = .problem (unrepresentable message)) ∨
      failure = .interruption .longInteger := by
  obtain h | ⟨number, -, h⟩ := Formula.bind_eq_error h
  · refine .inr (.inr ?_)
    cases value with
    | integer i =>
        rw [numberOf] at h
        cases hshown : (Json.integer i).shown with
        | ok text => simp [hshown, Except.map] at h
        | error other =>
            obtain ⟨-, rfl⟩ := Json.shown_eq_error_iff.1 hshown
            simpa [hshown, Except.map, eq_comm] using h
    | _ => cases h
  · split at h
    · exact .inl (Except.error.inj h).symm
    · split at h
      · exact .inl (Except.error.inj h).symm
      · split at h
        · exact .inr (.inl ⟨_, (Except.error.inj h).symm⟩)
        · cases h

/-- A value that is no number is named in a problem, if it can be written. -/
theorem invalidInput_eq (value : Json) :
    (∃ text, invalidInput value = .problem (Problem.calculation ("Invalid input value: " ++ text)
      (some "Input must be a valid number"))) ∨
        invalidInput value = .interruption .longInteger := by
  unfold invalidInput
  cases hshown : value.shown with
  | ok text => exact .inl ⟨text, rfl⟩
  | error failure => exact .inr (Json.shown_eq_error_iff.1 hshown).2

theorem inputOf_kind {failure : Failure} (h : inputOf value = .error failure) :
    (described failure).kind = .calculation := by
  obtain rfl | ⟨message, rfl⟩ | rfl := inputOf_eq_error h
  · obtain ⟨text, h⟩ | h := invalidInput_eq value <;> rw [h] <;> rfl
  · rfl
  · rfl

theorem inputOf_decimal_eq (d : Decimal) :
    inputOf (.decimal d) =
      if !d.isFinite then .error (invalidInput (.decimal d))
      else if !isRepresentable d then
        .error (.problem (unrepresentable "Input value is outside the representable range"))
      else .ok d := rfl

/-- A number within the range of doubles is taken as it is. -/
theorem inputOf_decimal {d : Decimal} (h : isRepresentable d = true) :
    inputOf (.decimal d) = .ok d := by
  have hfinite : d.isFinite = true := by
    cases d with
    | finite => rfl
    | infinite => cases h
    | nan => cases h
  simp [inputOf_decimal_eq, hfinite, h]

/-- A decimal number that is taken is taken as it is. -/
theorem eq_of_inputOf_decimal {d d' : Decimal} (h : inputOf (.decimal d) = .ok d') : d' = d := by
  rw [inputOf_decimal_eq] at h
  split_ifs at h
  exact (Except.ok.inj h).symm

/-- Between two units there is no value, an infinite one, or one beyond all doubles. -/
theorem apply_eq_error {source target : MeasurementUnit} {x : Decimal} {p : Problem}
    (h : apply source target x = .error p) :
    (∃ reason, p = arithmeticProblem reason) ∨
      p = Problem.calculation "Conversion produced a non-finite result" none ∨
      ∃ message, p = unrepresentable message := by
  unfold apply at h
  split at h
  · exact .inl ⟨_, (Except.error.inj h).symm⟩
  · split at h
    · exact .inr (.inl (Except.error.inj h).symm)
    · split at h
      · exact .inr (.inr ⟨_, (Except.error.inj h).symm⟩)
      · cases h

theorem apply_kind {source target : MeasurementUnit} {x : Decimal} {p : Problem}
    (h : apply source target x = .error p) : p.kind = .calculation := by
  obtain ⟨reason, rfl⟩ | rfl | ⟨message, rfl⟩ := apply_eq_error h <;> rfl

/-- A unit that is not there is looked up in vain: its category is missing, or the category has no
such key. -/
theorem unitAt_eq_error {ref : UnitRef} {failure : Failure}
    (h : unitAt registry ref = .error failure) :
    ∃ key, failure = .interruption (.missingKey key) := by
  unfold unitAt at h
  split at h
  · exact ⟨_, (Except.error.inj h).symm⟩
  · split at h
    · exact ⟨_, (Except.error.inj h).symm⟩
    · cases h

theorem unitAt_eq_ok_iff {ref : UnitRef} {unit : MeasurementUnit} :
    unitAt registry ref = .ok unit ↔ registry.unit? ref = some unit := by
  unfold unitAt Registry.unit?
  cases registry.category? ref.category with
  | none => simp
  | some category =>
      simp only [Option.bind_some]
      cases category.unit? ref.unit <;> simp

/-- Between two units that are there, the result is that of their rules. -/
theorem applyRefs_of_units {s t : UnitRef} {u v : MeasurementUnit} (hne : s ≠ t)
    (hu : registry.unit? s = some u) (hv : registry.unit? t = some v) (x : Decimal) :
    applyRefs registry s t x = (apply u v x).mapError .problem := by
  rw [applyRefs, if_neg hne, unitAt_eq_ok_iff.2 hu, unitAt_eq_ok_iff.2 hv]
  rfl

/-- The number of one unit for another one is not there because a unit is missing, or because it
cannot be computed. -/
theorem applyRefs_eq_error {s t : UnitRef} {x : Decimal} {failure : Failure}
    (h : applyRefs registry s t x = .error failure) :
    (∃ key, failure = .interruption (.missingKey key)) ∨
      ∃ u v p, registry.unit? s = some u ∧ registry.unit? t = some v ∧ apply u v x = .error p ∧
        failure = .problem p := by
  unfold applyRefs at h
  split at h
  · cases h
  · obtain h | ⟨u, hu, h⟩ := Formula.bind_eq_error h
    · exact .inl (unitAt_eq_error h)
    · obtain h | ⟨v, hv, h⟩ := Formula.bind_eq_error h
      · exact .inl (unitAt_eq_error h)
      · cases happly : apply u v x with
        | ok r => simp [happly, Except.mapError] at h
        | error p =>
            refine .inr ⟨u, v, p, unitAt_eq_ok_iff.1 hu, unitAt_eq_ok_iff.1 hv, happly, ?_⟩
            simpa [happly, Except.mapError, eq_comm] using h

theorem applyRefs_kind {s t : UnitRef} {x : Decimal} {failure : Failure}
    (h : applyRefs registry s t x = .error failure) : (described failure).kind = .calculation := by
  obtain ⟨key, rfl⟩ | ⟨u, v, p, -, -, happly, rfl⟩ := applyRefs_eq_error h
  · rfl
  · exact apply_kind happly

/-- The names of a resolved pair stand for units of one category. -/
theorem resolvePair_eq_ok {limits : Suggestion.Limits} {s t : UnitRef}
    (h : resolvePair registry limits source target = .ok (s, t)) :
    registry.resolve? source = some s ∧ registry.resolve? target = some t ∧
    s.category = t.category := by
  unfold resolvePair at h
  split at h
  · cases h
  · next hs =>
      split at h
      · cases h
      · next ht =>
          split at h
          · next hcategory =>
              cases h
              exact ⟨hs, ht, hcategory⟩
          · cases h

/-- Names that stand for units of one category are a resolved pair. -/
theorem resolvePair_eq {limits : Suggestion.Limits} {s t : UnitRef}
    (hs : registry.resolve? source = some s) (ht : registry.resolve? target = some t)
    (hcategory : s.category = t.category) :
    resolvePair registry limits source target = .ok (s, t) := by
  rw [resolvePair, hs]
  simp only [ht]
  rw [if_pos hcategory]

theorem enhance_kind (p : Problem) (unit : Json) (registry : Option Registry)
    (limits : Suggestion.Limits) :
    (Suggestion.enhance p unit registry limits).kind = p.kind := by
  unfold Suggestion.enhance
  split
  · rfl
  · rfl

/-- An unknown unit is named in a problem, or its name cannot be written. -/
theorem unknown_eq (registry : Registry) (limits : Suggestion.Limits) (role : Problem.Role)
    (unit : Json) :
    (unit.hasLongInteger = false ∧
        ∃ p, unknown registry limits role unit = .problem p ∧ p.kind = .unknownUnit) ∨
      unit.hasLongInteger = true ∧ unknown registry limits role unit =
        .interruption .longInteger := by
  unfold unknown Request.unknownUnit Json.shown
  cases unit.hasLongInteger with
  | true => exact .inr ⟨rfl, rfl⟩
  | false => exact .inl ⟨rfl, _, rfl, enhance_kind ..⟩

/-- The problem with an unknown unit is returned after its name was written. -/
theorem return_unknown {β : Type} (ofPair : UnitRef × UnitRef → β) (ofProblem : Problem → β)
    (registry : Registry) (limits : Suggestion.Limits) (role : Problem.Role) (unit : Json) :
    (do let problem ← Request.unknownUnit role unit
        return ofProblem (Suggestion.enhance problem unit (some registry) limits) : Attempt β) =
      settled ofPair ofProblem (.error (unknown registry limits role unit)) := by
  unfold unknown Request.unknownUnit Json.shown
  cases unit.hasLongInteger <;> rfl

/-- Names that are no pair have a problem that is none of a calculation, or one of them cannot be
written. -/
theorem resolvePair_eq_error {limits : Suggestion.Limits} {failure : Failure}
    (h : resolvePair registry limits source target = .error failure) :
    (∃ p, failure = .problem p ∧ p.kind ≠ .calculation) ∨
      failure = .interruption .longInteger ∧
      (source.hasLongInteger = true ∨ target.hasLongInteger = true) := by
  have hunknown (role : Problem.Role) (unit : Json) :
      (∃ p, unknown registry limits role unit = .problem p ∧ p.kind ≠ .calculation) ∨
        unknown registry limits role unit = .interruption .longInteger ∧
        unit.hasLongInteger = true := by
    obtain ⟨-, p, hp, hkind⟩ | ⟨hlong, hcause⟩ := unknown_eq registry limits role unit
    · exact .inl ⟨p, hp, by simp [hkind]⟩
    · exact .inr ⟨hcause, hlong⟩
  unfold resolvePair at h
  split at h
  · obtain rfl := Except.error.inj h
    exact (hunknown .source source).imp_right fun ⟨hcause, hlong⟩ => ⟨hcause, .inl hlong⟩
  · split at h
    · obtain rfl := Except.error.inj h
      exact (hunknown .target target).imp_right fun ⟨hcause, hlong⟩ => ⟨hcause, .inr hlong⟩
    · split at h
      · cases h
      · exact .inl ⟨_, (Except.error.inj h).symm,
          by simp [Request.differentCategories, Problem.differentCategories]⟩

/-- A check resolves its units as a pair, with suggestions of the standard similarity. -/
theorem checkUnits_eq (registry : Registry) (maxSuggestions : Int) (source target : Json) :
    Request.checkUnits (some registry) maxSuggestions source target =
      settled (fun _ => none) some
        (resolvePair registry ⟨maxSuggestions, Suggestion.standardSimilarity⟩ source target) := by
  simp only [Request.checkUnits, Request.requireRegistry, resolvePair]
  cases registry.resolve? source with
  | none => exact return_unknown ..
  | some s =>
      cases registry.resolve? target with
      | none => exact return_unknown ..
      | some t => by_cases hcategory : s.category = t.category <;> simp [hcategory, settled]

/-- A number between two known units is converted, or there is a problem of the calculation. -/
theorem convertIn_of_pair {x : Decimal} {s t : UnitRef} (hinput : inputOf value = .ok x)
    (hpair : resolvePair registry ⟨settings.maxSuggestions, settings.minSimilarity⟩ source target =
      .ok (s, t)) :
    (∃ exact formatted, convertIn registry settings value source target =
        .ok (made source target s t x exact formatted)) ∨
      ∃ failure, convertIn registry settings value source target = .error failure ∧
        (described failure).kind = .calculation := by
  -- The number and the units leave only the ways that come to the calculation.
  generalize hresult : convertIn registry settings value source target = result
  have hcourse := convertIn_course registry settings value source target
  rw [hresult] at hcourse
  cases hcourse with
  | input hinput' => simp [hinput] at hinput'
  | units _ hpair' => simp [hpair] at hpair'
  | calculation _ _ happly => exact .inr ⟨_, rfl, applyRefs_kind happly⟩
  | writing => exact .inr ⟨_, rfl, rfl⟩
  | success hinput' hpair' =>
      obtain rfl : x = _ := Except.ok.inj (hinput.symm.trans hinput')
      obtain ⟨rfl, rfl⟩ : s = _ ∧ t = _ := by simpa [hpair] using hpair'
      exact .inl ⟨_, _, rfl⟩

/-- A number between units that are not both known, or not of one category, is not converted. -/
theorem convertIn_of_pair_error {x : Decimal} {failure : Failure} (hinput : inputOf value = .ok x)
    (hpair : resolvePair registry ⟨settings.maxSuggestions, settings.minSimilarity⟩ source target =
      .error failure) :
    convertIn registry settings value source target = .error failure := by
  simp only [convertIn_eq, hinput, hpair, bind, Except.bind]

/-- What a conversion between two units that are known by their names consists of. -/
theorem convert_eq_success_iff {s t : UnitRef} (hs : registry.resolve? source = some s)
    (ht : registry.resolve? target = some t) (hcategory : s.category = t.category)
    {c : Conversion} :
    convert (some registry) settings value source target = .success c ↔
      inputOf value = .ok c.input ∧ applyRefs registry s t c.input = .ok c.exact ∧
        format settings c.exact = .ok c.formatted ∧
        c = made source target s t c.input c.exact c.formatted := by
  rw [convert_some, outcomeOf_eq_success_iff]
  constructor
  · intro h
    have hcourse := convertIn_course registry settings value source target
    rw [h] at hcourse
    cases hcourse with
    | success hinput hpair happly hformat =>
        obtain ⟨rfl, rfl⟩ :=
          Prod.mk.inj (Except.ok.inj (hpair.symm.trans (resolvePair_eq hs ht hcategory)))
        exact ⟨hinput, happly, hformat, rfl⟩
  · rintro ⟨hinput, happly, hformat, hc⟩
    rw [convertIn_eq, hinput, resolvePair_eq hs ht hcategory]
    simp only [bind, Except.bind, happly, hformat]
    exact congrArg Except.ok hc.symm

/-! ### Lines -/

/-- Single values are never blank lines. -/
theorem convert_ne_blank (registry : Option Registry) (settings : Settings)
    (value source target : Json) :
    convert registry settings value source target ≠ .blank := by
  exact outcomeOf_ne_blank _

/-- A line that is converted is never taken for a blank one. -/
theorem convertText_ne_blank (registry : Option Registry) (settings : Settings) (line : Json) :
    convertText registry settings line ≠ .blank := by
  unfold convertText
  split
  · simp
  · exact convert_ne_blank _ _ _ _ _

/-- What becomes of the lines of a text is what becomes of each of them. -/
theorem convertLines_eq_map {registry : Option Registry} {text : String}
    (hlimit : ((Text.lines text).length : Int) ≤ settings.maxLines) :
    convertLines registry settings (.text text) = (Text.lines text).map fun line =>
      if Text.isBlankText line then .blank else convertText registry settings (.text line) := by
  rw [convertLines, if_neg (not_lt.2 hlimit)]

end UnitConversion.Conversion
