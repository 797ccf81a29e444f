import UnitConversion.Proofs.Conversion.Course
import UnitConversion.Proofs.Catalog.Bundled

/-!
# Lines that are read and lines that are converted

The lines of a text can be read and checked, or they can be converted right away. Line by line both
see the same: a blank line is blank, a line with a problem has this problem, and what a line asks
for is what is converted, unless it cannot be calculated. Only a number beyond all doubles makes a
difference, since a conversion meets it before it looks at the units. In a text, the characters
U+BD800 to U+BDFFF stand for lone surrogates, as `Text.surrogate?` says.

* `Request.readLinesFrom_of_readLine`: the lines of a text are read one by one.
* `Conversion.agrees_line`: the reading and the conversion of one line agree.
* `Conversion.convertLines_agrees_readLines`: so do those of all lines of a text.
-/

namespace UnitConversion

namespace Request

/-- Every line is read by itself, and its number is its position. -/
theorem readLinesFrom_of_readLine {registry : Option Registry}
    (hline : ∀ number line, ∃ reading, readLine registry number line = .ok reading) (number : Nat)
    (lines : List String) :
    ∃ readings, readLinesFrom registry number lines = .ok readings ∧
      readings.length = lines.length ∧
      ∀ (i : Nat) (line : String) (reading : LineReading), lines[i]? = some line →
        readings[i]? = some reading →
        readLine registry (number + i) line = .ok reading := by
  induction lines generalizing number with
  | nil => exact ⟨[], rfl, rfl, by simp⟩
  | cons line lines ih =>
      obtain ⟨reading, hreading⟩ := hline number line
      obtain ⟨readings, hreadings, hlength, hall⟩ := ih (number + 1)
      refine ⟨reading :: readings, ?_, by simp [hlength], ?_⟩
      · rw [readLinesFrom, hreading, hreadings]
        rfl
      · intro i other otherReading hother hotherReading
        cases i with
        | zero =>
            obtain rfl : line = other := by simpa using hother
            obtain rfl : reading = otherReading := by simpa using hotherReading
            exact hreading
        | succ i =>
            rw [show number + (i + 1) = number + 1 + i by omega]
            exact hall i other otherReading (by simpa using hother) (by simpa using hotherReading)

end Request

namespace Conversion

/-- What becomes of one line of a text with the standard settings. -/
def convertLine (registry : Option Registry) (line : String) : Outcome :=
  if Text.isBlankText line then .blank else convertText registry .standard (.text line)

theorem convertLines_eq (registry : Option Registry) {text : String}
    (hlines : (Text.lines text).length ≤ 200) :
    convertLines registry .standard (.text text) =
      (Text.lines text).map (convertLine registry) := by
  have hlimit : ((Text.lines text).length : Int) ≤ Settings.standard.maxLines := by
    show ((Text.lines text).length : Int) ≤ 200
    omega
  exact convertLines_eq_map hlimit

/-- Whether a line asks for the conversion of a number that is beyond all doubles. -/
def IsBeyondDoubles (line : String) : Prop :=
  ∃ request, Request.ofText Request.standardLimit line = .ok request ∧
    isRepresentable request.value = false

/-- What the reading of a line and its conversion have in common. -/
structure Agrees (line : String) (reading : Request.LineReading) (outcome : Outcome) : Prop where
  blank : (∃ number, reading = .blank number) ↔ outcome = .blank
  /-- A problem of the reading is the problem of the conversion, unless the number is beyond all
  doubles. -/
  problem : ∀ p, reading = .problem p → ¬ IsBeyondDoubles line → outcome = .failure p
  /-- The request that was read is converted, with its number and its units, or cannot be
  calculated. -/
  request : ∀ request, reading = .request request →
    (∃ c, outcome = .success c ∧ c.source = request.source ∧ c.target = request.target ∧
        c.input = request.value) ∨
      ∃ p, outcome = .failure p ∧ p.kind = .calculation
  /-- A number beyond all doubles cannot be calculated. -/
  beyond : IsBeyondDoubles line → ∃ p, outcome = .failure p ∧ p.kind = .calculation

namespace Agrees

variable {line : String}

theorem of_blank (hline : ¬ IsBeyondDoubles line) (number : Nat) :
    Agrees line (.blank number) .blank where
  blank := by simp
  problem := by simp
  request := by simp
  beyond h := absurd h hline

theorem of_problem {p : Problem} (hbeyond : IsBeyondDoubles line → p.kind = .calculation) :
    Agrees line (.problem p) (.failure p) where
  blank := by simp
  problem := by simp
  request := by simp
  beyond h := ⟨p, rfl, hbeyond h⟩

theorem of_calculation {reading : Request.LineReading} {p : Problem} (hkind : p.kind = .calculation)
    (hblank : ∀ number, reading ≠ .blank number)
    (hproblem : ∀ q, reading = .problem q → ¬ IsBeyondDoubles line → q = p) :
    Agrees line reading (.failure p) where
  blank := by simpa using hblank
  problem q hq hline := by rw [hproblem q hq hline]
  request _ _ := .inr ⟨p, rfl, hkind⟩
  beyond _ := ⟨p, rfl, hkind⟩

theorem of_success {request : Request} {c : Conversion} (hline : ¬ IsBeyondDoubles line)
    (hsource : c.source = request.source) (htarget : c.target = request.target)
    (hinput : c.input = request.value) : Agrees line (.request request) (.success c) where
  blank := by simp
  problem := by simp
  request r hr := by
    obtain rfl : request = r := by simpa using hr
    exact .inl ⟨c, rfl, hsource, htarget, hinput⟩
  beyond h := absurd h hline

end Agrees

theorem inputOf_decimal_error {d : Decimal} (h : isRepresentable d = false) :
    ∃ failure, inputOf (.decimal d) = .error failure ∧ (described failure).kind = .calculation := by
  cases hinput : inputOf (.decimal d) with
  | error failure => exact ⟨failure, rfl, inputOf_kind hinput⟩
  | ok x =>
      rw [inputOf_decimal_eq, h] at hinput
      split at hinput <;> cases hinput

variable {line : String} {request : Request}

theorem isBeyondDoubles_iff (hread : Request.ofText Request.standardLimit line = .ok request) :
    IsBeyondDoubles line ↔ isRepresentable request.value = false := by
  simp [IsBeyondDoubles, hread]

theorem not_isBeyondDoubles_of_error {p : Problem}
    (hread : Request.ofText Request.standardLimit line = .error p) : ¬ IsBeyondDoubles line := by
  simp [IsBeyondDoubles, hread]

/-- A blank line asks for nothing. -/
theorem ofText_of_blank (hblank : Text.isBlankText line = true) :
    Request.ofText Request.standardLimit line = .error Problem.emptyInput := by
  have htrim : Text.trimChars line.toList = [] := by
    have hdrop : line.toList.dropWhile Text.isBlank = [] := by
      rw [List.dropWhile_eq_nil_iff]
      exact fun c hc => List.all_eq_true.1 hblank c hc
    rw [Text.trimChars, hdrop]
    rfl
  simp only [Request.ofText, htrim, List.isEmpty_nil, if_true]

theorem readLine_of_request (registry : Option Registry) (number : Nat)
    (hfilled : Text.isBlankText line = false)
    (hread : Request.ofText Request.standardLimit line = .ok request) {found : Option Problem}
    (hfound : Request.checkUnits registry Request.standardSuggestions (.text request.source)
      (.text request.target) = .ok found) :
    Request.readLine registry number line =
      .ok (match found with
        | some p => .problem p
        | none => .request request) := by
  simp only [Request.readLine, hfilled, Request.readChecked, Request.ofJson, hread,
    Except.mapError, hfound, bind, Except.bind, Bool.false_eq_true, if_false]
  cases found <;> rfl

/-- The units of a line are texts, so there is a problem with them or none. -/
theorem checkUnits_texts (registry : Option Registry) (maxSuggestions : Int)
    (source target : String) :
    ∃ found, Request.checkUnits registry maxSuggestions (.text source) (.text target) =
      .ok found := by
  cases registry with
  | none => exact ⟨_, rfl⟩
  | some registry =>
      rw [checkUnits_eq]
      cases hpair : resolvePair registry ⟨maxSuggestions, Suggestion.standardSimilarity⟩
        (.text source)
          (.text target) with
      | ok pair => exact ⟨_, rfl⟩
      | error failure =>
          obtain ⟨p, rfl, -⟩ | ⟨-, hlong | hlong⟩ := resolvePair_eq_error hpair
          · exact ⟨_, rfl⟩
          · cases hlong
          · cases hlong

theorem convertLine_of_request (registry : Option Registry)
    (hfilled : Text.isBlankText line = false)
    (hread : Request.ofText Request.standardLimit line = .ok request) :
    convertLine registry line =
      convert registry .standard (.decimal request.value) (.text request.source)
        (.text request.target) := by
  have hlimit : Settings.standard.maxInputLength = Request.standardLimit := rfl
  simp only [convertLine, hfilled, convertText, Request.ofJson, hlimit, hread,
    Bool.false_eq_true, if_false]

/-- A request within the range of doubles, in a registry: both sides come to its units next. -/
theorem agrees_of_units (registry : Registry) (number : Nat)
    (hfilled : Text.isBlankText line = false)
    (hread : Request.ofText Request.standardLimit line = .ok request)
    (hdouble : isRepresentable request.value = true) :
    ∃ reading, Request.readLine (some registry) number line = .ok reading ∧
      Agrees line reading (convertLine (some registry) line) := by
  have hline : ¬ IsBeyondDoubles line := by simp [isBeyondDoubles_iff hread, hdouble]
  have hinput := inputOf_decimal hdouble
  obtain ⟨found, hfound⟩ := checkUnits_texts (some registry) Request.standardSuggestions
    request.source request.target
  refine ⟨_, readLine_of_request _ number hfilled hread hfound, ?_⟩
  -- The check and the standard settings ask for the same suggestions.
  have hlimits : (⟨Request.standardSuggestions,
      Suggestion.standardSimilarity⟩ : Suggestion.Limits) =
      ⟨Settings.standard.maxSuggestions, Settings.standard.minSimilarity⟩ := rfl
  rw [checkUnits_eq, hlimits, settled_eq_ok_iff] at hfound
  rw [convertLine_of_request _ hfilled hread, convert_some]
  obtain ⟨⟨s, t⟩, hpair, rfl⟩ | ⟨p, hpair, rfl⟩ := hfound
  · obtain ⟨exact, formatted, hresult⟩ | ⟨failure, hresult, hkind⟩ := convertIn_of_pair hinput hpair
    · rw [hresult]
      exact .of_success hline rfl rfl rfl
    · rw [hresult]
      exact .of_calculation hkind (by simp) (by simp)
  · rw [convertIn_of_pair_error hinput hpair]
    exact .of_problem fun h => absurd h hline

/-- The reading and the conversion of a line agree. -/
theorem agrees_line (registry : Option Registry) (number : Nat) (line : String) :
    ∃ reading, Request.readLine registry number line = .ok reading ∧
      Agrees line reading (convertLine registry line) := by
  cases hblank : Text.isBlankText line with
  | true =>
      simp only [Request.readLine, convertLine, hblank, if_true]
      exact ⟨_, rfl, .of_blank (not_isBeyondDoubles_of_error (ofText_of_blank hblank)) number⟩
  | false =>
      cases hread : Request.ofText Request.standardLimit line with
      | error p =>
          have hlimit : Settings.standard.maxInputLength = Request.standardLimit := rfl
          simp only [Request.readLine, convertLine, hblank, Request.readChecked, convertText,
            Request.ofJson, hlimit, hread, Bool.false_eq_true, if_false]
          exact ⟨_, rfl, .of_problem fun h => absurd h (not_isBeyondDoubles_of_error hread)⟩
      | ok request =>
          cases registry with
          | none =>
              refine ⟨_, readLine_of_request none number hblank hread rfl, ?_⟩
              rw [convertLine_of_request _ hblank hread]
              exact .of_problem fun _ => rfl
          | some registry =>
              cases hdouble : isRepresentable request.value with
              | true => exact agrees_of_units registry number hblank hread hdouble
              | false =>
                  -- The conversion stops at the number, whatever a check says about the units.
                  obtain ⟨failure, hinput, hkind⟩ := inputOf_decimal_error hdouble
                  have hresult : convertLine (some registry) line =
                      .failure (described failure) := by
                    rw [convertLine_of_request _ hblank hread, convert_some, convertIn, hinput]
                    rfl
                  obtain ⟨found, hfound⟩ := checkUnits_texts (some registry)
                    Request.standardSuggestions request.source request.target
                  refine ⟨_, readLine_of_request _ number hblank hread hfound, ?_⟩
                  rw [hresult]
                  refine .of_calculation hkind ?_ fun _ _ hline =>
                    absurd ((isBeyondDoubles_iff hread).2 hdouble) hline
                  intro other
                  split <;> simp

/-- The lines of a text of at most two hundred lines are read and converted one by one, and at each
position the reading and the conversion agree. -/
theorem convertLines_agrees_readLines (registry : Option Registry) {text : String}
    (hlines : (Text.lines text).length ≤ 200) :
    ∃ readings, Request.readLines registry text = .ok readings ∧
      readings.length = (Text.lines text).length ∧
      (convertLines registry .standard (.text text)).length = (Text.lines text).length ∧
      ∀ (i : Nat) (line : String) (reading : Request.LineReading) (outcome : Outcome),
        (Text.lines text)[i]? = some line → readings[i]? = some reading →
        (convertLines registry .standard (.text text))[i]? = some outcome →
        Agrees line reading outcome := by
  have hread (number : Nat) (line : String) :
      ∃ reading, Request.readLine registry number line = .ok reading :=
    (agrees_line registry number line).imp fun _ h => h.1
  obtain ⟨readings, hreadings, hlength, hall⟩ :=
    Request.readLinesFrom_of_readLine hread 1 (Text.lines text)
  rw [convertLines_eq registry hlines]
  refine ⟨readings, hreadings, hlength, List.length_map _, ?_⟩
  intro i line reading outcome hline hreading houtcome
  rw [List.getElem?_map, hline, Option.map_some] at houtcome
  obtain rfl := Option.some.inj houtcome
  obtain ⟨other, hother, hagrees⟩ := agrees_line registry (1 + i) line
  obtain rfl : other = reading :=
    Except.ok.inj (hother.symm.trans (hall i line reading hline hreading))
  exact hagrees

/-- A text of a line and a blank line, in the registry of the bundled documents. -/
theorem line_and_blank_agree :
    (Text.lines "5 m to ft\n").length ≤ 200 ∧
    ∃ r₁ r₂ o₁ o₂, Request.readLines (some Bundled.registry) "5 m to ft\n" = .ok [r₁, r₂] ∧
      convertLines (some Bundled.registry) .standard (.text "5 m to ft\n") = [o₁, o₂] ∧
      Agrees "5 m to ft" r₁ o₁ ∧ Agrees "" r₂ o₂ := by
  have hlines : Text.lines "5 m to ft\n" = ["5 m to ft", ""] := by decide
  have hlimit : (Text.lines "5 m to ft\n").length ≤ 200 := by
    rw [hlines]
    decide
  obtain ⟨readings, hread, hreadings, houtcomes, hagrees⟩ :=
    convertLines_agrees_readLines (some Bundled.registry) hlimit
  rw [hlines] at hreadings houtcomes hagrees
  obtain ⟨r₁, r₂, rfl⟩ := List.length_eq_two.1 hreadings
  obtain ⟨o₁, o₂, ho⟩ := List.length_eq_two.1 houtcomes
  rw [ho] at hagrees
  exact ⟨hlimit, r₁, r₂, o₁, o₂, hread, ho, hagrees 0 _ _ _ rfl rfl rfl,
    hagrees 1 _ _ _ rfl rfl rfl⟩

end Conversion

end UnitConversion
