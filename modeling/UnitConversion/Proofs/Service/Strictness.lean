import UnitConversion.Proofs.Catalog.Bundled
import UnitConversion.Proofs.Service.Conversion

/-!
# Strict responses

A JSON text has no infinite and no undefined numbers, so a response can only be written strictly if
its numbers are finite. Those of conversions are, whatever the registry and the settings. Two kinds
of numbers are given out as doubles without a look at their range: the bounds of the settings and
the factors of units.

* `Json.isStrict`: all numbers of a value are finite.
* `Service.Strict`: all responses about units are strict.
* `Service.strict_iff`: they are exactly when the two bounds and all factors are within the range of
  doubles.
-/

namespace UnitConversion

namespace Json

mutual

/-- Whether all numbers of a value are finite. -/
def isStrict : Json → Bool
  | decimal d => d.isFinite
  | real r => r.isFinite
  | list items => areStrict items
  | object members => haveStrict members
  | _ => true

/-- Whether all numbers in the items of a list are finite. -/
def areStrict : List Json → Bool
  | [] => true
  | item :: items => isStrict item && areStrict items

/-- Whether all numbers in the members of an object are finite. -/
def haveStrict : List (String × Json) → Bool
  | [] => true
  | (_, value) :: members => isStrict value && haveStrict members

end

@[simp] theorem isStrict_null : null.isStrict = true := rfl
@[simp] theorem isStrict_bool (b : Bool) : (bool b).isStrict = true := rfl
@[simp] theorem isStrict_integer (i : Int) : (integer i).isStrict = true := rfl
@[simp] theorem isStrict_text (s : String) : (text s).isStrict = true := rfl
@[simp] theorem isStrict_real (r : Binary64) : (real r).isStrict = r.isFinite := rfl

@[simp] theorem isStrict_list_iff {items : List Json} :
    (list items).isStrict = true ↔ ∀ item ∈ items, item.isStrict = true := by
  show areStrict items = true ↔ _
  induction items with
  | nil => simp [areStrict]
  | cons item items ih => simp [areStrict, ih]

@[simp] theorem isStrict_object_iff {members : List (String × Json)} :
    (object members).isStrict = true ↔ ∀ member ∈ members, member.2.isStrict = true := by
  show haveStrict members = true ↔ _
  induction members with
  | nil => simp [haveStrict]
  | cons member members ih => simp [haveStrict, ih]

@[simp] theorem isStrict_ofText? (s : Option String) : (ofText? s).isStrict = true := by
  cases s <;> rfl

end Json

/-- A problem is described by texts. -/
@[simp] theorem Problem.isStrict_toJson (p : Problem) : p.toJson.isStrict = true := by
  simp [Problem.toJson]

namespace Outcome

variable {registry : Option Registry} {settings : Settings} {outcome : Outcome}

/-- The numbers of a conversion that can be relied on are finite. -/
theorem isStrict_toJson (h : Made registry settings outcome) : outcome.toJson.isStrict = true := by
  cases h.shaped with
  | conversion _ hsound =>
      simp [toJson, success, Json.ofReal?, hsound.input.2, hsound.exact.2]
  | problem p => simp [toJson, failure, withoutResult]
  | blank => rfl

/-- The record of a conversion repeats its numbers. -/
theorem isStrict_recordToJson (h : Made registry settings outcome) (time : Instant)
    (text : String) :
    (Service.recordToJson time outcome text).isStrict = true := by
  cases h.shaped with
  | conversion _ hsound =>
      simp [Service.recordToJson, Conversion.recordOf?, success, Conversion.Record.toJson,
        hsound.input.2, hsound.exact.2]
  | problem p => rfl
  | blank => rfl

end Outcome

/-- The lines of a text are told with their outcomes and with counts. -/
theorem Conversion.isStrict_linesReport (registry : Option Registry) (settings : Settings)
    (text : Json) :
    (linesReport (convertLines registry settings text)).isStrict = true := by
  have houtcomes : ∀ outcome ∈ convertLines registry settings text,
      outcome.toJson.isStrict = true :=
    fun outcome h => Outcome.isStrict_toJson (.text h)
  simpa [linesReport, Summary.toJson] using houtcomes

theorem Conversion.Verdict.isStrict_toJson (verdict : Verdict) :
    verdict.toJson.isStrict = true := by
  cases herror : verdict.error <;> simp [toJson, herror]

/-! ### What is given out without a look at its range -/

/-- A factor of a unit, if it has one, is within the range of doubles. -/
def MeasurementUnit.Representable (unit : MeasurementUnit) : Prop :=
  ∀ f, unit.factor = some f → Conversion.isRepresentable f = true

/-- All factors of units are within the range of doubles. -/
def Registry.Representable (registry : Registry) : Prop :=
  ∀ category ∈ registry.categories, ∀ unit ∈ category.units, unit.Representable

theorem MeasurementUnit.isStrict_members_iff (unit : MeasurementUnit) (base : Bool) :
    (Json.object (unit.members ++ [("base", .bool base)])).isStrict = true ↔
      unit.Representable := by
  have hfactor : unit.factorToJson.isStrict = true ↔ unit.Representable := by
    unfold MeasurementUnit.factorToJson MeasurementUnit.Representable Conversion.isRepresentable
    cases unit.factor <;> simp
  simp only [← hfactor, MeasurementUnit.members, Json.isStrict_object_iff, List.forall_mem_append]
  constructor
  · rintro ⟨⟨⟨hfixed, -⟩, -⟩, -⟩
    exact hfixed ("factor", unit.factorToJson) (by simp)
  · intro h
    -- The factor stands among texts, and formulas, a description and the mark of the base unit
    -- follow.
    refine ⟨⟨⟨?_, ?_⟩, ?_⟩, ?_⟩
    · simp [h]
    · cases unit.rule <;> simp
    · cases unit.description with
      | none => simp
      | some description =>
          dsimp only
          split <;> simp
    · simp

theorem Registry.isStrict_unitsOf_iff (category : Category) :
    (Json.list (unitsOf category)).isStrict = true ↔
      ∀ unit ∈ category.units, unit.Representable := by
  simp only [unitsOf, Json.isStrict_list_iff, List.forall_mem_map,
    MeasurementUnit.isStrict_members_iff]

/-- The bounds between which results have no exponent are told as doubles. -/
theorem Settings.isStrict_precision_iff (settings : Settings) :
    settings.precision.isStrict = true ↔
      Conversion.isRepresentable settings.exponentialUpper = true ∧
        Conversion.isRepresentable settings.exponentialLower = true := by
  simp [Settings.precision, Conversion.isRepresentable]

namespace Service

theorem isStrict_categoriesReport_iff (registry : Registry) :
    (categoriesReport registry).isStrict = true ↔ registry.Representable := by
  simp only [categoriesReport, Registry.Representable, ← Registry.isStrict_unitsOf_iff]
  simp

/-! ### Errors -/

/-- The details of an error are strict. -/
def Error.IsStrict (error : Error) : Prop :=
  ∀ detail ∈ error.details, detail.2.isStrict = true

theorem Error.isStrict_ofProblem (p : Problem) : (Error.ofProblem p).IsStrict :=
  Json.isStrict_object_iff.1 p.isStrict_toJson

theorem Error.isStrict_invalidPayload (findings : List Schema.Finding) :
    (Error.invalidPayload findings).IsStrict := by
  simp [Error.IsStrict, Error.invalidPayload, findingToJson]

theorem isStrict_failure {error : Error} (h : error.IsStrict) :
    (Reply.failure error none).body.isStrict = true := by
  have hdetails : (Json.object error.details).isStrict = true := Json.isStrict_object_iff.2 h
  simp only [Reply.failure, Reply.described, Error.toJson, Json.isStrict_object_iff,
    List.forall_mem_cons, Json.isStrict_bool, Json.isStrict_text, hdetails]
  simp

theorem isStrict_success_iff (data : Json) :
    (Reply.success data none).body.isStrict = true ↔ data.isStrict = true := by
  simp [Reply.success]

/-! ### Answers -/

variable {site : Site} {session : Session} {registry : Registry} {call : Call}

/-- A payload that is not taken is told by texts. -/
theorem isStrict_of_payloadOf {α : Type} {check : Json → Schema.Checked α} {error : Error}
    (h : payloadOf site call check = .error error) : error.IsStrict := by
  unfold payloadOf at h
  cases hbody : call.payload site.bodyLimit with
  | error unread =>
      obtain rfl : unread.toError call.callNote = error := by
        simpa [hbody, bind, Except.bind, Except.mapError] using h
      cases unread <;> simp [Error.IsStrict, Unread.toError, Error.ofClass, Error.unexpected]
  | ok body =>
      cases hcheck : check body with
      | error findings =>
          obtain rfl : Error.invalidPayload findings = error := by
            simpa [hbody, hcheck, bind, Except.bind, Except.mapError] using h
          exact Error.isStrict_invalidPayload findings
      | ok payload => simp [hbody, hcheck, bind, Except.bind, Except.mapError] at h

/-- What an operation answers is strict: its data and the details of its error. -/
def IsStrictAnswer : Except Error Json → Prop
  | .ok data => data.isStrict = true
  | .error error => error.IsStrict

theorem isStrict_replyOf {answered : Except Error Json} (h : IsStrictAnswer answered) :
    (replyOf answered).body.isStrict = true := by
  cases answered with
  | ok data => exact (isStrict_success_iff data).2 h
  | error error => exact isStrict_failure h

/-- With a payload, an operation answers with strict data if it does so for every payload. -/
theorem isStrictAnswer_bind {α : Type} {check : Json → Schema.Checked α}
    {next : α → Except Error Json} (h : ∀ payload, IsStrictAnswer (next payload)) :
    IsStrictAnswer ((payloadOf site call check).bind next) := by
  cases hpayload : payloadOf site call check with
  | error error => exact isStrict_of_payloadOf hpayload
  | ok payload => exact h payload

theorem isStrictAnswer_dataOf {settings : Settings} {outcome : Outcome}
    {more : List (String × Json)} (hmade : Outcome.Made (some registry) settings outcome)
    (hmore : ∀ member ∈ more, member.2.isStrict = true) : IsStrictAnswer (dataOf outcome more) := by
  have hstrict := Outcome.isStrict_toJson hmade
  cases hmade.shaped with
  | conversion =>
      have hmembers := Json.isStrict_object_iff.1 hstrict
      exact Json.isStrict_object_iff.2 (List.forall_mem_append.2 ⟨hmembers, hmore⟩)
  | problem p => exact Error.isStrict_ofProblem p
  | blank =>
      have hmembers := Json.isStrict_object_iff.1 hstrict
      exact Json.isStrict_object_iff.2 (List.forall_mem_append.2 ⟨hmembers, hmore⟩)

/-- A failure is described, or told in its own words. -/
theorem Error.isStrict_ofFailure (failure : Failure) : (Error.ofFailure failure).IsStrict := by
  cases failure with
  | problem p => exact Error.isStrict_ofProblem p
  | interruption cause => simp [Error.IsStrict, Error.ofFailure, Error.unexpected, Error.ofClass]

theorem isStrictAnswer_verdict (verdict : Attempt Conversion.Verdict) :
    IsStrictAnswer ((verdict.mapError Error.ofFailure).map Conversion.Verdict.toJson) := by
  cases verdict with
  | ok verdict => exact verdict.isStrict_toJson
  | error failure => exact Error.isStrict_ofFailure failure

/-- Only the answers about categories and their units depend on the factors of units. -/
theorem isStrictAnswer_answer (hregistry : registry.Representable) (operation : Operation) :
    IsStrictAnswer (answer site registry call operation) := by
  -- The other operations answer conversions, texts and counts.
  cases operation with
  | categories => exact (isStrict_categoriesReport_iff registry).2 hregistry
  | units name =>
      show IsStrictAnswer (unitsReport registry name)
      unfold unitsReport
      split
      · next category hfound =>
          have hmem : category ∈ registry.categories := List.mem_of_find?_eq_some hfound
          have hunits := (Registry.isStrict_unitsOf_iff category).2 (hregistry category hmem)
          simpa [IsStrictAnswer] using hunits
      · simp [IsStrictAnswer, Error.IsStrict, unknownCategory]
  | convert => exact isStrictAnswer_bind fun p => isStrictAnswer_dataOf (.value _ _ _) (by simp)
  | parse =>
      refine isStrictAnswer_bind fun text => isStrictAnswer_dataOf (.line _) ?_
      simpa using Outcome.isStrict_recordToJson (.line _) call.time text
  | lines => exact isStrictAnswer_bind fun text => Conversion.isStrict_linesReport _ _ _
  | validate => exact isStrictAnswer_bind fun p => isStrictAnswer_verdict _
  | suggestions => simp [answer, suggestionsReport, IsStrictAnswer]

/-! ### Responses -/

/-- All responses about units are strict. A call changes nothing, so this is about sequences of
calls too. What the service tells about the site itself is left out. -/
def Strict (site : Site) (session : Session) : Prop :=
  ∀ call response body,
    Route.ofPath call.routedMethod call.forSocket call.target.path ≠ .found .home →
    respond site session call = .ok response → response.body = some body → body.isStrict = true

theorem isStrict_of_respondReply {reply : Reply} {body : Json} (h : reply.body.isStrict = true)
    (hbody : (respondReply call reply).body = some body) : body.isStrict = true := by
  have hsome : (if call.method = "HEAD" then none else some reply.body) = some body := hbody
  split at hsome
  · cases hsome
  · exact Option.some.inj hsome ▸ h

theorem isStrict_operate (hregistry : ∀ registry, session.published = some registry →
    registry.Representable)
    (operation : Operation) : (operate site session call operation).body.isStrict = true := by
  unfold operate
  split
  · exact isStrict_failure (Error.isStrict_ofProblem Problem.notReady)
  · next registry hpublished =>
      exact isStrict_replyOf (isStrictAnswer_answer (hregistry registry hpublished) operation)

/-- With bounds and factors within the range of doubles all responses are strict. -/
theorem strict_of_representable (hprecision : site.settings.precision.isStrict = true)
    (hregistry : ∀ registry, session.published = some registry → registry.Representable) :
    Strict site session := by
  intro call response body hhome hresponse hbody
  have hfailure {error : Error} (herror : error.details = []) :
      (Reply.failure error none).body.isStrict = true :=
    isStrict_failure (by simp [Error.IsStrict, herror])
  -- What is not routed to an endpoint is answered by an error without details, or without a body.
  unfold respond at hresponse
  split at hresponse
  · cases hresponse
    exact isStrict_of_respondReply (hfailure rfl) hbody
  · cases hresponse
    exact isStrict_of_respondReply (hfailure rfl) hbody
  · cases hresponse
    exact isStrict_of_respondReply (hfailure rfl) hbody
  · cases hresponse
    cases hbody
  · next endpoint hroute =>
      split at hresponse
      · cases hresponse
        cases hbody
      · cases endpoint with
        | home => exact absurd hroute hhome
        | precision =>
            cases hresponse
            exact isStrict_of_respondReply ((isStrict_success_iff _).2 hprecision) hbody
        | file =>
            cases hresponse
            exact isStrict_of_respondReply (hfailure rfl) hbody
        | operation operation =>
            cases hresponse
            exact isStrict_of_respondReply (isStrict_operate hregistry operation) hbody

/-- A call that gets something. -/
def getting (path : String) : Call :=
  ⟨"GET", ⟨path.toList, [], false⟩, [], none, 950, "", ⟨2024, 1, 2, 3, 4, 5, 6⟩⟩

/-- If all responses are strict, so is what can be got. -/
theorem Strict.isStrict_of_getting (h : Strict site session) (path : String)
    (endpoint : Endpoint) {data : Json}
    (hroute : Route.ofPath (getting path).routedMethod (getting path).forSocket path.toList =
      .found endpoint) (hendpoint : endpoint ≠ .home)
    (hreply : reply site session (getting path) endpoint = .ok (Reply.success data none)) :
    data.isStrict = true := by
  have hmethod : (getting path).routedMethod ≠ "OPTIONS" := by
    show String.ofList ("GET".toList.flatMap Call.capitals) ≠ "OPTIONS"
    decide
  have hresponse : respond site session (getting path) = _ := respond_of_found hroute hmethod
  rw [hreply] at hresponse
  refine (isStrict_success_iff data).1 (h (getting path) _ _ ?_ hresponse rfl)
  intro hhome
  exact hendpoint (Route.found.inj (hroute.symm.trans hhome))

theorem Strict.isStrict_precision (h : Strict site session) :
    site.settings.precision.isStrict = true :=
  h.isStrict_of_getting "/api/unit_converter/precision" .precision (by decide +kernel)
    (by decide) rfl

theorem Strict.isStrict_categories (h : Strict site session)
    (hpublished : session.published = some registry) :
    (categoriesReport registry).isStrict = true := by
  refine h.isStrict_of_getting "/api/unit_converter/categories" (.operation .categories)
    (by decide +kernel) (by decide) ?_
  simp only [reply, operate, hpublished]
  rfl

/-- All responses about units are strict exactly when the bounds of the settings and the factors of
the published units, which are given out as doubles as they are, are within the range of doubles. -/
theorem strict_iff (site : Site) (session : Session) :
    Strict site session ↔
      Conversion.isRepresentable site.settings.exponentialUpper = true ∧
        Conversion.isRepresentable site.settings.exponentialLower = true ∧
        ∀ registry, session.published = some registry → registry.Representable := by
  constructor
  · intro h
    -- Two calls are enough: one for the bounds and one for all units.
    obtain ⟨hupper, hlower⟩ := (Settings.isStrict_precision_iff _).1 h.isStrict_precision
    refine ⟨hupper, hlower, ?_⟩
    intro registry hpublished
    exact (isStrict_categoriesReport_iff registry).1 (h.isStrict_categories hpublished)
  · rintro ⟨hupper, hlower, hregistry⟩
    exact strict_of_representable ((Settings.isStrict_precision_iff _).2 ⟨hupper, hlower⟩) hregistry

/-- A configuration with a bound beyond the doubles. -/
def wideConfiguration : Json :=
  .object [("plugins", .object [("unit_converter", .object [("formatting",
    .object [("exponential_upper", .text "1e400")])])])]

/-- The site of this configuration starts with the bundled units and tells an infinite bound. -/
theorem not_strict_wideConfiguration :
    ∃ site session, Site.ofJson wideConfiguration = .ok site ∧
      Site.start site .empty .fresh = .ok session ∧ ¬ Strict site session := by
  have hsite : Site.ofJson wideConfiguration =
      .ok ⟨some (.text "Unit Converter"), Site.standardSummary, Site.standardLimit,
        { Settings.standard with exponentialUpper := .finite false 1 400 }⟩ := by
    rfl
  refine ⟨_, ⟨some Bundled.registry⟩, hsite, ?_, ?_⟩
  · have hload := Bundled.load_eq
    simp only [Site.start, Session.start, Session.load, Settings.directoryIn,
      Settings.standard, List.map_nil, hload]
    rfl
  · intro h
    have hupper := ((Settings.isStrict_precision_iff _).1 h.isStrict_precision).1
    exact absurd hupper (by decide +kernel)

end Service

end UnitConversion
