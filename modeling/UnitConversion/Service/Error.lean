import UnitConversion.Conversion.Document
import UnitConversion.Text.LowerCase

/-!
# Errors of the service

An error is what the service answers when it does not answer with data: a message, a code that
programs can test, a status, and details. Each class of errors has a code and a status of its own;
both can be replaced.
-/

namespace UnitConversion.Service

/-- The classes of errors. -/
inductive ErrorClass where
  | general
  /-- The input is not acceptable. -/
  | validation
  /-- There is nothing here. -/
  | notFound
  /-- The input is well-formed but has no value. -/
  | unprocessable
  /-- Something that is needed has not been loaded. -/
  | unavailable
  | internal
  deriving DecidableEq

namespace ErrorClass

/-- The code of a class. -/
def code : ErrorClass → String
  | general => "error"
  | validation => "validation_error"
  | notFound => "not_found"
  | unprocessable => "unprocessable"
  | unavailable => "service_unavailable"
  | internal => "internal_error"

/-- The status of a class. -/
def status : ErrorClass → Nat
  | general => 400
  | validation => 400
  | notFound => 404
  | unprocessable => 422
  | unavailable => 503
  | internal => 500

/-- The class of the errors that describe problems of a kind. -/
def ofKind : ProblemKind → ErrorClass
  | .invalidFormat => validation
  | .unknownUnit => validation
  | .calculation => unprocessable
  | .configuration => unavailable

end ErrorClass

/-- An error of the service. -/
structure Error where
  kind : ErrorClass
  message : String
  code : String
  status : Nat
  details : List (String × Json)

namespace Error

/-- An error with the code and the status of its class, and without details. -/
def ofClass (kind : ErrorClass) (message : String) : Error :=
  ⟨kind, message, kind.code, kind.status, []⟩

/-- The error for a failure that is no error of the service: only its message is told. -/
def unexpected (code message : String) : Error :=
  { ofClass .internal message with code := code }

/-- The members of a problem. -/
def problemDetails (p : Problem) : List (String × Json) :=
  match p.toJson with
  | .object members => members
  | _ => []

/-- The code of the errors that describe problems of a kind. -/
def problemCode (kind : ProblemKind) : String :=
  "unit." ++ Text.lowerString kind.name

/-- The error that describes a problem. -/
def ofProblem (p : Problem) : Error :=
  { ofClass (ErrorClass.ofKind p.kind) p.message with
    code := problemCode p.kind
    details := problemDetails p }

/-- The error that a failure is. An interruption is told in its own words, as far as it has any. -/
def ofFailure : Failure → Error
  | .problem p => ofProblem p
  | .interruption cause => unexpected "unit.internal" (cause.message?.getD "")

/-- The error that nothing has been published yet. -/
def notReady : Error :=
  { ofClass .unavailable Problem.notReady.message with
    code := "unit.not_initialized"
    details := problemDetails Problem.notReady }

/-- An error as a document value. -/
def toJson (e : Error) : Json :=
  .object [("code", .text e.code), ("message", .text e.message), ("details", .object e.details)]

end Error

/-- An answer of the service: a status and a document value. -/
structure Reply where
  status : Nat
  body : Json

namespace Reply

/-- The answer with data. -/
def success (data : Json) (status : Option Nat) : Reply :=
  ⟨status.getD 200, .object [("success", .bool true), ("data", data)]⟩

/-- A status, or another one if it is missing or zero. -/
def statusOr (status : Option Nat) (fallback : Nat) : Nat :=
  match status with
  | none => fallback
  | some s => if s = 0 then fallback else s

/-- The answer with the description of an error. -/
def described (error : Json) (status : Option Nat) : Reply :=
  ⟨statusOr status 400, .object [("success", .bool false), ("error", error)]⟩

/-- The answer with an error. -/
def failure (error : Error) (status : Option Nat) : Reply :=
  described error.toJson (some (statusOr status error.status))

end Reply

end UnitConversion.Service
