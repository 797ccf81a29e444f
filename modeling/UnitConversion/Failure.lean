import UnitConversion.Decimal.Context
import UnitConversion.Json.Basic
import UnitConversion.Path
import UnitConversion.Problem

/-!
# Failures

A computation that does not return a value either describes a problem to the user or is interrupted
by a condition that nobody described.

`Json.shown` is the text of a value inside a message. It can be missing: a whole number of more than
`Json.longestInteger` digits is not written. Neither is a value that is nested deeper than the stack
has room for; how deep that is depends on the machine and on who asks, and no such value is taken
into account here.
-/

namespace UnitConversion

/-- A condition that ends a computation without a description. -/
inductive Interruption where
  /-- A decimal operation raised a signal. -/
  | signal (signal : Signal)
  /-- A path does not lead to what is wanted. -/
  | obstacle (obstacle : Path.Obstacle)
  /-- Bytes are not the encoding of a text. -/
  | undecodable
  /-- A whole number has too many digits to be read or written. -/
  | longInteger
  /-- Values are nested too deeply. -/
  | nested
  /-- A value of another kind was needed. -/
  | wrongKind
  /-- A value has no such part. -/
  | missingPart
  /-- A number is too large for the kind it is turned into. -/
  | tooLarge
  /-- Nothing is kept under a key. -/
  | missingKey (key : String)
  deriving DecidableEq

/-- Why a computation returned no value. -/
inductive Failure where
  | problem (problem : Problem)
  | interruption (cause : Interruption)
  deriving DecidableEq

/-- A computation whose failures are described or interrupted. -/
abbrev Attempt (α : Type) := Except Failure α

/-- A computation that has no problems to describe, as an attempt. -/
def Attempt.ofInterrupted {α : Type} : Except Interruption α → Attempt α
  | .ok a => .ok a
  | .error cause => .error (.interruption cause)

/-- A path that is followed, as an attempt. -/
def Attempt.ofPath {α : Type} : Except Path.Obstacle α → Attempt α
  | .ok a => .ok a
  | .error obstacle => .error (.interruption (.obstacle obstacle))

@[simp] theorem Attempt.ofInterrupted_eq_ok_iff {α : Type}
    {result : Except Interruption α} {a : α} :
    Attempt.ofInterrupted result = .ok a ↔ result = .ok a := by
  cases result <;> simp [Attempt.ofInterrupted]

@[simp] theorem Attempt.ofInterrupted_ne_problem {α : Type} (result : Except Interruption α)
    (p : Problem) :
    Attempt.ofInterrupted result ≠ .error (.problem p) := by
  cases result <;> simp [Attempt.ofInterrupted]

/-- The name of a signal inside a message. -/
def Signal.className : Signal → String
  | invalidOperation => "decimal.InvalidOperation"
  | divisionByZero => "decimal.DivisionByZero"
  | overflow => "decimal.Overflow"
  | underflow => "decimal.Underflow"

/-- The wording of a signal that nobody described. -/
def Signal.message (s : Signal) : String :=
  "[<class '" ++ s.className ++ "'>]"

/-- The wording of an interruption that ends in a message, as far as any does. -/
def Interruption.message? : Interruption → Option String
  | signal s => some s.message
  | longInteger =>
    some ("Exceeds the limit (" ++ toString Json.longestInteger ++
      " digits) for integer string conversion; "
      ++ "use sys.set_int_max_str_digits() to increase the limit")
  | missingKey key => some (Text.quoted key)
  | _ => none

/-- The text of a value inside a message. A whole number with too many digits cannot be written. -/
def Json.shown (value : Json) : Attempt String :=
  if value.hasLongInteger then .error (.interruption .longInteger) else .ok value.inline

theorem Json.shown_eq_ok_iff {value : Json} {text : String} :
    value.shown = .ok text ↔ value.hasLongInteger = false ∧ value.inline = text := by
  unfold shown
  cases value.hasLongInteger <;> simp

theorem Json.shown_eq_error_iff {value : Json} {failure : Failure} :
    value.shown = .error failure ↔ value.hasLongInteger = true ∧
    failure = .interruption .longInteger := by
  unfold shown
  cases value.hasLongInteger <;> simp [eq_comm]

@[simp] theorem Json.shown_text (s : String) : (Json.text s).shown = .ok s := rfl

end UnitConversion
