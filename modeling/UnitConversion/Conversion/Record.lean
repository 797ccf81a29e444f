import UnitConversion.Conversion.Outcome
import UnitConversion.Text.Quoted
import UnitConversion.Text.Trim

/-!
# Records of conversions

What is remembered of a conversion, with the time at which it was made. Only an outcome with a
result has a record.
-/

namespace UnitConversion

/-- A point in time, in the world's common time. -/
structure Instant where
  year : Nat
  month : Nat
  day : Nat
  hour : Nat
  minute : Nat
  second : Nat
  microsecond : Nat
  deriving DecidableEq

namespace Instant

/-- `n` with zeros in front up to `width` digits. -/
def padded (width n : Nat) : String :=
  let ds := Nat.toDigits 10 n
  String.ofList (List.replicate (width - ds.length) '0' ++ ds)

/-- The date, the time of day and the distance from the common time. Microseconds are left out if
there are none. -/
def toText (t : Instant) : String :=
  let date := padded 4 t.year ++ "-" ++ padded 2 t.month ++ "-" ++ padded 2 t.day
  let clock := padded 2 t.hour ++ ":" ++ padded 2 t.minute ++ ":" ++ padded 2 t.second
  let fraction := if t.microsecond = 0 then "" else "." ++ padded 6 t.microsecond
  date ++ "T" ++ clock ++ fraction ++ "+00:00"

end Instant

namespace Conversion

/-- What is remembered of a conversion. -/
structure Record where
  input : String
  output : String
  source : String
  target : String
  value : Binary64
  result : Binary64
  time : Instant
  deriving DecidableEq

/-- The record of an outcome that a text asked for, if it has a result and a number that the result
is for. -/
def recordOf? (time : Instant) (outcome : Outcome) (text : String) : Option Record :=
  if !outcome.isSuccess then none
  else match outcome.value, outcome.input with
    | some result, some input =>
      some {
        input := Text.trim text
        output := outcome.formatted.getD "None" ++ " " ++ outcome.target.getD "None"
        source := outcome.source.getD ""
        target := outcome.target.getD ""
        value := .ofDecimal input
        result := result
        time := time }
    | _, _ => none

end Conversion

end UnitConversion
