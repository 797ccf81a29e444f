import UnitConversion.Binary64.Basic
import UnitConversion.Catalog.AliasIndex
import UnitConversion.Problem

/-!
# Outcomes

What becomes of a request is one record with all the parts that any of them can have: those of a
conversion, the problem with the request, and a mark for a line without one. A part that is of no
use in an outcome is missing.

* `Outcome.success`, `Outcome.failure`, `Outcome.blank`: the outcomes that are made.
* `Conversion.summarize`: how many of some outcomes there are of each kind.
-/

namespace UnitConversion

/-- A conversion that was made. -/
structure Conversion where
  input : Decimal
  exact : Decimal
  formatted : String
  source : String
  target : String
  sourceKey : String
  targetKey : String
  category : String
  deriving DecidableEq

namespace Conversion

/-- The unit that the number was given in. -/
def sourceRef (c : Conversion) : UnitRef := ⟨c.category, c.sourceKey⟩

/-- The unit that the number was asked for in. -/
def targetRef (c : Conversion) : UnitRef := ⟨c.category, c.targetKey⟩

end Conversion

/-- What becomes of one request. -/
structure Outcome where
  isSuccess : Bool
  /-- The result as a double. -/
  value : Option Binary64
  /-- The result with all its digits. -/
  exact : Option Decimal
  formatted : Option String
  input : Option Decimal
  source : Option String
  target : Option String
  sourceKey : Option String
  targetKey : Option String
  category : Option String
  error : Option Problem
  /-- There was no request on the line. -/
  isBlank : Bool
  deriving DecidableEq

namespace Outcome

/-- The outcome of a conversion that was made. -/
def success (c : Conversion) : Outcome where
  isSuccess := true
  value := some (.ofDecimal c.exact)
  exact := some c.exact
  formatted := some c.formatted
  input := some c.input
  source := some c.source
  target := some c.target
  sourceKey := some c.sourceKey
  targetKey := some c.targetKey
  category := some c.category
  error := none
  isBlank := false

/-- The outcome that has nothing but an error or a mark. -/
def withoutResult (error : Option Problem) (isBlank : Bool) : Outcome :=
  ⟨false, none, none, none, none, none, none, none, none, none, error, isBlank⟩

/-- The outcome of a request that cannot be met. -/
def failure (p : Problem) : Outcome :=
  withoutResult (some p) false

/-- The outcome of a line without a request. -/
def blank : Outcome :=
  withoutResult none true

@[simp] theorem success_inj {c c' : Conversion} : success c = success c' ↔ c = c' := by
  cases c
  cases c'
  simp only [success, Outcome.mk.injEq, Option.some.injEq, Conversion.mk.injEq]
  grind

@[simp] theorem failure_inj {p q : Problem} : failure p = failure q ↔ p = q := by
  simp [failure, withoutResult]

@[simp] theorem success_ne_failure (c : Conversion) (p : Problem) : success c ≠ failure p := by
  simp [success, failure, withoutResult]

@[simp] theorem failure_ne_success (p : Problem) (c : Conversion) : failure p ≠ success c :=
  (success_ne_failure c p).symm

@[simp] theorem success_ne_blank (c : Conversion) : success c ≠ blank := by
  simp [success, blank, withoutResult]

@[simp] theorem blank_ne_success (c : Conversion) : blank ≠ success c :=
  (success_ne_blank c).symm

@[simp] theorem failure_ne_blank (p : Problem) : failure p ≠ blank := by
  simp [failure, blank, withoutResult]

@[simp] theorem blank_ne_failure (p : Problem) : blank ≠ failure p :=
  (failure_ne_blank p).symm

end Outcome

namespace Conversion

/-- How many requests of a text were met, were not, or were missing. -/
structure Summary where
  total : Nat
  converted : Nat
  failed : Nat
  empty : Nat
  deriving DecidableEq

/-- Counts the outcomes of each kind. What is marked as blank counts as nothing else. -/
def summarize (outcomes : List Outcome) : Summary where
  total := outcomes.length
  converted := outcomes.countP fun o => !o.isBlank && o.isSuccess
  failed := outcomes.countP fun o => !o.isBlank && !o.isSuccess
  empty := outcomes.countP (·.isBlank)

end Conversion

end UnitConversion
