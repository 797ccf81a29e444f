import UnitConversion.Catalog.Description
import UnitConversion.Catalog.Unit
import UnitConversion.Failure

/-!
# Categories from documents

A category document becomes a category when it has the right shape, names the category that is
expected, has its base unit among its units, all its formulas can be read, and the base unit relates
to itself by the identity. The first of these that fails is the problem.

`Category.audit` tries the formulas of the units: going to the base unit and back must return the
number.
-/

namespace UnitConversion

namespace MeasurementUnit

/-- Reads a formula of the unit `key`; `label` names its direction. -/
def readFormula (key label formula : String) : Except Problem Formula :=
  (Formula.ofText formula).mapError fun fault =>
    Problem.configuration ("Invalid " ++ label ++ " transform for unit '" ++ key ++ "'")
      (some fault.message) []

/-- The value of a formula at one, as far as a double can show it. -/
def factorOf (f : Formula) : Option Decimal :=
  match f.evaluate (.ofNat 1) with
  | .error _ => none
  | .ok d =>
    let r := Binary64.ofDecimal d
    if r.isFinite then some r.toDecimal else none

/-- The rule and the factor of a described unit. -/
def ruleOf (key : String) : RuleDescription → Except Problem (Rule × Option Decimal)
  | .formulas texts factor => do
    let toBase ← readFormula key "toBase" texts.toBase
    let fromBase ← readFormula key "fromBase" texts.fromBase
    .ok (.formulas toBase fromBase, factor <|> factorOf toBase)
  | .factor factor => .ok (.factor factor, some factor)

/-- The unit that a description describes. -/
def ofDescription (key : String) (d : UnitDescription) : Except Problem MeasurementUnit := do
  let (rule, factor) ← ruleOf key d.rule
  .ok ⟨key, d.name, d.symbol, d.aliases, rule, factor, d.description, d.precision⟩

/-- The numbers at which formulas are compared with the identity. -/
def identitySamples : List Decimal :=
  [.finite false 1 0, .finite false 7 0, .finite false 25 (-2)]

/-- Whether a rule returns `x` in both directions, up to its digits. -/
def fixes (rule : Rule) (x : Decimal) : Bool :=
  match rule.toBase x, rule.fromBase x with
  | .ok a, .ok b => a.sameValue x && b.sameValue x
  | _, _ => false

/-- Whether a unit can be the base unit: its factor is one, or its formulas return some numbers
unchanged. -/
def isIdentity (unit : MeasurementUnit) : Bool :=
  match unit.rule with
  | .factor f => f.sameValue (.ofNat 1)
  | rule => identitySamples.all (fixes rule)

end MeasurementUnit

namespace Category

/-- The name that a document without the right shape is called by, which is whatever stands in the
place of the name. -/
def calledName (members : List (String × Json)) : Attempt String :=
  match members.lookup "category" with
  | some value => value.shown
  | none => .ok "<unknown>"

/-- The described category, if the members of a document have the right shape. -/
def describe (members : List (String × Json)) : Attempt CategoryDescription :=
  match CategoryDescription.check members with
  | .ok d => .ok d
  | .error findings => do
    let errors := findings.map Schema.Finding.describe
    let name ← calledName members
    throw (.problem (Problem.configuration ("Configuration validation failed for " ++ name)
      (some ("; ".intercalate errors)) errors))

/-- The problem with a document that is no object. -/
def notMapping : Problem :=
  Problem.configuration "Category document must be a mapping" none ["root: expected an object"]

/-- The description in a document. -/
def describeDocument : Json → Attempt CategoryDescription
  | .object members => describe members
  | _ => .error (.problem notMapping)

/-- The category of a description. -/
def ofOwnDescription (d : CategoryDescription) : Except Problem Category := do
  if !d.units.any (·.1 == d.baseUnit) then
    throw (Problem.configuration
      ("Base unit '" ++ d.baseUnit ++ "' not found in units for category " ++ d.category) none [])
  let units ← d.units.mapM fun u => MeasurementUnit.ofDescription u.1 u.2
  let category : Category := ⟨d.category, d.baseUnit, units, d.description⟩
  if !(category.unit? d.baseUnit).any MeasurementUnit.isIdentity then
    throw (Problem.configuration
      ("Base unit '" ++ d.baseUnit ++ "' of category " ++ d.category ++ " must normalise to itself")
      (some "Use factor 1 or an identity transform such as 'x'.") [])
  return category

/-- The category that a description describes, if it is the expected one. What is no text is the
name of no category. -/
def ofDescription (d : CategoryDescription) (expected : Json) : Attempt Category :=
  if expected.isText d.category then (ofOwnDescription d).mapError .problem
  else do
    let name ← expected.shown
    throw (.problem (Problem.configuration
      ("Category name mismatch: expected " ++ name ++ ", got " ++ d.category) none []))

/-- The category of a document, if it is the expected one. -/
def ofDocument (document expected : Json) : Attempt Category := do
  let d ← describeDocument document
  ofDescription d expected

/-- The numbers at which the formulas of a unit are tried. -/
def auditSamples : List Decimal :=
  [.finite false 1 0, .finite false 25 (-1), .finite false 10 0]

/-- How far a number may be from where it started, for each unit of its size. -/
def auditTolerance : Decimal :=
  .finite false 1 (-12)

/-- Whether `there` is farther from `sample` than the tolerance allows. -/
def strays (sample there : Decimal) : Except Signal Bool := do
  let difference ← Decimal.sub .ambient there sample
  let distance ← Decimal.abs .ambient difference
  let size ← Decimal.abs .ambient sample
  let size ← Decimal.greatest size [.ofNat 1]
  let allowed ← Decimal.mul .ambient auditTolerance size
  return Decimal.below allowed distance

/-- The wording of a missing value inside a finding. -/
def reasonText : Rule.NoValue → String
  | .formula reason => reason.message
  | .signal s => s.message

/-- What is wrong with a unit's formulas at a sample, if anything is. -/
def auditAt (category : Category) (unit : MeasurementUnit) (sample : Decimal) :
    Except Signal (Option String) := do
  let place := category.name ++ "/" ++ unit.key ++ ": "
  match (unit.rule.toBase sample).bind unit.rule.fromBase with
  | .error reason =>
    return some (place ++ "transform fails at x=" ++
      sample.toText ++ " (" ++ reasonText reason ++ ")")
  | .ok there =>
    if ← strays sample there then
      return some (place ++ "fromBase(toBase(" ++ sample.toText ++ ")) = " ++ there.toText
        ++ ", expected " ++ sample.toText)
    else return none

/-- The first thing that is wrong with a unit's formulas at some samples. -/
def firstFinding (category : Category) (unit : MeasurementUnit) :
    List Decimal → Except Signal (List String)
  | [] => .ok []
  | sample :: samples =>
    match auditAt category unit sample with
    | .error s => .error s
    | .ok (some finding) => .ok [finding]
    | .ok none => firstFinding category unit samples

/-- Reports the units whose formulas do not return a number that goes to the base unit and back. -/
def audit (category : Category) : Except Signal (List String) := do
  let findings ← (category.units.filter (·.rule.hasFormulas)).mapM
    fun unit => firstFinding category unit auditSamples
  return findings.flatten

/-- The verdict on a document: what is wrong with it, or what the audit of its category reports. -/
inductive Verdict where
  | invalid (errors : List String)
  | valid (warnings : List String)
  deriving DecidableEq

/-- The problem as one line. -/
def problemLine (p : Problem) : String :=
  match p.context with
  | some context => if context.isEmpty then p.message else p.message ++ ": " ++ context
  | none => p.message

/-- Checks a document by itself: the name that it gives is the one expected. -/
def validate (document : Json) : Except Interruption Verdict :=
  match describeDocument document with
  | .error (.problem p) =>
    .ok (.invalid (if p.suggestions.isEmpty then [p.message] else p.suggestions))
  | .error (.interruption cause) => .error cause
  | .ok d =>
    match ofDocument document (.text d.category) with
    | .error (.problem p) => .ok (.invalid [problemLine p])
    | .error (.interruption cause) => .error cause
    | .ok category => (category.audit.map .valid).mapError .signal

end Category

end UnitConversion
