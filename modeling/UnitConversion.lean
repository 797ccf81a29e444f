import UnitConversion.Association
import UnitConversion.Binary64.Basic
import UnitConversion.Binary64.Shortest
import UnitConversion.Binary64.Text
import UnitConversion.Catalog.AliasIndex
import UnitConversion.Catalog.Bundled
import UnitConversion.Catalog.Category
import UnitConversion.Catalog.Description
import UnitConversion.Catalog.Directory
import UnitConversion.Catalog.Library
import UnitConversion.Catalog.Loading
import UnitConversion.Catalog.Registry
import UnitConversion.Catalog.Unit
import UnitConversion.CommandLine.Arguments
import UnitConversion.CommandLine.Commands
import UnitConversion.Conversion.Basic
import UnitConversion.Conversion.Document
import UnitConversion.Conversion.Format
import UnitConversion.Decimal.Arithmetic
import UnitConversion.Decimal.Basic
import UnitConversion.Decimal.Context
import UnitConversion.Decimal.Exponential
import UnitConversion.Decimal.Layout
import UnitConversion.Decimal.Power
import UnitConversion.Decimal.Root
import UnitConversion.Decimal.Text
import UnitConversion.Failure
import UnitConversion.Formula.Application
import UnitConversion.Formula.Basic
import UnitConversion.Formula.Expr
import UnitConversion.Formula.Grammar
import UnitConversion.Formula.Token
import UnitConversion.Json.Basic
import UnitConversion.Json.Printer
import UnitConversion.Json.Reader
import UnitConversion.Main
import UnitConversion.Path
import UnitConversion.Problem
import UnitConversion.Request.Check
import UnitConversion.Request.Line
import UnitConversion.Request.Numeral
import UnitConversion.Rounding
import UnitConversion.Schema
import UnitConversion.Schema.Integer
import UnitConversion.Service.Address
import UnitConversion.Service.Authority
import UnitConversion.Service.Call
import UnitConversion.Service.Error
import UnitConversion.Service.Payload
import UnitConversion.Service.Response
import UnitConversion.Service.Route
import UnitConversion.Service.Site
import UnitConversion.Service.Target
import UnitConversion.Session
import UnitConversion.Settings
import UnitConversion.Suggestion.EditDistance
import UnitConversion.Suggestion.Similar
import UnitConversion.Text.CaseTable
import UnitConversion.Text.Character
import UnitConversion.Text.Encoding
import UnitConversion.Text.InvisibleTable
import UnitConversion.Text.LowerCase
import UnitConversion.Text.Percent
import UnitConversion.Text.Quoted
import UnitConversion.Text.Surrogate
import UnitConversion.Text.Trim
import UnitConversion.Text.Utf8
import UnitConversion.Text.WordTable
import UnitConversion.UnitText
import UnitConversion.Proofs.Decimal.Digits
import UnitConversion.Proofs.Publication
import UnitConversion.Proofs.Decimal.Rounding
import UnitConversion.Proofs.Decimal.Context
import UnitConversion.Proofs.Decimal.Arithmetic
import UnitConversion.Proofs.Formula.Soundness
import UnitConversion.Proofs.Request.Numeral
import UnitConversion.Proofs.Request.Division
import UnitConversion.Proofs.Request.Value
import UnitConversion.Proofs.Request.Shortest
import UnitConversion.Proofs.Request.Alphabet
import UnitConversion.Proofs.Request.Settling
import UnitConversion.Proofs.Words
import UnitConversion.Proofs.Request.Restatement
import UnitConversion.Proofs.Request.Resolution
import UnitConversion.Proofs.Catalog.Spelling
import UnitConversion.Proofs.Binary64.Nearest
import UnitConversion.Proofs.Conversion.Range
import UnitConversion.Proofs.Decimal.Order
import UnitConversion.Proofs.Conversion.Format
import UnitConversion.Proofs.Decimal.Relative
import UnitConversion.Proofs.Formula.Monomial
import UnitConversion.Proofs.Catalog.Proportional
import UnitConversion.Proofs.Formula.Affine
import UnitConversion.Proofs.Catalog.Temperature
import UnitConversion.Proofs.Catalog.Audit
import UnitConversion.Proofs.Catalog.Document
import UnitConversion.Proofs.Catalog.Directory
import UnitConversion.Proofs.Catalog.Naming
import UnitConversion.Proofs.Catalog.Page
import UnitConversion.Proofs.Catalog.Loading
import UnitConversion.Proofs.Catalog.Bundled
import UnitConversion.Proofs.Conversion.RoundTrip
import UnitConversion.Proofs.UnitText
import UnitConversion.Proofs.Catalog.Category
import UnitConversion.Proofs.Catalog.Registry
import UnitConversion.Proofs.Catalog.BaseUnit
import UnitConversion.Proofs.Conversion.Course
import UnitConversion.Proofs.Conversion.Validation
import UnitConversion.Proofs.Conversion.Lines
import UnitConversion.Proofs.Conversion.Loaded
import UnitConversion.Proofs.Binary64.Order
import UnitConversion.Proofs.Settings
import UnitConversion.Proofs.Association
import UnitConversion.Proofs.CommandLine.Check
import UnitConversion.Proofs.Conversion.Shape
import UnitConversion.Proofs.Service.Conversion
import UnitConversion.Proofs.Service.Strictness
import UnitConversion.Proofs.Service.Site
import UnitConversion.Proofs.Decimal.Alike
import UnitConversion.Proofs.Decimal.Writing
import UnitConversion.Proofs.Decimal.Power
import UnitConversion.Proofs.Formula.Alike
import UnitConversion.Proofs.Conversion.Alike
import UnitConversion.Proofs.Conversion.Detour
import UnitConversion.Proofs.Formula.Exact
import UnitConversion.Proofs.Catalog.Factor
import UnitConversion.Proofs.Conversion.Writing
import UnitConversion.Proofs.Conversion.Ratio
import UnitConversion.Proofs.Decimal.Finite
import UnitConversion.Proofs.Formula.Grammar
import UnitConversion.Proofs.Decimal.Reading
import UnitConversion.Proofs.Decimal.Printing
import UnitConversion.Proofs.Formula.Literal
import UnitConversion.Proofs.Formula.Finite
import UnitConversion.Proofs.Formula.Printing
import UnitConversion.Proofs.Formula.Scanning
import UnitConversion.Proofs.Formula.Reading
import UnitConversion.Proofs.Formula.RoundTrip
import UnitConversion.Proofs.Decimal.Layout
import UnitConversion.Proofs.Conversion.Notation
import UnitConversion.Proofs.Conversion.Sign
import UnitConversion.Proofs.Catalog.Index
import UnitConversion.Proofs.Catalog.Blank
import UnitConversion.Proofs.Conversion.Accuracy
import UnitConversion.Proofs.Conversion.Joining
import UnitConversion.Proofs.Suggestion.EditDistance
import UnitConversion.Proofs.Suggestion.Similar
import UnitConversion.Proofs.Catalog.Verdict
