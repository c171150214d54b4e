import PriceSurvey.Alias.Lookup
import PriceSurvey.Alias.Resolution
import PriceSurvey.Amount.Finding
import PriceSurvey.Amount.Numeral
import PriceSurvey.Amount.Spacing
import PriceSurvey.Amount.Value
import PriceSurvey.Decimal.Arithmetic
import PriceSurvey.Decimal.Basic
import PriceSurvey.Decimal.Binary
import PriceSurvey.Decimal.BinaryReading
import PriceSurvey.Decimal.Integer
import PriceSurvey.Decimal.Stored
import PriceSurvey.Decimal.Written
import PriceSurvey.Fault
import PriceSurvey.Index
import PriceSurvey.Json.Decode
import PriceSurvey.Json.Line
import PriceSurvey.Json.Offer
import PriceSurvey.Json.Settings
import PriceSurvey.Json.Text
import PriceSurvey.Json.UnitRule
import PriceSurvey.Json.Value
import PriceSurvey.Line.Batch
import PriceSurvey.Line.Logical
import PriceSurvey.Line.Reading
import PriceSurvey.Line.Record
import PriceSurvey.Line.Recording
import PriceSurvey.Line.Shape
import PriceSurvey.Log.Entry
import PriceSurvey.Log.Filter
import PriceSurvey.Log.Setup
import PriceSurvey.Offer.Assessing
import PriceSurvey.Offer.LimitCache
import PriceSurvey.Offer.Record
import PriceSurvey.Proofs.Alias.Independence
import PriceSurvey.Proofs.Alias.Lookup
import PriceSurvey.Proofs.Alias.Order
import PriceSurvey.Proofs.Amount.Finding
import PriceSurvey.Proofs.Amount.Fragment
import PriceSurvey.Proofs.Amount.Joining
import PriceSurvey.Proofs.Amount.Layout
import PriceSurvey.Proofs.Amount.Notation
import PriceSurvey.Proofs.Amount.Parting
import PriceSurvey.Proofs.Amount.Runs
import PriceSurvey.Proofs.Amount.Segmentation
import PriceSurvey.Proofs.Amount.Series
import PriceSurvey.Proofs.Amount.Span
import PriceSurvey.Proofs.Amount.Tiling
import PriceSurvey.Proofs.Amount.Value
import PriceSurvey.Proofs.Amount.Written
import PriceSurvey.Proofs.Decimal.Number
import PriceSurvey.Proofs.Decimal.Quotient
import PriceSurvey.Proofs.Decimal.Reading
import PriceSurvey.Proofs.Decimal.Rounding
import PriceSurvey.Proofs.Decimal.Significant
import PriceSurvey.Proofs.Decimal.Written
import PriceSurvey.Proofs.Distinct
import PriceSurvey.Proofs.Json.Reader
import PriceSurvey.Proofs.Json.RoundTrip
import PriceSurvey.Proofs.Line.Batch
import PriceSurvey.Proofs.Line.Border
import PriceSurvey.Proofs.Line.Grouping
import PriceSurvey.Proofs.Line.Merging
import PriceSurvey.Proofs.Line.Shortfall
import PriceSurvey.Proofs.Line.Single
import PriceSurvey.Proofs.Line.Splitting
import PriceSurvey.Proofs.Line.Status
import PriceSurvey.Proofs.Line.Unit
import PriceSurvey.Proofs.Line.Written
import PriceSurvey.Proofs.Offer.Alike
import PriceSurvey.Proofs.Offer.Assessed
import PriceSurvey.Proofs.Offer.Batch
import PriceSurvey.Proofs.Offer.FixedLimits
import PriceSurvey.Proofs.Offer.Independence
import PriceSurvey.Proofs.Offer.LimitCalls
import PriceSurvey.Proofs.Offer.Limits
import PriceSurvey.Proofs.Offer.Printed
import PriceSurvey.Proofs.Offer.Standing
import PriceSurvey.Proofs.Offer.Verdict
import PriceSurvey.Proofs.Offer.Visits
import PriceSurvey.Proofs.Request.Alike
import PriceSurvey.Proofs.Request.Exchange
import PriceSurvey.Proofs.Request.Run
import PriceSurvey.Proofs.Settings.Entries
import PriceSurvey.Proofs.Settings.Layers
import PriceSurvey.Proofs.Settings.Overlay
import PriceSurvey.Proofs.Settings.Sources
import PriceSurvey.Proofs.Sql.Insertion
import PriceSurvey.Proofs.Sql.Ledger
import PriceSurvey.Proofs.Sql.Plan
import PriceSurvey.Proofs.Survey.Evidence
import PriceSurvey.Proofs.Survey.Refinement
import PriceSurvey.Proofs.Survey.Transaction
import PriceSurvey.Proofs.Text.Class
import PriceSurvey.Proofs.Text.Decomposition
import PriceSurvey.Proofs.Text.Fold
import PriceSurvey.Proofs.Text.Joined
import PriceSurvey.Proofs.Text.Trim
import PriceSurvey.Proofs.Text.Words
import PriceSurvey.Request.Action
import PriceSurvey.Request.Basic
import PriceSurvey.Request.Memory
import PriceSurvey.Settings.Basic
import PriceSurvey.Settings.Conversion
import PriceSurvey.Settings.Date
import PriceSurvey.Settings.Layers
import PriceSurvey.Settings.Path
import PriceSurvey.Settings.Toml
import PriceSurvey.Settings.Value
import PriceSurvey.Sql.Address
import PriceSurvey.Sql.Connection
import PriceSurvey.Sql.Statement
import PriceSurvey.Survey
import PriceSurvey.Text.Class
import PriceSurvey.Text.Decomposition
import PriceSurvey.Text.Fold
import PriceSurvey.Text.Lowercase
import PriceSurvey.Text.Quoted
import PriceSurvey.Text.Ranges
import PriceSurvey.Text.Table.Accent
import PriceSurvey.Text.Table.Case
import PriceSurvey.Text.Table.Class
import PriceSurvey.Text.Table.DecompositionEast
import PriceSurvey.Text.Table.DecompositionForm
import PriceSurvey.Text.Table.DecompositionGeneral
import PriceSurvey.Text.Table.DecompositionIdeograph
import PriceSurvey.Text.Table.DecompositionLatin
import PriceSurvey.Text.Table.Digit
import PriceSurvey.Text.Table.Hidden
import PriceSurvey.Text.Table.Mark
import PriceSurvey.Text.Table.Sign
import PriceSurvey.Text.Table.Styled
import PriceSurvey.Text.Table.Word
import PriceSurvey.Text.Trim
import PriceSurvey.UnitRule
