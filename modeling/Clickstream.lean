import Clickstream.Bindings
import Clickstream.Calendar.Date
import Clickstream.Calendar.Epoch
import Clickstream.Calendar.IsoDate
import Clickstream.Calendar.Timestamp
import Clickstream.Calendar.Zone
import Clickstream.Calendar.ZoneRules
import Clickstream.Calendar.ZoneTable
import Clickstream.Cause
import Clickstream.Event.Basic
import Clickstream.Event.Cell
import Clickstream.Event.Meaning
import Clickstream.Event.Store
import Clickstream.Failure
import Clickstream.Filter.Reader
import Clickstream.Filter.Spec
import Clickstream.Filter.Strategy
import Clickstream.Json.Reader
import Clickstream.Json.Writer
import Clickstream.Log.Channel
import Clickstream.Log.Level
import Clickstream.Log.QueryLog
import Clickstream.Log.Record
import Clickstream.Log.Template
import Clickstream.Number.Binary64
import Clickstream.Number.Decimal
import Clickstream.Number.Fixed
import Clickstream.Number.Numeral
import Clickstream.Number.Shortest
import Clickstream.Number.Word
import Clickstream.Pattern.Like
import Clickstream.Pattern.Regex
import Clickstream.Pattern.RegexText
import Clickstream.Pattern.Wildcard
import Clickstream.Profile.Store
import Clickstream.Proofs.Calendar.Civil
import Clickstream.Proofs.Calendar.DateText
import Clickstream.Proofs.Calendar.Zone
import Clickstream.Proofs.Event.Meaning
import Clickstream.Proofs.Event.Sessions
import Clickstream.Proofs.Event.Store
import Clickstream.Proofs.Filter.Admission
import Clickstream.Proofs.Filter.Comparison
import Clickstream.Proofs.Filter.Composition
import Clickstream.Proofs.Filter.Conditions
import Clickstream.Proofs.Filter.Confinement
import Clickstream.Proofs.Filter.CoordinateText
import Clickstream.Proofs.Filter.Coordinates
import Clickstream.Proofs.Filter.Partition
import Clickstream.Proofs.Filter.Parts
import Clickstream.Proofs.Filter.Rearranged
import Clickstream.Proofs.Filter.Referrer
import Clickstream.Proofs.Filter.Refusal
import Clickstream.Proofs.Filter.Selection
import Clickstream.Proofs.Filter.UrlName
import Clickstream.Proofs.Filter.Values
import Clickstream.Proofs.Filter.WholeSessions
import Clickstream.Proofs.Filter.Wire
import Clickstream.Proofs.Json.Faults
import Clickstream.Proofs.Json.Number
import Clickstream.Proofs.Json.RoundTrip
import Clickstream.Proofs.Json.Text
import Clickstream.Proofs.Json.WellFormed
import Clickstream.Proofs.Log.OwnFields
import Clickstream.Proofs.Number.Decimal
import Clickstream.Proofs.Number.DecimalContext
import Clickstream.Proofs.Number.Digits
import Clickstream.Proofs.Number.Overflow
import Clickstream.Proofs.Number.Positional
import Clickstream.Proofs.Number.Rounding
import Clickstream.Proofs.Number.Shortest
import Clickstream.Proofs.Number.Spelling
import Clickstream.Proofs.Outcome
import Clickstream.Proofs.Pattern.Like
import Clickstream.Proofs.Pattern.Marker
import Clickstream.Proofs.Pattern.Matching
import Clickstream.Proofs.Pattern.PathGroup
import Clickstream.Proofs.Pattern.Wildcard
import Clickstream.Proofs.Profile.Commands
import Clickstream.Proofs.Profile.Store
import Clickstream.Proofs.Query.Binding
import Clickstream.Proofs.Query.Bindings
import Clickstream.Proofs.Query.Calls
import Clickstream.Proofs.Query.Fragment
import Clickstream.Proofs.Query.KeptCondition
import Clickstream.Proofs.Query.Merge
import Clickstream.Proofs.Query.Nodes
import Clickstream.Proofs.Query.Steps
import Clickstream.Proofs.Query.Union
import Clickstream.Proofs.QueryText.Condition
import Clickstream.Proofs.QueryText.Literal
import Clickstream.Proofs.QueryText.Operand
import Clickstream.Proofs.QueryText.Phrase
import Clickstream.Proofs.QueryText.Reading
import Clickstream.Proofs.Result.Coercion
import Clickstream.Proofs.Result.Normalize
import Clickstream.Proofs.Result.Number
import Clickstream.Proofs.Result.Traits
import Clickstream.Proofs.Service.Clause
import Clickstream.Proofs.Service.ClauseText
import Clickstream.Proofs.Service.Isolation
import Clickstream.Proofs.Service.Listing
import Clickstream.Proofs.Service.PageCounts
import Clickstream.Proofs.Service.Rearranged
import Clickstream.Proofs.Service.Report
import Clickstream.Proofs.Service.Traits
import Clickstream.Proofs.Service.UserLimit
import Clickstream.Proofs.Service.Values
import Clickstream.Proofs.Text.Ascii
import Clickstream.Proofs.Text.Blank
import Clickstream.Proofs.Text.Digits
import Clickstream.Proofs.TimeRange.Adjacent
import Clickstream.Proofs.TimeRange.DayText
import Clickstream.Proofs.TimeRange.Instant
import Clickstream.Proofs.TimeRange.Iterated
import Clickstream.Proofs.TimeRange.Nested
import Clickstream.Proofs.TimeRange.Previous
import Clickstream.Proofs.TimeRange.Reading
import Clickstream.Proofs.TimeRange.Refusal
import Clickstream.Proofs.TimeRange.Window
import Clickstream.Proofs.Value.Equality
import Clickstream.Query.Column
import Clickstream.Query.Expr
import Clickstream.Query.Fragment
import Clickstream.Query.Literal
import Clickstream.Query.Renderer
import Clickstream.Result.Normalize
import Clickstream.Result.Number
import Clickstream.Result.Traits
import Clickstream.Service.Basic
import Clickstream.Service.Clause
import Clickstream.Service.Report
import Clickstream.Service.Stores
import Clickstream.Settings.Basic
import Clickstream.Text.Blank
import Clickstream.Text.Digit
import Clickstream.Text.Encoding
import Clickstream.Text.Printable
import Clickstream.Text.Quoted
import Clickstream.Text.Upper
import Clickstream.TimeRange.Previous
import Clickstream.TimeRange.Resolved
import Clickstream.TimeRange.Spec
import Clickstream.TimeRange.Window
import Clickstream.Value.Arithmetic
import Clickstream.Value.Basic
import Clickstream.Value.Display
import Clickstream.Value.Equality
import Clickstream.Value.Integer
import Clickstream.Yaml.Block
import Clickstream.Yaml.Flow
import Clickstream.Yaml.Quoted
import Clickstream.Yaml.Scalar
