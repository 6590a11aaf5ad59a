import Remedy.Action
import Remedy.Analysis
import Remedy.Autonomy
import Remedy.Catalog.Category
import Remedy.Catalog.Code
import Remedy.Catalog.Rule
import Remedy.Category
import Remedy.Command.Analyze
import Remedy.Command.Apply
import Remedy.Command.Arguments
import Remedy.Command.Configure
import Remedy.Command.Error
import Remedy.Command.Inspect
import Remedy.Command.Learn
import Remedy.Command.Plan
import Remedy.Command.Run
import Remedy.Command.Suggest
import Remedy.Command.Task
import Remedy.Config.Basic
import Remedy.Config.Layers
import Remedy.Config.Load
import Remedy.Config.Loose
import Remedy.Config.Variables
import Remedy.Console.Line
import Remedy.Decimal.Binary
import Remedy.Decimal.Layout
import Remedy.Decimal.Shortest
import Remedy.Diagnostic.Basic
import Remedy.Diagnostic.Classify
import Remedy.Edit.Buffer
import Remedy.Edit.Difference
import Remedy.Edit.Span
import Remedy.Engine
import Remedy.Error
import Remedy.Feedback
import Remedy.Files.Disk
import Remedy.Files.Editor
import Remedy.Files.Memory
import Remedy.Files.Tree
import Remedy.Fix.Apply
import Remedy.Fix.Basic
import Remedy.Fix.Bracket
import Remedy.Fix.Condition
import Remedy.Fix.State
import Remedy.Grade
import Remedy.Instant
import Remedy.Json.Basic
import Remedy.Json.Decode
import Remedy.Json.Number
import Remedy.Json.Printer
import Remedy.Json.Reader
import Remedy.Knowledge.Blend
import Remedy.Knowledge.Document
import Remedy.Knowledge.Entry
import Remedy.Knowledge.File
import Remedy.Knowledge.Learn
import Remedy.Knowledge.Memory
import Remedy.Knowledge.Statistics
import Remedy.Knowledge.Store
import Remedy.Knowledge.Table
import Remedy.Lock
import Remedy.Main
import Remedy.Path
import Remedy.Pattern.CharClass
import Remedy.Pattern.Cursor
import Remedy.Pattern.Node
import Remedy.Pattern.Program
import Remedy.Pattern.Reader
import Remedy.Pattern.Run
import Remedy.Pattern.Template
import Remedy.Proofs.Action.Match
import Remedy.Proofs.Action.Run
import Remedy.Proofs.Action.Stay
import Remedy.Proofs.Analysis
import Remedy.Proofs.Binary64.Arithmetic
import Remedy.Proofs.Binary64.Float
import Remedy.Proofs.Binary64.Nearest
import Remedy.Proofs.Binary64.Order
import Remedy.Proofs.Binary64.Packing
import Remedy.Proofs.Binary64.Rounding
import Remedy.Proofs.Binary64.Total
import Remedy.Proofs.Command.Account
import Remedy.Proofs.Command.Apply
import Remedy.Proofs.Command.Plan
import Remedy.Proofs.Diagnostic.Classify
import Remedy.Proofs.Edit.Batch
import Remedy.Proofs.Edit.Buffer
import Remedy.Proofs.Edit.Difference
import Remedy.Proofs.Edit.Place
import Remedy.Proofs.Edit.Splice
import Remedy.Proofs.Engine.Frame
import Remedy.Proofs.Engine.Keys
import Remedy.Proofs.Engine.Mirror
import Remedy.Proofs.Engine.Preview
import Remedy.Proofs.Files.Disk
import Remedy.Proofs.Files.Memory
import Remedy.Proofs.Files.Tree
import Remedy.Proofs.Files.View
import Remedy.Proofs.Fix.Bracket
import Remedy.Proofs.Fix.Commit
import Remedy.Proofs.Fix.Condition
import Remedy.Proofs.Fix.Confidence
import Remedy.Proofs.Fix.Import
import Remedy.Proofs.Fix.Preview
import Remedy.Proofs.Fix.Settled
import Remedy.Proofs.Fix.Success
import Remedy.Proofs.Fix.Trail
import Remedy.Proofs.Json.Number
import Remedy.Proofs.Json.Printer
import Remedy.Proofs.Json.Reader
import Remedy.Proofs.Knowledge.Accounts
import Remedy.Proofs.Knowledge.Calls
import Remedy.Proofs.Knowledge.Confidence
import Remedy.Proofs.Knowledge.Contention
import Remedy.Proofs.Knowledge.Document
import Remedy.Proofs.Knowledge.Exact
import Remedy.Proofs.Knowledge.File
import Remedy.Proofs.Knowledge.Handles
import Remedy.Proofs.Knowledge.Lawful
import Remedy.Proofs.Knowledge.Learn
import Remedy.Proofs.Knowledge.Learner
import Remedy.Proofs.Knowledge.Refused
import Remedy.Proofs.Knowledge.Reports
import Remedy.Proofs.Knowledge.RoundTrip
import Remedy.Proofs.Knowledge.Sharing
import Remedy.Proofs.Knowledge.Statistics
import Remedy.Proofs.Knowledge.Table
import Remedy.Proofs.Knowledge.Taught
import Remedy.Proofs.Knowledge.Works
import Remedy.Proofs.Path
import Remedy.Proofs.Proportion
import Remedy.Proofs.Report.Detect
import Remedy.Proofs.Report.Document
import Remedy.Proofs.Report.Headline
import Remedy.Proofs.Report.Listing
import Remedy.Proofs.Report.Parts
import Remedy.Proofs.Report.Valid
import Remedy.Proofs.Rule.Book
import Remedy.Proofs.Rule.Checkable
import Remedy.Proofs.Rule.Edit
import Remedy.Proofs.Rule.Effect
import Remedy.Proofs.Rule.Load
import Remedy.Proofs.Sorting
import Remedy.Proofs.Suggest.Automatic
import Remedy.Proofs.Suggest.Complete
import Remedy.Proofs.Suggest.Composition
import Remedy.Proofs.Suggest.Helpful
import Remedy.Proofs.Suggest.History
import Remedy.Proofs.Suggest.Names
import Remedy.Proofs.Suggest.Origin
import Remedy.Proofs.Suggest.Ranking
import Remedy.Proofs.Suggest.Reading
import Remedy.Proofs.Suggest.Source
import Remedy.Proofs.Text.Basic
import Remedy.Proofs.Text.Bytes
import Remedy.Proofs.Text.Digits
import Remedy.Record.Diagnostic
import Remedy.Record.Fix
import Remedy.Record.Knowledge
import Remedy.Record.Outcome
import Remedy.Record.Resolution
import Remedy.Record.Rule
import Remedy.Record.Suggestion
import Remedy.Record.Word
import Remedy.Report.Format
import Remedy.Report.Headline
import Remedy.Report.Listing
import Remedy.Report.Source
import Remedy.Resolution
import Remedy.Rule.Basic
import Remedy.Rule.Book
import Remedy.Rule.Edit
import Remedy.Rule.Load
import Remedy.Rule.Pack
import Remedy.Scalar
import Remedy.Severity
import Remedy.Signature
import Remedy.Suggest
import Remedy.Suggestion
import Remedy.Text.Alphanumeric
import Remedy.Text.Basic
import Remedy.Text.Bytes
import Remedy.Text.Escaped
import Remedy.Text.Hex
import Remedy.Text.Ranges
import Remedy.Toml.Basic
import Remedy.Toml.Draft
import Remedy.Toml.Printer
import Remedy.Toml.Reader
import Remedy.Toml.Scalar
import Remedy.Toml.Text
import Remedy.Unicode.Category
import Remedy.Unicode.Folding
import Remedy.Unicode.Lookup
import Remedy.Unicode.Property
import Remedy.Unicode.Script
import Remedy.Usage.Grammar
import Remedy.Usage.Reader
import Remedy.Words
