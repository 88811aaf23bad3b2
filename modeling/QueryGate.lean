import QueryGate.Text.Numeric
import QueryGate.Text.WhiteSpace
import QueryGate.Regex.Script
import QueryGate.Regex.BinaryProperty
import QueryGate.Regex.CaseOrbit
import QueryGate.Decimal.Binary
import QueryGate.Decimal.Shortest
import QueryGate.Json.Writer
import QueryGate.Json.Reader
import QueryGate.Json.Cursor
import QueryGate.Ebnf.Source
import QueryGate.Regex.Build
import QueryGate.Grammar.Shipped
import QueryGate.Grammar.Scan
import QueryGate.Validation
import QueryGate.Statement.Normalize
import QueryGate.Schema
import QueryGate.CodeFence
import QueryGate.Prompt
import QueryGate.Failure
import QueryGate.LogFilter
import QueryGate.Settings.Basic
import QueryGate.Settings.Environment
import QueryGate.RequestLog.Basic
import QueryGate.Grammar.Catalog
import QueryGate.Eval.Suite
import QueryGate.Eval.Report
import QueryGate.Server
import QueryGate.Client.Model
import QueryGate.Client.Tinybird
import QueryGate.Command.Run
import QueryGate.Main
import QueryGate.Proofs.Statement.Comments
import QueryGate.Proofs.Statement.Directives
import QueryGate.Proofs.Statement.NormalForm
import QueryGate.Proofs.Catalog.History
import QueryGate.Proofs.Chart.Charted
import QueryGate.Proofs.Chart.Columns
import QueryGate.Proofs.Chart.Diagnostics
import QueryGate.Proofs.Chart.Moved
import QueryGate.Proofs.Chart.Range
import QueryGate.Proofs.Chart.Recognizer
import QueryGate.Proofs.Ebnf.Equality
import QueryGate.Proofs.Ebnf.Rows
import QueryGate.Proofs.Ebnf.Stops
import QueryGate.Proofs.Eval.Verdicts
import QueryGate.Proofs.Generation.Extraction
import QueryGate.Proofs.Generation.Fences
import QueryGate.Proofs.Grammar.Bindings
import QueryGate.Proofs.Grammar.Boundaries
import QueryGate.Proofs.Grammar.Brackets
import QueryGate.Proofs.Grammar.Compiled
import QueryGate.Proofs.Grammar.Direct
import QueryGate.Proofs.Grammar.Faithful
import QueryGate.Proofs.Grammar.Leaves
import QueryGate.Proofs.Grammar.Owners
import QueryGate.Proofs.Grammar.Productive
import QueryGate.Proofs.Grammar.Readings
import QueryGate.Proofs.Grammar.Search
import QueryGate.Proofs.Grammar.Tokens
import QueryGate.Proofs.Regex.Alphabet
import QueryGate.Proofs.Regex.ClassSize
import QueryGate.Proofs.Request.Interleaved
import QueryGate.Proofs.Request.Log
import QueryGate.Proofs.Request.Runs
import QueryGate.Proofs.Statement.Answers
import QueryGate.Proofs.Statement.Noise
import QueryGate.Proofs.Statement.Quotations
import QueryGate.Proofs.Server.Routes
import QueryGate.Proofs.Shipped.Checked
import QueryGate.Proofs.Shipped.Clauses
import QueryGate.Proofs.Shipped.Normalized
import QueryGate.Proofs.Shipped.Shape
import QueryGate.Proofs.Execution.Bodies
import QueryGate.Proofs.Json.Records
import QueryGate.Proofs.Json.Written
import QueryGate.Proofs.RequestLog.Lines
import QueryGate.Proofs.Schema.Files
import QueryGate.Proofs.Grammar.Ignored
import QueryGate.Proofs.Statement.Cuts
import QueryGate.Proofs.Http.Framing
