import Pastiche.Config.Basic
import Pastiche.Config.Environment
import Pastiche.Config.Json
import Pastiche.Config.Toml
import Pastiche.Decimal.Binary64
import Pastiche.Decimal.Integer
import Pastiche.Decimal.Shortest
import Pastiche.Dictionary
import Pastiche.Directive.Parser
import Pastiche.Directive.Span
import Pastiche.Engine
import Pastiche.Fault
import Pastiche.Fetcher
import Pastiche.Json.Basic
import Pastiche.Json.Numeral
import Pastiche.Json.Reader
import Pastiche.Json.Scan
import Pastiche.Json.Writer
import Pastiche.Locale
import Pastiche.Locale.Json
import Pastiche.Log.Filter
import Pastiche.Log.Level
import Pastiche.Log.Line
import Pastiche.Name
import Pastiche.Operation.Arguments
import Pastiche.Operation.Builtin
import Pastiche.Operation.Plan
import Pastiche.Pattern.Basic
import Pastiche.Pattern.Budget
import Pastiche.Pattern.CharClass
import Pastiche.Pattern.Generate
import Pastiche.Pattern.Parser
import Pastiche.Placeholder
import Pastiche.Proofs.Directive.Body
import Pastiche.Proofs.Directive.Concatenation
import Pastiche.Proofs.Directive.Leftmost
import Pastiche.Proofs.Directive.Quotation
import Pastiche.Proofs.Directive.Reference
import Pastiche.Proofs.Directive.Written
import Pastiche.Proofs.Engine.DepthBound
import Pastiche.Proofs.Engine.DepthLimit
import Pastiche.Proofs.Engine.Dispatch
import Pastiche.Proofs.Engine.Halting
import Pastiche.Proofs.Engine.Journal
import Pastiche.Proofs.Engine.Machine
import Pastiche.Proofs.Engine.Run
import Pastiche.Proofs.Engine.Splice
import Pastiche.Proofs.Except
import Pastiche.Proofs.Fetcher
import Pastiche.Proofs.Json.Ordered
import Pastiche.Proofs.Locale.Chain
import Pastiche.Proofs.Operation.Plan
import Pastiche.Proofs.Operation.Registry
import Pastiche.Proofs.Pattern.CharClass
import Pastiche.Proofs.Pattern.Grammar
import Pastiche.Proofs.Pattern.Language
import Pastiche.Proofs.Pattern.Lexeme
import Pastiche.Proofs.Pattern.Quantifier
import Pastiche.Proofs.Pattern.Reading
import Pastiche.Proofs.Pattern.WellFormed
import Pastiche.Proofs.Store.Merge
import Pastiche.Proofs.Store.Path
import Pastiche.Proofs.Store.Reach
import Pastiche.Random
import Pastiche.Registry
import Pastiche.Session
import Pastiche.Store
import Pastiche.Store.Filling
import Pastiche.Store.Node
import Pastiche.Text.Blank
import Pastiche.Text.Bytes
import Pastiche.Text.Case
import Pastiche.Text.CaseRuns
import Pastiche.Text.Cluster
import Pastiche.Text.ClusterRuns
import Pastiche.Text.Hidden
import Pastiche.Text.Quoted
import Pastiche.Toml.Basic
import Pastiche.Toml.Quoted
import Pastiche.Toml.Reader
import Pastiche.Toml.Scalar
import Pastiche.Word
import Pastiche.Proofs.Pattern.Budget
import Pastiche.Proofs.Engine.Faults
import Pastiche.Proofs.Engine.Attribution
import Pastiche.Proofs.Name
import Pastiche.Proofs.Operation.Lookup
import Pastiche.Proofs.Pattern.Bound
import Pastiche.Proofs.Pattern.Delimiters
import Pastiche.Proofs.Engine.Precedence
import Pastiche.Proofs.Store.Leaf
import Pastiche.Proofs.Store.Acceptance
import Pastiche.Proofs.Engine.Trail
import Pastiche.Proofs.Pattern.Literal
import Pastiche.Proofs.Pattern.Widening
import Pastiche.Proofs.Directive.Padding
import Pastiche.Proofs.Directive.CallStyle
import Pastiche.Proofs.Engine.Mention
import Pastiche.Proofs.Engine.Past
import Pastiche.Proofs.Engine.Qualified
import Pastiche.Proofs.Name.Spelling
import Pastiche.Proofs.Operation.Builtin
import Pastiche.Proofs.Placeholder
import Pastiche.Proofs.Engine.Arity
import Pastiche.Proofs.Locale.Tag
import Pastiche.Proofs.Store.History
import Pastiche.Proofs.Engine.Build
import Pastiche.Proofs.Json.Quote
import Pastiche.Proofs.Json.Members
import Pastiche.Proofs.Log.Line
import Pastiche.Proofs.Decimal.Digits
import Pastiche.Proofs.Config.Setting
import Pastiche.Proofs.Config.Environment
import Pastiche.Proofs.Json.Skip
import Pastiche.Proofs.Config.Json
import Pastiche.Proofs.Config.Loading
import Pastiche.Proofs.Log.Filter
import Pastiche.Proofs.Pattern.Part
import Pastiche.Proofs.Pattern.Guarded
