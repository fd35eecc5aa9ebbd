import DirectImports.Barrel.Cache
import DirectImports.Barrel.Error
import DirectImports.Barrel.ExportMap
import DirectImports.Barrel.Flatten
import DirectImports.Barrel.Lookup
import DirectImports.CommandLine.Error
import DirectImports.CommandLine.Report
import DirectImports.CommandLine.Run
import DirectImports.CommandLine.Sources
import DirectImports.CommandLine.Usage
import DirectImports.Config.Basic
import DirectImports.Config.Discovery
import DirectImports.Config.Error
import DirectImports.Config.Validation
import DirectImports.Config.Value
import DirectImports.Decimal.Binary64
import DirectImports.Decimal.Shortest
import DirectImports.Diagnostic
import DirectImports.FileSystem.Basic
import DirectImports.FileSystem.Disk
import DirectImports.FileSystem.Fixture
import DirectImports.FileSystem.Store
import DirectImports.FileSystem.Walk
import DirectImports.ImportStatement.Basic
import DirectImports.ImportStatement.Printer
import DirectImports.Json.Basic
import DirectImports.Json.Reader
import DirectImports.Json.Writer
import DirectImports.Main
import DirectImports.Path.Basic
import DirectImports.Path.Clean
import DirectImports.Path.Specifier
import DirectImports.Proofs.Cache
import DirectImports.Proofs.Candidates
import DirectImports.Proofs.Flatten.Denotation
import DirectImports.Proofs.Flatten.Log
import DirectImports.Proofs.Flatten.Reach
import DirectImports.Proofs.Flatten.Replay
import DirectImports.Proofs.Flatten.Segments
import DirectImports.Proofs.Flatten.Visits
import DirectImports.Proofs.Lookup
import DirectImports.Proofs.Path.Clean
import DirectImports.Proofs.Path.Components
import DirectImports.Proofs.Path.Segment
import DirectImports.Proofs.Path.Tidy
import DirectImports.Proofs.Redirect.FixedPoint
import DirectImports.Proofs.Redirect.RootFile
import DirectImports.Proofs.Session.History
import DirectImports.Proofs.Session.Independence
import DirectImports.Proofs.Transform.Imports
import DirectImports.Proofs.Transform.Splice
import DirectImports.Redirector
import DirectImports.Session
import DirectImports.Source.Dialect
import DirectImports.Source.Grammar.Basic
import DirectImports.Source.Grammar.Declaration
import DirectImports.Source.Grammar.Export
import DirectImports.Source.Grammar.Expression
import DirectImports.Source.Grammar.Function
import DirectImports.Source.Grammar.Import
import DirectImports.Source.Grammar.Jsx
import DirectImports.Source.Grammar.Pattern
import DirectImports.Source.Grammar.Statement
import DirectImports.Source.Grammar.Type
import DirectImports.Source.Item
import DirectImports.Source.Literal
import DirectImports.Source.Parser
import DirectImports.Source.Reader
import DirectImports.Source.Symbol
import DirectImports.Source.Token
import DirectImports.Surface
import DirectImports.Text.Alphabetic
import DirectImports.Text.CharClass
import DirectImports.Text.CodeRange
import DirectImports.Text.Hex
import DirectImports.Text.IdentifierPart
import DirectImports.Text.Letter
import DirectImports.Text.Number
import DirectImports.Text.Shown
import DirectImports.Text.Sorting
import DirectImports.Text.Unprintable
import DirectImports.Toml.Reader
import DirectImports.Toml.Scalar
import DirectImports.Toml.Table
import DirectImports.Transform
import DirectImports.Proofs.Listing
import DirectImports.Proofs.Redirect.Styles
import DirectImports.Proofs.Flatten.StatementOrder
import DirectImports.Proofs.Flatten.Depth
import DirectImports.Proofs.Flatten.Ending
import DirectImports.Proofs.Flatten.Failure
import DirectImports.Proofs.Walk
import DirectImports.Proofs.Command.Sources
import DirectImports.Proofs.Command.Check
import DirectImports.Proofs.Flatten.Merge
import DirectImports.Proofs.Command.Redirect
import DirectImports.Proofs.Source.Lexing
import DirectImports.Proofs.ImportStatement.RoundTrip
import DirectImports.Proofs.Flatten.Cycles
import DirectImports.Proofs.Flatten.Termination
import DirectImports.Proofs.ModuleLookup
import DirectImports.Proofs.Redirect.Account
import DirectImports.Proofs.Path.Relative
import DirectImports.Proofs.Path.Climb
import DirectImports.Proofs.Config.Root
import DirectImports.Proofs.Redirect.Spelling
import DirectImports.Proofs.Path.NormalForm
import DirectImports.Proofs.ImportStatement.Quoting
import DirectImports.Proofs.Config.RoundTrip
