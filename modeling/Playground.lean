import Playground.Assoc
import Playground.Command.Arguments
import Playground.Command.Request
import Playground.Command.Run
import Playground.Compile.Compiler
import Playground.Compile.Component
import Playground.Compile.File
import Playground.Compile.Script
import Playground.Compile.Stage
import Playground.Compile.Style
import Playground.Compile.Template
import Playground.Compile.Variant
import Playground.Component.Blocks
import Playground.Component.Descriptor
import Playground.Console.Action
import Playground.Console.Colour
import Playground.Console.Event
import Playground.Console.Markup
import Playground.Console.Plain
import Playground.Console.Report
import Playground.Console.Style
import Playground.Digest.Sha1
import Playground.Disk.Basic
import Playground.Disk.SourceTree
import Playground.Import.Anchor
import Playground.Import.Clause
import Playground.Import.Specifier
import Playground.Json.Reader
import Playground.Json.Writer
import Playground.Literal.Expr
import Playground.Literal.Fault
import Playground.Literal.Token
import Playground.Literal.Value
import Playground.Main
import Playground.Number.Binary64
import Playground.Number.Decimal
import Playground.Number.Shortest
import Playground.Options.Basic
import Playground.Options.Problem
import Playground.Options.Setting
import Playground.Options.WholeText
import Playground.Path.Host
import Playground.Path.Virtual
import Playground.Project.Basic
import Playground.Project.Manifest
import Playground.Project.Services
import Playground.Proofs.Command.ExitCode
import Playground.Proofs.Compile.Accounts
import Playground.Proofs.Compile.Assembly
import Playground.Proofs.Compile.CallerSettings
import Playground.Proofs.Compile.ClientCalls
import Playground.Proofs.Compile.Composed
import Playground.Proofs.Compile.Conclusion
import Playground.Proofs.Compile.Conduct
import Playground.Proofs.Compile.Contained
import Playground.Proofs.Compile.Diagnostics
import Playground.Proofs.Compile.Dispatch
import Playground.Proofs.Compile.FileMark
import Playground.Proofs.Compile.Languages
import Playground.Proofs.Compile.Notes
import Playground.Proofs.Compile.Outcome
import Playground.Proofs.Compile.PastArtifacts
import Playground.Proofs.Compile.Precedence
import Playground.Proofs.Compile.Protocol
import Playground.Proofs.Compile.PureServices
import Playground.Proofs.Compile.RenderEntry
import Playground.Proofs.Compile.Reported
import Playground.Proofs.Compile.Requests
import Playground.Proofs.Compile.ServerBuild
import Playground.Proofs.Compile.StyleAggregation
import Playground.Proofs.Compile.Suffixes
import Playground.Proofs.Compile.Trace
import Playground.Proofs.Compile.TypeStripping
import Playground.Proofs.Component.Attributes
import Playground.Proofs.Component.Written
import Playground.Proofs.Console.CompileReport
import Playground.Proofs.Console.Escape
import Playground.Proofs.Console.Joined
import Playground.Proofs.Console.Marked
import Playground.Proofs.Console.Tags
import Playground.Proofs.Console.Terminal
import Playground.Proofs.Disk.Listing
import Playground.Proofs.Disk.SourceTree
import Playground.Proofs.Except
import Playground.Proofs.Import.Anchor
import Playground.Proofs.Import.FixedPoints
import Playground.Proofs.Import.Grammar
import Playground.Proofs.Import.Leftmost
import Playground.Proofs.Import.Occurrence
import Playground.Proofs.Import.OneLine
import Playground.Proofs.Import.Rescan
import Playground.Proofs.Import.Respelled
import Playground.Proofs.Import.Route
import Playground.Proofs.Import.Specifier
import Playground.Proofs.Import.Tail
import Playground.Proofs.Import.Walk
import Playground.Proofs.Json.Escape
import Playground.Proofs.Options.DistinctKeys
import Playground.Proofs.Options.Merged
import Playground.Proofs.Options.Overrides
import Playground.Proofs.Options.Reading
import Playground.Proofs.Options.Stages
import Playground.Proofs.Path.Segments
import Playground.Proofs.Path.Suffix
import Playground.Proofs.Project.Files
import Playground.Proofs.Project.Sources
import Playground.Proofs.Session
import Playground.Proofs.Store.Coherence
import Playground.Proofs.Store.CompileAll
import Playground.Proofs.Store.Failures
import Playground.Proofs.Store.LatestCompile
import Playground.Proofs.Store.Operation
import Playground.Proofs.Store.RecordedErrors
import Playground.Proofs.Store.Rename
import Playground.Proofs.Store.RenameBack
import Playground.Proofs.Store.Reports
import Playground.Proofs.Store.Separation
import Playground.Proofs.Text.Lines
import Playground.Proofs.Text.Pair
import Playground.Proofs.Value.Merge
import Playground.Proofs.Value.MergeAlgebra
import Playground.Proofs.Value.Object
import Playground.Proofs.Value.Path
import Playground.Proofs.Value.Spread
import Playground.ScopeId
import Playground.Store
import Playground.Text.Base64
import Playground.Text.Blank
import Playground.Text.Cased
import Playground.Text.CharSet
import Playground.Text.CodePoint
import Playground.Text.Letter
import Playground.Text.Lines
import Playground.Text.Printable
import Playground.Text.Quoted
import Playground.Text.Search
import Playground.Text.Utf8
import Playground.Text.Word
import Playground.Toolchain.Basic
import Playground.Toolchain.Failure
import Playground.Toolchain.Miniature
import Playground.Toolchain.Scripted
import Playground.Value.Basic
import Playground.Value.Merge
import Playground.Yaml.BlockText
import Playground.Yaml.Cursor
import Playground.Yaml.Kind
import Playground.Yaml.Label
import Playground.Yaml.Node
import Playground.Yaml.PlainText
import Playground.Yaml.QuotedText
import Playground.Yaml.Reader
import Playground.Yaml.Scalar
import Playground.Yaml.Timestamp
import Playground.Yaml.Token
