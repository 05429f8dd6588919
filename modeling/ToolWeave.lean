import ToolWeave.Calendar
import ToolWeave.Cancellation
import ToolWeave.CommandLine.Arguments
import ToolWeave.CommandLine.Commands
import ToolWeave.CommandLine.Emoji
import ToolWeave.CommandLine.Markup
import ToolWeave.CommandLine.Style
import ToolWeave.CommandLine.Table
import ToolWeave.Config.Document
import ToolWeave.Config.Entry
import ToolWeave.Config.Level
import ToolWeave.Config.Loading
import ToolWeave.Config.Placeholder
import ToolWeave.Config.Yaml.Cursor
import ToolWeave.Config.Yaml.Meaning
import ToolWeave.Config.Yaml.Node
import ToolWeave.Config.Yaml.Plain
import ToolWeave.Config.Yaml.Scalar
import ToolWeave.Config.Yaml.Token
import ToolWeave.Context
import ToolWeave.Entries
import ToolWeave.Environment.Basic
import ToolWeave.Environment.Store
import ToolWeave.ErrorBuilder
import ToolWeave.Evaluation.Builtins
import ToolWeave.Evaluation.Invocation
import ToolWeave.Evaluation.Program
import ToolWeave.Evaluation.World
import ToolWeave.Expect
import ToolWeave.Failure
import ToolWeave.Forest
import ToolWeave.Form
import ToolWeave.Host.Basic
import ToolWeave.Host.Launch
import ToolWeave.Host.Path
import ToolWeave.Host.Program
import ToolWeave.Json.Read
import ToolWeave.Json.Write
import ToolWeave.Main
import ToolWeave.Number.Basic
import ToolWeave.Number.Decimal
import ToolWeave.Number.Double
import ToolWeave.Number.Places
import ToolWeave.Number.Spelling
import ToolWeave.Proofs.Actions
import ToolWeave.Proofs.ByName
import ToolWeave.Proofs.CallDepth
import ToolWeave.Proofs.Commands
import ToolWeave.Proofs.Comparisons
import ToolWeave.Proofs.Connections
import ToolWeave.Proofs.Consoles
import ToolWeave.Proofs.Contacts
import ToolWeave.Proofs.Decoding
import ToolWeave.Proofs.Definitions
import ToolWeave.Proofs.DepthLimit
import ToolWeave.Proofs.DirectSemantics
import ToolWeave.Proofs.Documents
import ToolWeave.Proofs.DomainRuns
import ToolWeave.Proofs.DomainTools
import ToolWeave.Proofs.Domains
import ToolWeave.Proofs.Endings
import ToolWeave.Proofs.EntryTexts
import ToolWeave.Proofs.Exchanges
import ToolWeave.Proofs.FiniteRuns
import ToolWeave.Proofs.Flaws
import ToolWeave.Proofs.FrameIsolation
import ToolWeave.Proofs.FrameTrees
import ToolWeave.Proofs.Grammar
import ToolWeave.Proofs.HeldFrames
import ToolWeave.Proofs.HigherLimits
import ToolWeave.Proofs.InputLines
import ToolWeave.Proofs.Journals
import ToolWeave.Proofs.Laws
import ToolWeave.Proofs.Layers
import ToolWeave.Proofs.LexicalCapture
import ToolWeave.Proofs.Lines
import ToolWeave.Proofs.Merging
import ToolWeave.Proofs.Nearest
import ToolWeave.Proofs.Nesting
import ToolWeave.Proofs.NumberOrder
import ToolWeave.Proofs.NumberText
import ToolWeave.Proofs.NumeralReading
import ToolWeave.Proofs.ObjectOrder
import ToolWeave.Proofs.Overflow
import ToolWeave.Proofs.Pairings
import ToolWeave.Proofs.Paths
import ToolWeave.Proofs.Placeholders
import ToolWeave.Proofs.PlainDefinitions
import ToolWeave.Proofs.Purity
import ToolWeave.Proofs.ReadValues
import ToolWeave.Proofs.Refusals
import ToolWeave.Proofs.Registration
import ToolWeave.Proofs.Releases
import ToolWeave.Proofs.Replies
import ToolWeave.Proofs.Reports
import ToolWeave.Proofs.Requests
import ToolWeave.Proofs.Resolution
import ToolWeave.Proofs.RoundTrip
import ToolWeave.Proofs.Rounding
import ToolWeave.Proofs.Runaway
import ToolWeave.Proofs.Runs
import ToolWeave.Proofs.Scenes
import ToolWeave.Proofs.Service
import ToolWeave.Proofs.Settings
import ToolWeave.Proofs.Shapes
import ToolWeave.Proofs.Snapshots
import ToolWeave.Proofs.SoleCaller
import ToolWeave.Proofs.SortTool
import ToolWeave.Proofs.StableSort
import ToolWeave.Proofs.StoppedScopes
import ToolWeave.Proofs.Stores
import ToolWeave.Proofs.StringReading
import ToolWeave.Proofs.StringText
import ToolWeave.Proofs.TidyRuns
import ToolWeave.Proofs.TotalOrder
import ToolWeave.Proofs.Traces
import ToolWeave.Proofs.Traffic
import ToolWeave.Proofs.Transparency
import ToolWeave.Proofs.TreeReading
import ToolWeave.Proofs.Twins
import ToolWeave.Proofs.Unwinding
import ToolWeave.Proofs.ValueClosure
import ToolWeave.Proofs.ValueOrder
import ToolWeave.Remote.Client
import ToolWeave.Remote.Server
import ToolWeave.Remote.Table
import ToolWeave.SelfTest
import ToolWeave.Session
import ToolWeave.Shell.Arithmetic
import ToolWeave.Shell.Builtin
import ToolWeave.Shell.Condition
import ToolWeave.Shell.Expansion
import ToolWeave.Shell.Field
import ToolWeave.Shell.Format
import ToolWeave.Shell.Grammar
import ToolWeave.Shell.Pattern
import ToolWeave.Shell.Process
import ToolWeave.Shell.Regex
import ToolWeave.Shell.Run
import ToolWeave.Shell.Script
import ToolWeave.Shell.Start
import ToolWeave.Shell.Stream
import ToolWeave.Shell.Subshell
import ToolWeave.Shell.Utility
import ToolWeave.Shell.Utility.Basic
import ToolWeave.Shell.Utility.Batches
import ToolWeave.Shell.Utility.Edit
import ToolWeave.Shell.Utility.Files
import ToolWeave.Shell.Utility.Lines
import ToolWeave.Shell.Utility.Search
import ToolWeave.Sorting
import ToolWeave.Text.Blank
import ToolWeave.Text.Printable
import ToolWeave.Text.Utf8
import ToolWeave.Text.Word
import ToolWeave.Tool.Basic
import ToolWeave.Tool.Builtin
import ToolWeave.Tool.Set
import ToolWeave.Value.Basic
import ToolWeave.Value.Display
import ToolWeave.Value.Order
