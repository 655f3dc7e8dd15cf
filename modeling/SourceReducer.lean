import SourceReducer.Candidate
import SourceReducer.Command.Arithmetic
import SourceReducer.Command.Basic
import SourceReducer.Command.Grep.Expression
import SourceReducer.Command.Grep.Match
import SourceReducer.Command.Grep.Request
import SourceReducer.Command.Grep.Search
import SourceReducer.Command.Numeral
import SourceReducer.Command.Options
import SourceReducer.Command.Script
import SourceReducer.Command.Script.Reader
import SourceReducer.Command.Shell
import SourceReducer.Command.Shell.Builtin
import SourceReducer.Command.Shell.Evaluate
import SourceReducer.Command.Shell.Expansion
import SourceReducer.Command.Shell.Process
import SourceReducer.Command.Shell.Redirect
import SourceReducer.Command.Shell.State
import SourceReducer.Command.Signal
import SourceReducer.Command.Tool
import SourceReducer.Command.Tool.Concatenate
import SourceReducer.Command.Tool.Format
import SourceReducer.Command.Tool.Listing
import SourceReducer.Command.Tool.Sleep
import SourceReducer.Command.Tool.WordTest
import SourceReducer.Command.Wildcard
import SourceReducer.CommandLine.Arguments
import SourceReducer.CommandLine.Config
import SourceReducer.CommandLine.Execute
import SourceReducer.Decimal.Duration
import SourceReducer.Decimal.Tenths
import SourceReducer.Document.Toml.Lexeme
import SourceReducer.Document.Toml.Number
import SourceReducer.Document.Toml.Reader
import SourceReducer.Document.Toml.Table
import SourceReducer.Document.Value
import SourceReducer.Engine.Load
import SourceReducer.Engine.Run
import SourceReducer.Engine.Session
import SourceReducer.Failure
import SourceReducer.Files.Fault
import SourceReducer.Files.Operation
import SourceReducer.Files.Path
import SourceReducer.Files.Risk
import SourceReducer.Files.Store
import SourceReducer.Forest
import SourceReducer.Invariant.Basic
import SourceReducer.Invariant.Condition
import SourceReducer.Invariant.Probe
import SourceReducer.Invariant.Process
import SourceReducer.Language
import SourceReducer.Main
import SourceReducer.NodeRef
import SourceReducer.Pattern.Basic
import SourceReducer.Pattern.Bracket
import SourceReducer.Pattern.Escape
import SourceReducer.Pattern.Form
import SourceReducer.Pattern.Meaning
import SourceReducer.Pattern.Reader
import SourceReducer.Pattern.Weight
import SourceReducer.Proofs.Engine.Acceptance
import SourceReducer.Proofs.Engine.Accounting
import SourceReducer.Proofs.Engine.Attempt
import SourceReducer.Proofs.Engine.Baseline
import SourceReducer.Proofs.Engine.Coherence
import SourceReducer.Proofs.Engine.Commit
import SourceReducer.Proofs.Engine.Course
import SourceReducer.Proofs.Engine.Cuts
import SourceReducer.Proofs.Engine.Decision
import SourceReducer.Proofs.Engine.Emptying
import SourceReducer.Proofs.Engine.Exhaustion
import SourceReducer.Proofs.Engine.History
import SourceReducer.Proofs.Engine.Inputs
import SourceReducer.Proofs.Engine.Interruption
import SourceReducer.Proofs.Engine.Lifecycle
import SourceReducer.Proofs.Engine.Minimality
import SourceReducer.Proofs.Engine.NodeCount
import SourceReducer.Proofs.Engine.Outset
import SourceReducer.Proofs.Engine.Passes
import SourceReducer.Proofs.Engine.Placement
import SourceReducer.Proofs.Engine.Reduction
import SourceReducer.Proofs.Engine.Refusal
import SourceReducer.Proofs.Engine.Stages
import SourceReducer.Proofs.Engine.Staging
import SourceReducer.Proofs.Engine.Staleness
import SourceReducer.Proofs.Engine.Termination
import SourceReducer.Proofs.Engine.Trials
import SourceReducer.Proofs.Engine.WholeRun
import SourceReducer.Proofs.Files.Below
import SourceReducer.Proofs.Files.Change
import SourceReducer.Proofs.Files.Effect
import SourceReducer.Proofs.Files.Extension
import SourceReducer.Proofs.Files.Growth
import SourceReducer.Proofs.Files.Names
import SourceReducer.Proofs.Files.Risk
import SourceReducer.Proofs.Files.Slots
import SourceReducer.Proofs.Files.Thinning
import SourceReducer.Proofs.Files.Vacancy
import SourceReducer.Proofs.Statement.Cutting
import SourceReducer.Proofs.Statement.Derivation
import SourceReducer.Proofs.Statement.Faults
import SourceReducer.Proofs.Statement.Grammar
import SourceReducer.Proofs.Statement.Layout
import SourceReducer.Proofs.Statement.Lexemes
import SourceReducer.Proofs.Statement.LineLayout
import SourceReducer.Proofs.Statement.Numbering
import SourceReducer.Proofs.Statement.Ownership
import SourceReducer.Proofs.Statement.Places
import SourceReducer.Proofs.Statement.Removal
import SourceReducer.Proofs.Statement.Segments
import SourceReducer.Proofs.Statement.Shape
import SourceReducer.Proofs.Statement.Spans
import SourceReducer.Proofs.Statement.Subtrees
import SourceReducer.Proofs.Statement.Weight
import SourceReducer.Proofs.Strategy.Closure
import SourceReducer.Proofs.Strategy.Hearing
import SourceReducer.Proofs.Strategy.Levels
import SourceReducer.Proofs.Strategy.Memory
import SourceReducer.Proofs.Strategy.Notes
import SourceReducer.Proofs.Strategy.Offers
import SourceReducer.Proofs.Strategy.Partition
import SourceReducer.Proofs.Strategy.Preorder
import SourceReducer.Proofs.Strategy.Visits
import SourceReducer.Proofs.Text.Lines
import SourceReducer.Proofs.Text.Normal
import SourceReducer.Proofs.Text.Stripped
import SourceReducer.Proofs.Tree.Nesting
import SourceReducer.Proofs.Tree.Pruning
import SourceReducer.Proofs.Tree.Slices
import SourceReducer.Report.Basic
import SourceReducer.Report.Stats
import SourceReducer.Settings
import SourceReducer.Statement.Item
import SourceReducer.Statement.Language
import SourceReducer.Statement.Parse
import SourceReducer.Statement.Token
import SourceReducer.Strategy.Basic
import SourceReducer.Strategy.Chunk
import SourceReducer.Strategy.Ddmin
import SourceReducer.Strategy.Greedy
import SourceReducer.Strategy.Rehearsal
import SourceReducer.Strategy.Script
import SourceReducer.Text.Age
import SourceReducer.Text.Blank
import SourceReducer.Text.Boundary
import SourceReducer.Text.ByteText
import SourceReducer.Text.Casing
import SourceReducer.Text.Category
import SourceReducer.Text.CharSet
import SourceReducer.Text.Hex
import SourceReducer.Text.Layout
import SourceReducer.Text.Line
import SourceReducer.Text.Lossy
import SourceReducer.Text.NamedSet
import SourceReducer.Text.Offset
import SourceReducer.Text.Part
import SourceReducer.Text.Printable
import SourceReducer.Text.Property
import SourceReducer.Text.Quoted
import SourceReducer.Text.Script
import SourceReducer.Tree.Basic
import SourceReducer.Tree.Builder
import SourceReducer.Tree.Excision
import SourceReducer.Tree.Fault
import SourceReducer.WorkingCopy
