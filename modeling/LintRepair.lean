import LintRepair.Batch.Course
import LintRepair.Batch.Json
import LintRepair.Batch.Note
import LintRepair.Batch.Processor
import LintRepair.Batch.Report
import LintRepair.Batch.Run
import LintRepair.Batch.Summary
import LintRepair.Check.Signals
import LintRepair.Check.Syntax
import LintRepair.Cli.Arguments
import LintRepair.Cli.Emoji
import LintRepair.Cli.Fix
import LintRepair.Cli.Layout
import LintRepair.Cli.Markup
import LintRepair.Cli.Run
import LintRepair.Cli.Screen
import LintRepair.Cli.Style
import LintRepair.Cli.Survey
import LintRepair.Cli.World
import LintRepair.Code.Bracket
import LintRepair.Code.Declaration
import LintRepair.Code.Json
import LintRepair.Code.Occurrence
import LintRepair.Code.Scope
import LintRepair.Code.Statement
import LintRepair.Code.Word
import LintRepair.Config.Basic
import LintRepair.Config.Fixers
import LintRepair.Config.Layers
import LintRepair.Diagnostic.Basic
import LintRepair.Diagnostic.Json
import LintRepair.Disk
import LintRepair.Grammar.Cursor
import LintRepair.Grammar.Definition
import LintRepair.Grammar.Expression
import LintRepair.Grammar.Statement
import LintRepair.Grammar.Token
import LintRepair.Json.Display
import LintRepair.Json.Printer
import LintRepair.Json.Reader
import LintRepair.Json.Value
import LintRepair.Json.Whole
import LintRepair.Keyed
import LintRepair.Lexical.Cache
import LintRepair.Lexical.Context
import LintRepair.Lexical.Json
import LintRepair.Lexical.Scan
import LintRepair.Lint.Command
import LintRepair.Main
import LintRepair.Number.Literal
import LintRepair.Number.Shortest
import LintRepair.Proofs.Batch.Account
import LintRepair.Proofs.Batch.Answers
import LintRepair.Proofs.Batch.Cancel
import LintRepair.Proofs.Batch.Category
import LintRepair.Proofs.Batch.CutShort
import LintRepair.Proofs.Batch.Event
import LintRepair.Proofs.Batch.Exclusion
import LintRepair.Proofs.Batch.Explained
import LintRepair.Proofs.Batch.FailSoft
import LintRepair.Proofs.Batch.Filed
import LintRepair.Proofs.Batch.Fresh
import LintRepair.Proofs.Batch.Grounds
import LintRepair.Proofs.Batch.History
import LintRepair.Proofs.Batch.InStep
import LintRepair.Proofs.Batch.Interlude
import LintRepair.Proofs.Batch.Isolation
import LintRepair.Proofs.Batch.Made
import LintRepair.Proofs.Batch.Once
import LintRepair.Proofs.Batch.Outstanding
import LintRepair.Proofs.Batch.Progress
import LintRepair.Proofs.Batch.Recovery
import LintRepair.Proofs.Batch.Replay
import LintRepair.Proofs.Batch.Rest
import LintRepair.Proofs.Batch.Sheet
import LintRepair.Proofs.Batch.Turn
import LintRepair.Proofs.Batch.Unlinted
import LintRepair.Proofs.Batch.Walk
import LintRepair.Proofs.Batch.Waves
import LintRepair.Proofs.Check.Nested
import LintRepair.Proofs.Code.Binds
import LintRepair.Proofs.Code.Block
import LintRepair.Proofs.Code.Declared
import LintRepair.Proofs.Code.Elements
import LintRepair.Proofs.Code.Extent
import LintRepair.Proofs.Code.Items
import LintRepair.Proofs.Code.Listed
import LintRepair.Proofs.Code.Occurs
import LintRepair.Proofs.Code.Partner
import LintRepair.Proofs.Code.Pattern
import LintRepair.Proofs.Code.Rejoined
import LintRepair.Proofs.Code.Scope
import LintRepair.Proofs.Code.Standing
import LintRepair.Proofs.Code.Target
import LintRepair.Proofs.Code.Trailing
import LintRepair.Proofs.Code.Written
import LintRepair.Proofs.Config.Admitted
import LintRepair.Proofs.Config.Checked
import LintRepair.Proofs.Config.Layered
import LintRepair.Proofs.Diagnostic
import LintRepair.Proofs.Keyed
import LintRepair.Proofs.Lexical.Afresh
import LintRepair.Proofs.Lexical.Blank
import LintRepair.Proofs.Lexical.Brace
import LintRepair.Proofs.Lexical.Cache
import LintRepair.Proofs.Lexical.Causal
import LintRepair.Proofs.Lexical.Closed
import LintRepair.Proofs.Lexical.Comment
import LintRepair.Proofs.Lexical.Content
import LintRepair.Proofs.Lexical.Division
import LintRepair.Proofs.Lexical.Edit
import LintRepair.Proofs.Lexical.Excised
import LintRepair.Proofs.Lexical.Inside
import LintRepair.Proofs.Lexical.Literal
import LintRepair.Proofs.Lexical.Masked
import LintRepair.Proofs.Lexical.Next
import LintRepair.Proofs.Lexical.Offset
import LintRepair.Proofs.Lexical.Paren
import LintRepair.Proofs.Lexical.Quoted
import LintRepair.Proofs.Lexical.Registers
import LintRepair.Proofs.Lexical.Restart
import LintRepair.Proofs.Lexical.Shadow
import LintRepair.Proofs.Lexical.Token
import LintRepair.Proofs.Lexical.Tree
import LintRepair.Proofs.Lexical.Word
import LintRepair.Proofs.Outcome
import LintRepair.Proofs.Repair.Archive
import LintRepair.Proofs.Repair.Registered
import LintRepair.Proofs.Repair.Store
import LintRepair.Proofs.Rules.Above
import LintRepair.Proofs.Rules.Blanks
import LintRepair.Proofs.Rules.Boundary
import LintRepair.Proofs.Rules.BraceStyle
import LintRepair.Proofs.Rules.Braced
import LintRepair.Proofs.Rules.Branches
import LintRepair.Proofs.Rules.Dangling
import LintRepair.Proofs.Rules.DeadZone
import LintRepair.Proofs.Rules.Element
import LintRepair.Proofs.Rules.Hygiene
import LintRepair.Proofs.Rules.Inline
import LintRepair.Proofs.Rules.Layout
import LintRepair.Proofs.Rules.Mutation
import LintRepair.Proofs.Rules.Nearest
import LintRepair.Proofs.Rules.Reassign
import LintRepair.Proofs.Rules.Redeclare
import LintRepair.Proofs.Rules.Remaining
import LintRepair.Proofs.Rules.Removal
import LintRepair.Proofs.Rules.Requote
import LintRepair.Proofs.Rules.Search
import LintRepair.Proofs.Rules.Settle
import LintRepair.Proofs.Rules.Silence
import LintRepair.Proofs.Rules.Whole
import LintRepair.Proofs.Text.Above
import LintRepair.Proofs.Text.Around
import LintRepair.Proofs.Text.Cut
import LintRepair.Proofs.Text.Position
import LintRepair.Proofs.Toml.Keys
import LintRepair.Repair.Archive
import LintRepair.Repair.Fixer
import LintRepair.Repair.Outcome
import LintRepair.Repair.Registry
import LintRepair.Rules.Binding
import LintRepair.Rules.Brace
import LintRepair.Rules.Catalog
import LintRepair.Rules.Comma
import LintRepair.Rules.Console
import LintRepair.Rules.Editing
import LintRepair.Rules.Loop
import LintRepair.Rules.Operator
import LintRepair.Rules.Quote
import LintRepair.Rules.Semicolon
import LintRepair.Rules.Template
import LintRepair.Rules.Ternary
import LintRepair.Rules.Unused
import LintRepair.Rules.Whitespace
import LintRepair.Shell.Arithmetic
import LintRepair.Shell.Builtin
import LintRepair.Shell.Condition
import LintRepair.Shell.Escape
import LintRepair.Shell.Expand
import LintRepair.Shell.Format
import LintRepair.Shell.Numeral
import LintRepair.Shell.Parse
import LintRepair.Shell.Pattern
import LintRepair.Shell.Place
import LintRepair.Shell.Program
import LintRepair.Shell.Reader
import LintRepair.Shell.Run
import LintRepair.Shell.Script
import LintRepair.Shell.Session
import LintRepair.Shell.Signal
import LintRepair.Text.Basic
import LintRepair.Text.Invisible
import LintRepair.Text.Lines
import LintRepair.Text.Ranges
import LintRepair.Text.Utf8
import LintRepair.Text.Width
import LintRepair.Toml.Reader
import LintRepair.Toml.Table
