import Automaton.Blueprint.Basic
import Automaton.Blueprint.OfTable
import Automaton.Catalog
import Automaton.CommandLine.Invocation
import Automaton.CommandLine.Options
import Automaton.Commands
import Automaton.Decimal.Shortest
import Automaton.Digest
import Automaton.Digest.Blake2s
import Automaton.Document.Basic
import Automaton.Document.Decoding
import Automaton.Document.Equality
import Automaton.Document.Json.Printer
import Automaton.Document.Json.Reader
import Automaton.Document.Toml.Reader
import Automaton.Document.Toml.Scalar
import Automaton.Document.Toml.Text
import Automaton.Document.Toml.Tree
import Automaton.Error
import Automaton.FileTree
import Automaton.Filter.Basic
import Automaton.Filter.Cat
import Automaton.Filter.Condition
import Automaton.Filter.Options
import Automaton.Filter.Pattern.Basic
import Automaton.Filter.Pattern.Reader
import Automaton.Filter.Printing
import Automaton.Filter.Programs
import Automaton.Filter.Sed
import Automaton.Filter.Sed.Editing
import Automaton.Filter.Sed.Reader
import Automaton.Filter.Sed.Script
import Automaton.Filter.Shell.Arithmetic
import Automaton.Filter.Shell.Builtin
import Automaton.Filter.Shell.Invocation
import Automaton.Filter.Shell.Reader
import Automaton.Filter.Shell.Running
import Automaton.Filter.Shell.Script
import Automaton.Filter.Shell.Session
import Automaton.Filter.Shell.Token
import Automaton.Filter.Shell.Wildcard
import Automaton.Filter.Toolbox
import Automaton.Filter.Tr
import Automaton.Formatter.Basic
import Automaton.Generation
import Automaton.Graph.Basic
import Automaton.Graph.Dot
import Automaton.Graph.OfTable
import Automaton.Graph.Shape
import Automaton.Host.Basic
import Automaton.Host.Replacement
import Automaton.Main
import Automaton.Name
import Automaton.Path
import Automaton.Proofs.Acceptance
import Automaton.Proofs.Blueprint.Coherence
import Automaton.Proofs.Blueprint.Direct
import Automaton.Proofs.Blueprint.FirstOccurrences
import Automaton.Proofs.Blueprint.Imports
import Automaton.Proofs.Blueprint.Lookup
import Automaton.Proofs.Blueprint.Reordering
import Automaton.Proofs.Blueprint.Simulation
import Automaton.Proofs.Blueprint.Transition
import Automaton.Proofs.Blueprint.Widths
import Automaton.Proofs.Catalog
import Automaton.Proofs.Document.Decoding
import Automaton.Proofs.Document.Json.Grammar
import Automaton.Proofs.Document.Json.Lexical
import Automaton.Proofs.Document.Json.Numerals
import Automaton.Proofs.Document.Json.Printing
import Automaton.Proofs.Document.Json.Reading
import Automaton.Proofs.Document.Json.Recognition
import Automaton.Proofs.Document.Unambiguous
import Automaton.Proofs.Graph.Agreement
import Automaton.Proofs.Graph.Circles
import Automaton.Proofs.Graph.Description
import Automaton.Proofs.Graph.Direct
import Automaton.Proofs.Graph.Dot.Grammar
import Automaton.Proofs.Graph.Dot.Reading
import Automaton.Proofs.Graph.Dot.Token
import Automaton.Proofs.Graph.Drawing
import Automaton.Proofs.Graph.History
import Automaton.Proofs.Graph.Moves
import Automaton.Proofs.Graph.Places
import Automaton.Proofs.Graph.Row
import Automaton.Proofs.Graph.Runs
import Automaton.Proofs.Host.AllOrNothing
import Automaton.Proofs.Host.Disk
import Automaton.Proofs.Machine
import Automaton.Proofs.Name
import Automaton.Proofs.Report.Printed
import Automaton.Proofs.Table.Declarations
import Automaton.Proofs.Table.Proper
import Automaton.Proofs.Table.Rearranged
import Automaton.Proofs.Table.States
import Automaton.Proofs.Table.WellFormed
import Automaton.Proofs.Table.Written
import Automaton.Proofs.Target.GoImports
import Automaton.Proofs.Target.GoLines
import Automaton.Proofs.Target.GoReading
import Automaton.Proofs.Target.GoScope
import Automaton.Proofs.Target.Keywords
import Automaton.Proofs.Target.Legal
import Automaton.Proofs.Target.Mentions
import Automaton.Proofs.Target.Reliance
import Automaton.Proofs.Target.RustImports
import Automaton.Proofs.Target.RustScope
import Automaton.Proofs.Target.Verdict
import Automaton.Proofs.Text.ByteOrder
import Automaton.Proofs.Text.Delimited
import Automaton.Proofs.Text.Literal
import Automaton.Proofs.Text.Trimmed
import Automaton.Proofs.Text.Utf8
import Automaton.Ranked
import Automaton.Report.Findings
import Automaton.Report.Summary
import Automaton.Settings.Basic
import Automaton.Settings.Loading
import Automaton.States
import Automaton.Table.Basic
import Automaton.Table.Decoding
import Automaton.Table.Loading
import Automaton.Table.Validation
import Automaton.Target.Basic
import Automaton.Target.Go
import Automaton.Target.Rust
import Automaton.Text.Blank
import Automaton.Text.Column
import Automaton.Text.Displayed
import Automaton.Text.Quoted
import Automaton.Text.Shown
import Automaton.Text.Uppercase
import Automaton.Text.Utf8
import Automaton.Width
