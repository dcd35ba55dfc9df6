import GoldenFiles.CommandLine.Arguments
import GoldenFiles.CommandLine.Diagnostic
import GoldenFiles.CommandLine.Occurrence
import GoldenFiles.CommandLine.Run
import GoldenFiles.CommandLine.Usage
import GoldenFiles.Config.Document
import GoldenFiles.Config.Settings
import GoldenFiles.Config.Validation
import GoldenFiles.Content.Comparison
import GoldenFiles.Content.Diff
import GoldenFiles.Content.Lines
import GoldenFiles.Decimal.Binary64
import GoldenFiles.Decimal.Shortest
import GoldenFiles.Decimal.Style
import GoldenFiles.Discovery
import GoldenFiles.Duration
import GoldenFiles.Error
import GoldenFiles.FileSystem.Access
import GoldenFiles.FileSystem.Basic
import GoldenFiles.FileSystem.Directory
import GoldenFiles.FileSystem.Error
import GoldenFiles.FileSystem.Lookup
import GoldenFiles.FileSystem.Update
import GoldenFiles.Json
import GoldenFiles.Main
import GoldenFiles.Naming.CaseId
import GoldenFiles.Naming.Classification
import GoldenFiles.Naming.Scheme
import GoldenFiles.Path.Basic
import GoldenFiles.Program.Escape
import GoldenFiles.Program.Floating
import GoldenFiles.Program.Format
import GoldenFiles.Program.Image
import GoldenFiles.Program.Number
import GoldenFiles.Program.Process
import GoldenFiles.Program.Quoting
import GoldenFiles.Program.Utility.Basic
import GoldenFiles.Program.Utility.Concatenate
import GoldenFiles.Program.Utility.Files
import GoldenFiles.Program.Utility.Pause
import GoldenFiles.Program.Utility.Print
import GoldenFiles.Program.Utility.Table
import GoldenFiles.Proofs.CommandLine.Arguments
import GoldenFiles.Proofs.CommandLine.Layering
import GoldenFiles.Proofs.CommandLine.Ordering
import GoldenFiles.Proofs.CommandLine.Outcome
import GoldenFiles.Proofs.CommandLine.Spelling
import GoldenFiles.Proofs.Config.Accepted
import GoldenFiles.Proofs.Config.Assignment
import GoldenFiles.Proofs.Config.Directories
import GoldenFiles.Proofs.Config.Written
import GoldenFiles.Proofs.Content.Alignment
import GoldenFiles.Proofs.Content.Comparison
import GoldenFiles.Proofs.Content.Display
import GoldenFiles.Proofs.Content.Editing
import GoldenFiles.Proofs.Content.Lines
import GoldenFiles.Proofs.Decimal.Numeral
import GoldenFiles.Proofs.Discovery
import GoldenFiles.Proofs.Discovery.Unrelated
import GoldenFiles.Proofs.FileSystem.Adding
import GoldenFiles.Proofs.FileSystem.Entries
import GoldenFiles.Proofs.FileSystem.Links
import GoldenFiles.Proofs.FileSystem.Listing
import GoldenFiles.Proofs.FileSystem.Making
import GoldenFiles.Proofs.FileSystem.Opening
import GoldenFiles.Proofs.FileSystem.Reaching
import GoldenFiles.Proofs.FileSystem.Shared
import GoldenFiles.Proofs.FileSystem.Walk
import GoldenFiles.Proofs.Json.Grammar
import GoldenFiles.Proofs.Json.Printing
import GoldenFiles.Proofs.Json.Reading
import GoldenFiles.Proofs.Naming.Aliasing
import GoldenFiles.Proofs.Naming.Artifacts
import GoldenFiles.Proofs.Naming.Grammar
import GoldenFiles.Proofs.Naming.Names
import GoldenFiles.Proofs.Naming.Numbers
import GoldenFiles.Proofs.Naming.Order
import GoldenFiles.Proofs.Path.Components
import GoldenFiles.Proofs.Path.Parents
import GoldenFiles.Proofs.Path.Text
import GoldenFiles.Proofs.Report.CaseLines
import GoldenFiles.Proofs.Report.Difference
import GoldenFiles.Proofs.Report.Document
import GoldenFiles.Proofs.Report.Numbering
import GoldenFiles.Proofs.Report.Painting
import GoldenFiles.Proofs.Report.Recovery
import GoldenFiles.Proofs.Report.Rendering
import GoldenFiles.Proofs.Report.Status
import GoldenFiles.Proofs.Run.Arrangement
import GoldenFiles.Proofs.Run.Confined
import GoldenFiles.Proofs.Run.Extending
import GoldenFiles.Proofs.Run.Guarded
import GoldenFiles.Proofs.Run.Isolated
import GoldenFiles.Proofs.Run.Judged
import GoldenFiles.Proofs.Run.Planned
import GoldenFiles.Proofs.Run.Pool
import GoldenFiles.Proofs.Run.Repeated
import GoldenFiles.Proofs.Run.Sharing
import GoldenFiles.Proofs.Run.Stale
import GoldenFiles.Proofs.Run.Writing
import GoldenFiles.Proofs.Sorting
import GoldenFiles.Proofs.Text.Decoding
import GoldenFiles.Proofs.Text.Lossy
import GoldenFiles.Proofs.Text.Order
import GoldenFiles.Proofs.Text.Pieces
import GoldenFiles.Proofs.Text.Separated
import GoldenFiles.Proofs.Yaml.Lexed
import GoldenFiles.Proofs.Yaml.Parsed
import GoldenFiles.Proofs.Yaml.Scanned
import GoldenFiles.Proofs.Yaml.Written
import GoldenFiles.Report.Document
import GoldenFiles.Report.Listing
import GoldenFiles.Report.Styled
import GoldenFiles.Report.Summary
import GoldenFiles.Report.Verdict
import GoldenFiles.Run.Case
import GoldenFiles.Run.Executor
import GoldenFiles.Run.Pool
import GoldenFiles.Run.Subprocess
import GoldenFiles.Run.Suite
import GoldenFiles.Shell.Arithmetic
import GoldenFiles.Shell.Builtin.Basic
import GoldenFiles.Shell.Builtin.Description
import GoldenFiles.Shell.Builtin.Directory
import GoldenFiles.Shell.Builtin.Input
import GoldenFiles.Shell.Builtin.Print
import GoldenFiles.Shell.Builtin.Table
import GoldenFiles.Shell.Builtin.Variable
import GoldenFiles.Shell.Call
import GoldenFiles.Shell.Command
import GoldenFiles.Shell.Expansion
import GoldenFiles.Shell.Launch
import GoldenFiles.Shell.Pattern
import GoldenFiles.Shell.Reader
import GoldenFiles.Shell.Redirect
import GoldenFiles.Shell.Run
import GoldenFiles.Shell.Setting
import GoldenFiles.Shell.Signal
import GoldenFiles.Shell.State
import GoldenFiles.Shell.Test
import GoldenFiles.Shell.Token
import GoldenFiles.Sorting
import GoldenFiles.Text.Alphanumeric
import GoldenFiles.Text.Columns
import GoldenFiles.Text.ControlSequence
import GoldenFiles.Text.LineBreak.Class
import GoldenFiles.Text.LineBreak.Rule
import GoldenFiles.Text.LineBreak.Table
import GoldenFiles.Text.Ranges
import GoldenFiles.Text.Separated
import GoldenFiles.Text.Utf8
import GoldenFiles.Text.Wrapping
import GoldenFiles.Yaml.Block
import GoldenFiles.Yaml.Folding
import GoldenFiles.Yaml.Node
import GoldenFiles.Yaml.Plain
import GoldenFiles.Yaml.Property
import GoldenFiles.Yaml.Quoted
import GoldenFiles.Yaml.Source
import GoldenFiles.Yaml.Token
import GoldenFiles.Yaml.Value
