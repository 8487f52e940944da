import NodeFlow.Table
import NodeFlow.Text.Blank
import NodeFlow.Text.Lines
import NodeFlow.Number.Binary64
import NodeFlow.Number.Shortest
import NodeFlow.Json.Basic
import NodeFlow.Json.Printer
import NodeFlow.Json.Numeral
import NodeFlow.Json.Token
import NodeFlow.Json.Tree
import NodeFlow.Json.Shape
import NodeFlow.Json.Decode
import NodeFlow.Timestamp
import NodeFlow.Port
import NodeFlow.Record
import NodeFlow.Template
import NodeFlow.Snapshot
import NodeFlow.Event
import NodeFlow.Config
import NodeFlow.Backend.Kind
import NodeFlow.Backend.Result
import NodeFlow.Backend.Envelope
import NodeFlow.Text.Upper
import NodeFlow.Backend.ShellCall
import NodeFlow.Editor.Mode
import NodeFlow.Editor.Structure
import NodeFlow.Editor.View
import NodeFlow.Editor.Debounce
import NodeFlow.Editor.Surface
import NodeFlow.ModelError
import NodeFlow.Graph.Basic
import NodeFlow.Graph.Order
import NodeFlow.Graph.Blob
import NodeFlow.Registry
import NodeFlow.Workbench
import NodeFlow.Backend.Request
import NodeFlow.Execution.Engine
import NodeFlow.Execution.Rehearsal
import NodeFlow.Execution.Turns
import NodeFlow.Editor.Session
import NodeFlow.Editor.Desk
import NodeFlow.Editor.Loop
import NodeFlow.Text.Units
import NodeFlow.Script.Num
import NodeFlow.Script.Value
import NodeFlow.Script.Library
import NodeFlow.Script.Expr
import NodeFlow.Text.Visible
import NodeFlow.Text.Name
import NodeFlow.Script.Token
import NodeFlow.Script.Grammar
import NodeFlow.Script.State
import NodeFlow.Script.Convert
import NodeFlow.Script.Builtin
import NodeFlow.Script.Eval
import NodeFlow.Script.Json
import NodeFlow.Script.Result
import NodeFlow.Backend.Commands
import NodeFlow.Files.Basic
import NodeFlow.Text.Utf8
import NodeFlow.Files.Tree
import NodeFlow.Host.Error
import NodeFlow.Host.Argument
import NodeFlow.Shell.Dialect
import NodeFlow.Shell.Octets
import NodeFlow.Shell.Command
import NodeFlow.Shell.Reader
import NodeFlow.Shell.Words
import NodeFlow.Shell.Clause
import NodeFlow.Shell.Grammar
import NodeFlow.Shell.Decimal
import NodeFlow.Shell.Quote
import NodeFlow.Shell.Printing
import NodeFlow.Shell.Listing
import NodeFlow.Shell.Variable
import NodeFlow.Shell.State
import NodeFlow.Shell.Parameters
import NodeFlow.Shell.Arithmetic
import NodeFlow.Shell.Assign
import NodeFlow.Shell.Paths
import NodeFlow.Shell.Builtin.Basic
import NodeFlow.Shell.Declaration
import NodeFlow.Shell.Builtin.Values
import NodeFlow.Shell.Builtin.Signals
import NodeFlow.Shell.Snippet
import NodeFlow.Shell.Event
import NodeFlow.Shell.Brace
import NodeFlow.Shell.Pattern
import NodeFlow.Shell.Field
import NodeFlow.Shell.Expand
import NodeFlow.Shell.Redirection
import NodeFlow.Shell.Apart
import NodeFlow.Shell.Builtin.Names
import NodeFlow.Shell.Builtin.Jobs
import NodeFlow.Shell.Builtin.Leaving
import NodeFlow.Shell.Builtin.Places
import NodeFlow.Shell.Builtin.Reading
import NodeFlow.Shell.Regex
import NodeFlow.Shell.Condition
import NodeFlow.Shell.Builtin.Habits
import NodeFlow.Shell.Start
import NodeFlow.Shell.Call
import NodeFlow.Shell.Simple
import NodeFlow.Shell.Compound
import NodeFlow.Shell.Timing
import NodeFlow.Shell.Run
import NodeFlow.Program
import NodeFlow.Host.WorkflowFile
import NodeFlow.Host.ConfigFile
import NodeFlow.Host.Basic
import NodeFlow.CommandLine.Grammar
import NodeFlow.CommandLine.Given
import NodeFlow.CommandLine.Command
import NodeFlow.CommandLine.Help
import NodeFlow.CommandLine.Run
import NodeFlow.Main
import NodeFlow.Proofs.Lists
import NodeFlow.Proofs.Text
import NodeFlow.Proofs.Table
import NodeFlow.Proofs.Decimal
import NodeFlow.Proofs.Decode
import NodeFlow.Proofs.Record
import NodeFlow.Proofs.Graph.Operations
import NodeFlow.Proofs.Graph.WellFormed
import NodeFlow.Proofs.Graph.Blob
import NodeFlow.Proofs.Graph.Order
import NodeFlow.Proofs.Registry.Operations
import NodeFlow.Proofs.Registry.Identifiers
import NodeFlow.Proofs.Registry.WellFormed
import NodeFlow.Proofs.Registry.Load
import NodeFlow.Proofs.Workbench.Consistent
import NodeFlow.Proofs.Workbench.Ports
import NodeFlow.Proofs.Workbench.Nodes
import NodeFlow.Proofs.Workbench.Import
import NodeFlow.Proofs.Editor.Canonical
import NodeFlow.Proofs.Editor.Commands
import NodeFlow.Proofs.Editor.Echo
import NodeFlow.Proofs.Execution.Writes
import NodeFlow.Proofs.Execution.Inputs
import NodeFlow.Proofs.Execution.Cycle
import NodeFlow.Proofs.Execution.Locks
import NodeFlow.Proofs.Execution.Pass
import NodeFlow.Proofs.Workbench.Reachable
import NodeFlow.Proofs.Workbench.Shared
import NodeFlow.Proofs.Workbench.Handles
import NodeFlow.Proofs.Execution.Solution
import NodeFlow.Proofs.Graph.Reached
import NodeFlow.Proofs.Registry.Mutual
import NodeFlow.Proofs.Editor.Groups
import NodeFlow.Proofs.Editor.Loop
import NodeFlow.Proofs.Editor.Steady
import NodeFlow.Proofs.Timestamp.Calendar
import NodeFlow.Proofs.Timestamp.Text
import NodeFlow.Proofs.Snapshot
import NodeFlow.Proofs.Files
import NodeFlow.Proofs.Workbench.RoundTrip
import NodeFlow.Proofs.Graph.Ports
import NodeFlow.Proofs.Graph.Shown
import NodeFlow.Proofs.Graph.Following
import NodeFlow.Proofs.Workbench.SavedCode
import NodeFlow.Proofs.Execution.Steps
import NodeFlow.Proofs.Execution.Protocol
import NodeFlow.Proofs.Execution.Confined
import NodeFlow.Proofs.Execution.Moves
import NodeFlow.Proofs.Execution.Logged
import NodeFlow.Proofs.Execution.Serial
import NodeFlow.Proofs.Execution.Overlap
import NodeFlow.Proofs.Execution.Independent
import NodeFlow.Proofs.Execution.Schedules
import NodeFlow.Proofs.Graph.Released
import NodeFlow.Proofs.Registry.Removal
import NodeFlow.Proofs.Execution.Removal
import NodeFlow.Proofs.Graph.Legible
import NodeFlow.Proofs.Workbench.Normal
import NodeFlow.Proofs.Editor.Written
import NodeFlow.Proofs.Editor.Commits
import NodeFlow.Proofs.Editor.Rows
import NodeFlow.Proofs.Editor.Grammar
import NodeFlow.Proofs.Graph.Fresh
import NodeFlow.Proofs.Editor.Unchanged
import NodeFlow.Proofs.Host.Editing
import NodeFlow.Proofs.Backend.Outputs
import NodeFlow.Proofs.Backend.Inputs
import NodeFlow.Proofs.Editor.Starter
import NodeFlow.Proofs.Execution.Numbering
import NodeFlow.Proofs.Workbench.Outputs
import NodeFlow.Proofs.Execution.Latched
import NodeFlow.Proofs.Workbench.Stopped
import NodeFlow.Proofs.Registry.Listed
import NodeFlow.Proofs.Forms
import NodeFlow.Proofs.Json.Numeral
import NodeFlow.Proofs.Json.Compact
import NodeFlow.Proofs.Backend.Reply
import NodeFlow.Proofs.Editor.Debounced
import NodeFlow.Proofs.Editor.Presented
import NodeFlow.Proofs.Json.Reading
import NodeFlow.Proofs.Script.Printed
import NodeFlow.Proofs.Script.ReadBack
