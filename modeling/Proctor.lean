import Proctor.Artifact
import Proctor.Cause
import Proctor.CommandLine.Help
import Proctor.CommandLine.Options
import Proctor.CommandLine.Parser
import Proctor.CommandLine.Refusal
import Proctor.CommandLine.Vocabulary
import Proctor.Console
import Proctor.Decimal.Binary
import Proctor.Decimal.Layout
import Proctor.Decimal.Power
import Proctor.Decimal.Quantity
import Proctor.Decimal.Shortest
import Proctor.Discovery
import Proctor.Drain
import Proctor.Duration
import Proctor.Expected
import Proctor.Files.Change
import Proctor.Files.Node
import Proctor.Files.Resolve
import Proctor.Host
import Proctor.Machine.Builtin
import Proctor.Machine.Builtin.Basic
import Proctor.Machine.Builtin.Place
import Proctor.Machine.Builtin.Processes
import Proctor.Machine.Builtin.Variables
import Proctor.Machine.Command
import Proctor.Machine.Interpreter
import Proctor.Machine.Launch
import Proctor.Machine.Load
import Proctor.Machine.Process
import Proctor.Machine.Schedule
import Proctor.Machine.Signal
import Proctor.Machine.Turn
import Proctor.Main
import Proctor.Mismatch
import Proctor.Path
import Proctor.Pipeline
import Proctor.Problem
import Proctor.Process
import Proctor.Program
import Proctor.Proofs.Build.Execution
import Proctor.Proofs.Build.Isolation
import Proctor.Proofs.Build.Names
import Proctor.Proofs.Build.Places
import Proctor.Proofs.Build.Stages
import Proctor.Proofs.CommandLine.Phrases
import Proctor.Proofs.Console.Output
import Proctor.Proofs.Console.Transcript
import Proctor.Proofs.Discovery.Listing
import Proctor.Proofs.Drain.Interleaving
import Proctor.Proofs.Expected.Annotations
import Proctor.Proofs.Expected.Bytes
import Proctor.Proofs.Expected.Lines
import Proctor.Proofs.Expected.Writing
import Proctor.Proofs.Path.Components
import Proctor.Proofs.Path.Location
import Proctor.Proofs.Path.Shown
import Proctor.Proofs.Report.History
import Proctor.Proofs.Report.Readable
import Proctor.Proofs.Report.Reasons
import Proctor.Proofs.Settings.Layers
import Proctor.Proofs.Settings.Written
import Proctor.Proofs.Suite.Attempts
import Proctor.Proofs.Suite.Events
import Proctor.Proofs.Suite.Filter
import Proctor.Proofs.Suite.Moments
import Proctor.Proofs.Suite.Policy
import Proctor.Proofs.Suite.Protocol
import Proctor.Proofs.Suite.Specification
import Proctor.Proofs.Text.Numerals
import Proctor.Proofs.Text.Quoted
import Proctor.Proofs.Text.Utf8.Ascii
import Proctor.Proofs.Text.Utf8.Encoding
import Proctor.Proofs.Text.Utf8.Reading
import Proctor.Proofs.Workspace.Preparation
import Proctor.Proofs.Workspace.Scratch
import Proctor.Proofs.Workspace.Steps
import Proctor.Regex.Match
import Proctor.Regex.Read
import Proctor.Reporter
import Proctor.Selection
import Proctor.Settings.Basic
import Proctor.Settings.Overlay
import Proctor.Settings.Schema
import Proctor.Shell.Arithmetic
import Proctor.Shell.Condition
import Proctor.Shell.Context
import Proctor.Shell.Escape
import Proctor.Shell.Expansion
import Proctor.Shell.Lexer
import Proctor.Shell.Parser
import Proctor.Shell.Pattern
import Proctor.Shell.Script
import Proctor.Shell.Switch
import Proctor.Shell.Text
import Proctor.Shell.User
import Proctor.Signal
import Proctor.Suite
import Proctor.Tally
import Proctor.Text.Blank
import Proctor.Text.Quoted
import Proctor.Text.Terminal
import Proctor.Text.Unprintable
import Proctor.Text.Utf8
import Proctor.Toml.Document
import Proctor.Toml.Moment
import Proctor.Toml.Number
import Proctor.Toml.Statement
import Proctor.Toml.Table
import Proctor.Toml.Text
import Proctor.Toml.Value
import Proctor.Tool.Alignment
import Proctor.Tool.Alike
import Proctor.Tool.Awk
import Proctor.Tool.Awk.Calculation
import Proctor.Tool.Awk.Expression
import Proctor.Tool.Awk.Machine
import Proctor.Tool.Awk.Program
import Proctor.Tool.Awk.Statement
import Proctor.Tool.Awk.Token
import Proctor.Tool.Awk.Value
import Proctor.Tool.Calendar
import Proctor.Tool.Canonical
import Proctor.Tool.Characters
import Proctor.Tool.Copy
import Proctor.Tool.Difference
import Proctor.Tool.Digest
import Proctor.Tool.Dump
import Proctor.Tool.EditScript
import Proctor.Tool.Editing
import Proctor.Tool.Encoding
import Proctor.Tool.Expression
import Proctor.Tool.Fields
import Proctor.Tool.Finding
import Proctor.Tool.Lines
import Proctor.Tool.Listing
import Proctor.Tool.Manage
import Proctor.Tool.Options
import Proctor.Tool.Passing
import Proctor.Tool.Permission
import Proctor.Tool.Plain
import Proctor.Tool.Precedence
import Proctor.Tool.Quoting
import Proctor.Tool.Running
import Proctor.Tool.Search
import Proctor.Tool.Sequence
import Proctor.Tool.Sorting
import Proctor.Tool.Table
import Proctor.Tool.Work
import Proctor.Toolchain
import Proctor.Verdict
import Proctor.Workspace
