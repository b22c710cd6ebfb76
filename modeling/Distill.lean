import Distill.Build.Job
import Distill.Build.Package
import Distill.Build.Run
import Distill.Build.Sources
import Distill.Calendar
import Distill.Compiler
import Distill.Completion
import Distill.Concrete.Arrow
import Distill.Concrete.Binding
import Distill.Concrete.Decoration
import Distill.Concrete.Emit
import Distill.Concrete.EmitExpression
import Distill.Concrete.EmitStatement
import Distill.Concrete.Expression
import Distill.Concrete.Grammar
import Distill.Concrete.Item
import Distill.Concrete.Layout
import Distill.Concrete.Lists
import Distill.Concrete.Member
import Distill.Concrete.Modifier
import Distill.Concrete.Page
import Distill.Concrete.Reader
import Distill.Concrete.Statement
import Distill.Concrete.Token
import Distill.Concrete.Tree
import Distill.Concrete.Type
import Distill.Concrete.Wrapping
import Distill.Concrete.Writer
import Distill.Disk
import Distill.Failure
import Distill.FileTree
import Distill.FileTree.Change
import Distill.Glob
import Distill.Glob.Base
import Distill.Glob.Listing
import Distill.Glob.Segment
import Distill.Json
import Distill.Log
import Distill.Main
import Distill.Manifest
import Distill.Module.Basic
import Distill.Module.Parse
import Distill.Options
import Distill.Output
import Distill.Package
import Distill.Path
import Distill.Program
import Distill.Proofs.Build.Accounting
import Distill.Proofs.Build.Actions
import Distill.Proofs.Build.Agreement
import Distill.Proofs.Build.Canceled
import Distill.Proofs.Build.Conflict
import Distill.Proofs.Build.Crew
import Distill.Proofs.Build.Failures
import Distill.Proofs.Build.Finish
import Distill.Proofs.Build.FirstFailure
import Distill.Proofs.Build.InOrder
import Distill.Proofs.Build.Interleaving
import Distill.Proofs.Build.Interrupted
import Distill.Proofs.Build.Job
import Distill.Proofs.Build.Output
import Distill.Proofs.Build.Paths
import Distill.Proofs.Build.Repeat
import Distill.Proofs.Build.Scheduled
import Distill.Proofs.Build.Siblings
import Distill.Proofs.Build.Sources
import Distill.Proofs.Build.Stale
import Distill.Proofs.Build.Times
import Distill.Proofs.Collector
import Distill.Proofs.Disk
import Distill.Proofs.Disk.Homing
import Distill.Proofs.Failure
import Distill.Proofs.FileTree
import Distill.Proofs.Glob.Base
import Distill.Proofs.Glob.Expand
import Distill.Proofs.Glob.Matching
import Distill.Proofs.Glob.Reworded
import Distill.Proofs.Json.Envelope
import Distill.Proofs.Json.Reader
import Distill.Proofs.Manifest.Reading
import Distill.Proofs.Manifest.Shape
import Distill.Proofs.Manifest.Verdict
import Distill.Proofs.Module.Clause
import Distill.Proofs.Module.Explicit
import Distill.Proofs.Module.Parsed
import Distill.Proofs.Module.Reparse
import Distill.Proofs.Path.Extension
import Distill.Proofs.Path.Leads
import Distill.Proofs.Path.Segments
import Distill.Proofs.Program
import Distill.Proofs.Report
import Distill.Proofs.Script.Stream
import Distill.Proofs.Script.Token
import Distill.Proofs.Specifier
import Distill.Proofs.Text.Composition
import Distill.Proofs.Text.Repair
import Distill.Proofs.Text.Utf8
import Distill.Proofs.Timing
import Distill.Proofs.TypeScript.Refusal
import Distill.Proofs.Workspace.Confinement
import Distill.Proofs.Workspace.Kept
import Distill.Proofs.Workspace.Outputs
import Distill.Proofs.Workspace.Progress
import Distill.Proofs.Workspace.Rebuild
import Distill.Proofs.Workspace.Refusal
import Distill.Proofs.Workspace.Resolve
import Distill.Proofs.Workspace.Root
import Distill.Proofs.Workspace.Selection
import Distill.Proofs.Yaml.Literal
import Distill.Proofs.Yaml.Node
import Distill.Proofs.Yaml.Value
import Distill.Report
import Distill.RunId
import Distill.Script.Binding
import Distill.Script.Expression
import Distill.Script.Function
import Distill.Script.Grammar
import Distill.Script.Parse
import Distill.Script.Print
import Distill.Script.Scope
import Distill.Script.Statement
import Distill.Script.Stream
import Distill.Script.Token
import Distill.Script.Tree
import Distill.Specifier
import Distill.Text.Base64
import Distill.Text.Canonical
import Distill.Text.Composition
import Distill.Text.Decimal
import Distill.Text.Digits
import Distill.Text.Integer
import Distill.Text.Letter
import Distill.Text.Printable
import Distill.Text.Quoted
import Distill.Text.Remainder
import Distill.Text.Sorted
import Distill.Text.Utf8
import Distill.Timing
import Distill.TypeScript.Arrange
import Distill.TypeScript.Binding
import Distill.TypeScript.Comment
import Distill.TypeScript.Constant
import Distill.TypeScript.Effect
import Distill.TypeScript.Expression
import Distill.TypeScript.Fold
import Distill.TypeScript.Function
import Distill.TypeScript.Global
import Distill.TypeScript.Grammar
import Distill.TypeScript.Hoist
import Distill.TypeScript.Item
import Distill.TypeScript.Literal
import Distill.TypeScript.Lookup
import Distill.TypeScript.Member
import Distill.TypeScript.Normal
import Distill.TypeScript.Outcome
import Distill.TypeScript.Parse
import Distill.TypeScript.Problem
import Distill.TypeScript.Rename
import Distill.TypeScript.Resolve
import Distill.TypeScript.Resolved
import Distill.TypeScript.Source
import Distill.TypeScript.Statement
import Distill.TypeScript.Symbol
import Distill.TypeScript.Token
import Distill.TypeScript.Tree
import Distill.TypeScript.Type
import Distill.TypeScript.Write
import Distill.TypeScript.Written
import Distill.Workspace.Expand
import Distill.Workspace.Resolve
import Distill.Workspace.Root
import Distill.Yaml.Cursor
import Distill.Yaml.Encoding
import Distill.Yaml.Literal
import Distill.Yaml.Node
import Distill.Yaml.Number
import Distill.Yaml.Scalar
import Distill.Yaml.Tag
import Distill.Yaml.Timestamp
import Distill.Yaml.Token
import Distill.Yaml.Value
