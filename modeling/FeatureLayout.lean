import FeatureLayout.Ledger
import FeatureLayout.Text.Blank
import FeatureLayout.Text.Slice
import FeatureLayout.Text.Order
import FeatureLayout.Path
import FeatureLayout.Pattern
import FeatureLayout.Text.Quoted
import FeatureLayout.Text.Glob
import FeatureLayout.Text.Case
import FeatureLayout.Text.Digit
import FeatureLayout.Text.Width
import FeatureLayout.Text.Word
import FeatureLayout.Code.Module
import FeatureLayout.Code.Strings
import FeatureLayout.Code.Arguments
import FeatureLayout.Scope.Value
import FeatureLayout.Scope.Basic
import FeatureLayout.Edit
import FeatureLayout.Persistence.Call
import FeatureLayout.Diagnostic
import FeatureLayout.Scope.Config
import FeatureLayout.Json
import FeatureLayout.Graph.Components
import FeatureLayout.Graph.Chain
import FeatureLayout.Graph.Usage
import FeatureLayout.Layout
import FeatureLayout.Index.Resolve
import FeatureLayout.Rewrite.Staged
import FeatureLayout.Validation
import FeatureLayout.Index.Build
import FeatureLayout.Disk.Memory
import FeatureLayout.Disk.Staging
import FeatureLayout.Migration
import FeatureLayout.Toml.Reader
import FeatureLayout.Console.Screen
import FeatureLayout.Scope.Load
import FeatureLayout.CommandLine
import FeatureLayout.ToolServer
import FeatureLayout.Main
import FeatureLayout.Proofs.Basic
import FeatureLayout.Proofs.Ledger
import FeatureLayout.Proofs.Graph.Search
import FeatureLayout.Proofs.Graph.Operations
import FeatureLayout.Proofs.Graph.Components
import FeatureLayout.Proofs.Graph.Condensation
import FeatureLayout.Proofs.Scope.Config
import FeatureLayout.Proofs.Classification.Reaching
import FeatureLayout.Proofs.Classification.Exact
import FeatureLayout.Proofs.Graph.Usage
import FeatureLayout.Proofs.Layout
import FeatureLayout.Proofs.Classification.Along
import FeatureLayout.Proofs.Rewrite.Imports
import FeatureLayout.Proofs.Path
import FeatureLayout.Proofs.Disk.Memory
import FeatureLayout.Proofs.Disk.Actions
import FeatureLayout.Proofs.Disk.Staging
import FeatureLayout.Proofs.Disk.Commit
import FeatureLayout.Proofs.Index.Build
import FeatureLayout.Proofs.Destinations
import FeatureLayout.Proofs.Rewrite.Staged
import FeatureLayout.Proofs.Migration
import FeatureLayout.Proofs.Pattern.Hole
import FeatureLayout.Proofs.Pattern.Search
import FeatureLayout.Proofs.Code.Specifier
import FeatureLayout.Proofs.Code.Import
import FeatureLayout.Proofs.Code.Replaced
import FeatureLayout.Proofs.Code.Comments
import FeatureLayout.Proofs.Code.Edited
import FeatureLayout.Proofs.Index.Consistent
import FeatureLayout.Proofs.Validation.Edges
import FeatureLayout.Proofs.Persistence.Call
import FeatureLayout.Proofs.Persistence.Binding
import FeatureLayout.Proofs.Persistence.Substitution
import FeatureLayout.Proofs.Persistence.Accounted
import FeatureLayout.Proofs.Validation.Crossings
import FeatureLayout.Proofs.Rewrite.Resolved
import FeatureLayout.Proofs.Code.Standing
import FeatureLayout.Proofs.Pattern.Named
import FeatureLayout.Proofs.Persistence.Storage
import FeatureLayout.Proofs.Validation.Residues
import FeatureLayout.Proofs.Disk.Outcome
import FeatureLayout.Proofs.Disk.Runs
import FeatureLayout.Proofs.Disk.Tree
import FeatureLayout.Proofs.Disk.Follow
import FeatureLayout.Proofs.Disk.Refill
import FeatureLayout.Proofs.Analysis
import FeatureLayout.Proofs.Contained
import FeatureLayout.Proofs.Validation.Collected
import FeatureLayout.Proofs.Repeated
import FeatureLayout.Proofs.Graph.Partition
import FeatureLayout.Proofs.Graph.Quotient
import FeatureLayout.Proofs.Graph.Chain
import FeatureLayout.Proofs.Classification.Explained
import FeatureLayout.Proofs.Disk.Mishap
import FeatureLayout.Proofs.Disk.Confined
import FeatureLayout.Proofs.Disk.AllOrNothing
import FeatureLayout.Proofs.Edit.Applied
import FeatureLayout.Proofs.Rewrite.Apart
import FeatureLayout.Proofs.Pattern.Shared
import FeatureLayout.Proofs.Code.Layer
import FeatureLayout.Proofs.Pattern.Unnested
import FeatureLayout.Proofs.Persistence.Quoted
import FeatureLayout.Proofs.Code.Literal
import FeatureLayout.Proofs.Code.Brackets
import FeatureLayout.Proofs.Code.Inserted
import FeatureLayout.Proofs.Persistence.Closed
import FeatureLayout.Proofs.Persistence.Answered
import FeatureLayout.Proofs.Persistence.Processed
import FeatureLayout.Proofs.Persistence.Rendered
import FeatureLayout.Proofs.Persistence.Imported
import FeatureLayout.Proofs.Planned
import FeatureLayout.Proofs.Index.Followed
import FeatureLayout.Proofs.Code.Separated
import FeatureLayout.Proofs.Text.Words
import FeatureLayout.Proofs.Pattern.Spelled
import FeatureLayout.Proofs.Code.Heading
import FeatureLayout.Proofs.Code.Printed
import FeatureLayout.Proofs.Code.Forms
import FeatureLayout.Proofs.Code.Lines
import FeatureLayout.Proofs.Code.Declared
import FeatureLayout.Proofs.Graph.Recorded
import FeatureLayout.Proofs.Validation.Pages
import FeatureLayout.Proofs.Code.Nesting
import FeatureLayout.Proofs.Validation.Literals
import FeatureLayout.Proofs.Scope.Accepted
import FeatureLayout.Proofs.Graph.Mirrored
import FeatureLayout.Proofs.Text.Sorted
import FeatureLayout.Proofs.Report
import FeatureLayout.Proofs.Code.Masked
import FeatureLayout.Proofs.Code.Extent
