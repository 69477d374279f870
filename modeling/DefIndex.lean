import DefIndex.CommandLine
import DefIndex.Comment
import DefIndex.Completion
import DefIndex.Definition
import DefIndex.Diagnostic
import DefIndex.Discovery
import DefIndex.Disk
import DefIndex.Document
import DefIndex.EditDistance
import DefIndex.Environment
import DefIndex.Event
import DefIndex.Glob
import DefIndex.Host
import DefIndex.Ignore
import DefIndex.IgnoreWalk
import DefIndex.Invocation
import DefIndex.JsonValue
import DefIndex.Kind
import DefIndex.Location
import DefIndex.Main
import DefIndex.Outline
import DefIndex.Path
import DefIndex.Pattern
import DefIndex.Proofs.DraftStep
import DefIndex.Proofs.EventOrder
import DefIndex.Proofs.Nesting
import DefIndex.Proofs.Token
import DefIndex.Publisher
import DefIndex.Reference
import DefIndex.Scope
import DefIndex.Session
import DefIndex.Settings
import DefIndex.Snapshot
import DefIndex.Sorting
import DefIndex.Splice
import DefIndex.Statement
import DefIndex.Suggestion
import DefIndex.Table
import DefIndex.Text.Alphabetic
import DefIndex.Text.Basic
import DefIndex.Text.Canonical
import DefIndex.Text.Case
import DefIndex.Text.CaseRun
import DefIndex.Text.Cased
import DefIndex.Text.CharClass
import DefIndex.Text.CodeBlock
import DefIndex.Text.CodeRange
import DefIndex.Text.Compose
import DefIndex.Text.Joining
import DefIndex.Text.Nonspacing
import DefIndex.Text.Numeric
import DefIndex.Text.Quoted
import DefIndex.Text.Recent
import DefIndex.Text.Unassigned
import DefIndex.Text.Utf8
import DefIndex.Toml
import DefIndex.Toml.Moment
import DefIndex.Toml.Number
import DefIndex.Toml.Quoted
import DefIndex.Toml.Tree
import DefIndex.Uri
import DefIndex.Uri.Domain
import DefIndex.Uri.Domain.Direction
import DefIndex.Uri.Domain.Joiner
import DefIndex.Uri.Domain.Mapping
import DefIndex.Uri.Escape
import DefIndex.Uri.Host
import DefIndex.Uri.Punycode
import DefIndex.Walker
import DefIndex.Workspace
import DefIndex.Proofs.Dotted
import DefIndex.Proofs.Scoping
import DefIndex.Proofs.WellFormed
import DefIndex.Proofs.Forest
import DefIndex.Proofs.Unfolding
import DefIndex.Proofs.ImportGraph
import DefIndex.Proofs.Layout
import DefIndex.Proofs.Multiplicity
import DefIndex.Proofs.Instances
import DefIndex.Proofs.Phrase
import DefIndex.Proofs.Sketch
import DefIndex.Proofs.RoundTrip
import DefIndex.Proofs.Arena
import DefIndex.Proofs.Rebuilds
import DefIndex.Proofs.Reports
import DefIndex.Proofs.ClientView
import DefIndex.Proofs.Marks
import DefIndex.Proofs.Provenance
import DefIndex.Proofs.Slices
import DefIndex.Proofs.Indexes
import DefIndex.Proofs.References
import DefIndex.Proofs.Braces
import DefIndex.Proofs.Blocks
import DefIndex.Proofs.Problems
import DefIndex.Proofs.Positions
import DefIndex.Proofs.Replacement
import DefIndex.Proofs.Fixes
import DefIndex.Proofs.Prefixes
import DefIndex.Proofs.Loading
import DefIndex.Proofs.Resumption
import DefIndex.Proofs.Cursor
import DefIndex.Proofs.Verdict
import DefIndex.Proofs.Candidates
import DefIndex.Proofs.Ownership
import DefIndex.Proofs.Blanking
import DefIndex.Proofs.Sync
import DefIndex.Proofs.Edits
import DefIndex.Proofs.Matching
import DefIndex.Proofs.Ranking
import DefIndex.Proofs.Neighbours
import DefIndex.Proofs.Declared
import DefIndex.Proofs.KeywordFixes
import DefIndex.Proofs.NormalForm
import DefIndex.Proofs.FullNames
import DefIndex.Proofs.Routes
import DefIndex.Proofs.Enclosing
import DefIndex.Proofs.LooseSearch
import DefIndex.Proofs.LineEnd
import DefIndex.Proofs.Parentheses
import DefIndex.Proofs.Stretches
import DefIndex.Proofs.Trees
import DefIndex.Proofs.Walkers
import DefIndex.Proofs.NameGlobs
import DefIndex.Proofs.PrunedWalk
import DefIndex.Proofs.SourceFiles
