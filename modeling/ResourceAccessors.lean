import ResourceAccessors.Accessor.Name
import ResourceAccessors.Artifact.Name
import ResourceAccessors.Artifact.Output
import ResourceAccessors.Build
import ResourceAccessors.BuildOptions
import ResourceAccessors.Config
import ResourceAccessors.Declaration.Extraction
import ResourceAccessors.Declaration.Hook
import ResourceAccessors.Declaration.ModulePath
import ResourceAccessors.Declaration.Site
import ResourceAccessors.Disk.Basic
import ResourceAccessors.Disk.Change
import ResourceAccessors.Disk.Error
import ResourceAccessors.Disk.Listing
import ResourceAccessors.Disk.Resolution
import ResourceAccessors.Embedded.Manifest
import ResourceAccessors.Embedded.ReadError
import ResourceAccessors.Embedded.Slot
import ResourceAccessors.Failure
import ResourceAccessors.FilePath.Basic
import ResourceAccessors.FilePath.Bytes
import ResourceAccessors.FilePath.FileName
import ResourceAccessors.FilePath.Normal
import ResourceAccessors.FilePath.Order
import ResourceAccessors.Generation.Cancellation
import ResourceAccessors.Generation.Claim
import ResourceAccessors.Generation.Diagnostic
import ResourceAccessors.Generation.Embedding
import ResourceAccessors.Generation.Pass
import ResourceAccessors.Generation.Plan
import ResourceAccessors.Generation.State
import ResourceAccessors.Generation.Step
import ResourceAccessors.Json.Parser
import ResourceAccessors.Json.Printer
import ResourceAccessors.Json.Value
import ResourceAccessors.Keyed
import ResourceAccessors.Pattern.Glob
import ResourceAccessors.Pattern.GlobParser
import ResourceAccessors.Pattern.IgnoreRule
import ResourceAccessors.Pattern.Mark
import ResourceAccessors.Pattern.Matching
import ResourceAccessors.Project.Files
import ResourceAccessors.Project.Walk
import ResourceAccessors.Render.Accessors
import ResourceAccessors.Render.Documentation
import ResourceAccessors.Render.Layout
import ResourceAccessors.Render.Manifest
import ResourceAccessors.Resource.File
import ResourceAccessors.Resource.Folders
import ResourceAccessors.Resource.Identity
import ResourceAccessors.Resource.Selection
import ResourceAccessors.Sample.Queries
import ResourceAccessors.Stored.Cache
import ResourceAccessors.Stored.Decoder
import ResourceAccessors.Stored.Site
import ResourceAccessors.Stored.State
import ResourceAccessors.Syntax.Attribute
import ResourceAccessors.Syntax.Blank
import ResourceAccessors.Syntax.Expression
import ResourceAccessors.Syntax.Generics
import ResourceAccessors.Syntax.Grammar
import ResourceAccessors.Syntax.Item
import ResourceAccessors.Syntax.ItemTree
import ResourceAccessors.Syntax.Lexer
import ResourceAccessors.Syntax.Literal
import ResourceAccessors.Syntax.Operator
import ResourceAccessors.Syntax.Parser
import ResourceAccessors.Syntax.Path
import ResourceAccessors.Syntax.Pattern
import ResourceAccessors.Syntax.SourceFile
import ResourceAccessors.Syntax.Statement
import ResourceAccessors.Syntax.TextLiteral
import ResourceAccessors.Syntax.Token
import ResourceAccessors.Syntax.Type
import ResourceAccessors.Text.Blank
import ResourceAccessors.Text.Casing
import ResourceAccessors.Text.Casing.Table
import ResourceAccessors.Text.CharTable
import ResourceAccessors.Text.Encoding
import ResourceAccessors.Text.Identifier
import ResourceAccessors.Text.Identifier.Table
import ResourceAccessors.Text.Lines
import ResourceAccessors.Text.Quoted
import ResourceAccessors.Text.Quoted.Table
import ResourceAccessors.Toml.Document
import ResourceAccessors.Toml.Quoted
import ResourceAccessors.Toml.Reader
import ResourceAccessors.Toml.Scalar
import ResourceAccessors.Toml.Table
import ResourceAccessors.Toml.Value
import ResourceAccessors.Warning
import ResourceAccessors.Proofs.FilePath.Components
import ResourceAccessors.Proofs.FilePath.Normal
import ResourceAccessors.Proofs.Generation.Step
import ResourceAccessors.Proofs.Json.RoundTrip
import ResourceAccessors.Generation.Generator
import ResourceAccessors.Proofs.Declaration.SearchPath
import ResourceAccessors.Proofs.FilePath.Join
import ResourceAccessors.Proofs.Generation.Spelling
import ResourceAccessors.Proofs.Stored.RoundTrip
import ResourceAccessors.Proofs.Generation.Pass
import ResourceAccessors.Proofs.FilePath.Order
import ResourceAccessors.Proofs.FilePath.Bytes
import ResourceAccessors.Proofs.Generation.Embedding
import ResourceAccessors.Proofs.Generation.Soundness
import ResourceAccessors.Proofs.Generation.FromScratch
import ResourceAccessors.Proofs.Artifact.Name
import ResourceAccessors.Proofs.Generation.Placement
import ResourceAccessors.Proofs.Generation.Ownership
import ResourceAccessors.Proofs.Generation.ArtifactNames
import ResourceAccessors.Proofs.Generation.SourceKeys
import ResourceAccessors.Proofs.Embedded.Manifest
import ResourceAccessors.Proofs.Generation.RuntimeReads
import ResourceAccessors.Proofs.Disk.Names
import ResourceAccessors.Proofs.Project.Prefilter
import ResourceAccessors.Proofs.Syntax.Names
import ResourceAccessors.Proofs.Declaration.Names
import ResourceAccessors.Proofs.Project.Sources
import ResourceAccessors.Proofs.Disk.Entries
import ResourceAccessors.Proofs.Disk.Leads
import ResourceAccessors.Proofs.Disk.Folder
import ResourceAccessors.Proofs.Disk.Change
import ResourceAccessors.Proofs.Artifact.Output
import ResourceAccessors.Proofs.Build.History
import ResourceAccessors.Proofs.Build.Convergence
import ResourceAccessors.Proofs.FilePath.Below
import ResourceAccessors.Proofs.FilePath.Moved
import ResourceAccessors.Proofs.Generation.Shown
import ResourceAccessors.Proofs.Generation.Texts
import ResourceAccessors.Proofs.Generation.FirstPass
import ResourceAccessors.Proofs.Generation.InputOrder
import ResourceAccessors.Proofs.Generation.Rerun
import ResourceAccessors.Proofs.Generation.Locality
import ResourceAccessors.Proofs.Generation.Search
import ResourceAccessors.Proofs.Generation.DesignTime
import ResourceAccessors.Proofs.Generation.Moved
import ResourceAccessors.Proofs.Generation.Relocation
import ResourceAccessors.Proofs.Embedded.Load
import ResourceAccessors.Proofs.Embedded.History
import ResourceAccessors.Proofs.Disk.Around
import ResourceAccessors.Proofs.Project.Reread
import ResourceAccessors.Proofs.Build.Repetition
import ResourceAccessors.Proofs.Build.Frame
import ResourceAccessors.Proofs.Build.Additions
import ResourceAccessors.Proofs.Build.Edits
import ResourceAccessors.Proofs.Json.Grammar
import ResourceAccessors.Proofs.Stored.Shape
import ResourceAccessors.Proofs.Build.Storing
import ResourceAccessors.Proofs.Text.Casing
import ResourceAccessors.Proofs.Accessor.Name
import ResourceAccessors.Proofs.Render.Comments
import ResourceAccessors.Proofs.Project.Ways
import ResourceAccessors.Proofs.Disk.Rearranged
import ResourceAccessors.Proofs.Project.Walked
import ResourceAccessors.Proofs.Project.Exact
import ResourceAccessors.Proofs.Declaration.Marked
import ResourceAccessors.Proofs.Declaration.Hook
import ResourceAccessors.Proofs.Declaration.SelfPath
import ResourceAccessors.Proofs.Declaration.Conditions
import ResourceAccessors.Proofs.Resource.Selection
import ResourceAccessors.Proofs.FilePath.FileName
import ResourceAccessors.Proofs.Generation.Selection
import ResourceAccessors.Proofs.Declaration.Arguments
import ResourceAccessors.Proofs.FilePath.Canonical
import ResourceAccessors.Proofs.Declaration.RootedPath
import ResourceAccessors.Proofs.Text.Lines
import ResourceAccessors.Proofs.Text.Quoted
import ResourceAccessors.Proofs.Render.Preview
import ResourceAccessors.Proofs.Render.Functions
import ResourceAccessors.Proofs.FilePath.Relative
import ResourceAccessors.Proofs.Render.Manifest
import ResourceAccessors.Proofs.Generation.Reasons
import ResourceAccessors.Proofs.Generation.DuplicateNames
import ResourceAccessors.Proofs.Accessor.TypeName
import ResourceAccessors.Proofs.Render.Returns
import ResourceAccessors.Proofs.Syntax.Visibility
import ResourceAccessors.Proofs.Generation.Unreachable
import ResourceAccessors.Proofs.Project.Steps
import ResourceAccessors.Proofs.Sample.Queries
