import ChangeLens.Analyzer
import ChangeLens.Analyzer.Branches
import ChangeLens.Analyzer.Calls
import ChangeLens.Analyzer.Declarations
import ChangeLens.Analyzer.Functions
import ChangeLens.Analyzer.Hooks
import ChangeLens.Analyzer.Markup
import ChangeLens.Analyzer.Modules
import ChangeLens.Analyzer.Outcomes
import ChangeLens.Analyzer.Registry
import ChangeLens.Analyzer.Types
import ChangeLens.Analyzer.Values
import ChangeLens.CalleePath
import ChangeLens.ChangeKind
import ChangeLens.CommandLine
import ChangeLens.CommandLine.Files
import ChangeLens.CommandLine.Options
import ChangeLens.Config
import ChangeLens.Config.Load
import ChangeLens.Content
import ChangeLens.Dependencies
import ChangeLens.Detect
import ChangeLens.Diagnostic
import ChangeLens.Extract
import ChangeLens.Extract.Calls
import ChangeLens.Extract.Complexity
import ChangeLens.Extract.Context
import ChangeLens.Extract.Declarations
import ChangeLens.Extract.Functions
import ChangeLens.Extract.Markup
import ChangeLens.Extract.Modules
import ChangeLens.Extract.Statements
import ChangeLens.Extract.Types
import ChangeLens.Git
import ChangeLens.Group
import ChangeLens.Hunk
import ChangeLens.Json
import ChangeLens.LineRange
import ChangeLens.Log
import ChangeLens.Main
import ChangeLens.Model
import ChangeLens.Pairing
import ChangeLens.Policy
import ChangeLens.Pool
import ChangeLens.Pool.Rehearsal
import ChangeLens.Proofs.Accounting
import ChangeLens.Proofs.Anchoring
import ChangeLens.Proofs.ArraySpelling
import ChangeLens.Proofs.BranchCounts
import ChangeLens.Proofs.CalleePaths
import ChangeLens.Proofs.Cascade
import ChangeLens.Proofs.ClosedText
import ChangeLens.Proofs.Coverage
import ChangeLens.Proofs.DependencyChains
import ChangeLens.Proofs.Disabling
import ChangeLens.Proofs.Duality
import ChangeLens.Proofs.Duplicates
import ChangeLens.Proofs.EditDistance
import ChangeLens.Proofs.ExportedTypes
import ChangeLens.Proofs.Extraction
import ChangeLens.Proofs.FieldReading
import ChangeLens.Proofs.FileSelection
import ChangeLens.Proofs.FirstFit
import ChangeLens.Proofs.Folding
import ChangeLens.Proofs.FunctionHeads
import ChangeLens.Proofs.FunctionSurface
import ChangeLens.Proofs.ImportStructure
import ChangeLens.Proofs.InPlace
import ChangeLens.Proofs.Inference
import ChangeLens.Proofs.Isolation
import ChangeLens.Proofs.JsonReading
import ChangeLens.Proofs.JsonReports
import ChangeLens.Proofs.LastDefinition
import ChangeLens.Proofs.Layering
import ChangeLens.Proofs.LineFraming
import ChangeLens.Proofs.LiteralTypes
import ChangeLens.Proofs.Locating
import ChangeLens.Proofs.MemberOrder
import ChangeLens.Proofs.Mirroring
import ChangeLens.Proofs.NormalizedText
import ChangeLens.Proofs.Overloads
import ChangeLens.Proofs.PatternFaults
import ChangeLens.Proofs.PoolSafety
import ChangeLens.Proofs.Positions
import ChangeLens.Proofs.PrintedDiffs
import ChangeLens.Proofs.Relocation
import ChangeLens.Proofs.Reordering
import ChangeLens.Proofs.Respelling
import ChangeLens.Proofs.Schedules
import ChangeLens.Proofs.ScopeResolution
import ChangeLens.Proofs.SelfComparison
import ChangeLens.Proofs.Settled
import ChangeLens.Proofs.SignatureFallbacks
import ChangeLens.Proofs.SitePlaces
import ChangeLens.Proofs.Skipping
import ChangeLens.Proofs.TopLevelCuts
import ChangeLens.Proofs.Totals
import ChangeLens.Proofs.TrailingArguments
import ChangeLens.Proofs.TypeBodies
import ChangeLens.Proofs.TypeSoundness
import ChangeLens.Proofs.Validation
import ChangeLens.Proofs.Walks
import ChangeLens.Proofs.WholeFile
import ChangeLens.Record
import ChangeLens.Record.Fields
import ChangeLens.Report
import ChangeLens.Report.Console
import ChangeLens.Report.Format
import ChangeLens.Report.Json
import ChangeLens.Report.Machine
import ChangeLens.Report.Workflow
import ChangeLens.Run
import ChangeLens.Setting
import ChangeLens.Setting.Integer
import ChangeLens.Setting.Toml
import ChangeLens.Severity
import ChangeLens.Site
import ChangeLens.Source
import ChangeLens.Span
import ChangeLens.Table
import ChangeLens.Text.Blank
import ChangeLens.Text.CellWidth
import ChangeLens.Text.Digit
import ChangeLens.Text.Distance
import ChangeLens.Text.Glob
import ChangeLens.Text.Lines
import ChangeLens.Text.Printable
import ChangeLens.Text.Quoted
import ChangeLens.Text.Scan
import ChangeLens.Text.Search
import ChangeLens.Text.Similarity
import ChangeLens.Text.Substitute
import ChangeLens.Text.Uppercase
import ChangeLens.Text.Utf8
import ChangeLens.Text.Word
import ChangeLens.Tree
import ChangeLens.TypeText
