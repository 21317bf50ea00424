import ImportAtlas.Config.Basic
import ImportAtlas.Config.File
import ImportAtlas.Datum
import ImportAtlas.Failure
import ImportAtlas.FileSystem.Basic
import ImportAtlas.FileSystem.Cause
import ImportAtlas.FileSystem.Edit
import ImportAtlas.FileSystem.Source
import ImportAtlas.Graph.Basic
import ImportAtlas.Graph.Check
import ImportAtlas.Graph.Export
import ImportAtlas.Graph.Reach
import ImportAtlas.Graph.Stored
import ImportAtlas.Ignore.Glob
import ImportAtlas.Ignore.Pattern
import ImportAtlas.Ignore.Rules
import ImportAtlas.Import.Resolve
import ImportAtlas.Import.Scan
import ImportAtlas.Json.Basic
import ImportAtlas.Json.Pairs
import ImportAtlas.Json.Parser
import ImportAtlas.Json.Printer
import ImportAtlas.Json.Token
import ImportAtlas.Keyed
import ImportAtlas.Log.Event
import ImportAtlas.Log.Field
import ImportAtlas.Log.Level
import ImportAtlas.Log.Record
import ImportAtlas.Log.Session
import ImportAtlas.Log.Tag
import ImportAtlas.Log.Template
import ImportAtlas.Main
import ImportAtlas.Manifest.Basic
import ImportAtlas.Manifest.File
import ImportAtlas.Number.Binary64
import ImportAtlas.Number.Decimal
import ImportAtlas.Number.Notation
import ImportAtlas.Number.Shortest
import ImportAtlas.Path.Lexical
import ImportAtlas.Path.Location
import ImportAtlas.Project.Context
import ImportAtlas.Project.Document
import ImportAtlas.Project.Graph
import ImportAtlas.Project.Record
import ImportAtlas.Project.Service
import ImportAtlas.Project.Walk
import ImportAtlas.Proofs.Config.Entries
import ImportAtlas.Proofs.Config.File
import ImportAtlas.Proofs.Config.Mapping
import ImportAtlas.Proofs.Distinct
import ImportAtlas.Proofs.FileSystem.Appending
import ImportAtlas.Proofs.FileSystem.Contents
import ImportAtlas.Proofs.FileSystem.Descent
import ImportAtlas.Proofs.FileSystem.Growth
import ImportAtlas.Proofs.FileSystem.Lookup
import ImportAtlas.Proofs.FileSystem.Outside
import ImportAtlas.Proofs.FileSystem.Relisted
import ImportAtlas.Proofs.FileSystem.Tree
import ImportAtlas.Proofs.FileSystem.Unlocked
import ImportAtlas.Proofs.Graph.Calls
import ImportAtlas.Proofs.Graph.Consistency
import ImportAtlas.Proofs.Graph.Export
import ImportAtlas.Proofs.Graph.History
import ImportAtlas.Proofs.Graph.Ranking
import ImportAtlas.Proofs.Graph.Reach
import ImportAtlas.Proofs.Graph.Reports
import ImportAtlas.Proofs.Graph.Totals
import ImportAtlas.Proofs.Graph.Transitive
import ImportAtlas.Proofs.Graph.WellFormed
import ImportAtlas.Proofs.Ignore.Additions
import ImportAtlas.Proofs.Ignore.Layers
import ImportAtlas.Proofs.Ignore.Lines
import ImportAtlas.Proofs.Ignore.Matching
import ImportAtlas.Proofs.Ignore.Precedence
import ImportAtlas.Proofs.Ignore.Reinclusion
import ImportAtlas.Proofs.Ignore.Subtree
import ImportAtlas.Proofs.Import.Candidates
import ImportAtlas.Proofs.Import.Extensions
import ImportAtlas.Proofs.Import.Grammar
import ImportAtlas.Proofs.Import.Places
import ImportAtlas.Proofs.Import.Spelling
import ImportAtlas.Proofs.Import.Written
import ImportAtlas.Proofs.Json.Limits
import ImportAtlas.Proofs.Json.RoundTrip
import ImportAtlas.Proofs.Json.Same
import ImportAtlas.Proofs.Json.Spelling
import ImportAtlas.Proofs.Json.Words
import ImportAtlas.Proofs.Keyed
import ImportAtlas.Proofs.Log.Record
import ImportAtlas.Proofs.Log.Run
import ImportAtlas.Proofs.Log.Session
import ImportAtlas.Proofs.Manifest.Fields
import ImportAtlas.Proofs.Manifest.File
import ImportAtlas.Proofs.Number.Digits
import ImportAtlas.Proofs.Number.Rounding
import ImportAtlas.Proofs.Number.Shortest
import ImportAtlas.Proofs.Path.Canonical
import ImportAtlas.Proofs.Path.FileOrder
import ImportAtlas.Proofs.Path.Lexical
import ImportAtlas.Proofs.Path.Location
import ImportAtlas.Proofs.Path.Names
import ImportAtlas.Proofs.Path.Position
import ImportAtlas.Proofs.Project.Enumeration
import ImportAtlas.Proofs.Project.ExcludedDirectory
import ImportAtlas.Proofs.Project.ImportGraph
import ImportAtlas.Proofs.Project.ListingOrder
import ImportAtlas.Proofs.Project.LockedDirectories
import ImportAtlas.Proofs.Project.Monotonicity
import ImportAtlas.Proofs.Project.MovedWalk
import ImportAtlas.Proofs.Project.Noninterference
import ImportAtlas.Proofs.Project.OwnPath
import ImportAtlas.Proofs.Project.Reach
import ImportAtlas.Proofs.Project.RequestedPath
import ImportAtlas.Proofs.Project.RulesInForce
import ImportAtlas.Proofs.Project.SizeLimit
import ImportAtlas.Proofs.Project.Snapshot
import ImportAtlas.Proofs.Project.Summary
import ImportAtlas.Proofs.Project.Views
import ImportAtlas.Proofs.Project.Walk
import ImportAtlas.Proofs.Project.WrittenImports
import ImportAtlas.Proofs.Text.Blank
import ImportAtlas.Proofs.Text.Halves
import ImportAtlas.Proofs.Text.Matching
import ImportAtlas.Proofs.Text.Utf8
import ImportAtlas.Reported
import ImportAtlas.Server.Options
import ImportAtlas.Server.Run
import ImportAtlas.Server.Tools
import ImportAtlas.SlotOrder
import ImportAtlas.Text.Alphanumeric
import ImportAtlas.Text.Blank
import ImportAtlas.Text.Capital
import ImportAtlas.Text.Cased
import ImportAtlas.Text.Coded
import ImportAtlas.Text.DecimalDigit
import ImportAtlas.Text.Hex
import ImportAtlas.Text.Lines
import ImportAtlas.Text.LowerCase
import ImportAtlas.Text.Matching
import ImportAtlas.Text.Portion
import ImportAtlas.Text.Printable
import ImportAtlas.Text.Quoted
import ImportAtlas.Text.Range
import ImportAtlas.Text.Split
import ImportAtlas.Text.Utf8
import ImportAtlas.Time.Calendar
import ImportAtlas.Time.Epoch
import ImportAtlas.Yaml.Cursor
import ImportAtlas.Yaml.Document
import ImportAtlas.Yaml.Fault
import ImportAtlas.Yaml.Formation
import ImportAtlas.Yaml.Merge
import ImportAtlas.Yaml.Node
import ImportAtlas.Yaml.NodeGraph
import ImportAtlas.Yaml.Scalar
import ImportAtlas.Yaml.Tag
import ImportAtlas.Yaml.Token
import ImportAtlas.Yaml.Value
