import RouteDoc.Command.Run
import RouteDoc.Main
import RouteDoc.Source.Dialect
import RouteDoc.Source.Semicolon
import RouteDoc.Source.Tree
import RouteDoc.Json.Reader
import RouteDoc.Json.Writer
import RouteDoc.Text.Case
import RouteDoc.Text.Blank
import RouteDoc.Text.Plural
import RouteDoc.Text.Pattern
import RouteDoc.Framework.Classify
import RouteDoc.FileTree.Ignore
import RouteDoc.Service.Request
import RouteDoc.Service.Repair
import RouteDoc.FileTree.Walk
import RouteDoc.FileTree.Write
import RouteDoc.OpenApi.Document
import RouteDoc.OpenApi.Format
import RouteDoc.Route.Extract
import RouteDoc.Route.SourceFile
import RouteDoc.Service.Batch
import RouteDoc.Analysis.Template
import RouteDoc.Analysis.Merge
import RouteDoc.Analysis.Prompt
import RouteDoc.Proofs.Entries
import RouteDoc.Proofs.OpenApi.Declared
import RouteDoc.Proofs.OpenApi.Assembled
import RouteDoc.Proofs.OpenApi.Identifiers
import RouteDoc.Proofs.OpenApi.Replaced
import RouteDoc.Proofs.OpenApi.Reordered
import RouteDoc.Proofs.Service.Begun
import RouteDoc.Proofs.Service.Isolated
import RouteDoc.Proofs.Service.Late
import RouteDoc.Proofs.Framework.Classified
import RouteDoc.Proofs.Framework.Chosen
import RouteDoc.Proofs.Framework.Matched
import RouteDoc.Proofs.Service.Valid
import RouteDoc.Proofs.Run.Degraded
import RouteDoc.Proofs.OpenApi.Parameters
import RouteDoc.Proofs.OpenApi.Templated
import RouteDoc.Proofs.FileTree.Walked
import RouteDoc.Proofs.FileTree.Path
import RouteDoc.Proofs.FileTree.Distinct
import RouteDoc.Proofs.Settings
import RouteDoc.Proofs.Json.Canonical
import RouteDoc.Proofs.OpenApi.Registered
import RouteDoc.Proofs.OpenApi.Referenced
import RouteDoc.Proofs.FileTree.Filtered
import RouteDoc.Proofs.FileTree.Limited
import RouteDoc.Proofs.Run.Accounted
import RouteDoc.Proofs.Route.Rendered
import RouteDoc.Proofs.Route.Normal
import RouteDoc.Proofs.Text.Plurals
import RouteDoc.Proofs.Text.Trimmed
import RouteDoc.Proofs.Analysis.Checked
import RouteDoc.Proofs.Analysis.Refined
import RouteDoc.Proofs.OpenApi.Located
import RouteDoc.Proofs.OpenApi.Shown
import RouteDoc.Proofs.OpenApi.Codes
import RouteDoc.Proofs.Route.Ordered
import RouteDoc.Proofs.Service.Retried
import RouteDoc.Proofs.Service.Timed
import RouteDoc.Proofs.Service.Timetable
import RouteDoc.Proofs.FileTree.Excluded
import RouteDoc.Proofs.Route.Sited
import RouteDoc.Proofs.Route.Decorated
import RouteDoc.Proofs.Route.Cleaned
import RouteDoc.Proofs.Command.Listed
