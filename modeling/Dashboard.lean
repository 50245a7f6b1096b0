import Dashboard.Text.Blank
import Dashboard.Text.Case
import Dashboard.Text.Quoted
import Dashboard.Number.Shortest
import Dashboard.Number.Decimal
import Dashboard.Number.Literal
import Dashboard.Time.Reading
import Dashboard.Json.Reader
import Dashboard.Document
import Dashboard.Sql.Fragment
import Dashboard.Registry.Reader
import Dashboard.Query.Draft
import Dashboard.Query.Shape
import Dashboard.Query.Compile
import Dashboard.Sql.Gate
import Dashboard.Database
import Dashboard.Request
import Dashboard.Registry.Bundled
import Dashboard.Http
import Dashboard.Yaml.Block
import Dashboard.Yaml.Content
import Dashboard.Proofs.Rendering
import Dashboard.Proofs.Outcome
import Dashboard.Proofs.Compilation
import Dashboard.Proofs.Layout
import Dashboard.Proofs.RegistryChecks
import Dashboard.Proofs.TenantConditions
import Dashboard.Proofs.TwoRuns
import Dashboard.Proofs.JoinedRows
import Dashboard.Proofs.Vocabulary
import Dashboard.Proofs.ProjectIsolation
import Dashboard.Proofs.BuildOutcome
import Dashboard.Proofs.DryRun
import Dashboard.Proofs.GateRules
import Dashboard.Proofs.Placeholders
import Dashboard.Proofs.SqlReading
import Dashboard.Proofs.BucketBounds
import Dashboard.Proofs.BucketSeries
import Dashboard.Proofs.PlannedText
import Dashboard.Proofs.GateSeams
import Dashboard.Proofs.ShapeFaults
import Dashboard.Proofs.GateAcceptance
import Dashboard.Proofs.RecordMembers
import Dashboard.Proofs.DescriptionGrammar
import Dashboard.Proofs.SessionTrace
import Dashboard.Proofs.RequestRun
import Dashboard.Proofs.Refusals
import Dashboard.Proofs.Endpoints
import Dashboard.Proofs.TenantPlans
import Dashboard.Proofs.PlaceholderNames
import Dashboard.Proofs.OnePass
import Dashboard.Proofs.EntryFaults
import Dashboard.Proofs.FoldedText
import Dashboard.Proofs.RegistryLookups
import Dashboard.Proofs.PlainNames
import Dashboard.Proofs.UnknownColumns
import Dashboard.Proofs.OutputNames
import Dashboard.Proofs.RegistryLocality
import Dashboard.Proofs.RegistryRoundTrip
import Dashboard.Proofs.NearestDouble
import Dashboard.Proofs.NormalForms
import Dashboard.Proofs.CatalogAnswers
import Dashboard.Proofs.SqlTokens
import Dashboard.Proofs.SqueezedText
import Dashboard.Proofs.DatabaseAddress
import Dashboard.Proofs.FoldedSource
import Dashboard.Proofs.FragmentAlgebra
