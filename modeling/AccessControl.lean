import AccessControl.Action
import AccessControl.Attribute
import AccessControl.Authority
import AccessControl.Authority.Document
import AccessControl.Condition
import AccessControl.Decimal.Positional
import AccessControl.Decimal.Shortest
import AccessControl.Decision
import AccessControl.Decision.Document
import AccessControl.Deployment
import AccessControl.Directory
import AccessControl.EntityType
import AccessControl.Fault
import AccessControl.Json.Basic
import AccessControl.Json.Reader
import AccessControl.Json.Writer
import AccessControl.Membership
import AccessControl.Metrics.Collector
import AccessControl.Metrics.Counters
import AccessControl.Metrics.Document
import AccessControl.Metrics.Exposition
import AccessControl.Metrics.LatencyWindow
import AccessControl.Metrics.Report
import AccessControl.Policy
import AccessControl.Record
import AccessControl.Record.Document
import AccessControl.Registry
import AccessControl.Rule
import AccessControl.Rule.Document
import AccessControl.Service
import AccessControl.Settings
import AccessControl.Settings.Document
import AccessControl.Settings.Environment
import AccessControl.Snapshot
import AccessControl.Source
import AccessControl.Subject
import AccessControl.Text.Blank
import AccessControl.Text.Numeral
import AccessControl.Text.Quoted
import AccessControl.Text.Unprintable
import AccessControl.Token
import AccessControl.Proofs.FirstMatch
import AccessControl.Proofs.Grants
import AccessControl.Proofs.AuthorityUnion
import AccessControl.Proofs.AuthorizationTable
import AccessControl.Proofs.DirectoryHistory
import AccessControl.Proofs.FailClosed
import AccessControl.Proofs.SeveralActions
import AccessControl.Proofs.UserIsolation
import AccessControl.Proofs.ProjectOwnership
import AccessControl.Proofs.RuleAttributes
import AccessControl.Proofs.FrameworkIsolation
import AccessControl.Proofs.WholeTypes
import AccessControl.Proofs.RegistryHistory
import AccessControl.Proofs.RegistryViews
import AccessControl.Proofs.CheckCounts
import AccessControl.Proofs.SharedSnapshots
import AccessControl.Proofs.LazyLookups
import AccessControl.Proofs.DecidingFields
import AccessControl.Proofs.InertTokens
import AccessControl.Proofs.NumeralGrammar
import AccessControl.Proofs.EnvironmentSettings
import AccessControl.Proofs.LatencyHistory
import AccessControl.Proofs.ExpositionLines
import AccessControl.Proofs.ExpositionReadBack
import AccessControl.Proofs.BinaryRounding
import AccessControl.Proofs.FloatRounding
import AccessControl.Proofs.FrameworkRanks
import AccessControl.Proofs.MemberOrder
import AccessControl.Proofs.RuleDocuments
import AccessControl.Proofs.FloatArithmetic
import AccessControl.Proofs.LatencyFigures
import AccessControl.Proofs.WindowQuantiles
import AccessControl.Proofs.AllowedShare
