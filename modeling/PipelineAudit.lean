import PipelineAudit.Analysis.Cost
import PipelineAudit.Analysis.Graph
import PipelineAudit.Analysis.Metrics
import PipelineAudit.Analysis.Run
import PipelineAudit.Analysis.Score
import PipelineAudit.Calendar
import PipelineAudit.Config
import PipelineAudit.Count
import PipelineAudit.Decimal.Binary
import PipelineAudit.Decimal.Fixed
import PipelineAudit.Decimal.Nearest
import PipelineAudit.Decimal.Reading
import PipelineAudit.Decimal.Shortest
import PipelineAudit.Document.Access
import PipelineAudit.Document.Basic
import PipelineAudit.Document.Json
import PipelineAudit.Document.Rounding
import PipelineAudit.Document.Shape
import PipelineAudit.Document.Text
import PipelineAudit.Failure
import PipelineAudit.Finding.Basic
import PipelineAudit.Finding.Field
import PipelineAudit.Finding.Reading
import PipelineAudit.Json.Basic
import PipelineAudit.Json.Printer
import PipelineAudit.Json.Reader
import PipelineAudit.Outcome
import PipelineAudit.Pattern.Basic
import PipelineAudit.Pattern.Match
import PipelineAudit.Platform.Bitbucket
import PipelineAudit.Platform.Checks
import PipelineAudit.Platform.Detection
import PipelineAudit.Platform.GitHub
import PipelineAudit.Platform.GitLab
import PipelineAudit.Platform.Reporting
import PipelineAudit.Proofs.Analysis.Accounting
import PipelineAudit.Proofs.Analysis.Areas
import PipelineAudit.Proofs.Analysis.Completion
import PipelineAudit.Proofs.Analysis.Dependencies
import PipelineAudit.Proofs.Analysis.Diagrams
import PipelineAudit.Proofs.Analysis.Monotonicity
import PipelineAudit.Proofs.Analysis.PipelineJobs
import PipelineAudit.Proofs.Analysis.Ranges
import PipelineAudit.Proofs.Analysis.Roots
import PipelineAudit.Proofs.Analysis.Sessions
import PipelineAudit.Proofs.Analysis.Termination
import PipelineAudit.Proofs.Analysis.Triggers
import PipelineAudit.Proofs.Decimal.Rounding
import PipelineAudit.Proofs.Document.Containers
import PipelineAudit.Proofs.Document.Copies
import PipelineAudit.Proofs.Document.Cutting
import PipelineAudit.Proofs.Document.Height
import PipelineAudit.Proofs.Document.Indices
import PipelineAudit.Proofs.Document.Paths
import PipelineAudit.Proofs.Document.Unions
import PipelineAudit.Proofs.Document.Walks
import PipelineAudit.Proofs.Finding.IssueIds
import PipelineAudit.Proofs.Finding.Streams
import PipelineAudit.Proofs.Json.Grammar
import PipelineAudit.Proofs.Json.Numbers
import PipelineAudit.Proofs.Json.Reading
import PipelineAudit.Proofs.Pattern.Lines
import PipelineAudit.Proofs.Pattern.Outlines
import PipelineAudit.Proofs.Pattern.Runs
import PipelineAudit.Proofs.Platform.CheckoutVersions
import PipelineAudit.Proofs.Platform.GroupNesting
import PipelineAudit.Proofs.Platform.Images
import PipelineAudit.Proofs.Platform.IssueIds
import PipelineAudit.Proofs.Platform.JobLocality
import PipelineAudit.Proofs.Platform.PlacedSteps
import PipelineAudit.Proofs.Platform.Reporting
import PipelineAudit.Proofs.Rule.ActionReferences
import PipelineAudit.Proofs.Rule.AllowedCommands
import PipelineAudit.Proofs.Rule.AntiPatternLines
import PipelineAudit.Proofs.Rule.Composition
import PipelineAudit.Proofs.Rule.Concealment
import PipelineAudit.Proofs.Rule.CustomRules
import PipelineAudit.Proofs.Rule.Failures
import PipelineAudit.Proofs.Rule.Introspection
import PipelineAudit.Proofs.Rule.IssueIds
import PipelineAudit.Proofs.Rule.LineLocality
import PipelineAudit.Proofs.Rule.Matrices
import PipelineAudit.Proofs.Rule.Names
import PipelineAudit.Proofs.Rule.Passwords
import PipelineAudit.Proofs.Rule.Positions
import PipelineAudit.Proofs.Rule.Quotations
import PipelineAudit.Proofs.Rule.SecretPlaces
import PipelineAudit.Proofs.Rule.SharedRuns
import PipelineAudit.Proofs.Rule.SimilarJobs
import PipelineAudit.Proofs.Rule.VariableNames
import PipelineAudit.Proofs.Secret.Beginnings
import PipelineAudit.Proofs.Secret.Concealment
import PipelineAudit.Proofs.Secret.Masking
import PipelineAudit.Proofs.Secret.Spellings
import PipelineAudit.Proofs.Secret.Tokens
import PipelineAudit.Proofs.Secret.WebTokens
import PipelineAudit.Proofs.Text.Lines
import PipelineAudit.Proofs.Yaml.Building
import PipelineAudit.Proofs.Yaml.Composing
import PipelineAudit.Proofs.Yaml.Outcomes
import PipelineAudit.Proofs.Yaml.Sharing
import PipelineAudit.Rule.ActionPins
import PipelineAudit.Rule.AntiPatterns
import PipelineAudit.Rule.Basic
import PipelineAudit.Rule.BuildShortcuts
import PipelineAudit.Rule.Caching
import PipelineAudit.Rule.Catalog
import PipelineAudit.Rule.Complexity
import PipelineAudit.Rule.Compliance
import PipelineAudit.Rule.Concurrency
import PipelineAudit.Rule.Documentation
import PipelineAudit.Rule.Engine
import PipelineAudit.Rule.ExposedSecrets
import PipelineAudit.Rule.Jobs
import PipelineAudit.Rule.Naming
import PipelineAudit.Rule.Parallelism
import PipelineAudit.Rule.Permissions
import PipelineAudit.Rule.Resources
import PipelineAudit.Rule.Scanning
import PipelineAudit.Rule.ShellCommands
import PipelineAudit.Rule.Source
import PipelineAudit.Rule.Spending
import PipelineAudit.Rule.Variables
import PipelineAudit.Secret.Entropy
import PipelineAudit.Secret.Mask
import PipelineAudit.Secret.Plausible
import PipelineAudit.Secret.Signature
import PipelineAudit.Service
import PipelineAudit.Session
import PipelineAudit.Text.Base64
import PipelineAudit.Text.Basic
import PipelineAudit.Text.Blank
import PipelineAudit.Text.Case
import PipelineAudit.Text.CaseTable
import PipelineAudit.Text.Digit
import PipelineAudit.Text.Numeral
import PipelineAudit.Text.Printable
import PipelineAudit.Text.Quoted
import PipelineAudit.Text.Ranges
import PipelineAudit.Text.Word
import PipelineAudit.Workflow
import PipelineAudit.Yaml.BlockScalar
import PipelineAudit.Yaml.Build
import PipelineAudit.Yaml.Cursor
import PipelineAudit.Yaml.Error
import PipelineAudit.Yaml.Merge
import PipelineAudit.Yaml.Node
import PipelineAudit.Yaml.Plain
import PipelineAudit.Yaml.Property
import PipelineAudit.Yaml.Quoted
import PipelineAudit.Yaml.Report
import PipelineAudit.Yaml.Scalar
import PipelineAudit.Yaml.Token
import PipelineAudit.Yaml.TokenStream
