import PipelineAudit.Analysis.Cost
import PipelineAudit.Analysis.Graph
import PipelineAudit.Analysis.Score
import PipelineAudit.Config
import PipelineAudit.Platform.Checks
import PipelineAudit.Rule.Engine

/-!
# The analysis

An analysis collects findings in stages: the validation of the input, the checks of the platform,
the rules of the catalog, and the custom rules.  All stages report into the same findings.  Scores,
costs, the dependency graph and metrics are then computed from the findings and the document.

Checks of the platform that fail become an issue.  If the rules fail as a whole, or the document has
no graph or no metrics, the result explains why and is otherwise empty.
-/

namespace PipelineAudit

/-- What an analysis results in. -/
structure Analysis where
  platform : String
  score : Nat
  issues : List Issue := []
  optimizations : List Optimization := []
  security : SecurityReport
  cost : CostEstimation
  recommendations : List Recommendation := []
  graph : String := ""
  metrics : Metrics := {}
  /-- Whether the analysis went through; if it did not, nothing was estimated or measured. -/
  complete : Bool := true
  deriving DecidableEq

/-- The stages of an analysis that can be exchanged: the rules, and the checks of platforms. -/
structure Engine where
  execute : Document → Source → Strictness → List Category → Except Failure Findings
  checks? : String → Option PlatformChecks

/-- The stages of a catalog. -/
def Engine.ofCatalog (rules : Catalog) : Engine where
  execute document source strictness skipped :=
    .ok (rules.execute document source strictness skipped)
  checks? := PlatformChecks.of?

/-- The default stages. -/
def Engine.default : Engine :=
  .ofCatalog .default

namespace Document

/-- Whether a document is empty: null, or a container or text without content. -/
def isEmpty : Document → Bool
  | scalar .null => true
  | scalar (.text s) => s.isEmpty
  | list items => items.isEmpty
  | map entries => entries.isEmpty
  | _ => false

/-- The name of the kind of a document. -/
def kindName : Document → String
  | scalar .null => "NoneType"
  | scalar (.bool _) => "bool"
  | scalar (.int _) => "int"
  | scalar (.float _) => "float"
  | scalar (.text _) => "str"
  | scalar (.date _) => "date"
  | scalar (.moment _) => "datetime"
  | list _ => "list"
  | map _ => "dict"
  | up _ => "dict"

end Document

namespace Analysis

/-! ### Validation -/

/-- The issue of a text that is too large. -/
def fileSize (size : Nat) (limit : Int) : Issue where
  title := "File size exceeds limit"
  description := "File size (" ++ toString size ++ " bytes) exceeds maximum allowed size (" ++
    toString limit ++ " bytes)"
  severity := .error
  category := .linting
  ruleId := "file-size-limit"
  fixable := false

/-- The issue of an empty document. -/
def emptyConfiguration : Issue where
  title := "Empty configuration"
  description := "The YAML configuration appears to be empty"
  severity := .error
  category := .grammar
  ruleId := "empty-config"
  suggestion := "Add valid CI/CD configuration content"
  fixable := true

/-- The issue of a document whose root is no mapping. -/
def invalidRoot (kind : String) : Issue where
  title := "Invalid configuration root"
  description := "Expected a mapping at the root level, got " ++ kind
  severity := .error
  category := .grammar
  ruleId := "invalid-root"
  suggestion := "The top level of a pipeline configuration must be a mapping of keys"
  fixable := false

/-- The validation of the input: its size, and its root. -/
def validateInput (document : Document) (text : String) (config : Config) : Reporter :=
  .andThen
    (.reportIf (config.maxFileSize < text.utf8ByteSize)
      (fileSize text.utf8ByteSize config.maxFileSize))
    (if document.isEmpty then .report emptyConfiguration
      else .reportIf (!document.isMap) (invalidRoot document.kindName))

/-! ### Platform -/

/-- The issue of a platform without checks. -/
def unsupportedPlatform (platform : String) : Issue where
  title := "Unsupported platform"
  description := "Analysis for platform '" ++ platform ++ "' is not supported"
  severity := .warning
  category := .linting
  ruleId := "unsupported-platform"
  suggestion := "Use a supported platform: github-actions, gitlab-ci, or bitbucket-pipelines"
  fixable := false

/-- The issue of checks that failed. -/
def analyzerFailure (platform : String) (failure : Failure) : Issue where
  title := "Platform analysis error for " ++ platform
  description := "Error during " ++ platform ++ " analysis: " ++ failure.text
  severity := .error
  category := .linting
  ruleId := some (platform ++ "-analysis-error")
  fixable := false

/-- The checks of a platform, and one more issue if they fail. -/
def analyze (checks : PlatformChecks) (document : Document) : Reporter :=
  .caught (checks.analyzeInto document) (analyzerFailure checks.platform)

/-- The platform stage; the checks of a platform only look at mappings. -/
def checkPlatform (engine : Engine) (document : Document) (platform : String) : Reporter :=
  match engine.checks? platform with
  | none => .report (unsupportedPlatform platform)
  | some checks => if document.isMap then analyze checks document else .silent

/-! ### All stages -/

/-- All stages on a document that is not empty. -/
def stages (engine : Engine) (document : Document) (platform text : String) (config : Config) :
    Reporter :=
  let tree := document.asMap
  .andThen (validateInput document text config)
    (.andThen (checkPlatform engine document platform)
      (.reading (engine.execute tree ⟨text.toList, platform⟩ (.upTo config.level) config.skipped)
        fun executed found =>
          .done (CustomRule.runInto config.customRules tree text platform (found ++ executed))))

/-- The result for findings on a document, unless the document has no graph or no metrics. -/
def ofFindings (platform : String) (document : Document) (found : Findings) :
    Except Failure Analysis := do
  let graph ← Graph.render document platform
  let metrics ← Metrics.of document platform found.vulnerabilities
  return {
    platform := platform
    score := Score.overall found.issues found.vulnerabilities
    issues := found.issues
    optimizations := found.optimizations
    security := Score.securityReport found.issues found.vulnerabilities
    cost := CostEstimation.of document platform
    recommendations := Score.recommendations found.issues found.optimizations
    graph := graph
    metrics := metrics }

/-- The result for the outcome of all stages on a document. -/
def ofOutcome (platform : String) (document : Document) (outcome : Outcome) :
    Except Failure Analysis :=
  match outcome.failure with
  | some failure => .error failure
  | none => ofFindings platform document outcome.findings

/-- The analysis of a document and its text, or the failure that keeps it from a result. -/
def attempt (engine : Engine) (document : Document) (platform text : String) (config : Config) :
    Except Failure Analysis :=
  if document.isEmpty then ofOutcome platform (.map []) (validateInput document text config .none)
  else ofOutcome platform document.asMap (stages engine document platform text config .none)

/-- The issue of an analysis that failed as a whole. -/
def analysisFailure (failure : Failure) : Issue where
  title := "Analysis Failed"
  description := if failure.text.isEmpty then failure.kind else failure.text
  severity := .error
  category := .linting
  ruleId := "analysis-error"
  fixable := false

/-- The result of an analysis that failed as a whole. -/
def fallback (failure : Failure) : Analysis where
  platform := "unknown"
  score := 0
  issues := [analysisFailure failure]
  security := { overallScore := 0 }
  cost := {}
  complete := false

/-- The analysis of a document and its text. -/
def run (engine : Engine) (document : Document) (platform text : String) (config : Config) :
    Analysis :=
  match attempt engine document platform text config with
  | .ok analysis => analysis
  | .error failure => fallback failure

end Analysis

end PipelineAudit
