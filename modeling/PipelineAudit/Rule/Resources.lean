import PipelineAudit.Rule.Jobs

/-!
# Resources

Jobs without a time limit or with a long one, jobs on large runners, and heavy operations.
-/

namespace PipelineAudit

open Pattern

namespace Resources

/-- The longest time limit, in minutes, that passes without comment. -/
def longestTimeout : Rat := 360

/-- Whether a document is a number above a bound. -/
def isAbove (bound : Rat) : Document → Bool
  | .scalar (.int n) => decide (bound < n)
  | .scalar (.bool b) => decide (bound < if b then 1 else 0)
  | .scalar (.float x) => Decimal.exceeds x bound
  | _ => false

/-- The suggestion to limit the time of a job. -/
def addTimeout (job : String) : Optimization where
  title := "Add timeout to job \"" ++ job ++ "\""
  description := "Jobs without timeouts can run indefinitely, wasting resources"
  impact := .medium
  effort := .low
  category := .cost
  suggestion := "Add timeout-minutes to prevent runaway jobs"
  exampleCode := "timeout-minutes: 30"

/-- The issue of a job with a long time limit. -/
def longTimeout (job timeout : String) : Issue where
  title := "Very long timeout in job \"" ++ job ++ "\""
  description := "Job timeout of " ++ timeout ++ " minutes is unusually long"
  severity := .warning
  category := .performance
  ruleId := "long-timeout"
  suggestion := "Consider optimizing the job or breaking it into smaller jobs"

/-- The note on a job that runs on a large runner. -/
def largeRunner (job : String) : Optimization where
  title := "Large runner usage in job \"" ++ job ++ "\""
  description := "Job uses large runners - verify if the extra resources are needed"
  impact := .medium
  effort := .low
  category := .cost
  suggestion := "Use standard runners unless high compute is required"

/-- The check of the time limit of a job. -/
def checkTimeout (job : String × Document) : Outcome :=
  let timeout := job.2.get "timeout-minutes"
  if !timeout.truthy then .done (.optimization (addTimeout job.1))
  else .when (isAbove longestTimeout timeout)
    (.reading timeout.write fun text => .done (.issue (longTimeout job.1 text)))

/-- The findings on the runner of a job. -/
def runnerFindings (job : String × Document) : Findings :=
  .when ((job.2.get "runs-on").text?.any fun runner => Text.has runner.toList "large")
    (.optimization (largeRunner job.1))

/-- The checks of the jobs of a workflow. -/
def checkWorkflow (document : Document) : Outcome :=
  Workflow.eachJob document checkTimeout ++
    Workflow.eachJob document fun job => .done (runnerFindings job)

/-- Heavy operations and their names. -/
def heavyOperations : List (Pattern × String) := [
  (litFolded "docker build", "Docker build"),
  (litFolded "webpack", "Webpack bundling"),
  (litFolded "rollup", "Rollup bundling"),
  (litFolded "parcel build", "Parcel bundling"),
  (litFolded "ng build --prod", "Angular production build"),
  (litFolded "npm run build", "NPM build script"),
  (litFolded "yarn build", "Yarn build script"),
  (litFolded "mvn compile", "Maven compilation"),
  (litFolded "gradle build", "Gradle build")]

/-- The suggestion to limit the time of heavy operations. -/
def heavyTimeouts (operations : List String) : Optimization where
  title := "Add timeouts for resource-intensive operations"
  description := "Detected heavy operations: " ++ commaSeparated operations
  impact := .medium
  effort := .low
  category := .performance
  suggestion := "Add timeout configurations to prevent runaway builds"

/-- The suggestion to run heavy operations in parallel. -/
def parallelBuilds : Optimization where
  title := "Consider parallelizing build operations"
  description := "Multiple build operations detected that might benefit from parallelization"
  impact := .high
  effort := .medium
  category := .performance
  suggestion := "Split build operations into parallel jobs if they're independent"

/-- The findings on the heavy operations in a text. -/
def heavyFindings (text : List Char) : Findings :=
  let detected := (heavyOperations.filter fun o => o.1.occursIn text).map (·.2)
  .ofOptimizations (
    (if !detected.isEmpty && !Text.has text "timeout" then [heavyTimeouts detected] else []) ++
    (if 1 < detected.length then [parallelBuilds] else []))

end Resources

namespace Rule

/-- Time limits, large runners and heavy operations. -/
def resourceOptimization : Rule where
  id := "resource-optimization"
  name := "Resource Optimization"
  description := "Analyzes resource usage and suggests optimizations"
  category := .performance
  severity := .info
  level := .senior
  kind := "ResourceOptimizationRule"
  check document source :=
    .when (source.platform = "github-actions") (Resources.checkWorkflow document) ++
      .done (Resources.heavyFindings source.text)

end Rule

end PipelineAudit
