import PipelineAudit.Rule.Resources

/-!
# Spending

What makes a pipeline expensive: broad triggers, expensive runners, large matrices, long jobs, and
large artifacts and caches.
-/

namespace PipelineAudit

open Pattern

namespace Spending

/-! ### Triggers -/

/-- The suggestion to filter pushes. -/
def pushFilters : Optimization where
  title := "Optimize build triggers"
  description := "Builds trigger on all pushes without branch or path filters"
  impact := .high
  effort := .low
  category := .cost
  suggestion := "Add branch and path filters to reduce unnecessary builds"
  exampleCode := "on:\n  push:\n    branches: [main, develop]\n    paths:\n" ++
    "      - 'src/**'\n      - 'package.json'\n      - '.github/workflows/**'"

/-- The suggestion to schedule fewer builds. -/
def hourlySchedule : Optimization where
  title := "Optimize scheduled builds"
  description := "Hourly scheduled builds may be excessive"
  impact := .medium
  effort := .low
  category := .cost
  suggestion := "Consider reducing frequency of scheduled builds"

/-- The suggestion to filter pull requests. -/
def pullRequestFilters : Optimization where
  title := "Optimize pull request triggers"
  description := "PR builds run on all file changes"
  impact := .medium
  effort := .low
  category := .cost
  suggestion := "Add path filters to PR triggers to avoid unnecessary builds"

/-- The schedules of a trigger: a list, or a single mapping. -/
def schedules (d : Document) : List Document :=
  if d.isMap then [d] else d.items

/-- Whether a schedule runs every hour. -/
def isHourly (schedule : Document) : Bool :=
  (schedule.get "cron").text?.any fun cron => (Text.words cron.toList)[1]? = some ['*']

/-- The suggestions for the triggers of a workflow. -/
def triggerSuggestions (triggers : List (Key × Document)) : List Optimization :=
  let trigger? := Workflow.trigger? triggers
  (if (trigger? "push").any fun push => !push.sets "branches" && !push.sets "paths"
    then [pushFilters] else []) ++
  (((trigger? "schedule").toList.flatMap schedules).filter isHourly).map
    (fun _ => hourlySchedule) ++
  (if (trigger? "pull_request").any fun request => !request.sets "paths"
    then [pullRequestFilters] else [])

/-! ### Runners -/

/-- Words in the names of expensive runners. -/
def expensiveRunners : List String :=
  ["macos", "windows", "large", "xlarge", "2xlarge", "4xlarge"]

/-- Words of expensive runners in a text. -/
def expensiveWords : List String :=
  ["macos", "windows", "gpu", "large"]

/-- The suggestion of a cheaper runner for a job. -/
def cheaperRunner (job runner : String) : Optimization where
  title := "Expensive runner in job \"" ++ job ++ "\""
  description := "Job uses " ++ runner ++ " - consider if cheaper alternatives are suitable"
  impact := .high
  effort := .low
  category := .cost
  suggestion := "Use ubuntu-latest for platform-independent tasks"
  exampleCode := some ("runs-on: ubuntu-latest  # Instead of " ++ runner)

/-- The suggestion of a cheaper runner, if the runner of a job is expensive. -/
def runnerSuggestion? (job : String × Document) : Option Optimization :=
  ((job.2.get "runs-on").text?.filter fun runner =>
    Text.hasAny (Text.lower runner.toList) expensiveRunners).map (cheaperRunner job.1)

/-- The suggestion of cheaper runners for a pipeline. -/
def cheaperRunners : Optimization where
  title := "Consider cost-effective runners"
  description := "Detected usage of expensive runners (macOS, Windows, GPU, or large instances)"
  impact := .high
  effort := .medium
  category := .cost
  suggestion := "Use Linux runners when possible and right-size your compute resources"

/-! ### Matrices -/

/-- The number of jobs of a matrix that passes without comment. -/
def largestMatrix : Nat := 20

/-- The issue of a job with a large matrix. -/
def largeMatrix (job size : String) : Issue where
  title := "Large matrix strategy in job \"" ++ job ++ "\""
  description := "Matrix will create " ++ size ++ " jobs, which may be excessive"
  severity := .warning
  category := .cost
  ruleId := "large-matrix-strategy"
  suggestion := "Consider reducing matrix dimensions or using include/exclude"
  exampleCode := "strategy:\n  matrix:\n    node-version: [16, 18, 20]\n" ++
    "    exclude:\n      - node-version: 16\n        os: windows-latest"

/-- The check of the matrix of a job. -/
def checkMatrix (job : String × Document) : Outcome :=
  match Workflow.matrix? job.2 with
  | none => .done .none
  | some matrix =>
    let size := Workflow.matrixSize matrix
    .when (largestMatrix < size)
      (.reading (integerText size) fun text => .done (.issue (largeMatrix job.1 text)))

/-! ### Long jobs -/

/-- The time limit, in minutes, above which a job is long. -/
def longJob : Rat := 60

/-- The text of the value under a name, empty if there is none. -/
def settingText (step : Document) (name : String) : Except Failure (List Char) :=
  ((step.get? name).getD (.text "")).write.map String.toList

/-- Whether a step caches or runs in parallel; what it runs is only read if it does not cache. -/
def isOptimized (step : Document) : Except Failure Bool :=
  (settingText step "uses").bind fun uses =>
    if Text.has uses "cache" then .ok true
    else (settingText step "run").map fun run => Text.hasAny run ["parallel", "--jobs"]

/-- The suggestion for a long job. -/
def shortenJob (job timeout : String) : Optimization where
  title := "Optimize long-running job \"" ++ job ++ "\""
  description := "Job has " ++ timeout ++ " minute timeout but no visible optimizations"
  impact := .medium
  effort := .medium
  category := .cost
  suggestion := "Add caching, parallelization, or other optimizations to reduce build time"

/-- Whether a document is a number that is not at most a bound. -/
def isNotAtMost (bound : Rat) : Document → Bool
  | .scalar (.float x) => Decimal.exceeds x bound || (Decimal.isNan x)
  | d => Resources.isAbove bound d

/-- The check of a job that may be long and do nothing about it. -/
def checkLongJob (job : String × Document) : Outcome :=
  let timeout := job.2.get "timeout-minutes"
  .when (isNotAtMost longJob timeout)
    (.reading ((Workflow.steps job.2).anyM isOptimized) fun optimized =>
      .when (!optimized)
        (.reading timeout.write fun text => .done (.optimization (shortenJob job.1 text))))

/-! ### Storage -/

/-- Artifacts or paths that take in everything. -/
def broadPaths : List Pattern := [
  inOrder [lit "artifacts:", few any, lit "- **"],
  inOrder [lit "artifacts:", few any, lit "- ./**"],
  inOrder [lit "path:", many inLine, lit "**"]]

/-- Directories that are large to cache. -/
def largeDirectories : List Pattern :=
  [lit "node_modules", seq (lit ".git") wordEdge, lit "target/debug"]

/-- The suggestion to store fewer artifacts. -/
def fewerArtifacts : Optimization where
  title := "Optimize artifact storage"
  description := "Detected potentially large artifact patterns that increase storage costs"
  impact := .medium
  effort := .low
  category := .cost
  suggestion := "Be specific about which files to store as artifacts"
  exampleCode := "artifacts:\n  paths:\n    - dist/\n    - build/\n  exclude:\n" ++
    "    - \"**/*.log\"\n    - \"**/node_modules/\"\n    - \"**/.git/\""

/-- The suggestion to cache smaller directories. -/
def smallerCaches : Optimization where
  title := "Optimize cache paths"
  description := "Cache includes potentially large directories"
  impact := .low
  effort := .low
  category := .cost
  suggestion := "Exclude unnecessary files from cache to reduce storage costs"

/-- The suggestions on what a text stores. -/
def storageSuggestions (text : List Char) : List Optimization :=
  (if broadPaths.any (·.occursIn text) then [fewerArtifacts] else []) ++
  (if Text.has text "cache" && largeDirectories.any (·.occursIn text) then [smallerCaches]
    else [])

/-! ### All together -/

/-- The checks of a workflow. -/
def checkWorkflow (document : Document) : Outcome :=
  .reading (Workflow.triggers document)
      (fun triggers => .done (.ofOptimizations (triggerSuggestions triggers))) ++
    Workflow.eachJob document
      (fun job => .done (.ofOptimizations (runnerSuggestion? job).toList)) ++
    Workflow.eachJob document checkMatrix ++
    Workflow.eachJob document checkLongJob

/-- The suggestions on the runners that a text names. -/
def runnerTextSuggestions (lowered : List Char) : List Optimization :=
  if Text.hasAny lowered expensiveWords then [cheaperRunners] else []

end Spending

namespace Rule

/-- What makes a pipeline expensive. -/
def costOptimization : Rule where
  id := "cost-optimization"
  name := "Cost Optimization"
  description := "Analyzes and suggests cost optimization opportunities"
  category := .cost
  severity := .info
  level := .senior
  kind := "CostOptimizationRule"
  check document source :=
    (if source.platform = "github-actions" then Spending.checkWorkflow document
      else .done (.ofOptimizations (Spending.runnerTextSuggestions source.lowered))) ++
    .done (.ofOptimizations (Spending.storageSuggestions source.text))

end Rule

end PipelineAudit
