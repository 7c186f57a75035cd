import PipelineAudit.Count
import PipelineAudit.Decimal.Nearest
import PipelineAudit.Document.Json
import PipelineAudit.Finding.Basic
import PipelineAudit.Pattern.Match
import PipelineAudit.Text.Basic
import PipelineAudit.Text.Case
import PipelineAudit.Workflow

/-!
# Metrics

Numbers that describe a document: counts of its parts, and heuristic scores.  Indicators are words
looked for in the document written as JSON on one line; the lines of code are those of the document
written as JSON one item to a line.  A document that cannot be written as JSON has no such numbers.
Percentages are rounded half up.
-/

namespace PipelineAudit

/-- How fast a pipeline can be expected to run. -/
structure PerformanceMetrics where
  estimatedBuildTime : Rat := 0
  parallelizationScore : Int := 0
  cacheEfficiency : Rat := 0
  resourceUtilization : Nat := 0
  deriving DecidableEq

/-- How complex a pipeline is. -/
structure ComplexityMetrics where
  cyclomatic : Nat := 0
  cognitive : Rat := 0
  maintainability : Int := 0
  linesOfCode : Nat := 0
  deriving DecidableEq

/-- How much of a pipeline is documented, handles errors and tests. -/
structure CoverageMetrics where
  documentation : Int := 0
  errorHandling : Rat := 0
  test : Rat := 0
  deriving DecidableEq

/-- All numbers that describe a document. -/
structure Metrics where
  jobs : Nat := 0
  steps : Nat := 0
  triggers : Nat := 0
  parallelizableJobs : Nat := 0
  cacheUsage : Int := 0
  securityScore : Nat := 0
  performance : PerformanceMetrics := {}
  complexity : ComplexityMetrics := {}
  coverage : CoverageMetrics := {}
  deriving DecidableEq

namespace Measure

open Decimal

/-! ### Counts -/

/-- The entries under `jobs`, whatever their values. -/
def jobEntries (document : Document) : List (Key × Document) :=
  (document.get "jobs").entries

/-- The number of jobs where the platform is not known: the size of the jobs, or else of the
stages. -/
def countUnknown (document : Document) : Nat :=
  let jobs := document.get "jobs"
  let container := if jobs.truthy then jobs else document.get "stages"
  container.entries.length + container.items.length

/-- The number of jobs of a document, as its platform counts them. -/
def countJobs (document : Document) (platform : String) : Nat :=
  if platform = "github-actions" then (jobEntries document).length
  else if platform = "gitlab-ci" then
    (document.values.filter fun d => d.isMap && d.sets "script").length
  else if platform = "bitbucket-pipelines" then
    let pipelines := document.get "pipelines"
    (pipelines.get "default").items.length +
      total ((pipelines.get "branches").values.map fun steps => steps.items.length)
  else countUnknown document

/-- The number of steps of all jobs. -/
def countSteps (document : Document) : Nat :=
  total ((jobEntries document).map fun j => (j.2.get "steps").items.length)

/-- The number of triggers of a document. -/
def countTriggers (document : Document) : Nat :=
  let triggers := (document.get? "on").getD (document.getTrue?.getD .null)
  match triggers.text? with
  | some name => if name.isEmpty then 0 else 1
  | none => triggers.entries.length + triggers.items.length

/-- The number of jobs that need no other. -/
def countParallelizable (document : Document) : Nat :=
  ((jobEntries document).filter fun j => !j.2.sets "needs").length

/-- The document as JSON on one line, in lower case. -/
def loweredJson (document : Document) : Except Failure (List Char) :=
  document.compactJson.map Text.lower

/-- How often a text mentions a cache, per hundred jobs. -/
def cacheRatio (jobs : Nat) (text : List Char) : Int :=
  min 100 (roundHalfUp (percentage (Text.occurrences "cache" text) jobs))

/-- How often the document mentions a cache, per hundred jobs; no job, no mention. -/
def cacheUsage (document : Document) (platform : String) : Except Failure Int :=
  let jobs := countJobs document platform
  if jobs = 0 then .ok 0 else (loweredJson document).map (cacheRatio jobs)

/-- The score for a number of vulnerabilities. -/
def securityScore (vulnerabilities : List Vulnerability) : Nat :=
  100 - 10 * vulnerabilities.length

/-! ### Scores -/

/-- The percentage of some words that occur in a text. -/
def indicatorRatio (text : List Char) (indicators : List String) : Rat :=
  let ratio := percentage (indicators.filter (Text.has text)).length indicators.length
  if 100 < ratio then 100 else ratio

/-- Signs of caching. -/
def cacheIndicators : List String :=
  ["cache", "restore", "save"]

/-- Words that make a pipeline branch. -/
def conditionalWords : List String :=
  ["if", "when", "condition", "only", "except"]

/-- Signs of handling errors. -/
def errorHandlingIndicators : List String :=
  ["continue-on-error", "allow_failure", "on_failure", "catch", "try"]

/-- Signs of testing. -/
def testIndicators : List String :=
  ["test", "spec", "coverage", "junit"]

/-- The percentage of jobs that need no other, all of them if there is at most one. -/
def parallelizationScore (document : Document) : Int :=
  let jobs := (jobEntries document).length
  if jobs ≤ 1 then 100 else roundHalfUp (percentage (countParallelizable document) jobs)

/-- Signs of a good use of resources, and what they add to the base. -/
def utilizationSigns : List (String × Nat) :=
  [("ubuntu", 20), ("timeout", 15), ("matrix", 10), ("cache", 5)]

/-- How well resources are used: half, and more for each sign. -/
def resourceUtilization (text : List Char) : Nat :=
  min 100 (50 + total ((utilizationSigns.filter fun s => Text.has text s.1).map (·.2)))

/-- How fast the pipeline can be expected to run, given its JSON in lower case. -/
def performanceFrom (document : Document) (text : List Char) : PerformanceMetrics :=
  let time := mkRat (4 * (jobEntries document).length + countSteps document) 2
  { estimatedBuildTime := if 5 < time then time else 5
    parallelizationScore := parallelizationScore document
    cacheEfficiency := indicatorRatio text cacheIndicators
    resourceUtilization := resourceUtilization text }

/-- How fast the pipeline can be expected to run. -/
def performance (document : Document) : Except Failure PerformanceMetrics :=
  (loweredJson document).map (performanceFrom document)

/-- One, and one more for each word in a text that makes a pipeline branch. -/
def branches (text : List Char) : Nat :=
  1 + total (conditionalWords.map fun word => ((Pattern.litFolded word).findAll text).length)

/-- The number of ways through the pipeline, as far as its words tell. -/
def cyclomaticComplexity (document : Document) : Except Failure Nat :=
  document.compactJson.map branches

/-- The number of lines of the document as JSON, one item to a line. -/
def linesOfCode (document : Document) : Except Failure Nat :=
  document.prettyJson.map fun text => (Text.lines text).length

/-- The index of maintainability for a number of lines and a cyclomatic complexity. -/
def maintainabilityIndex (lines cyclomatic : Nat) : Int :=
  let index := 171.0 - 5.2 * lines.toFloat.log - 0.23 * cyclomatic.toFloat
  if index < 0.0 then 0 else ((toRat? (index + 0.5)).map Rat.floor).getD 0

/-- The cognitive complexity for a cyclomatic one: a fifth more, at most fifty. -/
def cognitiveComplexity (cyclomatic : Nat) : Rat :=
  let score := nearest (cyclomatic * nearest (6 / 5))
  if score < 50 then score else 50

/-- How complex a pipeline of a cyclomatic complexity and a number of lines is. -/
def complexityFrom (cyclomatic lines : Nat) : ComplexityMetrics where
  cyclomatic := cyclomatic
  cognitive := cognitiveComplexity cyclomatic
  maintainability := maintainabilityIndex lines cyclomatic
  linesOfCode := lines

/-- How complex the pipeline is. -/
def complexity (document : Document) : Except Failure ComplexityMetrics := do
  let cyclomatic ← cyclomaticComplexity document
  let lines ← linesOfCode document
  return complexityFrom cyclomatic lines

/-- Whether a job has a name or a description. -/
def isDocumented (job : Document) : Bool :=
  job.sets "name" || job.sets "description"

/-- The percentage of jobs with a name or a description, all of them if there is none. -/
def documentationCoverage (document : Document) : Int :=
  let jobs := jobEntries document
  if jobs.isEmpty then 100
  else roundHalfUp (percentage (jobs.filter fun j => isDocumented j.2).length jobs.length)

/-- How much of the pipeline is documented, handles errors and tests, given its JSON in lower
case. -/
def coverageFrom (document : Document) (text : List Char) : CoverageMetrics where
  documentation := documentationCoverage document
  errorHandling := indicatorRatio text errorHandlingIndicators
  test := indicatorRatio text testIndicators

/-- How much of the pipeline is documented, handles errors and tests. -/
def coverage (document : Document) : Except Failure CoverageMetrics :=
  (loweredJson document).map (coverageFrom document)

end Measure

/-- All numbers that describe a document, given the vulnerabilities found. -/
def Metrics.of (document : Document) (platform : String) (vulnerabilities : List Vulnerability) :
    Except Failure Metrics := do
  let cacheUsage ← Measure.cacheUsage document platform
  let performance ← Measure.performance document
  let complexity ← Measure.complexity document
  let coverage ← Measure.coverage document
  return {
    jobs := Measure.countJobs document platform
    steps := Measure.countSteps document
    triggers := Measure.countTriggers document
    parallelizableJobs := Measure.countParallelizable document
    cacheUsage := cacheUsage
    securityScore := Measure.securityScore vulnerabilities
    performance := performance
    complexity := complexity
    coverage := coverage }

end PipelineAudit
