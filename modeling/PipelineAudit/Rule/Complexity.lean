import PipelineAudit.Count
import PipelineAudit.Decimal.Nearest
import PipelineAudit.Document.Shape
import PipelineAudit.Rule.Jobs

/-!
# Complexity

Jobs with many steps, conditions, matrix jobs and services; deep nesting; many conditions; and runs
of steps that several jobs share.
-/

namespace PipelineAudit

namespace Complexity

/-! ### Jobs -/

/-- The score above which a job is complex. -/
def greatestScore : Float := 20.0

/-- The number of items of a list, and of entries of a mapping. -/
def sizeOf : Document → Nat
  | .list items => items.length
  | .map entries => entries.length
  | _ => 0

/-- The points of a step: two for a condition, one for a long command. -/
def stepScore (step : Document) : Nat :=
  (if step.sets "if" then 2 else 0) +
  (if (step.get "run").text?.any fun run => 200 < run.length then 1 else 0)

/-- The binary logarithm of a number: that of the nearest double, or, if there is none that large,
of its first 53 bits, with the number of all bits added. -/
def binaryLog (n : Nat) : Float :=
  let x := n.toFloat
  if x.isFinite then x.log2
  else
    let bits := n.log2 + 1
    let leading := Decimal.roundDiv n (Nat.pow 2 (bits - 53))
    (leading.toFloat / (Nat.pow 2 53).toFloat).log2 + bits.toFloat

/-- The score of a job: a point for each step, the points of its steps, the binary logarithm of the
size of its matrix, and a point for each service. -/
def jobScore (job : Document) : Float :=
  let listed := job.get "steps"
  let services := job.get "services"
  let points := (if listed.isList then sizeOf listed else 0) +
    total ((Workflow.steps job).map stepScore)
  let size := ((Workflow.matrix? job).map Workflow.matrixSize).getD 0
  let withMatrix := points.toFloat + if 0 < size then binaryLog size else 0.0
  withMatrix + if services.isMap then (sizeOf services).toFloat else 0.0

/-- The score of a job that is a mapping, none for any other document. -/
def jobScore? (job : Document) : Option Float :=
  if job.isMap then some (jobScore job) else none

/-- The issue of a complex job. -/
def complexJob (job : String) (score : Float) : Issue where
  title := "High complexity in job \"" ++ job ++ "\""
  description := "Job has complexity score of " ++
    toString ((Decimal.toRat? (score + 0.5)).map Rat.floor |>.getD 0) ++
    " - consider breaking it down"
  severity := .warning
  category := .maintainability
  ruleId := "high-job-complexity"
  suggestion := "Break complex jobs into smaller, focused jobs"

/-- The issue of a job, if it is complex. -/
def jobIssue? (job : String × Document) : Option Issue :=
  let score := jobScore job.2
  if greatestScore < score then some (complexJob job.1 score) else none

/-! ### The whole document -/

/-- The depth of nesting that passes without comment. -/
def greatestDepth : Nat := 6

/-- The number of conditions that passes without comment. -/
def greatestConditionals : Nat := 10

/-- The issue of a document that is nested too deeply. -/
def deepNesting (depth : Nat) : Issue where
  title := "Deep nesting detected"
  description := "Configuration has nesting depth of " ++ toString depth ++ " levels"
  severity := .warning
  category := .maintainability
  ruleId := "deep-nesting"
  suggestion := "Consider flattening the configuration structure"

/-- The issue of a document with too many conditions. -/
def manyConditionals (count : Nat) : Issue where
  title := "High conditional complexity"
  description := "Configuration has " ++ toString count ++ " conditional statements"
  severity := .warning
  category := .maintainability
  ruleId := "high-conditional-complexity"
  suggestion := "Consider simplifying conditional logic or using reusable workflows"

/-- The issues of a document as a whole. -/
def documentIssues (document : Document) : List Issue :=
  let depth := document.nestingDepth
  let count := document.conditionals
  (if greatestDepth < depth then [deepNesting depth] else []) ++
  (if greatestConditionals < count then [manyConditionals count] else [])

/-! ### Shared runs of steps -/

/-- What a step does: the action it uses, or the beginning of what it runs. -/
def stepKey (step : Document) : Except Failure String :=
  let uses := step.get "uses"
  let run := step.get "run"
  if uses.truthy then
    uses.write.map fun text => "uses:" ++ String.ofList (Text.upTo '@' text.toList)
  else if run.truthy then run.write.map fun text => "run:" ++ String.ofList (text.toList.take 50)
  else .ok "unknown"

/-- What the steps of a job do, with the name of the job. -/
def jobKeys (job : String × Document) : Except Failure (String × List String) :=
  ((Workflow.steps job.2).mapM stepKey).map fun keys => (job.1, keys)

/-- The runs of up to three consecutive keys that begin before the last key. -/
def runs : List String → List String
  | [] => []
  | [_] => []
  | key :: next :: rest =>
    " -> ".intercalate ((key :: next :: rest).take 3) :: runs (next :: rest)

/-- The jobs that share each run, with one more: a new run comes last, and a job counts once. -/
def addRun (job run : String) : List (String × List String) → List (String × List String)
  | [] => [(run, [job])]
  | (r, jobs) :: rest =>
    if r = run then (r, if jobs.contains job then jobs else jobs ++ [job]) :: rest
    else (r, jobs) :: addRun job run rest

/-- The runs of the keys of some jobs in the order of their first occurrence, each with the jobs
that hold it. -/
def runTable (jobs : List (String × List String)) : List (String × List String) :=
  jobs.foldl (fun table job => (runs job.2).foldl (fun t run => addRun job.1 run t) table) []

/-- The jobs of a workflow by name, each with what its steps do. -/
def keyedJobs (document : Document) : Except Failure (List (String × List String)) :=
  (Workflow.jobs document).bind fun jobs => jobs.mapM jobKeys

/-- The runs of steps that several jobs share. -/
def sharedRuns (document : Document) : Except Failure (List (String × List String)) :=
  (keyedJobs document).map fun jobs => (runTable jobs).filter fun r => 1 < r.2.length

/-- The suggestion for a run of steps that jobs share. -/
def extractSteps (run : String) (jobs : List String) : Optimization where
  title := "Duplicated step patterns detected"
  description := "Pattern \"" ++ run ++ "\" is repeated in jobs: " ++ commaSeparated jobs
  impact := .medium
  effort := .medium
  category := .maintainability
  suggestion :=
    "Consider extracting common steps into reusable workflows or composite actions"

/-- The suggestions for the runs that more than two jobs share, given those that several do. -/
def runSuggestions (shared : List (String × List String)) : List Optimization :=
  (shared.filter fun r => 2 < r.2.length).map fun r => extractSteps r.1 r.2

/-- The checks of a document. -/
def check (document : Document) : Outcome :=
  Workflow.eachJob document (fun job => .done (.ofIssues (jobIssue? job).toList)) ++
    .done (.ofIssues (documentIssues document)) ++
    .reading (sharedRuns document) fun shared => .done (.ofOptimizations (runSuggestions shared))

end Complexity

namespace Rule

/-- Complex jobs, deep nesting, many conditions and shared runs of steps. -/
def complexityAnalysis : Rule where
  id := "complexity-analysis"
  name := "Complexity Analysis"
  description := "Analyzes pipeline complexity and suggests simplifications"
  category := .maintainability
  severity := .info
  level := .senior
  kind := "ComplexityRule"
  check document _ := Complexity.check document

end Rule

end PipelineAudit
