import PipelineAudit.Rule.Jobs

/-!
# Parallelism

How the jobs of a workflow depend on each other, which of them are alike, and which jobs of a GitLab
pipeline share a stage.

Two jobs are alike if their steps agree, one for one, in at least seven of ten places.  Jobs that
are alike to the first job of a group and belong to no earlier group form a group.
-/

namespace PipelineAudit

namespace Parallelism

/-! ### Jobs that are alike -/

/-- What a step does, roughly: the action it uses, or the first word it runs. -/
def stepMark (step : Document) : String :=
  match (step.get "uses").text?, (step.get "run").text? with
  | uses, run =>
    if uses.any (!·.isEmpty) then
      "uses:" ++ String.ofList (Text.upTo '@' (uses.getD "").toList)
    else if run.any (!·.isEmpty) then
      "run:" ++ String.ofList (Text.upTo ' ' (run.getD "").toList)
    else "unknown"

/-- What the steps of a job do, roughly. -/
def signature (job : Document) : List String :=
  (job.get "steps").items.map stepMark

/-- Whether two signatures agree in at least seven of ten places. -/
def similar (first second : List String) : Bool :=
  !first.isEmpty && first.length = second.length &&
    7 * first.length ≤ 10 * ((first.zip second).filter fun p => p.1 = p.2).length

/-- The names of the other jobs that are alike to a job and belong to no group yet. -/
def likeness (jobs : List (String × List String)) (grouped : List String)
    (job : String × List String) : List String :=
  (jobs.filter fun other =>
    other.1 ≠ job.1 && !grouped.contains other.1 && similar job.2 other.2).map (·.1)

/-- The groups that begin with one of the jobs `pending`, given the names of the jobs that belong
to a group already. -/
def groupsFrom (jobs : List (String × List String)) (grouped : List String) :
    List (String × List String) → List (List String)
  | [] => []
  | job :: pending =>
    if grouped.contains job.1 then groupsFrom jobs grouped pending
    else
      let others := likeness jobs grouped job
      if others.isEmpty then groupsFrom jobs grouped pending
      else (job.1 :: others) :: groupsFrom jobs (grouped ++ job.1 :: others) pending

/-- The groups of jobs that are alike, given each job with what its steps do. -/
def groupsAmong (jobs : List (String × List String)) : List (List String) :=
  groupsFrom jobs [] jobs

/-- The groups of jobs of a workflow that are alike. -/
def similarGroups (document : Document) : Except Failure (List (List String)) :=
  (Workflow.jobs document).map fun jobs => groupsAmong (jobs.map fun j => (j.1, signature j.2))

/-! ### Workflows -/

/-- Names with values, a repeated name keeping its place and taking the new value. -/
def distinctNames {α : Type} (pairs : List (String × α)) : List (String × α) :=
  pairs.foldl
    (fun done p =>
      if done.any (·.1 = p.1) then done.map fun d => if d.1 = p.1 then (p.1, p.2) else d
      else done ++ [p])
    []

/-- The name of a job with the jobs it needs. -/
def jobNeeds (job : String × Document) : Except Failure (String × List String) :=
  (Workflow.needs job.2).map fun needs => (job.1, needs)

/-- The jobs of a workflow by name, each with the jobs it needs. -/
def dependencies (document : Document) : Except Failure (List (String × List String)) :=
  ((Workflow.jobs document).bind fun jobs => jobs.mapM jobNeeds).map distinctNames

/-- The names of the jobs that need none. -/
def independent (dependencies : List (String × List String)) : List String :=
  (dependencies.filter (·.2.isEmpty)).map (·.1)

/-- The praise of several jobs that can run in parallel. -/
def praise (jobs : List String) : Optimization where
  title := "Good parallelization detected"
  description := toString jobs.length ++ " jobs can run in parallel: " ++ commaSeparated jobs
  impact := .low
  effort := .low
  category := .performance
  suggestion := "Current parallelization looks optimal"

/-- The suggestion for a workflow in which every job waits for another. -/
def reduceDependencies : Optimization where
  title := "Consider reducing job dependencies"
  description := "All jobs have dependencies, limiting parallelization"
  impact := .medium
  effort := .medium
  category := .performance
  suggestion := "Review if all job dependencies are necessary"

/-- The suggestion for a job that needs a single other job. -/
def reviewDependency (job needed : String) : Optimization where
  title := "Review dependency for job \"" ++ job ++ "\""
  description := "Job \"" ++ job ++ "\" depends only on \"" ++ needed ++
    "\" - verify if this dependency is necessary"
  impact := .low
  effort := .low
  category := .performance
  suggestion := "Remove unnecessary job dependencies to improve parallelization"

/-- The suggestion for jobs that are alike. -/
def useMatrix (group : List String) : Optimization where
  title := "Consider matrix strategy"
  description := "Jobs " ++ commaSeparated group ++
    " appear similar and could use a matrix strategy"
  impact := .medium
  effort := .medium
  category := .performance
  suggestion := "Use matrix strategy to reduce duplication and improve maintainability"
  exampleCode := "strategy:\n  matrix:\n    version: [16, 18, 20]\n" ++
    "    os: [ubuntu-latest, windows-latest]"

/-- What to say about the jobs that need no other. -/
def overview (dependencies : List (String × List String)) : List Optimization :=
  let free := independent dependencies
  if 1 < free.length then [praise free]
  else if 1 < dependencies.length && free.isEmpty then [reduceDependencies]
  else []

/-- The suggestion for a job that needs a single other job, if it does. -/
def review? (job : String × List String) : Option Optimization :=
  match job.2 with
  | [needed] => some (reviewDependency job.1 needed)
  | _ => none

/-- The checks of a workflow. -/
def checkWorkflow (document : Document) : Outcome :=
  .reading (dependencies document) fun ds =>
    .when (!ds.isEmpty)
      (.done (.ofOptimizations (overview ds ++ ds.filterMap review?)) ++
        .reading (similarGroups document) fun groups =>
          .done (.ofOptimizations (groups.map useMatrix)))

/-! ### Stages -/

/-- The stage of an entry of a GitLab pipeline, if it names one. -/
def stage? (entry : Document) : Option String :=
  (entry.get "stage").text?.filter (!·.isEmpty)

/-- The stages with one more job: a new stage comes last. -/
def addToStage (stage job : String) : List (String × List String) → List (String × List String)
  | [] => [(stage, [job])]
  | (s, jobs) :: rest =>
    if s = stage then (s, jobs ++ [job]) :: rest else (s, jobs) :: addToStage stage job rest

/-- The stages of entries in the order in which they are first named, each with its jobs. -/
def stagesAmong (entries : List (String × Document)) : List (String × List String) :=
  entries.foldl
    (fun done e =>
      match stage? e.2 with
      | some stage => addToStage stage e.1 done
      | none => done)
    []

/-- The entries of a pipeline that name a stage. -/
def stagedEntries (document : Document) : List (Key × Document) :=
  document.entries.filter fun e => (stage? e.2).isSome

/-- The stages of a pipeline in the order in which they are first named, each with its jobs. -/
def stages (document : Document) : Except Failure (List (String × List String)) :=
  ((stagedEntries document).mapM Document.named).map stagesAmong

/-- The suggestion for a pipeline of many stages. -/
def fewerStages (count : Nat) : Optimization where
  title := "Consider reducing pipeline stages"
  description := "Pipeline has " ++ toString count ++
    " stages which may increase execution time"
  impact := .medium
  effort := .medium
  category := .performance
  suggestion := "Consider combining related stages or using parallel jobs within stages"

/-- The note on a stage of several jobs. -/
def parallelStage (stage : String) (count : Nat) : Optimization where
  title := "Parallel jobs in stage \"" ++ stage ++ "\""
  description := "Stage \"" ++ stage ++ "\" has " ++ toString count ++
    " jobs that can run in parallel"
  impact := .low
  effort := .low
  category := .performance
  suggestion := "Jobs in the same stage run in parallel automatically"

/-- The notes on stages of several jobs. -/
def stageNotes (stages : List (String × List String)) : List Optimization :=
  (stages.filter fun s => 1 < s.2.length).map fun s => parallelStage s.1 s.2.length

/-- The checks of a GitLab pipeline. -/
def checkStages (document : Document) : Outcome :=
  let declared := (document.get "stages").items.length
  .done (.when (5 < declared) (.optimization (fewerStages declared))) ++
    .reading (stages document) fun stages => .done (.ofOptimizations (stageNotes stages))

end Parallelism

namespace Rule

/-- Dependencies between jobs, jobs that are alike, and shared stages. -/
def parallelizationAnalysis : Rule where
  id := "parallelization-analysis"
  name := "Parallelization Analysis"
  description := "Analyzes job dependencies and suggests parallelization improvements"
  category := .performance
  severity := .info
  level := .senior
  platforms := ["github-actions", "gitlab-ci"]
  kind := "ParallelizationRule"
  check document source :=
    if source.platform = "github-actions" then Parallelism.checkWorkflow document
    else .when (source.platform = "gitlab-ci") (Parallelism.checkStages document)

end Rule

end PipelineAudit
