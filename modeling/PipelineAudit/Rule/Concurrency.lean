import PipelineAudit.Rule.Jobs

/-!
# Concurrency

A workflow that runs often should cancel the runs that a newer one makes needless.
-/

namespace PipelineAudit

namespace Concurrency

/-- The suggestion to control concurrency. -/
def addControl : Optimization where
  title := "Add concurrency control"
  description := "Concurrency control can save resources by cancelling outdated runs"
  impact := .medium
  effort := .low
  category := .cost
  suggestion := "Add concurrency group to cancel outdated runs"
  exampleCode := "concurrency:\n" ++
    "  group: $\x7b\x7b github.workflow \x7d\x7d-$\x7b\x7b github.ref \x7d\x7d\n" ++
    "  cancel-in-progress: true"

/-- The suggestion to cancel needless runs of a workflow. -/
def cancelRuns : Optimization where
  title := "Enable cancel-in-progress for concurrency"
  description := "Concurrency group should cancel outdated runs to save resources"
  impact := .low
  effort := .low
  category := .cost
  suggestion := "Add cancel-in-progress: true to concurrency configuration"

/-- The suggestion to cancel needless runs of a job. -/
def cancelJob (job : String) : Optimization where
  title := "Enable cancel-in-progress for job \"" ++ job ++ "\""
  description := "Job-level concurrency should cancel outdated runs"
  impact := .low
  effort := .low
  category := .cost
  suggestion := "Add cancel-in-progress: true to job concurrency"

/-- Whether a setting of concurrency keeps needless runs. -/
def keepsRuns (concurrency : Document) : Bool :=
  concurrency.isMap && !concurrency.sets "cancel-in-progress"

/-- Whether a workflow of these triggers and so many jobs runs often: on pushes, on pull requests,
or by hand with several jobs. -/
def runsOften (triggers : List (Key × Document)) (jobs : Nat) : Bool :=
  let listens := fun name => (Workflow.trigger? triggers name).isSome
  listens "pull_request" || listens "push" || (listens "workflow_dispatch" && 1 < jobs)

/-- The check of the workflow as a whole. -/
def checkWorkflow (document : Document) : Outcome :=
  let concurrency := document.get "concurrency"
  if !concurrency.truthy then
    .reading (Workflow.triggers document) fun triggers =>
      .reading (Workflow.jobs document) fun jobs =>
        .done (.when (runsOften triggers jobs.length) (.optimization addControl))
  else .done (.when (keepsRuns concurrency) (.optimization cancelRuns))

/-- The suggestion for a job. -/
def jobFindings (job : String × Document) : Findings :=
  .when (keepsRuns (job.2.get "concurrency")) (.optimization (cancelJob job.1))

end Concurrency

namespace Rule

/-- Workflows and jobs that keep needless runs. -/
def concurrencyOptimization : Rule where
  id := "concurrency-optimization"
  name := "Concurrency Optimization"
  description := "Optimizes concurrency settings to reduce costs and improve efficiency"
  category := .cost
  severity := .info
  level := .intermediate
  platforms := ["github-actions"]
  kind := "ConcurrencyRule"
  check document _ :=
    Concurrency.checkWorkflow document ++
      Workflow.eachJob document fun job => .done (Concurrency.jobFindings job)

end Rule

end PipelineAudit
