import PipelineAudit.Document.Text
import PipelineAudit.Platform.Reporting

/-!
# Bitbucket pipelines

A pipeline is a list of steps, some of which are groups: parallel groups and stages hold further
lists.  The sections of a configuration are a default pipeline and pipelines by branch, pull
request, tag and name.

The steps of a group inside of itself never end.  A chain of groups that is longer than the document
has containers is one, and fails.
-/

namespace PipelineAudit

namespace Bitbucket

/-! ### Structure -/

/-- The issue of a configuration without pipelines. -/
def missingPipelines : Issue where
  title := "Missing pipelines section"
  description := "Bitbucket Pipelines configuration must contain a pipelines section"
  severity := .error
  category := .layout
  ruleId := "bb-missing-pipelines"
  suggestion := "Add a pipelines section with your build configuration"
  exampleCode := "pipelines:\n  default:\n    - step:\n        name: Build\n" ++
    "        script:\n          - make build"
  fixable := true

/-- The validation of the structure of a configuration. -/
def validateInto (document : Document) (found : Findings) : Validation :=
  let v : Validation := { found }
  v.reportIf (document.get "pipelines").entries.isEmpty missingPipelines

/-! ### Steps -/

/-- The issue of a step without a name. -/
def missingStepName (label : String) : Issue where
  title := "Missing step name in " ++ label
  description := "Steps should have descriptive names"
  severity := .warning
  category := .maintainability
  ruleId := "bb-missing-step-name"
  suggestion := "Add a descriptive name to the step"
  fixable := true

/-- The issue of a step without a script. -/
def missingScript (label : String) : Issue where
  title := "Missing script in " ++ label
  description := "Each step must contain a script section"
  severity := .error
  category := .linting
  ruleId := "bb-missing-script"
  suggestion := "Add a script section with commands to execute"
  fixable := true

/-- The checks of a single step. -/
def checkSingleStep (step : Document) (label : String) : Reporter :=
  .andThen (.reportIf (!step.sets "name") (missingStepName label))
    (.reportIf (!step.sets "script") (missingScript label))

/-- What an entry of a list of steps is. -/
inductive Entry where
  /-- A group of steps, and what it adds to the label. -/
  | group (steps : Document) (suffix : String)
  | step (step : Document)
  | other

/-- What an entry of a list of steps is; a parallel group may nest its list under `steps`. -/
def Entry.of (entry : Document) : Entry :=
  match entry.get? "parallel" with
  | some steps => .group (if steps.isMap then steps.get "steps" else steps) " (parallel)"
  | none =>
    match entry.get? "stage" with
    | some stage => .group (stage.get "steps") " (stage)"
    | none =>
      match entry.get? "step" with
      | some single => .step single
      | none => .other

/-- The checks of a list of steps, which fail where more than `fuel` lists are nested. -/
def checkStepsWithin : Nat → Document → String → Reporter
  | 0, _, _ => .fails .endless
  | fuel + 1, steps, label =>
    .each (fun entry =>
      match Entry.of entry with
      | .group inner suffix => checkStepsWithin fuel inner (label ++ suffix)
      | .step single => checkSingleStep single label
      | .other => .silent) steps.items

/-- The number of lists that a list of steps can nest without being endless. -/
def deepest (steps : Document) : Nat :=
  steps.containers + 2

/-! ### Sections -/

/-- The issue of a section that is no list of steps. -/
def missingSteps (label : String) : Issue where
  title := "Missing steps in " ++ label
  description := "Each pipeline must be a list of steps"
  severity := .error
  category := .layout
  ruleId := "bb-missing-steps"
  suggestion := "Define the pipeline as a list of step entries"
  exampleCode := "- step:\n    name: Build\n    script:\n      - make build"

/-- The sections that hold pipelines by name, and how they are called. -/
def namedSections : List (String × String) :=
  [("branches", "branch"), ("pull-requests", "pull-request"), ("tags", "tag"),
    ("custom", "custom")]

/-- A pipeline of a configuration, and its label, if it can be written. -/
structure Section where
  steps : Document
  label : Except Failure String

/-- The pipelines of a configuration. -/
def sections (pipelines : Document) : List Section :=
  (pipelines.get? "default").toList.map (fun steps => ⟨steps, .ok "default"⟩) ++
    namedSections.flatMap fun (key, called) =>
      (pipelines.get key).entries.map fun e =>
        ⟨e.2, e.1.write.map fun name => called ++ " " ++ name⟩

/-- The checks of a labelled pipeline, given how many lists of steps may be nested in it. -/
def checkLabelled (limit : Document → Nat) (steps : Document) (label : String) : Reporter :=
  if steps.isList then checkStepsWithin (limit steps) steps label
  else .report (missingSteps label)

/-- The checks of a pipeline, given how many lists of steps may be nested in it. -/
def checkSection (limit : Document → Nat) (s : Section) : Reporter :=
  .reading s.label (checkLabelled limit s.steps)

/-- The checks of all pipelines, given how many lists of steps may be nested in one. -/
def checkJobs (limit : Document → Nat) (pipelines : Document) : Reporter :=
  .each (checkSection limit) (sections pipelines)

end Bitbucket

/-- The checks of Bitbucket pipelines, given how many lists of steps may be nested in a section. -/
def PlatformChecks.bitbucket (limit : Document → Nat) : PlatformChecks where
  platform := "bitbucket-pipelines"
  validateInto := Bitbucket.validateInto
  jobsInto document := Bitbucket.checkJobs limit (document.get "pipelines")

end PipelineAudit
