import PipelineAudit.Platform.Reporting
import PipelineAudit.Rule.Parallelism

/-!
# GitLab pipelines

The jobs of a pipeline are its top-level entries, apart from the keywords that configure it and the
hidden templates, whose names begin with a dot.  Every mapping at the top level is named to find
them.
-/

namespace PipelineAudit

namespace GitLab

/-- The top-level names that configure the pipeline. -/
def reservedNames : List String := [
  "stages", "variables", "image", "services", "before_script", "after_script", "cache", "include",
  "workflow", "default", "types"]

/-- Whether a name is that of a job. -/
def isJobName (name : String) : Bool :=
  !reservedNames.contains name && !Text.startsWith name.toList "."

/-- The jobs among the mappings of these names. -/
def jobsAmong (named : List (String × Document)) : List (String × Document) :=
  Parallelism.distinctNames (named.filter fun e => isJobName e.1)

/-- The jobs of a pipeline by name. -/
def jobs (document : Document) : Except Failure (List (String × Document)) :=
  ((document.entries.filter (·.2.isMap)).mapM Document.named).map jobsAmong

/-! ### Images -/

/-- The name of an image: the value itself, or its name if it is a mapping. -/
def imageName? (image : Document) : Option String :=
  (if image.isMap then image.get "name" else image).text?.filter (!·.isEmpty)

/-- Whether an image is given with neither a tag nor a digest.  A registry may have a port, so only
the part after the last slash can have a tag. -/
def isUntagged (image : List Char) : Bool :=
  !image.contains '@' && !(Text.afterLast '/' image).contains ':'

/-- The issue of an image without a tag. -/
def untaggedImage (image place : String) : Issue where
  title := "Untagged image in " ++ place
  description := "Image \"" ++ image ++ "\" has no tag and resolves to latest"
  severity := .warning
  category := .bestPractice
  ruleId := "gl-untagged-image"
  suggestion := "Pin the image to a specific version tag or digest"
  exampleCode := some ("image: " ++ image ++ ":1.0.0")

/-- The check of an image. -/
def checkImage (image : Document) (place : String) : Reporter :=
  match imageName? image with
  | some name => .reportIf (isUntagged name.toList) (untaggedImage name place)
  | none => .silent

/-! ### Structure -/

/-- The issue of a pipeline that does nothing. -/
def nothingDefined : Issue where
  title := "No stages or jobs defined"
  description := "GitLab CI should define either stages or jobs with scripts"
  severity := .error
  category := .linting
  ruleId := "gl-no-stages-jobs"
  suggestion := "Define stages or add jobs with script sections"
  fixable := true

/-- The validation of the structure of a pipeline. -/
def validateInto (document : Document) (found : Findings) : Validation :=
  let v : Validation := { found }
  v.reading (jobs document) fun jobs =>
    v.reportIf (!document.sets "stages" && !jobs.any (·.2.sets "script")) nothingDefined

/-! ### Jobs -/

/-- The issue of a job without a stage. -/
def missingStage (job : String) : Issue where
  title := "Job \"" ++ job ++ "\" missing stage"
  description := "Jobs should specify which stage they belong to"
  severity := .warning
  category := .maintainability
  ruleId := "gl-missing-stage"
  suggestion := "Add stage field to organize job execution"
  fixable := true

/-- The issue of a job without a script. -/
def missingScript (label : String) : Issue where
  title := "Missing script in " ++ label
  description :=
    "Jobs must define a script, trigger a downstream pipeline or extend a template"
  severity := .error
  category := .linting
  ruleId := "gl-missing-script"
  suggestion := "Add a script section with commands to execute"
  exampleCode := "script:\n  - echo \"Hello\""
  fixable := true

/-- The issue of a script without commands. -/
def emptyScript (label : String) : Issue where
  title := "Empty script in " ++ label
  description := "Script section contains no commands"
  severity := .warning
  category := .linting
  ruleId := "gl-empty-script"
  suggestion := "Add commands to the script section or remove the job"

/-- Whether a text is more than blanks. -/
def isCommand (text : String) : Bool :=
  !(Text.trim text.toList).isEmpty

/-- The commands of a script: a text, or the items of a list other than null. -/
def commands (script : Document) : Except Failure (List String) :=
  match script with
  | .scalar (.text s) => .ok [s]
  | d => (d.items.filter fun c => !c.isNull).mapM Document.write

/-- The check of a script. -/
def checkSteps (script : Document) (label : String) : Reporter :=
  .reading (commands script) fun commands => .reportIf (!commands.any isCommand) (emptyScript label)

/-- The check of the script of a job, if there is one. -/
def checkScript (job : Document) (label : String) : Reporter :=
  match job.get? "script" with
  | some script => checkSteps script label
  | none => .silent

/-- The checks of a job. -/
def checkJob (job : String × Document) : Reporter :=
  let label := "job \"" ++ job.1 ++ "\""
  let extended := job.2.sets "extends"
  .andThen (.reportIf (!job.2.sets "stage" && !extended) (missingStage job.1))
    (.andThen
      (.reportIf (!job.2.has "script" && !job.2.sets "trigger" && !extended) (missingScript label))
      (.andThen (checkScript job.2 label) (checkImage (job.2.get "image") label)))

/-- The checks of some jobs. -/
def checkJobs : List (String × Document) → Reporter :=
  .each checkJob

end GitLab

/-- The checks of GitLab pipelines; the default image is checked after the jobs. -/
def PlatformChecks.gitLab : PlatformChecks where
  platform := "gitlab-ci"
  validateInto := GitLab.validateInto
  jobsInto document := .reading (GitLab.jobs document) GitLab.checkJobs
  restInto document := GitLab.checkImage (document.get "image") "the default image"

end PipelineAudit
