import PipelineAudit.Platform.Reporting
import PipelineAudit.Rule.Permissions
import PipelineAudit.Secret.Mask
import PipelineAudit.Workflow

/-!
# GitHub workflows

What a workflow has to declare, and the checks of its jobs and their steps.  A job is named before
it is checked, and a variable before its value is looked at.
-/

namespace PipelineAudit

namespace GitHub

open Pattern

/-! ### Structure -/

/-- The issue of a workflow without a name. -/
def missingName : Issue where
  title := "Missing workflow name"
  description := "GitHub Actions workflows should have a descriptive name"
  severity := .warning
  category := .maintainability
  ruleId := "gh-missing-name"
  suggestion := "Add a \"name\" field at the root level"
  exampleCode := "name: \"CI/CD Pipeline\""
  fixable := true
  estimatedFixTime := "1 minute"

/-- The issue of a workflow without triggers. -/
def missingTriggers : Issue where
  title := "Missing trigger events"
  description := "Workflow must specify when it should run"
  severity := .error
  category := .linting
  ruleId := "gh-missing-triggers"
  suggestion := "Add an \"on\" field with trigger events"
  exampleCode := "on:\n  push:\n    branches: [main]\n  pull_request:\n    branches: [main]"
  fixable := true
  estimatedFixTime := "2 minutes"

/-- The issue of a workflow without jobs. -/
def missingJobs : Issue where
  title := "Missing jobs"
  description := "Workflow must define at least one job"
  severity := .error
  category := .linting
  ruleId := "gh-missing-jobs"
  suggestion := "Add a \"jobs\" section with at least one job"
  exampleCode := "jobs:\n  build:\n    runs-on: ubuntu-latest\n    steps:\n" ++
    "      - uses: actions/checkout@v4"
  fixable := true

/-- The issue of a workflow that gives pull requests of others its permissions. -/
def unsafeTrigger : Issue where
  title := "Potentially unsafe pull_request_target trigger"
  description := "pull_request_target runs with write permissions and can be " ++
    "dangerous with untrusted code"
  severity := .warning
  category := .security
  ruleId := "gh-unsafe-pr-target"
  suggestion := "Consider using pull_request trigger instead, or add explicit security measures"
  impact := "high"
  documentationUrl := "https://securitylab.github.com/research/" ++
    "github-actions-preventing-pwn-requests/"

/-- The value under `on`, or under the key `true` if there is no such key. -/
def rawTriggers (document : Document) : Document :=
  (document.get? "on").getD (document.getTrue?.getD .null)

/-- The validation of the structure of a workflow. -/
def validateInto (document : Document) (found : Findings) : Validation :=
  let v : Validation := { found }
  let v := v.reportIf (!document.sets "name") missingName
  let v := v.reportIf (!(rawTriggers document).truthy) missingTriggers
  let v := v.reportIf (document.get "jobs").entries.isEmpty missingJobs
  v.reading (Workflow.triggers document) fun triggers =>
    v.reportIf (Workflow.trigger? triggers "pull_request_target").isSome unsafeTrigger

/-! ### Variables of steps -/

/-- Words in the names of variables that hold secrets. -/
def secretWords : List String :=
  ["password", "token", "key", "secret", "auth", "credential", "pass"]

/-- The forms of values that look like secrets: base64, hexadecimal, and capitals with digits. -/
def suspiciousForms : List Pattern := [
  inOrder [textStart, atLeast 40 (one fun c => c.isAlphanum || among "+/" c),
    between 0 2 (lit "="), textEnd],
  inOrder [textStart, atLeast 32 (one fun c => ('a' ≤ c && c ≤ 'f') || c.isDigit), textEnd],
  inOrder [textStart, atLeast 20 (one fun c => isCapital c || c.isDigit), textEnd]]

/-- Words that mark a value as a placeholder. -/
def placeholderMarkers : List String := [
  "example", "test", "demo", "placeholder", "your_", "my_", "sample", "dummy", "fake", "mock",
  "template", "replace_me", "change_me", "todo", "fixme", "xxx", "yyy", "zzz"]

/-- Whether a value is marked as a placeholder. -/
def isPlaceholderValue (value : List Char) : Bool :=
  Text.hasAny (Text.lower value) placeholderMarkers

/-- Whether a variable is named like a secret and holds a literal value of some length. -/
def isHardcoded (name value : List Char) : Bool :=
  Text.hasAny (Text.lower name) secretWords && !Text.startsWith value "$" &&
    !Text.startsWith value "\x7b\x7b" && !Text.has value "$\x7b" && 8 < value.length &&
    !isPlaceholderValue value

/-- Whether a value looks like a secret. -/
def isSuspicious (value : List Char) : Bool :=
  !isPlaceholderValue value && suspiciousForms.any (·.beginsIn value)

/-- The issue of a variable that holds a secret. -/
def hardcodedSecret (place name : String) (value : List Char) : Issue where
  title := "Potential hardcoded secret in " ++ place
  description := "Variable \"" ++ name ++ "\" may contain a hardcoded secret: \"" ++
    String.ofList (Secret.mask value) ++ "\""
  severity := .error
  category := .security
  ruleId := "hardcoded-secret"
  suggestion := "Use environment variables or secret management instead of hardcoding secrets"
  impact := "high"
  exampleCode := some (name ++ ": $\x7b\x7b secrets." ++
    String.ofList (Text.upper name.toList) ++ " \x7d\x7d")

/-- The issue of a variable whose value looks like a secret. -/
def suspiciousValue (place name : String) : Issue where
  title := "Suspicious value pattern in " ++ place
  description := "Variable \"" ++ name ++
    "\" contains a suspicious pattern that might be a secret"
  severity := .warning
  category := .security
  ruleId := "suspicious-secret-pattern"
  suggestion := "Verify this is not a hardcoded secret"

/-- The checks of a variable of a step. -/
def checkVariable (place : String) (entry : Key × Document) : Reporter :=
  match entry.2.text? with
  | none => .silent
  | some text =>
    .reading entry.1.write fun name =>
      .andThen
        (.reportIf (isHardcoded name.toList text.toList) (hardcodedSecret place name text.toList))
        (.reportIf (isSuspicious text.toList) (suspiciousValue place name))

/-! ### Steps -/

/-- Versions of the checkout action that are outdated. -/
def outdatedVersions : List String :=
  ["@v1", "@v2"]

/-- The issue of an outdated checkout. -/
def outdatedCheckout (label : String) : Issue where
  title := "Outdated checkout action in " ++ label
  description := "Using outdated version of actions/checkout"
  severity := .warning
  category := .maintainability
  ruleId := "gh-outdated-checkout"
  suggestion := "Update to actions/checkout@v4"
  exampleCode := "uses: actions/checkout@v4"

/-- The issue of an action without a version. -/
def unpinnedAction (place uses : String) : Issue where
  title := "Unpinned action in " ++ place
  description :=
    "Actions should be pinned to specific versions for security and reproducibility"
  severity := .warning
  category := .security
  ruleId := "gh-unpinned-action"
  suggestion := "Pin action to a specific version or commit SHA"
  exampleCode := some ("uses: " ++ uses ++ "@v4")

/-- The issue of a step that does nothing. -/
def emptyStep (place : String) : Issue where
  title := "Step without action in " ++ place
  description := "Each step must either \"uses\" an action or \"run\" a command"
  severity := .error
  category := .linting
  ruleId := "gh-empty-step"
  suggestion := "Add a \"uses\" or \"run\" field to the step"

/-- The issue of a command without a name. -/
def missingStepName (place : String) : Issue where
  title := "Missing step name in " ++ place
  description := "Steps should have descriptive names for better readability"
  severity := .info
  category := .maintainability
  ruleId := "gh-missing-step-name"
  suggestion := "Add a descriptive name to the step"
  fixable := true

/-- The issue of commands in a job that does not check out its repository. -/
def missingCheckout (label : String) : Issue where
  title := "Missing checkout step in " ++ label
  description := "Job has run steps but no checkout action to access repository code"
  severity := .warning
  category := .linting
  ruleId := "gh-missing-checkout"
  suggestion := "Add actions/checkout step at the beginning of the job"
  exampleCode := "- uses: actions/checkout@v4"

/-- Whether an action is the checkout action. -/
def isCheckout (uses : List Char) : Bool :=
  Text.startsWith uses "actions/checkout"

/-- Whether a reference to the checkout action has no version or an outdated one. -/
def isOutdated (uses : List Char) : Bool :=
  !uses.contains '@' || Text.hasAny uses outdatedVersions

/-- The checks of the action that a step uses. -/
def checkAction (label place uses : String) : Reporter :=
  .andThen
    (.reportIf (isCheckout uses.toList && isOutdated uses.toList) (outdatedCheckout label))
    (.reportIf (!uses.toList.contains '@') (unpinnedAction place uses))

/-- The checks of what a step does and how it is named. -/
def checkContent (place : String) (step : Document) : Reporter :=
  if !step.sets "uses" && !step.sets "run" then .report (emptyStep place)
  else .reportIf (!step.sets "name" && !step.sets "uses") (missingStepName place)

/-- The checks of a step on its own, given its number. -/
def checkStep (label : String) (number : Nat) (step : Document) : Reporter :=
  let place := label ++ ", step " ++ toString number
  .andThen
    (match (step.get "uses").text? with
      | some uses => checkAction label place uses
      | none => .silent)
    (.andThen (checkContent place step)
      (.each (checkVariable place) (step.get "env").entries))

/-- Whether a step checks out the repository. -/
def checksOut (step : Document) : Bool :=
  (step.get "uses").text?.any fun uses => isCheckout uses.toList

/-- How far the checks of the steps of a job have come: the number of the next step, and whether a
step has run a command and one has checked out the repository. -/
structure StepsProgress where
  number : Nat := 1
  hasRun : Bool := false
  hasCheckout : Bool := false

/-- The progress after one more step. -/
def StepsProgress.after (p : StepsProgress) (step : Document) : StepsProgress where
  number := p.number + 1
  hasRun := p.hasRun || step.sets "run"
  hasCheckout := p.hasCheckout || checksOut step

/-- The checks of the further steps of a job, and of the job as a whole after the last one. -/
def checkFurther (label : String) (p : StepsProgress) : List Document → Reporter
  | [] => .reportIf (p.hasRun && !p.hasCheckout) (missingCheckout label)
  | step :: rest => (checkStep label p.number step).andThen (checkFurther label (p.after step) rest)

/-- The checks of the steps of a job. -/
def checkSteps (steps : Document) (label : String) : Reporter :=
  checkFurther label {} steps.items

/-! ### Jobs -/

/-- The issue of a job that is no mapping. -/
def invalidJob (label : String) : Issue where
  title := "Invalid definition for " ++ label
  description := "Each job must be a mapping of job settings"
  severity := .error
  category := .linting
  ruleId := "gh-invalid-job"
  suggestion := "Define the job as a mapping with runs-on and steps"

/-- The issue of a job without a runner. -/
def missingRunner (job : String) : Issue where
  title := "Job \"" ++ job ++ "\" missing runs-on"
  description := "Every job must specify which runner to use"
  severity := .error
  category := .linting
  ruleId := "gh-missing-runs-on"
  suggestion := "Add \"runs-on\" field with a runner"
  exampleCode := "runs-on: ubuntu-latest"
  fixable := true
  estimatedFixTime := "30 seconds"

/-- The issue of a job that may write more than it needs. -/
def broadPermissions (job : String) : Issue where
  title := "Overly broad permissions in job \"" ++ job ++ "\""
  description := "Job has broad write permissions which may be unnecessary"
  severity := .warning
  category := .security
  ruleId := "gh-job-broad-permissions"
  suggestion := "Use minimal required permissions for this job"

/-- The issue of a job without steps. -/
def missingSteps (label : String) : Issue where
  title := "Missing steps in " ++ label
  description := "A job must define a non-empty list of steps"
  severity := .error
  category := .linting
  ruleId := "gh-missing-steps"
  suggestion := "Add a steps list to the job"
  exampleCode := "steps:\n  - uses: actions/checkout@v4"

/-- The checks of a job that is a mapping; a job that calls a reusable workflow needs neither a
runner nor steps. -/
def checkSettings (name label : String) (job : Document) : Reporter :=
  if job.sets "uses" then .silent
  else
    .andThen (.reportIf (!job.sets "runs-on") (missingRunner name))
      (.andThen (.reportIf (grantsWrite (job.get "permissions")) (broadPermissions name))
        (if (job.get "steps").items.isEmpty then .report (missingSteps label)
          else checkSteps (job.get "steps") label))

/-- The checks of a job. -/
def checkJob (job : Key × Document) : Reporter :=
  .reading job.1.write fun name =>
    let label := "job \"" ++ name ++ "\""
    if job.2.isMap then checkSettings name label job.2 else .report (invalidJob label)

/-- The checks of the jobs of a workflow. -/
def checkJobs (jobs : Document) : Reporter :=
  .each checkJob jobs.entries

end GitHub

/-- The checks of GitHub workflows. -/
def PlatformChecks.gitHub : PlatformChecks where
  platform := "github-actions"
  validateInto := GitHub.validateInto
  jobsInto document := GitHub.checkJobs (document.get "jobs")

end PipelineAudit
