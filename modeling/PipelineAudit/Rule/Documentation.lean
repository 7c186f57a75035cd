import PipelineAudit.Rule.Jobs

/-!
# Documentation

Names and descriptions of jobs, names of long commands, and comments in the raw text.
-/

namespace PipelineAudit

open Pattern

namespace Documentation

/-! ### Jobs and steps -/

/-- The least length of the name of a job. -/
def leastNameLength : Nat := 5

/-- The length above which a command or a line is complex. -/
def complexLength : Nat := 100

/-- How many lines above and below a job a comment on it may stand. -/
def commentWindow : Nat := 3

/-- The issue of a job without a descriptive name. -/
def shortName (job : String) : Issue where
  title := "Missing or too short name for job \"" ++ job ++ "\""
  description := "Job names should be at least 5 characters long for clarity"
  severity := .info
  category := .maintainability
  ruleId := "short-job-name"
  suggestion := some ("Use a more descriptive 'name' field for job \"" ++ job ++ "\"")
  fixable := true

/-- The suggestion to describe a job. -/
def addDescription (job : String) : Optimization where
  title := "Add description to job \"" ++ job ++ "\""
  description := "Complex jobs should have descriptions explaining their purpose"
  impact := .low
  effort := .low
  category := .maintainability
  suggestion := "Add a description field or comment explaining the job's purpose"

/-- The issue of a long command without a name. -/
def unnamedStep (job : String) : Issue where
  title := "Complex step without name in job \"" ++ job ++ "\""
  description := "Complex run commands should have descriptive names"
  severity := .warning
  category := .maintainability
  ruleId := "complex-step-no-name"
  suggestion := "Add a descriptive name to complex run commands"

/-- Whether a job has a name of sufficient length. -/
def isNamed (job : Document) : Bool :=
  (job.get "name").text?.any fun name => leastNameLength ≤ name.length

/-- Whether a comment stands near the first line that mentions a job with a colon. -/
def hasNearbyComment (lines : List (List Char)) (job : String) : Bool :=
  match lines.findIdx? fun line => Text.has line (job ++ ":") with
  | some i =>
    let start := i - commentWindow
    ((lines.drop start).take (i + commentWindow + 1 - start)).any isComment
  | none => false

/-- Whether a step runs a long command without a name. -/
def isUnnamed (step : Document) : Bool :=
  (step.get "run").text?.any (fun run => complexLength < run.length) && !step.sets "name"

/-- Whether a job is described, in a field or by a comment. -/
def isDescribed (lines : List (List Char)) (job : String × Document) : Bool :=
  job.2.sets "description" || hasNearbyComment lines job.1

/-! ### Comments -/

/-- A condition in a line. -/
def condition : Pattern :=
  oneOf [lit "if:", lit "when:", lit "condition:"]

/-- A command in a line. -/
def script : Pattern :=
  oneOf [inOrder [textStart, many blank, lit "- run:"], lit "script:"]

/-- Logic in a line. -/
def inlineLogic : Pattern :=
  oneOf [lit "$", lit "||"]

/-- How many complex things a line has. -/
def complexity (line : List Char) : Nat :=
  let stripped := Text.trim line
  (if condition.occursIn stripped then 1 else 0) +
  (if script.occursIn stripped then 1 else 0) +
  (if complexLength < stripped.length && inlineLogic.occursIn stripped then 1 else 0)

/-- The suggestion to explain complex parts. -/
def clarify : Optimization where
  title := "Consider clarifying complex sections"
  description := "The configuration includes logic or structures that may benefit " ++
    "from inline clarification."
  impact := .medium
  effort := .low
  category := .maintainability
  suggestion := "Add brief comments to explain tricky conditions, scripts, or workflows."

/-- The suggestion to write comments. -/
def addComments : Optimization where
  title := "Add documentation comments"
  description := "Configuration lacks sufficient documentation comments"
  impact := .medium
  effort := .low
  category := .maintainability
  suggestion := "Add comments explaining complex configurations and workflows"

/-- Whether lines have three complex things or more, and no comment. -/
def needsClarity (lines : List (List Char)) : Bool :=
  !lines.any isComment && 3 ≤ total (lines.map complexity)

/-- Whether there are more than twenty lines, less than one in ten of them a comment. -/
def lacksComments (lines : List (List Char)) : Bool :=
  20 < lines.length && 10 * (lines.filter isComment).length < lines.length

/-! ### Findings -/

/-- The findings on the name and the description of a job. -/
def jobFindings (lines : List (List Char)) (job : String × Document) : Findings :=
  .when (!isNamed job.2) (.issue (shortName job.1)) ++
    .when (!isDescribed lines job) (.optimization (addDescription job.1))

/-- The findings on the steps of a job. -/
def stepFindings (job : String × Document) : Findings :=
  .ofIssues (((Workflow.steps job.2).filter isUnnamed).map fun _ => unnamedStep job.1)

/-- The findings on the comments among the lines of a text. -/
def commentFindings (lines : List (List Char)) : Findings :=
  .when (needsClarity lines) (.optimization clarify) ++
    .when (lacksComments lines) (.optimization addComments)

/-- The checks of a document and the lines of its text. -/
def check (document : Document) (lines : List (List Char)) : Outcome :=
  Workflow.eachJob document (fun job => .done (jobFindings lines job)) ++
    Workflow.eachJob document (fun job => .done (stepFindings job)) ++
    .done (commentFindings lines)

end Documentation

namespace Rule

/-- Names, descriptions and comments. -/
def documentationStandards : Rule where
  id := "documentation-standards"
  name := "Documentation Standards"
  description := "Ensures proper documentation and naming conventions"
  category := .maintainability
  severity := .info
  kind := "DocumentationRule"
  check document source := Documentation.check document source.lines

end Rule

end PipelineAudit
