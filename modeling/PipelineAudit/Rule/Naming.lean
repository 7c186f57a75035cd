import PipelineAudit.Rule.Jobs
import PipelineAudit.Rule.Variables

/-!
# Naming

Conventions for the names of jobs, steps, variables and environments.
-/

namespace PipelineAudit

open Pattern

namespace Naming

/-! ### Conventions -/

/-- A small letter or a digit. -/
def isSmallOrDigit (c : Char) : Bool :=
  isSmall c || c.isDigit

/-- A capital or a digit. -/
def isCapitalOrDigit (c : Char) : Bool :=
  isCapital c || c.isDigit

/-- Words over one class of characters, joined by a separator; the first one begins with a character
of another class. -/
def joinedWords (first inside : Char → Bool) (separator : Pattern) : Pattern :=
  inOrder [textStart, one first, many (one inside),
    many (group (seq separator (many1 (one inside)))), textEnd]

/-- Small words joined by hyphens. -/
def kebabCase : Pattern :=
  joinedWords isSmall isSmallOrDigit (lit "-")

/-- Small words joined by underscores. -/
def snakeCase : Pattern :=
  joinedWords isSmall isSmallOrDigit (lit "_")

/-- Capital words joined by underscores. -/
def screamingSnakeCase : Pattern :=
  joinedWords isCapital isCapitalOrDigit (lit "_")

/-- A capital followed by small letters. -/
def capitalized : Pattern :=
  seq (one isCapital) (many (one isSmall))

/-- Capitalized words separated by single blanks. -/
def titleCase : Pattern :=
  inOrder [textStart, capitalized, many (group (seq blank capitalized)), textEnd]

/-- A capital followed by small letters and blanks. -/
def sentenceCase : Pattern :=
  inOrder [textStart, one isCapital, many (one fun c => isSmall c || Text.isBlank c), textEnd]

/-- A name that says nothing but job, step or task. -/
def genericName : Pattern :=
  inOrder [textStart, group (oneOf [litFolded "job", litFolded "step", litFolded "task"]),
    many digit, textEnd]

/-- Whether a name consists of small words joined by hyphens, or by underscores. -/
def isKebabOrSnake (name : List Char) : Bool :=
  kebabCase.beginsIn name || snakeCase.beginsIn name

/-- Whether a name consists of capital words joined by underscores. -/
def isScreamingSnake (name : List Char) : Bool :=
  screamingSnakeCase.beginsIn name

/-- Verbs for what a step does. -/
def actionVerbs : List String := [
  "build", "test", "deploy", "install", "setup", "configure", "run", "execute", "create",
  "generate", "validate", "check", "verify", "upload", "download", "publish", "release", "clean",
  "prepare"]

/-- Whether a name begins with a verb for what a step does. -/
def startsWithVerb (name : List Char) : Bool :=
  actionVerbs.contains (String.ofList (Text.upTo ' ' (Text.lower name)))

/-! ### Findings -/

/-- An issue about a name. -/
def issue (title description ruleId suggestion : String) : Issue where
  title := title
  description := description
  severity := .info
  category := .maintainability
  ruleId := ruleId
  suggestion := suggestion

/-- The issues about the name of a job. -/
def jobIssues (job : String) : List Issue :=
  (if isKebabOrSnake job.toList then [] else [
    issue ("Inconsistent job naming: \"" ++ job ++ "\"")
      "Job names should use kebab-case or snake_case for consistency"
      "job-naming-convention"
      "Use kebab-case (my-job) or snake_case (my_job) for job names"]) ++
  (if job.length < 3 || genericName.beginsIn job.toList then [
    issue ("Non-descriptive job name: \"" ++ job ++ "\"")
      "Job names should be descriptive of their purpose"
      "non-descriptive-job-name"
      "Use descriptive names like 'build-and-test' or 'deploy-to-staging'"] else [])

/-- The issue about the name of a step in neither case. -/
def stepIssue (job step : String) : Issue :=
  issue ("Inconsistent step naming in job \"" ++ job ++ "\"")
    ("Step \"" ++ step ++ "\" should use Title Case or Sentence case")
    "step-naming-convention"
    "Use 'Title Case' or 'Sentence case' for step names"

/-- The suggestion of a verb for the name of a step. -/
def useVerb (step : String) : Optimization where
  title := "Use action verbs in step names"
  description := "Step \"" ++ step ++ "\" could be more descriptive with an action verb"
  impact := .low
  effort := .low
  category := .maintainability
  suggestion := "Start step names with action verbs like 'Build', 'Test', 'Deploy'"

/-- The names of the steps of a job. -/
def stepNames (job : Document) : List String :=
  (Workflow.steps job).filterMap fun step => (step.get "name").text?.filter (!·.isEmpty)

/-- Whether the name of a step is in title or sentence case. -/
def isTitled (name : List Char) : Bool :=
  titleCase.beginsIn name || sentenceCase.beginsIn name

/-- The findings on the names of the steps of a job. -/
def stepFindings (job : String × Document) : Findings :=
  .concat ((stepNames job.2).map fun name =>
    .when (!isTitled name.toList) (.issue (stepIssue job.1 name)) ++
      .when (!startsWithVerb name.toList) (.optimization (useVerb name)))

/-- The issue about a variable that is referenced. -/
def referenceIssue (name : List Char) : Issue :=
  issue ("Inconsistent environment variable naming: \"" ++ String.ofList name ++ "\"")
    "Environment variables should use SCREAMING_SNAKE_CASE"
    "env-var-naming"
    "Use SCREAMING_SNAKE_CASE for environment variables"

/-- The names that are neither seen nor in capitals, the first occurrence of each. -/
def oddNames (seen : List (List Char)) : List (List Char) → List (List Char)
  | [] => []
  | name :: rest =>
    if seen.contains name || isScreamingSnake name then oddNames seen rest
    else name :: oddNames (name :: seen) rest

/-- The issues about the variables referenced in a text. -/
def referenceIssues (text : List Char) : List Issue :=
  (oddNames [] (Variable.references text)).map referenceIssue

/-- The issues about a variable that a workflow sets. -/
def variableIssues (name : String) : List Issue :=
  if isScreamingSnake name.toList then [] else [
    issue ("Inconsistent workflow variable naming: \"" ++ name ++ "\"")
      "Workflow variables should use SCREAMING_SNAKE_CASE"
      "workflow-var-naming"
      "Use SCREAMING_SNAKE_CASE for workflow variables"]

/-- The check of the variables that a workflow sets. -/
def checkVariables (document : Document) : Outcome :=
  .each (fun entry => .reading entry.1.write fun name => .done (.ofIssues (variableIssues name)))
    (document.get "env").entries

/-- The issue about the environment of a job, if its name is in neither case. -/
def environmentIssue? (job : Document) : Option Issue :=
  ((Workflow.environment job).text?.filter fun name =>
    !name.isEmpty && !isKebabOrSnake name.toList).map fun name =>
      issue ("Inconsistent environment naming: \"" ++ name ++ "\"")
        "Environment names should use kebab-case or snake_case"
        "environment-naming"
        "Use kebab-case or snake_case for environment names"

/-- The checks of the names in a document and its text. -/
def check (document : Document) (text : List Char) : Outcome :=
  Workflow.eachJob document (fun job => .done (.ofIssues (jobIssues job.1))) ++
    Workflow.eachJob document (fun job => .done (stepFindings job)) ++
    .done (.ofIssues (referenceIssues text)) ++
    checkVariables document ++
    Workflow.eachJob document fun job => .done (.ofIssues (environmentIssue? job.2).toList)

end Naming

namespace Rule

/-- Names that follow no convention. -/
def namingConventions : Rule where
  id := "naming-conventions"
  name := "Naming Conventions"
  description := "Enforces consistent naming conventions across the pipeline"
  category := .maintainability
  severity := .info
  level := .intermediate
  kind := "NamingConventionsRule"
  check document source := Naming.check document source.text

end Rule

end PipelineAudit
