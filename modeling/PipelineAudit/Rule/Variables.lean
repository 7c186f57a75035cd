import PipelineAudit.Rule.Basic

/-!
# Environment variables

Variables that are referenced under names too generic for a secret, and Node.js projects without a
variable for their environment.
-/

namespace PipelineAudit

open Pattern

namespace Variable

/-- A character that may begin the name of a variable. -/
def isFirstChar (c : Char) : Bool :=
  isCapital c || c = '_'

/-- A character of the name of a variable. -/
def isChar (c : Char) : Bool :=
  isFirstChar c || c.isDigit

/-- A reference to a variable, with or without braces; keeps the name. -/
def reference : Pattern :=
  inOrder [lit "$", optional (lit "\x7b"), group (seq (one isFirstChar) (many (one isChar))),
    optional (lit "\x7d")]

/-- The names of the variables referenced in a text, in order. -/
def references (text : List Char) : List (List Char) :=
  (reference.findAll text).filterMap (·.kept.head?)

/-- Names too generic for a secret. -/
def genericNames : List String :=
  ["PASSWORD", "SECRET", "TOKEN", "KEY", "API_KEY", "PRIVATE_KEY"]

/-- Names of variables that hold the environment of a project. -/
def environmentNames : List String :=
  ["NODE_ENV", "ENVIRONMENT", "STAGE", "BUILD_ENV"]

/-- The issue of a variable with a generic name. -/
def genericNameIssue (name : String) : Issue where
  title := "Potentially insecure environment variable: " ++ name
  description := "Environment variable \"" ++ name ++
    "\" might contain sensitive information and could be logged"
  severity := .warning
  category := .security
  ruleId := "insecure-env-var"
  suggestion := "Use more specific variable names and ensure proper secret management"
  exampleCode := "# Instead of " ++ name ++
    ", use:\nDATABASE_PASSWORD: $\x7b\x7b secrets.DB_PASSWORD \x7d\x7d"

/-- The suggestion to name the environment of a Node.js project. -/
def environmentSuggestion : Optimization where
  title := "Consider adding environment configuration"
  description := "No environment variables detected for Node.js project"
  impact := .low
  effort := .low
  category := .maintainability
  suggestion := "Add NODE_ENV or similar environment configuration"
  exampleCode := "env:\n  NODE_ENV: production"

end Variable

namespace Rule

/-- Variables with generic names, and projects without an environment. -/
def insecureEnvironmentVariables : Rule where
  id := "insecure-environment-variables"
  name := "Insecure Environment Variables"
  description := "Generic secret-like variable names and missing environment configuration"
  category := .security
  kind := "InsecureEnvironmentVariablesRule"
  check _ source :=
    let referenced := Variable.references source.text
    let generic := Variable.genericNames.filter fun name => referenced.contains name.toList
    let lacksEnvironment := !Text.hasAny source.text Variable.environmentNames &&
      Text.hasAny source.text ["npm", "node"]
    .done
      { issues := generic.map Variable.genericNameIssue
        optimizations := if lacksEnvironment then [Variable.environmentSuggestion] else [] }

end Rule

end PipelineAudit
