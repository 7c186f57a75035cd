import PipelineAudit.Rule.Basic

/-!
# Anti-patterns

Habits that are bad on every platform, found in the raw text: fixed hosts, plain HTTP, floating
image tags, sleeps and reminders.  Each that occurs is one issue, with the number of its occurrences
and the lines that hold one.
-/

namespace PipelineAudit

open Pattern

/-- A habit that is bad on every platform. -/
structure AntiPattern where
  pattern : Pattern
  title : String
  severity : Severity
  category : Category
  suggestion : String

/-- A title as an identifier: in lower case, with a hyphen for each character other than small ASCII
letters and digits. -/
def slug (title : List Char) : List Char :=
  (Text.lower title).map fun c => if isSmall c || c.isDigit then c else '-'

namespace AntiPattern

/-- The habits that are looked for. -/
def all : List AntiPattern := [
  { pattern := seq (lit "localhost:") (many1 digit)
    title := "Hardcoded localhost URLs"
    severity := .warning
    category := .bestPractice
    suggestion := "Use environment variables for URLs" },
  { pattern := seq (lit "127.0.0.1:") (many1 digit)
    title := "Hardcoded localhost IP addresses"
    severity := .warning
    category := .bestPractice
    suggestion := "Use environment variables for IP addresses" },
  { pattern := seq (lit "http://") (many1 (one fun c => c ≠ '/' && !Text.isBlank c))
    title := "Insecure HTTP URLs"
    severity := .warning
    category := .security
    suggestion := "Use HTTPS instead of HTTP" },
  { pattern := seq (lit ":latest") (notAhead (one Text.isWord))
    title := "Using 'latest' tag for Docker images"
    severity := .warning
    category := .bestPractice
    suggestion := "Pin Docker images to specific versions" },
  { pattern := inOrder [lit "sleep", many1 blank, many1 digit]
    title := "Hard-coded sleep delays"
    severity := .info
    category := .maintainability
    suggestion := "Use proper health checks instead of sleep" },
  { pattern := inOrder [wordEdge,
      oneOf [litFolded "TODO", litFolded "FIXME", litFolded "HACK", litFolded "XXX"], wordEdge]
    title := "Unresolved TODO/FIXME comments"
    severity := .info
    category := .maintainability
    suggestion := "Resolve or track these items in your issue tracker" }]

/-- The issue of a habit that occurs `count` times in a source. -/
def issue (a : AntiPattern) (count : Nat) (source : Source) : Issue where
  title := a.title
  description := "Found " ++ toString count ++ " instance(s) of " ++
    String.ofList (Text.lower a.title.toList)
  severity := a.severity
  category := a.category
  ruleId := some (String.ofList (slug a.title.toList))
  suggestion := a.suggestion
  lineNumbers := asLineNumbers (source.linesWith a.pattern)

/-- The issue of a habit, if it occurs in a source. -/
def issue? (a : AntiPattern) (source : Source) : Option Issue :=
  let count := (a.pattern.findAll source.text).length
  if count = 0 then none else some (a.issue count source)

end AntiPattern

namespace Rule

/-- Habits that are bad on every platform. -/
def commonAntiPatterns : Rule where
  id := "common-anti-patterns"
  name := "Common Anti-Patterns"
  description := "Hardcoded hosts, plain HTTP, floating image tags, sleeps and TODO markers"
  category := .bestPractice
  kind := "CommonAntiPatternsRule"
  check _ source := .done (.ofIssues (AntiPattern.all.filterMap (·.issue? source)))

end Rule

end PipelineAudit
