import PipelineAudit.Document.Access
import PipelineAudit.Document.Text
import PipelineAudit.Finding.Reading
import PipelineAudit.Outcome
import PipelineAudit.Rule.Source

/-!
# Rules

A rule is a check of a document and its source, with the platforms, the category and the level that
decide when it applies.

A custom rule is supplied by the caller.  It sees the document, the raw text and the platform, and
returns a list of issues or of objects to read as issues, or fails, or returns something else.
-/

namespace PipelineAudit

/-- The platform name that stands for every platform. -/
def everyPlatform : String := "all"

/-- A rule. -/
structure Rule where
  id : String
  name : String
  description : String := ""
  category : Category
  severity : Severity := .warning
  level : Level := .junior
  platforms : List String := [everyPlatform]
  /-- The name of the kind of rule, as shown in listings. -/
  kind : String
  check : Document → Source → Outcome

namespace Rule

/-- Whether the rule is for a platform. -/
def isFor (r : Rule) (platform : String) : Bool :=
  r.platforms.contains everyPlatform || r.platforms.contains platform

/-- The rule as shown in listings. -/
def label (r : Rule) : String :=
  "<" ++ r.kind ++ " " ++ r.id ++ ">"

end Rule

/-- An item of the list that a custom rule returns. -/
inductive CustomItem where
  | issue (value : Issue)
  | json (value : Json)
  /-- A value that JSON cannot hold, by what reading it as an issue gives: the issue, or what is
  wrong with it. -/
  | other (reading : Except String Issue)

/-- What a custom rule returns. -/
inductive CustomResult where
  | items (list : List CustomItem)
  /-- Something that is no list, by the name of its kind. -/
  | other (kind : String)

/-- A rule supplied by the caller. -/
structure CustomRule where
  id : String
  name : String
  check : Document → String → String → Except Failure CustomResult

end PipelineAudit
